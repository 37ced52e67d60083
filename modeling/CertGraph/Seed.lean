import CertGraph.Digest.Sha256

/- Seeds: secret octets, and the independent choices that follow from them. -/
set_option autoImplicit false
set_option relaxedAutoImplicit false

namespace CertGraph

/-- Secret octets. -/
structure Seed where
  octets : Octets

namespace Seed

/-- One of many seeds that follow from a seed and tell nothing about each other. -/
def child (seed : Seed) (position : Nat) : Seed :=
  ⟨Digest.Sha256.digest (seed.octets ++ Octets.ofNatWidth 8 position)⟩

/-- A number of at most so many bits. -/
def number (seed : Seed) (bits : Nat) : Nat :=
  let blocks := (List.range (bits / 256 + 1)).flatMap fun block => (seed.child block).octets
  Octets.toNat blocks % Nat.pow 2 bits

end Seed

end CertGraph
