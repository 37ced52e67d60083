import CertGraph.Rsa.Generation
import CertGraph.Supply

/- The source of keys and random bits that follows from a seed. -/
set_option autoImplicit false
set_option relaxedAutoImplicit false

namespace CertGraph.Source

/-- All keys have one size. Every key and every draw of bits has a seed of its own. -/
def ofSeed (seed : Seed) (keySize : Nat) : Source where
  key call :=
    match Rsa.PrivateKey.generate? keySize ((seed.child 0).child call) with
    | some key => .ok key
    | none => .error (.refused "no prime factor found")
  random draw := BitVec.ofNat 128 (((seed.child 1).child draw).number 128)

end CertGraph.Source
