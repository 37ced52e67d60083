import CertGraph.Digest.Algorithm
import CertGraph.Rsa.Key

/- RSA signatures over digests, padded to the size of the modulus. -/
set_option autoImplicit false
set_option relaxedAutoImplicit false

namespace CertGraph.Rsa

/-- The digest of a message with the name of its algorithm. -/
def digestInfo (digest : Digest.Algorithm) (message : Octets) : Octets :=
  (Der.sequence
    [(Algorithm.plain digest.oid).element, Der.octetString (digest.digest message)]).encode

/-- The octets to sign, as many as the modulus has; eight of them at least are filling. -/
def padded? (digest : Digest.Algorithm) (size : Nat) (message : Octets) : Option Octets :=
  let info := digestInfo digest message
  if info.length + 11 ≤ size then
    some (0 :: 1 :: List.replicate (size - info.length - 3) 0xff ++ 0 :: info)
  else none

/-- The signature over the SHA-256 digest of a message, if the modulus is long enough for it. -/
def PrivateKey.sign? (key : PrivateKey) (message : Octets) : Option Octets := do
  let size := key.publicKey.size
  let block ← padded? .sha256 size message
  some (Octets.ofNatWidth size (powMod (Octets.toNat block) key.secret key.modulus))

/-- Whether a signature of a message was made with the private half. -/
def PublicKey.verifies (key : PublicKey) (digest : Digest.Algorithm)
    (message signature : Octets) : Bool :=
  match padded? digest key.size message with
  | none => false
  | some block =>
    let value := Octets.toNat signature
    signature.length = key.size && value < key.modulus &&
      powMod value key.exponent key.modulus = Octets.toNat block

end CertGraph.Rsa
