import CertGraph.Digest.Algorithm
import CertGraph.Rsa.Key

/- RSA signatures with a salt: the digest of a digest and a salt, beside the salt under a mask. -/
set_option autoImplicit false
set_option relaxedAutoImplicit false

namespace CertGraph.Rsa

/-- As many octets as asked for that follow from a seed: the digests of the seed with a counter. -/
def maskOf (digest : Digest.Algorithm) (seed : Octets) (length : Nat) : Octets :=
  ((List.range (length / digest.size + 1)).flatMap fun count =>
    digest.digest (seed ++ Octets.ofNatWidth 4 count)).take length

/-- The octet at the end of a padded block. -/
def lastMark : UInt8 := 0xbc

/-- The salt of a data block: what follows zeros and a one. -/
private def saltOf? (data : Octets) : Option Octets :=
  match data.dropWhile (· = 0) with
  | 1 :: salt => some salt
  | _ => none

/-- The first octet of a data block with only its low bits; all are kept where none is counted. -/
private def clearTop (bits : Nat) : Octets → Octets
  | [] => []
  | first :: rest =>
    (if bits = 0 then first else UInt8.ofNat (first.toNat % Nat.pow 2 bits)) :: rest

/-- Whether a padded block, whose first octet has so many bits, was made from a message. -/
def isSaltedBlock (digest maskDigest : Digest.Algorithm) (saltLength bits : Nat)
    (message block : Octets) : Bool :=
  let dataLength := block.length - digest.size - 1
  let seed := (block.drop dataLength).take digest.size
  let mask := maskOf maskDigest seed dataLength
  let data := clearTop bits ((block.take dataLength).zipWith (fun a b => a ^^^ b) mask)
  digest.size + saltLength + 2 ≤ block.length && block.getLast? = some lastMark &&
    match saltOf? data with
    | none => false
    | some salt =>
      salt.length = saltLength &&
        digest.digest (List.replicate 8 0 ++ digest.digest message ++ salt) = seed

/-- Whether a signature of a message with a salt of the length given was made with the private
half. The block has one bit less than the modulus. -/
def PublicKey.verifiesSalted (key : PublicKey) (digest maskDigest : Digest.Algorithm)
    (saltLength : Nat) (message signature : Octets) : Bool :=
  let value := Octets.toNat signature
  let block := Octets.ofNatWidth key.size (powMod value key.exponent key.modulus)
  let bits := key.modulus.log2 % 8
  let head := ((block.head?.map UInt8.toNat).getD 0) / Nat.pow 2 bits
  signature.length ≤ key.size && value < key.modulus && head = 0 &&
    isSaltedBlock digest maskDigest saltLength bits message
      (if bits = 0 then block.drop 1 else block)

end CertGraph.Rsa
