import CertGraph.Algorithm.Basic
import CertGraph.Armor.Pem
import CertGraph.Digest.Sha1
import CertGraph.Rsa.Primality

/- RSA keys and their encodings. -/
set_option autoImplicit false
set_option relaxedAutoImplicit false

namespace CertGraph.Rsa

open CertGraph.Armor (armored)

/-- The public half of a key. -/
structure PublicKey where
  modulus : Nat
  exponent : Nat
deriving DecidableEq

/-- A key: two primes, the public exponent and the private one. -/
structure PrivateKey where
  p : Nat
  q : Nat
  exponent : Nat
  secret : Nat
deriving DecidableEq

namespace PublicKey

/-- The number of octets in the modulus. -/
def size (key : PublicKey) : Nat :=
  (Octets.ofNat key.modulus).length

/-- The modulus and the exponent as one element. -/
def element (key : PublicKey) : Der.Element :=
  Der.sequence [Der.integer key.modulus, Der.integer key.exponent]

/-- The digest by which certificates name the key. -/
def identifier (key : PublicKey) : Octets :=
  Digest.Sha1.digest key.element.encode

/-- The key that an element holds. -/
def ofElement? (element : Der.Element) : Option PublicKey := do
  match ← Der.sequenceMembers? element with
  | [modulus, exponent] => some ⟨← Der.natOf? modulus, ← Der.natOf? exponent⟩
  | _ => none

end PublicKey

/-- The algorithm of RSA keys. -/
def keyAlgorithm : Algorithm :=
  Algorithm.plain Oid.rsaEncryption

namespace PrivateKey

/-- The modulus of both halves. -/
def modulus (key : PrivateKey) : Nat :=
  key.p * key.q

/-- The public half. -/
def publicKey (key : PrivateKey) : PublicKey :=
  ⟨key.modulus, key.exponent⟩

/-- What the two exponents have to be inverse modulo. -/
def period (p q : Nat) : Nat :=
  Nat.lcm (p - 1) (q - 1)

/-- The key of two primes and a public exponent. -/
def ofPrimes (p q exponent : Nat) : PrivateKey :=
  ⟨p, q, exponent, inverse exponent (period p q)⟩

/-- Whether the factors are primes, and the exponents odd numbers past one that undo each other. -/
def isConsistent (key : PrivateKey) : Bool :=
  isProbablePrime key.p && isProbablePrime key.q && 1 < key.exponent && key.exponent % 2 = 1 &&
    key.secret * key.exponent % period key.p key.q = 1

/-- The key with the numbers that speed up its use. -/
def element (key : PrivateKey) : Der.Element :=
  Der.sequence <| [0, key.modulus, key.exponent, key.secret, key.p, key.q,
    key.secret % (key.p - 1), key.secret % (key.q - 1), inverse key.q key.p].map Der.integer

/-- The key with the name of its algorithm. -/
def info (key : PrivateKey) : Der.Element :=
  Der.sequence
    [Der.integer 0, keyAlgorithm.element, Der.octetString key.element.encode]

/-- The label of a key with the name of its algorithm. -/
def infoLabel : Octets :=
  Octets.ofAscii ['P', 'R', 'I', 'V', 'A', 'T', 'E', ' ', 'K', 'E', 'Y']

/-- The key in armor. -/
def pem (key : PrivateKey) : Octets :=
  armored infoLabel key.info.encode

/-- The consistent key that an element holds; each of its numbers is the one expected. -/
def ofElement? (element : Der.Element) : Option PrivateKey := do
  match ← Der.sequenceMembers? element with
  | [_, _, exponent, secret, p, q, _, _, _] =>
    let key : PrivateKey :=
      ⟨← Der.natOf? p, ← Der.natOf? q, ← Der.natOf? exponent, ← Der.natOf? secret⟩
    if key.isConsistent ∧ key.element = element then some key else none
  | _ => none

end PrivateKey

end CertGraph.Rsa
