import CertGraph.Certificate.Basic
import CertGraph.Rsa.Key

/- RSA keys as the keys that certificates are about, and which keys can be compared with them. -/
set_option autoImplicit false
set_option relaxedAutoImplicit false

namespace CertGraph.SubjectKey

/-- An RSA key as the key of a subject. -/
def ofRsa (key : Rsa.PublicKey) : SubjectKey :=
  ⟨Rsa.keyAlgorithm, .ofOctets key.element.encode⟩

/-- The RSA key, if the key is one, for signatures of any kind or with a salt. -/
def rsa? (key : SubjectKey) : Option Rsa.PublicKey := do
  if key.algorithm.oid = Oid.rsaEncryption ∨ key.algorithm.oid = Oid.rsaPss then
    Rsa.PublicKey.ofElement? (← Der.element? key.bits.octets)
  else none

/-- Kinds of keys that are octets and have no numbers: their algorithm, their name, and the length of a
key. -/
def rawKinds : List (Octets × String × Nat) :=
  [(Oid.ed25519, "cryptography.hazmat.bindings._rust.openssl.ed25519.Ed25519PublicKey", 32),
   (Oid.x25519, "cryptography.hazmat.bindings._rust.openssl.x25519.X25519PublicKey", 32),
   (Oid.ed448, "cryptography.hazmat.bindings._rust.openssl.ed448.Ed448PublicKey", 57),
   (Oid.x448, "cryptography.hazmat.bindings._rust.openssl.x448.X448PublicKey", 56)]

/-- Why the key cannot be compared with an RSA key, if it cannot. Keys over the known curves and those of
DSA and Diffie-Hellman are taken to hold numbers that fit together; they are compared, and differ. -/
def fault? (key : SubjectKey) : Option SubjectKeyFault :=
  let oid := key.algorithm.oid
  if oid = Oid.rsaEncryption ∨ oid = Oid.rsaPss then
    if key.rsa?.isSome then none else some .malformed
  else if oid = Oid.ellipticCurve then
    match key.algorithm.parameters >>= Der.contentsOf? 0x06 with
    | some curve => if Oid.curves.contains curve then none else some (.unknownCurve curve)
    | none => some .malformed
  else if [Oid.dsa, Oid.diffieHellman, Oid.diffieHellmanX].contains oid then none
  else
    match rawKinds.lookup oid with
    | some (kind, length) =>
      if key.bits.octets.length = length then some (.withoutNumbers kind) else some .malformed
    | none => some (.unknownScheme oid)

end CertGraph.SubjectKey
