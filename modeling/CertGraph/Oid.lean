import CertGraph.Octets

/- Object identifiers, by the octets that stand for them. -/
set_option autoImplicit false
set_option relaxedAutoImplicit false

namespace CertGraph.Oid

/-- The common name of a subject. -/
def commonName : Octets := [0x55, 0x04, 0x03]

/-- An organization of a subject. -/
def organization : Octets := [0x55, 0x04, 0x0a]

/-- An organizational unit of a subject. -/
def organizationalUnit : Octets := [0x55, 0x04, 0x0b]

/-- Whether a certificate is that of an authority. -/
def basicConstraints : Octets := [0x55, 0x1d, 0x13]

/-- The identifier of a certificate's own key. -/
def subjectKeyIdentifier : Octets := [0x55, 0x1d, 0x0e]

/-- The usage flags of a key. -/
def keyUsage : Octets := [0x55, 0x1d, 0x0f]

/-- The extended purposes of a key. -/
def extendedKeyUsage : Octets := [0x55, 0x1d, 0x25]

/-- Further names of a subject. -/
def subjectAltName : Octets := [0x55, 0x1d, 0x11]

/-- The identifier of the issuer's key. -/
def authorityKeyIdentifier : Octets := [0x55, 0x1d, 0x23]

/-- Authentication of servers. -/
def serverAuth : Octets := [0x2b, 0x06, 0x01, 0x05, 0x05, 0x07, 0x03, 0x01]

/-- Authentication of clients. -/
def clientAuth : Octets := [0x2b, 0x06, 0x01, 0x05, 0x05, 0x07, 0x03, 0x02]

/-- Keys of the RSA scheme. -/
def rsaEncryption : Octets := [0x2a, 0x86, 0x48, 0x86, 0xf7, 0x0d, 0x01, 0x01, 0x01]

/-- RSA keys for signatures with a salt, and such signatures. -/
def rsaPss : Octets := [0x2a, 0x86, 0x48, 0x86, 0xf7, 0x0d, 0x01, 0x01, 0x0a]

/-- The mask generation function that signatures with a salt use. -/
def maskGeneration : Octets := [0x2a, 0x86, 0x48, 0x86, 0xf7, 0x0d, 0x01, 0x01, 0x08]

/-- RSA signatures over SHA-1 digests. -/
def sha1WithRsa : Octets := [0x2a, 0x86, 0x48, 0x86, 0xf7, 0x0d, 0x01, 0x01, 0x05]

/-- RSA signatures over SHA-224 digests. -/
def sha224WithRsa : Octets := [0x2a, 0x86, 0x48, 0x86, 0xf7, 0x0d, 0x01, 0x01, 0x0e]

/-- RSA signatures over SHA-256 digests. -/
def sha256WithRsa : Octets := [0x2a, 0x86, 0x48, 0x86, 0xf7, 0x0d, 0x01, 0x01, 0x0b]

/-- RSA signatures over SHA-384 digests. -/
def sha384WithRsa : Octets := [0x2a, 0x86, 0x48, 0x86, 0xf7, 0x0d, 0x01, 0x01, 0x0c]

/-- RSA signatures over SHA-512 digests. -/
def sha512WithRsa : Octets := [0x2a, 0x86, 0x48, 0x86, 0xf7, 0x0d, 0x01, 0x01, 0x0d]

/-- RSA signatures over SHA3-224 digests. -/
def sha3x224WithRsa : Octets := [0x60, 0x86, 0x48, 0x01, 0x65, 0x03, 0x04, 0x03, 0x0d]

/-- RSA signatures over SHA3-256 digests. -/
def sha3x256WithRsa : Octets := [0x60, 0x86, 0x48, 0x01, 0x65, 0x03, 0x04, 0x03, 0x0e]

/-- RSA signatures over SHA3-384 digests. -/
def sha3x384WithRsa : Octets := [0x60, 0x86, 0x48, 0x01, 0x65, 0x03, 0x04, 0x03, 0x0f]

/-- RSA signatures over SHA3-512 digests. -/
def sha3x512WithRsa : Octets := [0x60, 0x86, 0x48, 0x01, 0x65, 0x03, 0x04, 0x03, 0x10]

/-- The SHA-1 digest. -/
def sha1 : Octets := [0x2b, 0x0e, 0x03, 0x02, 0x1a]

/-- The SHA-224 digest. -/
def sha224 : Octets := [0x60, 0x86, 0x48, 0x01, 0x65, 0x03, 0x04, 0x02, 0x04]

/-- The SHA-256 digest. -/
def sha256 : Octets := [0x60, 0x86, 0x48, 0x01, 0x65, 0x03, 0x04, 0x02, 0x01]

/-- The SHA-384 digest. -/
def sha384 : Octets := [0x60, 0x86, 0x48, 0x01, 0x65, 0x03, 0x04, 0x02, 0x02]

/-- The SHA-512 digest. -/
def sha512 : Octets := [0x60, 0x86, 0x48, 0x01, 0x65, 0x03, 0x04, 0x02, 0x03]

/-- The SHA3-224 digest. -/
def sha3x224 : Octets := [0x60, 0x86, 0x48, 0x01, 0x65, 0x03, 0x04, 0x02, 0x07]

/-- The SHA3-256 digest. -/
def sha3x256 : Octets := [0x60, 0x86, 0x48, 0x01, 0x65, 0x03, 0x04, 0x02, 0x08]

/-- The SHA3-384 digest. -/
def sha3x384 : Octets := [0x60, 0x86, 0x48, 0x01, 0x65, 0x03, 0x04, 0x02, 0x09]

/-- The SHA3-512 digest. -/
def sha3x512 : Octets := [0x60, 0x86, 0x48, 0x01, 0x65, 0x03, 0x04, 0x02, 0x0a]

/-- RSA signatures over MD5 digests. -/
def md5WithRsa : Octets := [0x2a, 0x86, 0x48, 0x86, 0xf7, 0x0d, 0x01, 0x01, 0x04]

/-- RSA signatures over SHA-1 digests, by an older identifier. -/
def sha1WithRsaOld : Octets := [0x2b, 0x0e, 0x03, 0x02, 0x1d]

/-- Signatures over elliptic curves and SHA-224 digests. -/
def sha224WithCurve : Octets := [0x2a, 0x86, 0x48, 0xce, 0x3d, 0x04, 0x03, 0x01]

/-- Signatures over elliptic curves and SHA-256 digests. -/
def sha256WithCurve : Octets := [0x2a, 0x86, 0x48, 0xce, 0x3d, 0x04, 0x03, 0x02]

/-- Signatures over elliptic curves and SHA-384 digests. -/
def sha384WithCurve : Octets := [0x2a, 0x86, 0x48, 0xce, 0x3d, 0x04, 0x03, 0x03]

/-- Signatures over elliptic curves and SHA-512 digests. -/
def sha512WithCurve : Octets := [0x2a, 0x86, 0x48, 0xce, 0x3d, 0x04, 0x03, 0x04]

/-- Keys over elliptic curves. -/
def ellipticCurve : Octets := [0x2a, 0x86, 0x48, 0xce, 0x3d, 0x02, 0x01]

/-- Key agreement over a curve of 255 bits. -/
def x25519 : Octets := [0x2b, 0x65, 0x6e]

/-- Key agreement over a curve of 448 bits. -/
def x448 : Octets := [0x2b, 0x65, 0x6f]

/-- Signatures over a twisted curve of 255 bits. -/
def ed25519 : Octets := [0x2b, 0x65, 0x70]

/-- Signatures over a twisted curve of 448 bits. -/
def ed448 : Octets := [0x2b, 0x65, 0x71]

/-- Keys of the DSA scheme. -/
def dsa : Octets := [0x2a, 0x86, 0x48, 0xce, 0x38, 0x04, 0x01]

/-- Keys of the Diffie-Hellman scheme. -/
def diffieHellman : Octets := [0x2a, 0x86, 0x48, 0x86, 0xf7, 0x0d, 0x01, 0x03, 0x01]

/-- Keys of the Diffie-Hellman scheme in a subgroup. -/
def diffieHellmanX : Octets := [0x2a, 0x86, 0x48, 0xce, 0x3e, 0x02, 0x01]

/-- The curves that keys are known over: over prime fields, over binary fields, and random ones. -/
def curves : List Octets :=
  [0x01, 0x07].map (fun arc => [0x2a, 0x86, 0x48, 0xce, 0x3d, 0x03, 0x01, arc]) ++
    [0x21, 0x22, 0x23, 0x0a, 0x01, 0x0f, 0x1a, 0x1b, 0x10, 0x11, 0x24, 0x25, 0x26, 0x27].map
      (fun arc => [0x2b, 0x81, 0x04, 0x00, arc]) ++
    [0x07, 0x0b, 0x0d].map fun arc => [0x2b, 0x24, 0x03, 0x03, 0x02, 0x08, 0x01, 0x01, arc]

/-! ### Arcs -/

/-- The arcs of an identifier, seven bits an octet; the octets before hold a part of the first. -/
private def arcsAfter? : Option Nat → Octets → Option (List Nat)
  | none, [] => some []
  | some _, [] => none
  | begun, octet :: rest =>
    let value := begun.getD 0 * 128 + octet.toNat % 128
    if begun = none ∧ octet = 128 then none
    else if octet < 128 then do some (value :: (← arcsAfter? none rest))
    else arcsAfter? (some value) rest

/-- The most octets of an identifier. -/
def maxLength : Nat := 63

/-- The arcs of an identifier, if it is well formed; the first two share a number. -/
def arcs? (oid : Octets) : Option (List Nat) := do
  match ← arcsAfter? none oid with
  | [] => none
  | joint :: others =>
    let first := min (joint / 40) 2
    let arcs := first :: (joint - 40 * first) :: others
    if oid.length ≤ maxLength ∧ arcs.all fun arc => arc < Nat.pow 2 128 then some arcs else none

/-- The arcs in decimal with points between them; nothing for an identifier that is malformed. -/
def text (oid : Octets) : String :=
  ".".intercalate (((arcs? oid).getD []).map fun arc => toString arc)

end CertGraph.Oid
