import CertGraph.Certificate.Build
import CertGraph.Certificate.Verification
import CertGraph.Certificate.Constraints
import CertGraph.Proofs.Certificate.SpecExtensions
import CertGraph.Proofs.Der.RoundTrip

/- By what identifiers certificates name keys: the one they certify, and the one that signed them. -/
set_option autoImplicit false
set_option relaxedAutoImplicit false

namespace CertGraph

namespace Certificate

/-- The identifier of the certified key, if an extension tells it. -/
def subjectKeyId? (certificate : Certificate) : Option Octets := do
  let extension ← certificate.extension? Oid.subjectKeyIdentifier
  Der.contentsOf? 0x04 (← Der.element? extension.value)

/-- The identifier of the key that signed, if an extension tells it. -/
def authorityKeyId? (certificate : Certificate) : Option Octets := do
  let extension ← certificate.extension? Oid.authorityKeyIdentifier
  let members ← Der.sequenceMembers? (← Der.element? extension.value)
  Der.contentsOf? 0x80 (← members.head?)

/-- A certificate that names the certified key. -/
theorem subjectKeyId?_eq {certificate : Certificate} {key : Rsa.PublicKey} {isAuthority : Bool}
    {others : List Extension}
    (carries : certificate.body.extensions = some
      (Extension.basicConstraints isAuthority :: Extension.subjectKeyIdentifier key :: others)) :
    certificate.subjectKeyId? = some key.identifier := by
  have found : certificate.extension? Oid.subjectKeyIdentifier =
      some (Extension.subjectKeyIdentifier key) := by
    simp only [extension?, extensions, carries, Option.getD_some]
    rfl
  simp only [subjectKeyId?, found, Extension.subjectKeyIdentifier, bind, Option.bind,
    Der.element?_encode]
  rfl

/-- A certificate that names the key that signed it, after extensions that do not. -/
theorem authorityKeyId?_eq {certificate : Certificate} {key : Rsa.PublicKey}
    {before : List Extension} (silent : ∀ extension ∈ before,
      extension.oid ≠ Oid.authorityKeyIdentifier)
    (carries : certificate.body.extensions = some (before ++ [.authorityKeyIdentifier key])) :
    certificate.authorityKeyId? = some key.identifier := by
  have found : certificate.extension? Oid.authorityKeyIdentifier =
      some (Extension.authorityKeyIdentifier key) := by
    have unfound : before.find? (fun extension =>
        decide (extension.oid = Oid.authorityKeyIdentifier)) = none := by
      simpa [List.find?_eq_none] using silent
    simp only [extension?, extensions, carries, Option.getD_some, List.find?_append, unfound]
    rfl
  simp only [authorityKeyId?, found, Extension.authorityKeyIdentifier, bind, Option.bind,
    Der.element?_encode, Der.sequenceMembers?_sequence]
  rfl

end Certificate

private theorem Rsa.PublicKey.ofElement?_element (key : Rsa.PublicKey) :
    Rsa.PublicKey.ofElement? key.element = some key := by
  simp only [Rsa.PublicKey.ofElement?, Rsa.PublicKey.element, bind, Option.bind,
    Der.sequenceMembers?_sequence, Der.natOf?_integer]

/-- An RSA key is read back from what certificates carry of it. -/
theorem SubjectKey.rsa?_ofRsa (key : Rsa.PublicKey) : (SubjectKey.ofRsa key).rsa? = some key := by
  have isRsa : (SubjectKey.ofRsa key).algorithm.oid = Oid.rsaEncryption := rfl
  have octets : (SubjectKey.ofRsa key).bits.octets = key.element.encode := rfl
  simp only [SubjectKey.rsa?, isRsa, true_or, if_true, octets, bind, Option.bind,
    Der.element?_encode, Rsa.PublicKey.ofElement?_element]

/-- An RSA key can be compared. -/
theorem SubjectKey.fault?_ofRsa (key : Rsa.PublicKey) : (SubjectKey.ofRsa key).fault? = none := by
  have isRsa : (SubjectKey.ofRsa key).algorithm.oid = Oid.rsaEncryption := rfl
  simp only [SubjectKey.fault?, isRsa, true_or, if_true, SubjectKey.rsa?_ofRsa, Option.isSome_some]

end CertGraph
