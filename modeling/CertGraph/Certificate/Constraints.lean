import CertGraph.Certificate.Basic
import CertGraph.Fault

/- What the extensions of a certificate say about its subject. -/
set_option autoImplicit false
set_option relaxedAutoImplicit false

namespace CertGraph

namespace Extension

/-- Whether constraints limit a path without calling the subject an authority. -/
private def limitsPathOnly (value : Octets) : Bool :=
  match Der.element? value >>= Der.sequenceMembers? with
  | some [limit] => Der.isInteger limit
  | _ => false

/-- Whether usage flags restrict an agreement that is not among them. -/
private def restrictsAgreementOnly (value : Octets) : Bool :=
  match Der.element? value >>= Der.bitsOf? with
  | some bits => (bits.has 7 || bits.has 8) && !bits.has 4
  | none => false

/-- The contradiction in an extension. -/
def fault? (extension : Extension) : Option ExtensionFault :=
  if extension.oid = Oid.basicConstraints ∧ limitsPathOnly extension.value then
    some .pathWithoutAuthority
  else if extension.oid = Oid.keyUsage ∧ restrictsAgreementOnly extension.value then
    some .usageWithoutAgreement
  else none

/-- The first identifier that was there before. -/
def firstRepeated? : List Octets → List Octets → Option Octets
  | _, [] => none
  | before, oid :: others =>
    if oid ∈ before then some oid else firstRepeated? (oid :: before) others

end Extension

namespace Certificate

/-- The extensions of a certificate. -/
def extensions (certificate : Certificate) : List Extension :=
  certificate.body.extensions.getD []

/-- The contradiction in the extensions of a certificate: one that is there twice, or else the
first that contradicts itself. -/
def extensionFault? (certificate : Certificate) : Option ExtensionFault :=
  match Extension.firstRepeated? [] (certificate.extensions.map Extension.oid) with
  | some oid => some (.duplicate oid)
  | none => certificate.extensions.findSome? Extension.fault?

/-- The extension of a certificate under an identifier. -/
def extension? (certificate : Certificate) (oid : Octets) : Option Extension :=
  certificate.extensions.find? fun extension => extension.oid = oid

/-- Whether the certificate calls its subject an authority, if it says anything about that. -/
def isAuthority? (certificate : Certificate) : Option Bool := do
  let extension ← certificate.extension? Oid.basicConstraints
  let members := (Der.element? extension.value >>= Der.sequenceMembers?).getD []
  some (members.head? = some (Der.boolean true))

end Certificate

end CertGraph
