import CertGraph.Certificate.Extensions
import CertGraph.Certificate.SubjectKey
import CertGraph.Rsa.Signature
import CertGraph.Workshop

/- Certificates made from specs. -/
set_option autoImplicit false
set_option relaxedAutoImplicit false

namespace CertGraph.Certificate

open CertGraph.Time (Instant)

variable {σ : Type}

/-- The year before which no certificate starts to be valid. -/
def earliestYear : Nat := 1950

/-- The body of a certificate that is valid from the current second on. The serial number is drawn
after the end of validity and the subject, and before the start of validity and the names are
looked at. -/
def draftBody (spec : Spec) (issuer : Name) (key : Rsa.PublicKey) : Work σ Body := do
  let notBefore := (← Work.now).truncated
  let notAfter ← match notBefore.add? spec.validity with
    | some notAfter => pure notAfter
    | none => Work.fail .dateOutOfRange
  let subject ← Work.ofExcept .value spec.subject.name
  let serial ← Work.drawSerial
  if notBefore.date.year < earliestYear then Work.fail (.value .startBefore1950)
  else
    let extensions ← Work.ofExcept .value (Extension.ofSpec spec key)
    pure {
      version := thirdVersion
      serial
      algorithm := signatureAlgorithm
      issuer
      notBefore := .ofInstant notBefore
      notAfter := .ofInstant notAfter.truncated
      subject
      key := SubjectKey.ofRsa key
      issuerId := none
      subjectId := none
      extensions := some extensions }

/-- A body with the signature of a key. -/
def signBody (body : Body) (key : Rsa.PrivateKey) : Work σ Certificate :=
  match key.sign? body.element.encode with
  | some signature => pure ⟨body, signatureAlgorithm, .ofOctets signature⟩
  | none => Work.fail (.value .modulusTooShort)

/-- A certificate whose issuer is its subject. -/
def buildSelfSigned (spec : Spec) (key : Rsa.PrivateKey) : Work σ Certificate := do
  let issuer ← Work.ofExcept .value spec.subject.name
  signBody (← draftBody spec issuer key.publicKey) key

/-- A body with one more extension. -/
def extend (body : Body) (extension : Extension) : Body :=
  { body with extensions := some (body.extensions.getD [] ++ [extension]) }

/-- A certificate whose issuer is the subject of another, which has to be text; it names the key
that signs it. -/
def buildSigned (spec : Spec) (key : Rsa.PublicKey) (issuer : Certificate)
    (issuerKey : Rsa.PrivateKey) : Work σ Certificate := do
  if issuer.body.subject.isText then
    let body ← draftBody spec issuer.body.subject key
    signBody (extend body (.authorityKeyIdentifier issuerKey.publicKey)) issuerKey
  else Work.fail (.value .nameNotText)

end CertGraph.Certificate
