import CertGraph.Certificate.Build
import CertGraph.Certificate.Verification
import CertGraph.Issued

/- Issuing: self-signed authorities, pairs signed by an authority, and bundles. -/
set_option autoImplicit false
set_option relaxedAutoImplicit false

namespace CertGraph

variable {σ α : Type}

/-- The size of a key unless another is asked for. -/
def defaultKeySize : KeySize := some 2048

/-- A refused value becomes a failure of cryptography; other failures stay what they are. -/
def Work.asCryptography (fault : ValueFault → CryptographyFault) (work : Work σ α) : Work σ α :=
  work.onFailure fun failure => match failure with
    | .value cause => .fail (.cryptography (fault cause))
    | other => .fail other

/-- A new key for the pair of a name. -/
def newKey (size : KeySize) (baseName : String) : Work σ Rsa.PrivateKey :=
  (Work.drawKey size).asCryptography (.keyGeneration baseName)

/-- A new key with a self-signed certificate; the spec has to be that of an authority. -/
def issueSelfSigned (spec : Spec) (baseName : String) (keySize : KeySize) : Work σ Authority := do
  if spec.isAuthority then
    let key ← newKey keySize baseName
    let certificate ←
      (Certificate.buildSelfSigned spec key).asCryptography (.selfSigning baseName)
    Work.report .info
      ("Issued self-signed " ++ baseName ++ " (serial " ++ certificate.serialText ++ ")") none
    Work.ofExcept id (Authority.make (Pair.make baseName key certificate []))
  else Work.fail (.configuration (.selfSignedNotAuthority baseName))

/-- The contents of the certificate file of a signed pair. -/
def chainPem (certificate issuer : Certificate) : ChainPolicy → Octets
  | .appendParent => certificate.pem ++ issuer.pem
  | .doNotAppendParent => certificate.pem

/-- A new key with a certificate signed by an authority. The key of the authority has to be the one
its certificate is about, and the signature has to verify. -/
def issueWith (spec : Spec) (issuer : Authority) (baseName : String) (policy : ChainPolicy)
    (keySize : KeySize) : Work σ Issued := do
  let parent := issuer.pair
  if !(← Work.ofExcept .subjectKey (parent.certificate.checkHolds parent.key)) then
    Work.fail (.cryptography (.keyMismatch parent.baseName))
  else
    let key ← newKey keySize baseName
    let certificate ←
      (Certificate.buildSigned spec key.publicKey parent.certificate parent.key).asCryptography
        (.signing baseName parent.baseName)
    if !certificate.isIssuedBy parent.certificate then
      Work.fail (.cryptography (.unverified baseName parent.baseName))
    else
      let chain := chainPem certificate parent.certificate policy
      let pair := Pair.make baseName key certificate chain
      Work.report .info
        ("Issued " ++ baseName ++ " signed by " ++ parent.baseName ++ " (serial " ++
          certificate.serialText ++ ")") none
      if spec.isAuthority then return .authority (← Work.ofExcept id (Authority.make pair))
      else return .leaf pair

/-- A new key with a certificate signed by an issued pair, which has to be an authority. -/
def issueSigned (spec : Spec) (issuer : Issued) (baseName : String) (policy : ChainPolicy)
    (keySize : KeySize) : Work σ Issued :=
  match issuer.authority? with
  | some authority => issueWith spec authority baseName policy keySize
  | none => Work.fail (.configuration (.issuerNotAuthority baseName))

/-- The certificate files of some pairs, the place of the first one missing if there is one. -/
def memberPems (name : String) :
    Nat → List (Option Issued) → Except ConfigurationFault (List Octets)
  | _, [] => .ok []
  | position, none :: _ => .error (.bundleMemberEmpty position name)
  | position, some member :: others => do
    if member.pair.certPem = [] then .error (.bundleMemberEmpty position name)
    else .ok (member.pair.certPem :: (← memberPems name (position + 1) others))

/-- The certificate files of some pairs as a bundle, in order; none may be missing. -/
def aggregateBundle (name : String) (members : List (Option Issued)) : Work σ Bundle := do
  if members = [] then Work.fail (.configuration (.bundleEmpty name))
  else
    let certificates ← Work.configured (memberPems name 0 members)
    Work.report .info
      ("Aggregated " ++ name ++ " from " ++ toString certificates.length ++ " authorities") none
    return ⟨name, certificates⟩

end CertGraph
