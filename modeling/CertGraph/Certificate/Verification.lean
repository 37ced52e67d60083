import CertGraph.Certificate.SubjectKey
import CertGraph.Rsa.Scheme

/- Which key a certificate is about, and whether another certificate issued it. -/
set_option autoImplicit false
set_option relaxedAutoImplicit false

namespace CertGraph.Certificate

/-- The RSA key that is certified, if it is one. -/
def rsaKey? (certificate : Certificate) : Option Rsa.PublicKey :=
  certificate.body.key.rsa?

/-- Whether the certificate carries the public half of a key. -/
def holds (certificate : Certificate) (key : Rsa.PrivateKey) : Bool :=
  certificate.rsaKey? = some key.publicKey

/-- Whether the certificate carries the public half of a key, if its own key can be compared. -/
def checkHolds (certificate : Certificate) (key : Rsa.PrivateKey) : Except SubjectKeyFault Bool :=
  match certificate.body.key.fault? with
  | some fault => .error fault
  | none => .ok (certificate.holds key)

/-- Whether the signature of a certificate was made with the private half of a key, by the algorithm
that its body names too. -/
def isSignedWith (certificate : Certificate) (key : Rsa.PublicKey) : Bool :=
  certificate.algorithm = certificate.body.algorithm &&
    (Rsa.Scheme.ofAlgorithm? certificate.algorithm).any fun scheme =>
      scheme.verifies key certificate.body.element.encode certificate.signature.octets

/-- Whether one certificate was issued with another: the names meet and the signature verifies. -/
def isIssuedBy (certificate issuer : Certificate) : Bool :=
  certificate.body.issuer = issuer.body.subject && issuer.rsaKey?.any certificate.isSignedWith

end CertGraph.Certificate
