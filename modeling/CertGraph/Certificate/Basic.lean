import CertGraph.Algorithm.Basic
import CertGraph.Armor.Pem
import CertGraph.Name
import CertGraph.Serial
import CertGraph.Time.Instant

/- Certificates: their parts and their encoding. -/
set_option autoImplicit false
set_option relaxedAutoImplicit false

namespace CertGraph

open CertGraph.Time (Instant)

/-- A further statement of a certificate; a reader has to know a critical one. -/
structure Extension where
  oid : Octets
  critical : Bool
  value : Octets
deriving DecidableEq

/-- A public key of any scheme, with its algorithm. -/
structure SubjectKey where
  algorithm : Algorithm
  bits : Der.Bits
deriving DecidableEq

/-- An instant as it is written: in the short form, with two digits of the year, or the long. -/
structure Stamp where
  instant : Instant
  isLong : Bool
deriving DecidableEq

/-- What is signed in a certificate. Versions are counted from zero, the first of which is not
written. -/
structure Body where
  version : UInt8
  serial : Int
  algorithm : Algorithm
  issuer : Name
  notBefore : Stamp
  notAfter : Stamp
  subject : Name
  key : SubjectKey
  issuerId : Option Der.Bits
  subjectId : Option Der.Bits
  extensions : Option (List Extension)
deriving DecidableEq

/-- A signed body. -/
structure Certificate where
  body : Body
  algorithm : Algorithm
  signature : Der.Bits
deriving DecidableEq

/-- The first version, without extensions. -/
def firstVersion : UInt8 := 0

/-- The version with extensions. -/
def thirdVersion : UInt8 := 2

/-- RSA signatures over SHA-256 digests. -/
def signatureAlgorithm : Algorithm :=
  Algorithm.plain Oid.sha256WithRsa

namespace Stamp

/-- The first year that only the long form can write. -/
def longYear : Nat := 2050

/-- An instant in the short form as long as that can write it. -/
def ofInstant (instant : Instant) : Stamp :=
  ⟨instant, longYear ≤ instant.date.year⟩

/-- Characters of ASCII as octets. -/
def asciiOf (text : String) : Octets :=
  Octets.ofAscii text.toList

/-- The instant as an element. -/
def element (stamp : Stamp) : Der.Element :=
  if stamp.isLong then ⟨0x18, asciiOf stamp.instant.longText⟩
  else ⟨0x17, asciiOf stamp.instant.shortText⟩

end Stamp

/-- An extension; only a critical one says whether it is. -/
def Extension.element (extension : Extension) : Der.Element :=
  Der.sequence <| Der.oid extension.oid ::
    ((if extension.critical then [Der.boolean true] else []) ++
      [Der.octetString extension.value])

/-- The key of a subject as an element. -/
def SubjectKey.element (key : SubjectKey) : Der.Element :=
  Der.sequence [key.algorithm.element, Der.bitString key.bits]

namespace Body

def versionElements (body : Body) : List Der.Element :=
  if body.version = firstVersion then []
  else [Der.wrapped 0 (Der.integer body.version.toNat)]

def idElements (body : Body) : List Der.Element :=
  let element := fun (number : UInt8) (bits : Der.Bits) => Der.tagged number bits.contents
  (body.issuerId.map (element 1)).toList ++ (body.subjectId.map (element 2)).toList

def extensionElements (body : Body) : List Der.Element :=
  let element := fun (extensions : List Extension) =>
    Der.wrapped 3 (Der.sequence (extensions.map Extension.element))
  (body.extensions.map element).toList

/-- What is signed, as an element. -/
def element (body : Body) : Der.Element :=
  Der.sequence <| body.versionElements ++
    [Der.signed body.serial, body.algorithm.element, body.issuer.element,
     Der.sequence [body.notBefore.element, body.notAfter.element],
     body.subject.element, body.key.element] ++
    body.idElements ++ body.extensionElements

end Body

namespace Certificate

/-- The certificate as an element. -/
def element (certificate : Certificate) : Der.Element :=
  Der.sequence
    [certificate.body.element, certificate.algorithm.element,
     Der.bitString certificate.signature]

/-- The certificate in octets. -/
def encode (certificate : Certificate) : Octets :=
  certificate.element.encode

/-- The label of a certificate in armor. -/
def label : Octets :=
  Octets.ofAscii ['C', 'E', 'R', 'T', 'I', 'F', 'I', 'C', 'A', 'T', 'E']

/-- The certificate in armor. -/
def pem (certificate : Certificate) : Octets :=
  Armor.armored label certificate.encode

/-- The serial number as text. -/
def serialText (certificate : Certificate) : String :=
  Serial.text certificate.body.serial

end Certificate

end CertGraph
