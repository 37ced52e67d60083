import CertGraph.Der
import CertGraph.Fault
import CertGraph.Oid
import CertGraph.Subject

/- Names as certificates carry them: attributes in steps, each with the kind of text it uses. -/
set_option autoImplicit false
set_option relaxedAutoImplicit false

namespace CertGraph

/-- An attribute of a name: what it is, and its value with the tag of its kind of text. -/
structure Attribute where
  oid : Octets
  value : Der.Element
deriving DecidableEq

namespace Attribute

/-- The attribute as an element. -/
def element (entry : Attribute) : Der.Element :=
  Der.sequence [Der.oid entry.oid, entry.value]

/-- Whether an octet is a letter, a digit or a mark that every writing system has. -/
private def isPrintable (octet : UInt8) : Bool :=
  let c := Char.ofNat octet.toNat
  c.isAlphanum || [' ', '\'', '(', ')', '+', ',', '-', '.', '/', ':', '=', '?'].contains c

/-- Whether octets are characters in two or four octets each, the second half of a pair apart. -/
private def isPaired : Octets → Bool
  | [] => true
  | high :: _ :: rest =>
    if 0xdc ≤ high ∧ high ≤ 0xdf then false
    else if 0xd8 ≤ high ∧ high ≤ 0xdb then
      match rest with
      | low :: _ :: rest => 0xdc ≤ low && low ≤ 0xdf && isPaired rest
      | _ => false
    else isPaired rest
  | [_] => false

/-- Whether octets are characters in four octets each. -/
private def isFourfold : Octets → Bool
  | [] => true
  | a :: b :: c :: d :: rest => (Octets.toNat [a, b, c, d]).isValidChar && isFourfold rest
  | _ => false

/-- Whether the characters of a value are those of its kind of text; in kinds that are not told
apart here any octets may stand. -/
def isProper (entry : Attribute) : Bool :=
  let octets := entry.value.contents
  (Oid.arcs? entry.oid).isSome &&
    if entry.value.tag = 0x13 then octets.all isPrintable
    else if entry.value.tag = 0x1e then isPaired octets
    else if entry.value.tag = 0x1c then isFourfold octets
    else true

/-- Whether the octets of a value are the text it stands for. -/
def isText (entry : Attribute) : Bool :=
  [0x03, 0x13, 0x1c, 0x1e].contains entry.value.tag ||
    (Octets.toText? entry.value.contents).isSome

/-- The attribute that an element holds. -/
def ofElement? (element : Der.Element) : Option Attribute := do
  match ← Der.sequenceMembers? element with
  | [oid, value] => some ⟨← Der.contentsOf? 0x06 oid, value⟩
  | _ => none

end Attribute

/-- Whether each of some octet lists is not before the one ahead of it. -/
private def inOrder : List Octets → Bool
  | first :: second :: rest => !decide (second < first) && inOrder (second :: rest)
  | _ => true

/-- Whether the attributes of a step are proper, and their encodings in order. -/
def isProperStep (step : List Attribute) : Bool :=
  step.all Attribute.isProper && inOrder (step.map fun entry => entry.element.encode)

/-- A name: steps of one or more attributes. -/
structure Name where
  steps : List (List Attribute)
  proper : steps.all isProperStep = true
deriving DecidableEq

namespace Subject

/-- The attributes of a subject: organizations, units, and the common name last. -/
def attributes (subject : Subject) : List (Octets × String) :=
  subject.organizations.map (fun text => (Oid.organization, text)) ++
    subject.units.map (fun text => (Oid.organizationalUnit, text)) ++
    [(Oid.commonName, subject.commonName)]

/-- The longest common name, in octets. -/
def maxCommonName : Nat := 64

/-- The steps of a name: an attribute each, in UTF-8. -/
private def steps (subject : Subject) : List (List Attribute) :=
  subject.attributes.map fun (oid, text) => [⟨oid, Der.utf8String text⟩]

private theorem isProperStep_utf8 (oid : Octets) (text : String)
    (known : (Oid.arcs? oid).isSome = true) :
    isProperStep [⟨oid, Der.utf8String text⟩] = true := by
  simp [isProperStep, Attribute.isProper, inOrder, Der.utf8String, known]

private theorem steps_proper (subject : Subject) :
    subject.steps.all isProperStep = true := by
  have organization (text : String) := isProperStep_utf8 Oid.organization text rfl
  have unit (text : String) := isProperStep_utf8 Oid.organizationalUnit text rfl
  have commonName (text : String) := isProperStep_utf8 Oid.commonName text rfl
  simp [steps, attributes, organization, unit, commonName]

/-- The name of a subject; a common name has between one and 64 octets. -/
def name (subject : Subject) : Except ValueFault Name :=
  let size := (Octets.ofText subject.commonName).length
  if 1 ≤ size ∧ size ≤ maxCommonName then .ok ⟨subject.steps, subject.steps_proper⟩
  else .error (.commonNameLength size)

/-- The short label of an attribute. -/
private def label (oid : Octets) : String :=
  if oid = Oid.commonName then "CN"
  else if oid = Oid.organization then "O"
  else "OU"

/-- A character of a value, with a backslash before the ones that would end it. -/
private def valueChar (c : Char) : List Char :=
  if c ∈ ['\\', '"', '+', ',', ';', '<', '>'] then ['\\', c]
  else if c = Char.ofNat 0 then ['\\', '0', '0']
  else [c]

/-- A value with its first and last characters marked where they could be lost. -/
private def valueChars (chars : List Char) : List Char :=
  let escaped := chars.flatMap valueChar
  let ended :=
    if chars.getLast? = some ' ' then escaped.dropLast ++ ['\\', ' '] else escaped
  match chars with
  | '#' :: _ => '\\' :: ended
  | ' ' :: _ :: _ => '\\' :: ended
  | _ => ended

/-- The name as one line, the last attribute first. -/
def text (subject : Subject) : String :=
  ",".intercalate <| subject.attributes.reverse.map fun (oid, value) =>
    label oid ++ "=" ++ String.ofList (valueChars value.toList)

end Subject

namespace Name

/-- The name as an element: a sequence of sets. -/
def element (name : Name) : Der.Element :=
  Der.sequence (name.steps.map fun step => Der.set (step.map Attribute.element))

/-- The name that an element holds. -/
def ofElement? (element : Der.Element) : Option Name := do
  let steps ← (← Der.sequenceMembers? element).mapM fun step => do
    (← Der.elements? (← Der.contentsOf? 0x31 step)).mapM Attribute.ofElement?
  if proper : steps.all isProperStep = true then some ⟨steps, proper⟩ else none

/-- Whether all values of the name are text. -/
def isText (name : Name) : Bool :=
  name.steps.all fun step => step.all Attribute.isText

end Name

end CertGraph
