import CertGraph.Algorithm.Permitted
import CertGraph.Armor.Block
import CertGraph.Certificate.Basic

/- How encoded certificates are read. -/
set_option autoImplicit false
set_option relaxedAutoImplicit false

namespace CertGraph

open CertGraph.Text (natOfDigits?)
open CertGraph.Time (Date Instant)

namespace Stamp

/-- A number of as many decimal digits as given, and the rest. -/
def takeNumber? (count : Nat) (chars : List Char) : Option (Nat × List Char) := do
  some (← natOfDigits? 10 (chars.take count), chars.drop count)

/-- The instant of a year and the month, day and time after it. -/
def readTail? (year : Nat) (chars : List Char) : Option Instant := do
  let (month, chars) ← takeNumber? 2 chars
  let (day, chars) ← takeNumber? 2 chars
  let (hour, chars) ← takeNumber? 2 chars
  let (minute, chars) ← takeNumber? 2 chars
  let (second, chars) ← takeNumber? 2 chars
  let date : Date := ⟨year, month, day⟩
  if chars = ['Z'] ∧ date.isValid ∧ hour < 24 ∧ minute < 60 ∧ second < 60 then
    some (Instant.ofDate date ((hour * 60 + minute) * 60 + second) 0)
  else none

/-- The instant that an element holds in either form. -/
def ofElement? (element : Der.Element) : Option Stamp := do
  let chars := element.contents.map fun octet => Char.ofNat octet.toNat
  if element.tag = 0x17 then
    let (year, chars) ← takeNumber? 2 chars
    some ⟨← readTail? (if year < 50 then 2000 + year else 1900 + year) chars, false⟩
  else if element.tag = 0x18 then
    let (year, chars) ← takeNumber? 4 chars
    some ⟨← readTail? year chars, true⟩
  else none

end Stamp

/-- The extension that an element holds. -/
def Extension.ofElement? (element : Der.Element) : Option Extension := do
  let (oid, critical, value) ← match ← Der.sequenceMembers? element with
    | [oid, value] => some (oid, false, value)
    | [oid, _, value] => some (oid, true, value)
    | _ => none
  let oid ← Der.contentsOf? 0x06 oid
  if (Oid.arcs? oid).isSome then some ⟨oid, critical, ← Der.contentsOf? 0x04 value⟩ else none

/-- The algorithm that an element names, with parameters that it may have. -/
def algorithmOf? (element : Der.Element) : Option Algorithm := do
  let algorithm ← Algorithm.ofElement? element
  if algorithm.isPermitted then some algorithm else none

/-- The key that an element holds. -/
def SubjectKey.ofElement? (element : Der.Element) : Option SubjectKey := do
  match ← Der.sequenceMembers? element with
  | [algorithm, bits] => some ⟨← algorithmOf? algorithm, ← Der.bitsOf? bits⟩
  | _ => none

namespace Body

def readVersion? : List Der.Element → Option (UInt8 × List Der.Element)
  | [] => none
  | first :: rest =>
    if first.tag = 0xa0 then do
      let version ← Der.natOf? (← Der.element? first.contents)
      if version < 256 then some (UInt8.ofNat version, rest) else none
    else some (firstVersion, first :: rest)

/-- The bits in a numbered tag, if it comes next, and the elements after it. -/
def readId? (number : UInt8) :
    List Der.Element → Option (Option Der.Bits × List Der.Element)
  | [] => some (none, [])
  | next :: rest =>
    if next.tag = 0x80 + number then do
      some (some (← Der.Bits.ofContents? next.contents), rest)
    else some (none, next :: rest)

def readExtensions? : List Der.Element → Option (Option (List Extension))
  | [] => some none
  | [wrapper] => do
    let members ← Der.sequenceMembers? (← Der.element? (← Der.contentsOf? 0xa3 wrapper))
    some (some (← members.mapM Extension.ofElement?))
  | _ => none

/-- What is signed, read from an element. -/
def ofElement? (element : Der.Element) : Option Body := do
  let (version, members) ← readVersion? (← Der.sequenceMembers? element)
  match members with
  | serial :: algorithm :: issuer :: validity :: subject :: key :: members =>
    let (issuerId, members) ← readId? 1 members
    let (subjectId, members) ← readId? 2 members
    match ← Der.sequenceMembers? validity with
    | [notBefore, notAfter] =>
      some {
        version
        serial := ← Der.intOf? serial
        algorithm := ← algorithmOf? algorithm
        issuer := ← Name.ofElement? issuer
        notBefore := ← Stamp.ofElement? notBefore
        notAfter := ← Stamp.ofElement? notAfter
        subject := ← Name.ofElement? subject
        key := ← SubjectKey.ofElement? key
        issuerId
        subjectId
        extensions := ← readExtensions? members }
    | _ => none
  | _ => none

end Body

namespace Certificate

/-- Why no certificate was read. -/
inductive ReadFault where
  | unreadable
  | unknownVersion
deriving DecidableEq

/-- The certificate that an element holds. -/
def ofElement? (element : Der.Element) : Option Certificate := do
  match ← Der.sequenceMembers? element with
  | [body, algorithm, signature] =>
    some ⟨← Body.ofElement? body, ← algorithmOf? algorithm, ← Der.bitsOf? signature⟩
  | _ => none

/-- The certificate of the first or third version that octets encode; every certificate has one
encoding. -/
def decode (octets : Octets) : Except ReadFault Certificate :=
  match Der.element? octets >>= ofElement? with
  | some certificate =>
    if certificate.encode = octets then
      if certificate.body.version = firstVersion ∨ certificate.body.version = thirdVersion then
        .ok certificate
      else .error .unknownVersion
    else .error .unreadable
  | none => .error .unreadable

/-- What is read is what was written. -/
theorem encode_of_decode {octets : Octets} {certificate : Certificate}
    (read : decode octets = .ok certificate) : certificate.encode = octets := by
  unfold decode at read
  split at read
  · split at read
    · next same =>
      split at read
      · cases read
        exact same
      · contradiction
    · contradiction
  · contradiction

/-- The older label of a certificate in armor. -/
def oldLabel : Octets :=
  Octets.ofAscii ['X', '5', '0', '9', ' '] ++ label

/-- The certificate in the first block of a text that is labelled as one. -/
def ofPem (text : Octets) : Except ReadFault Certificate :=
  match Armor.findBlock? [label, oldLabel] text with
  | some block => decode block.contents
  | none => .error .unreadable

end Certificate

end CertGraph
