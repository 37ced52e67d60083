import CertGraph.Octets

/- Elements of the distinguished encoding: a tag, a length and contents. -/
set_option autoImplicit false
set_option relaxedAutoImplicit false

namespace CertGraph.Der

/-- A tag of one octet with contents. -/
structure Element where
  tag : UInt8
  contents : Octets
deriving DecidableEq

/-- A length: one octet below 128, else the count of its octets and these octets. A length of more
than 126 octets, past the standard form, stands after a mark for each of them and a zero. -/
def lengthOctets (length : Nat) : Octets :=
  if length < 128 then [UInt8.ofNat length]
  else
    let digits := Octets.ofNat length
    if digits.length ≤ 126 then UInt8.ofNat (128 + digits.length) :: digits
    else List.replicate digits.length 0xff ++ 0 :: digits

/-- An element as octets. -/
def Element.encode (element : Element) : Octets :=
  element.tag :: lengthOctets element.contents.length ++ element.contents

/-- Elements one after the other. -/
def encodeAll (elements : List Element) : Octets :=
  elements.flatMap Element.encode

/-- How many octets of a long length follow its head, and what follows the head. -/
def longHead (first : UInt8) (rest : Octets) : Nat × Octets :=
  if first = 0xff then
    ((rest.takeWhile (· = 0xff)).length + 1, (rest.dropWhile (· = 0xff)).drop 1)
  else (first.toNat - 128, rest)

/-- A length in its only permitted form, and what follows it. -/
def readLength? : Octets → Option (Nat × Octets)
  | [] => none
  | first :: rest =>
    if first.toNat < 128 then some (first.toNat, rest)
    else
      let (count, rest') := longHead first rest
      let length := Octets.toNat (rest'.take count)
      if lengthOctets length ++ rest'.drop count = first :: rest then
        some (length, rest'.drop count)
      else none

/-- The first element, and what follows it. -/
def next? : Octets → Option (Element × Octets)
  | [] => none
  | tag :: rest => do
    let (length, rest) ← readLength? rest
    if rest.length < length then none
    else some (⟨tag, rest.take length⟩, rest.drop length)

/-- At most so many elements that make up the whole of the octets. -/
def readAll? : Nat → Octets → Option (List Element)
  | _, [] => some []
  | 0, _ => none
  | count + 1, octets => do
    let (element, rest) ← next? octets
    some (element :: (← readAll? count rest))

/-- The elements that make up the whole of the octets. -/
def elements? (octets : Octets) : Option (List Element) :=
  readAll? octets.length octets

/-- The only element of the octets. -/
def element? (octets : Octets) : Option Element :=
  match next? octets with
  | some (element, []) => some element
  | _ => none

/-! ### Kinds of elements -/

/-- A sequence of elements. -/
def sequence (elements : List Element) : Element :=
  ⟨0x30, encodeAll elements⟩

/-- A set of elements, in the order given. -/
def set (elements : List Element) : Element :=
  ⟨0x31, encodeAll elements⟩

/-- The contents of a number: the fewest octets that leave the sign bit clear. -/
def natContents (n : Nat) : Octets :=
  match Octets.ofNat n with
  | [] => [0]
  | first :: rest => if first < 128 then first :: rest else 0 :: first :: rest

/-- A number that is not negative. -/
def integer (n : Nat) : Element :=
  ⟨0x02, natContents n⟩

/-- The contents of a number of either sign: below zero, those of what lies on the other side of
zero with every bit turned over. -/
def intContents : Int → Octets
  | .ofNat n => natContents n
  | .negSucc n => (natContents n).map fun octet => ~~~octet

/-- A number of either sign. -/
def signed (n : Int) : Element :=
  ⟨0x02, intContents n⟩

/-- A truth value. -/
def boolean (value : Bool) : Element :=
  ⟨0x01, [if value then 0xff else 0x00]⟩

/-- The empty value. -/
def null : Element :=
  ⟨0x05, []⟩

/-- An object identifier, given by its contents. -/
def oid (contents : Octets) : Element :=
  ⟨0x06, contents⟩

/-- A string of octets. -/
def octetString (octets : Octets) : Element :=
  ⟨0x04, octets⟩

/-- Bits in octets; so many at the end of the last octet are not used. -/
structure Bits where
  unused : UInt8
  octets : Octets
deriving DecidableEq

/-- All bits of whole octets. -/
def Bits.ofOctets (octets : Octets) : Bits :=
  ⟨0, octets⟩

/-- Whether less than an octet is unused, and the unused bits are there and zero. -/
def Bits.isProper (bits : Bits) : Bool :=
  match bits.octets.getLast? with
  | none => bits.unused = 0
  | some last => bits.unused < 8 && last.toNat % Nat.pow 2 bits.unused.toNat = 0

/-- Whether a bit is set, the first having number zero. -/
def Bits.has (bits : Bits) (index : Nat) : Bool :=
  bits.octets[index / 8]?.any fun octet => octet.toNat / Nat.pow 2 (7 - index % 8) % 2 = 1

/-- The contents of a string of bits. -/
def Bits.contents (bits : Bits) : Octets :=
  bits.unused :: bits.octets

/-- A string of bits. -/
def bitString (bits : Bits) : Element :=
  ⟨0x03, bits.contents⟩

/-- A text in UTF-8. -/
def utf8String (text : String) : Element :=
  ⟨0x0c, Octets.ofText text⟩

/-- An element inside a numbered tag of its own. -/
def wrapped (number : UInt8) (element : Element) : Element :=
  ⟨0xa0 + number, element.encode⟩

/-- Contents under a numbered tag. -/
def tagged (number : UInt8) (contents : Octets) : Element :=
  ⟨0x80 + number, contents⟩

/-- The elements of a sequence. -/
def sequenceMembers? (element : Element) : Option (List Element) :=
  if element.tag = 0x30 then elements? element.contents else none

/-- The number of an element, if it has its only permitted form and is not negative. -/
def natOf? (element : Element) : Option Nat :=
  let n := Octets.toNat element.contents
  if integer n = element then some n else none

/-- The contents of an element with the tag given. -/
def contentsOf? (tag : UInt8) (element : Element) : Option Octets :=
  if element.tag = tag then some element.contents else none

/-- The number of an element, of either sign, if it has its only permitted form. -/
def intOf? (element : Element) : Option Int :=
  let n : Int := match element.contents with
    | first :: _ =>
      if first < 128 then .ofNat (Octets.toNat element.contents)
      else .negSucc (Octets.toNat (element.contents.map fun octet => ~~~octet))
    | [] => 0
  if signed n = element then some n else none

/-- The bits that contents stand for. -/
def Bits.ofContents? : Octets → Option Bits
  | unused :: octets =>
    let bits : Bits := ⟨unused, octets⟩
    if bits.isProper then some bits else none
  | [] => none

/-- The bits of a bit string. -/
def bitsOf? (element : Element) : Option Bits := do
  Bits.ofContents? (← contentsOf? 0x03 element)

/-- Whether an element is a number of any sign. -/
def isInteger (element : Element) : Bool :=
  (intOf? element).isSome

end CertGraph.Der
