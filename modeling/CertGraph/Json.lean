import CertGraph.Text.Digits

/- Structured values with ordered members, and their text on one line of plain ASCII. -/
set_option autoImplicit false
set_option relaxedAutoImplicit false

namespace CertGraph

open CertGraph.Text (paddedDigits)

/-- A value; a number is its digits with the given count of decimal places. -/
inductive Json where
  | null
  | bool (value : Bool)
  | number (digits : Int) (places : Nat)
  | text (value : String)
  | array (members : List Json)
  | object (members : List (String × Json))
deriving Inhabited

namespace Json

/-- A whole number. -/
def int (value : Int) : Json :=
  .number value 0

/-- The member of an object under a key, the last one if there are several. -/
def member? (key : String) : Json → Option Json
  | .object members => (members.reverse.find? fun entry => entry.1 = key).map Prod.snd
  | _ => none

/-- A code unit of sixteen bits as an escape. -/
private def unitEscape (code : Nat) : List Char :=
  '\\' :: 'u' :: paddedDigits 16 4 code

/-- One character inside quotes; anything but printable ASCII is an escape. -/
def escaped (c : Char) : List Char :=
  if c = '"' ∨ c = '\\' then ['\\', c]
  else if c = '\n' then ['\\', 'n']
  else if c = '\r' then ['\\', 'r']
  else if c = '\t' then ['\\', 't']
  else if c = Char.ofNat 8 then ['\\', 'b']
  else if c = Char.ofNat 12 then ['\\', 'f']
  else if 0x20 ≤ c.toNat ∧ c.toNat < 0x7f then [c]
  else if c.toNat < 0x10000 then unitEscape c.toNat
  else
    let rest := c.toNat - 0x10000
    unitEscape (0xd800 + rest / 0x400) ++ unitEscape (0xdc00 + rest % 0x400)

/-- A text in quotes. -/
def quotedChars (text : String) : List Char :=
  '"' :: text.toList.flatMap escaped ++ ['"']

/-- A number with one digit before the point and an exponent of ten that is negative. -/
private def smallChars (digits : List Char) (exponent : Nat) : List Char :=
  digits.take 1 ++ (if digits.length = 1 then [] else '.' :: digits.drop 1) ++
    'e' :: '-' :: paddedDigits 10 2 exponent

/-- A number in decimal; one below a ten-thousandth has an exponent. -/
def numberChars (digits : Int) (places : Nat) : List Char :=
  let sign := if digits < 0 then ['-'] else []
  let shown := Nat.toDigits 10 digits.natAbs
  let all := paddedDigits 10 (places + 1) digits.natAbs
  if places = 0 then sign ++ all
  else if shown.length + 4 ≤ places ∧ digits ≠ 0 then
    sign ++ smallChars shown (places + 1 - shown.length)
  else sign ++ all.take (all.length - places) ++ '.' :: all.drop (all.length - places)

mutual

/-- The characters of a value. -/
def chars : Json → List Char
  | .null => "null".toList
  | .bool true => "true".toList
  | .bool false => "false".toList
  | .number digits places => numberChars digits places
  | .text value => quotedChars value
  | .array members => '[' :: arrayChars members ++ [']']
  | .object members => '\x7b' :: objectChars members ++ ['\x7d']

/-- Values with a comma and a space between neighbours. -/
def arrayChars : List Json → List Char
  | [] => []
  | [value] => value.chars
  | value :: others => value.chars ++ ',' :: ' ' :: arrayChars others

/-- Members with a colon and a space after each key. -/
def objectChars : List (String × Json) → List Char
  | [] => []
  | [(key, value)] => quotedChars key ++ ':' :: ' ' :: value.chars
  | (key, value) :: others =>
    quotedChars key ++ ':' :: ' ' :: value.chars ++ ',' :: ' ' :: objectChars others

end

/-- A value as text. -/
def render (value : Json) : String :=
  String.ofList value.chars

end Json

end CertGraph
