import CertGraph.Decimal
import CertGraph.Json
import CertGraph.Text.Quoted

/- Values as texts show them: what kind they are of, how they are written, and which numbers they
stand for. -/
set_option autoImplicit false
set_option relaxedAutoImplicit false

namespace CertGraph.Json

open CertGraph.Decimal (Fraction)
open CertGraph.Text (quoted)

/-- The kind of a value as messages call it. -/
def kind : Json → String
  | .null => "NoneType"
  | .bool _ => "bool"
  | .number _ 0 => "int"
  | .number _ _ => "float"
  | .text _ => "str"
  | .array _ => "list"
  | .object _ => "dict"

/-- Whether a value counts as something. -/
def isSomething : Json → Bool
  | .null => false
  | .bool value => value
  | .number digits _ => digits ≠ 0
  | .text value => value ≠ ""
  | .array members => !members.isEmpty
  | .object members => !members.isEmpty

mutual

/-- A value inside another one, texts in quotes. -/
def innerChars : Json → List Char
  | .null => "None".toList
  | .bool true => "True".toList
  | .bool false => "False".toList
  | .number digits places => numberChars digits places
  | .text value => (quoted value).toList
  | .array members => '[' :: innerArrayChars members ++ [']']
  | .object members => '\x7b' :: innerObjectChars members ++ ['\x7d']

/-- Values with a comma and a space between neighbours. -/
def innerArrayChars : List Json → List Char
  | [] => []
  | [value] => innerChars value
  | value :: others => innerChars value ++ ',' :: ' ' :: innerArrayChars others

/-- Members with a colon and a space after each key. -/
def innerObjectChars : List (String × Json) → List Char
  | [] => []
  | [(key, value)] => (quoted key).toList ++ ':' :: ' ' :: innerChars value
  | (key, value) :: others =>
    (quoted key).toList ++ ':' :: ' ' :: innerChars value ++ ',' :: ' ' ::
      innerObjectChars others

end

/-- A value that stands alone; a text stands for itself. -/
def shownChars : Json → List Char
  | .text value => value.toList
  | other => other.innerChars

/-- A value as it stands inside another one, in ASCII. -/
def asciiChars (value : Json) : List Char :=
  value.innerChars.flatMap fun c => if c.toNat < 128 then [c] else Text.codeEscape c

/-- The whole number that a value is; a truth value counts as one or zero. -/
def whole? : Json → Option Int
  | .number digits 0 => some digits
  | .bool value => some (if value then 1 else 0)
  | _ => none

/-- The whole number that a number comes to without its decimal places. -/
def truncated? : Json → Option Int
  | .number digits places => some (digits.tdiv (Nat.pow 10 places))
  | other => other.whole?

/-- The number that a value is, as whether it is negative and its amount. -/
def real? : Json → Option (Bool × Fraction)
  | .number digits places => some (digits < 0, ⟨digits.natAbs, Nat.pow 10 places⟩)
  | other => other.whole?.map fun n => (false, ⟨n.natAbs, 1⟩)

end CertGraph.Json
