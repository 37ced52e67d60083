import CertGraph.Template.Basic
import CertGraph.Template.Value

/- Templates with values in their places, and everything that can be wrong with the two. -/
set_option autoImplicit false
set_option relaxedAutoImplicit false

namespace CertGraph.Template

open CertGraph.Decimal (Fraction)
open CertGraph.Text (paddedDigits quoted)

/-- Why values do not fit a template. -/
inductive Fault where
  | tooFewValues
  | tooManyValues
  | notAMapping
  | keyMissing (key : String)
  | keyNotAnIndex
  | sizeNotAnInteger
  | sizeOutOfRange (range : String)
  | widthTooBig
  | precisionTooBig
  | tooLong
  | incomplete
  | incompleteKey
  | notANumber (letter : Char) (kind : String)
  | notAnInteger (letter : Char) (kind : String)
  | notReal (kind : String)
  | realTooLarge
  | notACharacter
  | characterOutOfRange
  | unsupported (letter : Char) (position : Nat)
deriving DecidableEq

/-- What a fault is about: the kind of a value, the value itself, how large it is, where something
is looked up, or the room that a text takes. -/
inductive Concern where
  | kind
  | value
  | amount
  | key
  | index
  | member
  | room
deriving DecidableEq

namespace Fault

/-- What a fault is about. -/
def concern : Fault → Concern
  | .keyMissing _ => .key
  | .widthTooBig => .value
  | .precisionTooBig => .value
  | .incomplete => .value
  | .incompleteKey => .value
  | .unsupported _ _ => .value
  | .tooLong => .room
  | .realTooLarge => .amount
  | .sizeOutOfRange _ => .amount
  | .characterOutOfRange => .amount
  | _ => .kind

/-- The wording of a fault. -/
def message : Fault → String
  | .tooFewValues => "not enough arguments for format string"
  | .tooManyValues => "not all arguments converted during string formatting"
  | .notAMapping => "format requires a mapping"
  | .keyMissing key => quoted key
  | .keyNotAnIndex => "list indices must be integers or slices, not str"
  | .sizeNotAnInteger => "* wants int"
  | .sizeOutOfRange range => "Python int too large to convert to C " ++ range
  | .widthTooBig => "width too big"
  | .precisionTooBig => "precision too big"
  | .tooLong => ""
  | .incomplete => "incomplete format"
  | .incompleteKey => "incomplete format key"
  | .notANumber letter kind =>
    "%" ++ letter.toString ++ " format: a real number is required, not " ++ kind
  | .notAnInteger letter kind =>
    "%" ++ letter.toString ++ " format: an integer is required, not " ++ kind
  | .notReal kind => "must be real number, not " ++ kind
  | .realTooLarge => "int too large to convert to float"
  | .notACharacter => "%c requires int or char"
  | .characterOutOfRange => "%c arg not in range(0x110000)"
  | .unsupported letter position =>
    let shown := if 31 ≤ letter.toNat ∧ letter.toNat < 126 then letter else '?'
    "unsupported format character '" ++ shown.toString ++ "' (0x" ++
      String.ofList (Nat.toDigits 16 letter.toNat) ++ ") at index " ++ toString position

end Fault

/-! ### Values to take -/

/-- The values for a template: several of them, or a single one. -/
inductive Values where
  | several (values : List Json)
  | single (value : Json)

/-- The values for a call: a single object with members is looked up by key. -/
def Values.ofCall : List Json → Values
  | [.object (member :: members)] => .single (.object (member :: members))
  | values => .several values

/-- Whether there is anything to fill in. -/
def Values.isEmpty : Values → Bool
  | .several values => List.isEmpty values
  | .single value => !value.isSomething

/-- The numbers that a size may be: the largest of them, the name of the range, and the fault of a
size in the template that exceeds it. -/
structure SizeRange where
  most : Nat
  name : String
  excess : Fault

/-- The numbers that a width may be. -/
def widthRange : SizeRange := ⟨9223372036854775807, "ssize_t", .widthTooBig⟩

/-- The numbers that a precision may be. -/
def precisionRange : SizeRange := ⟨2147483647, "int", .precisionTooBig⟩

/-- The values that are still to be taken, and the one in which keys are looked up. -/
structure Operands where
  pending : List Json
  mapping : Option Json

namespace Operands

/-- Nothing is taken yet; keys are looked up in a single object or array. -/
def ofValues : Values → Operands
  | .several values => ⟨values, none⟩
  | .single (.array members) => ⟨[.array members], some (.array members)⟩
  | .single (.object members) => ⟨[.object members], some (.object members)⟩
  | .single value => ⟨[value], none⟩

/-- Take the next value. -/
def take (operands : Operands) : Except Fault (Json × Operands) :=
  match operands.pending with
  | [] => .error .tooFewValues
  | value :: pending => .ok (value, { operands with pending })

/-- The value under a key is the only one left to be taken. -/
def lookUp (operands : Operands) (key : String) : Except Fault Operands :=
  match operands.mapping with
  | none => .error .notAMapping
  | some (.object members) =>
    match (Json.object members).member? key with
    | some value => .ok { operands with pending := [value] }
    | none => .error (.keyMissing key)
  | some _ => .error .keyNotAnIndex

/-- A size within a range; one that is taken from the values may be negative. -/
def takeSize (operands : Operands) (size : Size) (range : SizeRange) :
    Except Fault (Option Int × Operands) :=
  match size with
  | .unsaid => .ok (none, operands)
  | .fixed size => if range.most < size then .error range.excess else .ok (some size, operands)
  | .next => do
    let (value, operands) ← operands.take
    match value.whole? with
    | some size =>
      if size < -range.most - 1 ∨ range.most < size then .error (.sizeOutOfRange range.name)
      else .ok (some size, operands)
    | none => .error .sizeNotAnInteger

/-- Nothing may be left, unless keys could be looked up. -/
def finish (operands : Operands) : Except Fault Unit :=
  if operands.mapping.isSome ∨ operands.pending = [] then .ok () else .error .tooManyValues

end Operands

/-! ### Writing values -/

/-- A place whose sizes are known. -/
structure Layout where
  flags : Flags
  width : Nat
  precision : Option Nat

namespace Layout

/-- The widest text that is made. -/
def longest : Nat := 1048576

/-- The layout of a place; a negative width aligns to the left, a negative precision is none. -/
def ofSizes (flags : Flags) (width precision : Option Int) : Layout where
  flags := if width.any (· < 0) then { flags with leftAligned := true } else flags
  width := (width.getD 0).natAbs
  precision := precision.map Int.toNat

/-- The layout with sizes that do not exceed the widest text. -/
def limited (layout : Layout) : Layout where
  flags := layout.flags
  width := min layout.width longest
  precision := layout.precision.map (min longest)

/-- Fill a text up to the width; zeros go between its start and its end. -/
def fill (layout : Layout) (zeros : Bool) (start text : List Char) : List Char :=
  let filler := List.replicate (layout.width - (start.length + text.length))
  if layout.flags.leftAligned then start ++ text ++ filler ' '
  else if zeros && layout.flags.zeroFilled then start ++ filler '0' ++ text
  else filler ' ' ++ start ++ text

/-- A text, cut to the precision. -/
def text (layout : Layout) (chars : List Char) : List Char :=
  layout.fill false [] (match layout.precision with
    | some count => chars.take count
    | none => chars)

/-- The sign of a number. -/
def sign (layout : Layout) (isNegative : Bool) : List Char :=
  if isNegative then ['-']
  else if layout.flags.plusSigned then ['+']
  else if layout.flags.blankSigned then [' ']
  else []

/-- A whole number in a base, with at least as many digits as the precision says. -/
def whole (layout : Layout) (base : Nat) (mark : List Char) (number : Int) : List Char :=
  let start := if layout.flags.alternate then mark else []
  layout.fill true (layout.sign (number < 0) ++ start)
    (paddedDigits base (layout.precision.getD 1) number.natAbs)

/-- Digits without the zeros at their end. -/
private def trimZeros (digits : List Char) : List Char :=
  (digits.reverse.dropWhile (· = '0')).reverse

/-- Digits before and after a point, which stands only before digits or in the alternate form. -/
private def pointed (layout : Layout) (before after : List Char) : List Char :=
  if after = [] ∧ layout.flags.alternate = false then before else before ++ '.' :: after

/-- The exponent of ten, with a sign and at least two digits. -/
private def exponentChars (exponent : Int) : List Char :=
  'e' :: (if exponent < 0 then '-' else '+') :: paddedDigits 10 2 exponent.natAbs

/-- A fraction with places after the point. -/
private def fixedChars (layout : Layout) (x : Fraction) (count : Nat) : List Char :=
  let (before, after) := x.places count
  layout.pointed before after

/-- A fraction with one digit before the point and an exponent. -/
private def scientificChars (layout : Layout) (x : Fraction) (count : Nat) : List Char :=
  let (digits, exponent) := x.leading (count + 1)
  layout.pointed (digits.take 1) (digits.drop 1) ++ exponentChars exponent

/-- A fraction with as many digits as given, with an exponent if it is small or has more digits
before the point. Zeros at the end are kept only in the alternate form. -/
private def generalChars (layout : Layout) (x : Fraction) (count : Nat) : List Char :=
  let (digits, exponent) := x.leading count
  let kept := fun after => if layout.flags.alternate then after else trimZeros after
  if exponent < -4 ∨ count ≤ exponent then
    layout.pointed (digits.take 1) (kept (digits.drop 1)) ++ exponentChars exponent
  else if exponent < 0 then
    layout.pointed ['0'] (kept (List.replicate (exponent.natAbs - 1) '0' ++ digits))
  else
    layout.pointed (digits.take (exponent.toNat + 1)) (kept (digits.drop (exponent.toNat + 1)))

/-- The number of digits that the letters for fractions write unless another is given. -/
def usualPrecision : Nat := 6

/-- A fraction as a letter says. -/
def real (layout : Layout) (letter : Char) (isNegative : Bool) (x : Fraction) : List Char :=
  let count := layout.precision.getD usualPrecision
  let chars := match letter.toLower with
    | 'e' => layout.scientificChars x count
    | 'f' => layout.fixedChars x count
    | _ => layout.generalChars x (max count 1)
  layout.fill true (layout.sign isNegative)
    (if letter.isUpper then chars.map Char.toUpper else chars)

end Layout

/-- The character that a value stands for: a text of one character, or a code point. -/
private def characterOf (value : Json) : Except Fault Char :=
  match value with
  | .text text =>
    match text.toList with
    | [c] => .ok c
    | _ => .error .notACharacter
  | _ =>
    match value.whole? with
    | none => .error .notACharacter
    | some code =>
      if 0 ≤ code ∧ code < 0x110000 then .ok (Char.ofNat code.toNat)
      else .error .characterOutOfRange

/-- A value as a letter says. -/
def write (layout : Layout) (letter : Char) (position : Nat) (value : Json) :
    Except Fault (List Char) :=
  let integer := fun (base : Nat) (mark : List Char) =>
    match value.whole? with
    | some number => .ok (layout.whole base mark number)
    | none => .error (.notAnInteger letter value.kind)
  match letter with
  | 's' => .ok (layout.text value.shownChars)
  | 'r' => .ok (layout.text value.innerChars)
  | 'a' => .ok (layout.text value.asciiChars)
  | 'c' => do .ok (layout.fill false [] [← characterOf value])
  | 'o' => integer 8 ['0', 'o']
  | 'x' => integer 16 ['0', 'x']
  | 'X' => (integer 16 ['0', 'X']).map fun chars => chars.map Char.toUpper
  | _ =>
    if letter ∈ ['d', 'i', 'u'] then
      match value.truncated? with
      | some number => .ok (layout.whole 10 [] number)
      | none => .error (.notANumber letter value.kind)
    else if letter ∈ ['e', 'E', 'f', 'F', 'g', 'G'] then
      match value.real? with
      | none => .error (.notReal value.kind)
      | some (isNegative, x) =>
        match x.nearest? with
        | some near => .ok (layout.real letter isNegative near)
        | none => .error .realTooLarge
    else .error (.unsupported letter position)

/-- Whether a letter writes a value without making it longer than it is. -/
private def keepsLength (letter : Char) : Bool :=
  ['s', 'r', 'a', 'c'].contains letter

/-- The text in a place, and the values that are left. -/
def fillPlace (place : Directive) (operands : Operands) :
    Except Fault (List Char × Operands) := do
  let operands ← match place.key with
    | none => .ok operands
    | some key => operands.lookUp key
  let (width, operands) ← operands.takeSize place.width widthRange
  let (precision, operands) ← operands.takeSize place.precision precisionRange
  match place.letter with
  | none => .error .incomplete
  | some letter =>
    let (value, operands) ← operands.take
    let layout := Layout.ofSizes place.flags width precision
    let chars ← write layout.limited letter place.position value
    let size := max layout.width (if keepsLength letter then 0 else layout.precision.getD 0)
    if Layout.longest < size then .error .tooLong else .ok (chars, operands)

/-- The text of some pieces with values in their places. -/
def fillPieces : List Piece → Operands → Except Fault (List Char)
  | [], operands => do
    operands.finish
    .ok []
  | .character c :: rest, operands => do .ok (c :: (← fillPieces rest operands))
  | .openKey :: _, operands =>
    .error (if operands.mapping.isSome then .incompleteKey else .notAMapping)
  | .place place :: rest, operands => do
    let (chars, operands) ← fillPlace place operands
    .ok (chars ++ (← fillPieces rest operands))

/-- The text of a template with values in its places. -/
def fill (template : String) (values : Values) : Except Fault String := do
  .ok (String.ofList (← fillPieces (pieces template) (Operands.ofValues values)))

end CertGraph.Template
