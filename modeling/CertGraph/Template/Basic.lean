import CertGraph.Text.Digits

/- Templates: texts with places for values, marked by a percent sign, and how they are read. -/
set_option autoImplicit false
set_option relaxedAutoImplicit false

namespace CertGraph.Template

/-- How wide a value is, or how precise: not said, a number, or the next value. -/
inductive Size where
  | unsaid
  | fixed (size : Nat)
  | next
deriving DecidableEq

/-- The marks before the size of a place. -/
structure Flags where
  leftAligned : Bool
  plusSigned : Bool
  blankSigned : Bool
  alternate : Bool
  zeroFilled : Bool
deriving DecidableEq

/-- A place for a value: the key to look it up under, its marks and sizes, and the letter that says
how it is written, with its position in the template; no letter if the template ends before. -/
structure Directive where
  key : Option String
  flags : Flags
  width : Size
  precision : Size
  letter : Option Char
  position : Nat
deriving DecidableEq

/-- A piece of a template: a character, a place, or a key without an end. -/
inductive Piece where
  | character (c : Char)
  | place (directive : Directive)
  | openKey
deriving DecidableEq

/-- The text up to the parenthesis that closes so many open ones, and what follows it. -/
private def splitKey? : Nat → List Char → Option (List Char × List Char)
  | _, [] => none
  | 0, ')' :: rest => some ([], rest)
  | depth + 1, ')' :: rest => do
    let (key, after) ← splitKey? depth rest
    some (')' :: key, after)
  | depth, c :: rest => do
    let (key, after) ← splitKey? (if c = '(' then depth + 1 else depth) rest
    some (c :: key, after)

/-- Whether a character is a mark before the size. -/
private def isFlag (c : Char) : Bool :=
  ['-', '+', ' ', '#', '0'].contains c

private def flagsOf (marks : List Char) : Flags :=
  ⟨marks.contains '-', marks.contains '+', marks.contains ' ', marks.contains '#',
    marks.contains '0'⟩

/-- The size at the start of a text, and what follows it. -/
private def splitSize : List Char → Size × List Char
  | '*' :: rest => (.next, rest)
  | chars =>
    match Text.natOfDigits? 10 (chars.takeWhile Char.isDigit) with
    | some size => (.fixed size, chars.dropWhile Char.isDigit)
    | none => (.unsaid, chars)

/-- The precision at the start of a text, and what follows it; a point alone asks for none. -/
private def splitPrecision : List Char → Size × List Char
  | '.' :: rest =>
    match splitSize rest with
    | (.unsaid, after) => (.fixed 0, after)
    | found => found
  | chars => (.unsaid, chars)

/-- A text without the letter for long or short numbers at its start. -/
private def skipLength : List Char → List Char
  | c :: rest => if ['h', 'l', 'L'].contains c then rest else c :: rest
  | [] => []

/-- The place after a percent sign and a key, and what follows it, in a template of some length. -/
private def readPlace (total : Nat) (key : Option String) (chars : List Char) :
    Directive × List Char :=
  let (width, afterWidth) := splitSize (chars.dropWhile isFlag)
  let (precision, afterPrecision) := splitPrecision afterWidth
  let rest := skipLength afterPrecision
  (⟨key, flagsOf (chars.takeWhile isFlag), width, precision, rest.head?, total - rest.length⟩,
    rest.drop 1)

/-- At most so many pieces of a text that ends a template of some length. Two percent signs stand
for one. -/
private def readPieces (total : Nat) : Nat → List Char → List Piece
  | 0, _ => []
  | _, [] => []
  | most + 1, '%' :: '%' :: rest => .character '%' :: readPieces total most rest
  | most + 1, '%' :: '(' :: rest =>
    match splitKey? 0 rest with
    | none => [.openKey]
    | some (key, after) =>
      let (directive, after) := readPlace total (some (String.ofList key)) after
      .place directive :: readPieces total most after
  | most + 1, '%' :: rest =>
    let (directive, after) := readPlace total none rest
    .place directive :: readPieces total most after
  | most + 1, c :: rest => .character c :: readPieces total most rest

/-- The pieces of a template. -/
def pieces (template : String) : List Piece :=
  let chars := template.toList
  readPieces chars.length chars.length chars

end CertGraph.Template
