import CertGraph.Armor.Pem
import CertGraph.Text.Blank

/- Armored blocks as they are found in a text. -/
set_option autoImplicit false
set_option relaxedAutoImplicit false

namespace CertGraph.Armor

/-- A block: its label, the fields above its digits, and the octets that the digits stand for. -/
structure Block where
  label : Octets
  headers : List (String × String)
  contents : Octets

/-- The last header of a name. -/
def Block.header? (block : Block) (name : String) : Option String :=
  (block.headers.reverse.find? fun header => header.1 = name).map Prod.snd

/-- What stands up to the end of a mark, and what follows. The octets of the mark are awaited one
after the other; an octet that is not the awaited one starts the search anew behind it. -/
def seek (mark : Octets) : Octets → Octets → Option (Octets × Octets)
  | [], rest => some ([], rest)
  | _ :: _, [] => none
  | awaited :: left, octet :: rest => do
    let (before, after) ← seek mark (if octet = awaited then left else mark) rest
    some (octet :: before, after)

/-- What stands before a mark and after it, where the search finds it. -/
def splitAt? (mark text : Octets) : Option (Octets × Octets) := do
  let (before, after) ← seek mark mark text
  some (before.take (before.length - mark.length), after)

/-- The end of a line with a carriage return. -/
def longNewline : Octets := [13, newline]

/-- Text without the spaces, tabs and line ends at its start. -/
def skipSpace (text : Octets) : Octets :=
  text.dropWhile fun octet => octet = 32 || octet = 9 || octet = 10 || octet = 13

/-- Headers and digits of a body, with an empty line between them; without one there are no
headers. -/
def splitBody (body : Octets) : Octets × Octets :=
  (splitAt? [newline, newline] body <|> splitAt? (longNewline ++ longNewline) body).getD ([], body)

/-- The lines of a text; a carriage return before the end of a line belongs to the end. -/
def textLines (text : Octets) : List Octets :=
  let lines := text.splitOn newline
  let lines := if lines.getLast? = some [] then lines.dropLast else lines
  lines.map fun line => if line.getLast? = some 13 then line.dropLast else line

/-- The name and the value of a header, with a colon between them. -/
def headerOf? (line : Octets) : Option (String × String) := do
  let chars := (← Octets.toText? line).toList
  let name := chars.takeWhile (· ≠ ':')
  if name = chars then none
  else
    let trim := fun (part : List Char) => String.ofList (Text.trimmed part)
    some (trim name, trim (chars.drop (name.length + 1)))

/-- Every blank in octets. -/
def blankForms : List Octets :=
  Text.blankCodes.map fun code => Octets.ofText (String.singleton (Char.ofNat code))

/-- Text without blanks, after so many octets of a blank. -/
def dropBlanks : Nat → Octets → Octets
  | _, [] => []
  | skipped + 1, _ :: rest => dropBlanks skipped rest
  | 0, octet :: rest =>
    match blankForms.find? fun form => form.isPrefixOf (octet :: rest) with
    | some form => dropBlanks (form.length - 1) rest
    | none => octet :: dropBlanks 0 rest

/-- The block of an opening label, a body and a closing label, if they are well formed. -/
def blockOf? (label body closing : Octets) : Option Block := do
  let (headers, digits) := splitBody body
  if label = closing ∧ label ≠ [] then
    let contents ← Base64.decode? (dropBlanks 0 digits)
    some ⟨label, ← (textLines headers).mapM headerOf?, contents⟩
  else none

/-- The first block and what follows it; `none` without a block, `some none` if it is malformed. -/
def nextBlock? (text : Octets) : Option (Option Block × Octets) := do
  let (_, rest) ← splitAt? beginMark text
  let (label, rest) ← splitAt? dashes rest
  let (body, rest) ← splitAt? endMark (skipSpace rest)
  let (closing, rest) ← splitAt? dashes rest
  some (blockOf? label body closing, skipSpace rest)

/-- At most so many blocks of a text; none at all if one of them is malformed. -/
def readBlocks? : Nat → Octets → Option (List Block)
  | 0, _ => some []
  | count + 1, text =>
    match nextBlock? text with
    | none => some []
    | some (block, rest) => do some ((← block) :: (← readBlocks? count rest))

/-- The first block with one of the labels, in a text without malformed blocks. -/
def findBlock? (labels : List Octets) (text : Octets) : Option Block := do
  (← readBlocks? text.length text).find? fun block => labels.contains block.label

end CertGraph.Armor
