import CertGraph.Text.CodePoints
import CertGraph.Text.Digits

/- A text as it stands inside a message: in quotes, on one line, with escapes. -/
set_option autoImplicit false
set_option relaxedAutoImplicit false

namespace CertGraph.Text

/-- A backslash, a letter and as many hexadecimal digits as the letter calls for. -/
def codeEscape (c : Char) : List Char :=
  let code := c.toNat
  if code ≤ 0xff then '\\' :: 'x' :: paddedDigits 16 2 code
  else if code ≤ 0xffff then '\\' :: 'u' :: paddedDigits 16 4 code
  else '\\' :: 'U' :: paddedDigits 16 8 code

/-- One character between quotes of the given kind. -/
def quotedChar (quote c : Char) : List Char :=
  if c = quote ∨ c = '\\' then ['\\', c]
  else if c = '\n' then ['\\', 'n']
  else if c = '\r' then ['\\', 'r']
  else if c = '\t' then ['\\', 't']
  else if isShown c then [c]
  else codeEscape c

/-- Single quotes, or double ones around a text that holds a single but no double quote. -/
def quoteFor (text : List Char) : Char :=
  if '\'' ∈ text ∧ '"' ∉ text then '"' else '\''

/-- The text in quotes, hidden characters written as escapes. -/
def quoted (text : String) : String :=
  let chars := text.toList
  let quote := quoteFor chars
  String.ofList (quote :: chars.flatMap (quotedChar quote) ++ [quote])

end CertGraph.Text
