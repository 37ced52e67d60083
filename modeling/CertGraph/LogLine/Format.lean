import CertGraph.Text.CodePoints
import CertGraph.Text.Number

/- Formats of log lines: texts that name fields in order. -/
set_option autoImplicit false
set_option relaxedAutoImplicit false

namespace CertGraph.LogLine

open CertGraph.Text (isDecimal isWord)

/-- The fields that every line has, in order, under the names of a record's attributes. -/
def defaultFormat : String :=
  "%(timestamp)s %(levelname)s %(funcName)s %(lineno)d %(message)s"

mutual

/-- The names between `%(` and the next closing parenthesis, in order. -/
def fieldsOf : List Char → List String
  | '%' :: '(' :: rest => nameFrom [] rest
  | _ :: rest => fieldsOf rest
  | [] => []

/-- A name that has begun, and the names after it; a name has no line end and is not empty. -/
def nameFrom (begun : List Char) : List Char → List String
  | ')' :: rest =>
    if begun = [] then nameFrom [')'] rest
    else String.ofList begun.reverse :: fieldsOf rest
  | '\n' :: rest => fieldsOf rest
  | c :: rest => nameFrom (c :: begun) rest
  | [] => []

end

/-- The fields that a format names; an empty format names the message. -/
def formatFields (format : String) : List String :=
  if format = "" then ["message"] else fieldsOf format.toList

/-! ### Validity -/

/-- A text without the number or asterisk at its start, if it starts with one. -/
private def skipSize? : List Char → Option (List Char)
  | '*' :: rest => some rest
  | c :: rest => if isDecimal c then some (rest.dropWhile isDecimal) else none
  | [] => none

/-- A text without the size at its start. -/
private def skipSize (chars : List Char) : List Char :=
  (skipSize? chars).getD chars

/-- A text without the point and size at its start. -/
private def skipPrecision : List Char → List Char
  | '.' :: rest => (skipSize? rest).getD ('.' :: rest)
  | chars => chars

/-- Whether a text starts with the marks, sizes and letter of a field. -/
private def startsWithLetter (chars : List Char) : Bool :=
  let unmarked := chars.dropWhile fun c => ['#', '0', '+', ' ', '-'].contains c
  match skipPrecision (skipSize unmarked) with
  | c :: _ => "diouxefgcrsa%".toList.contains c.toLower
  | [] => false

/-- Whether a text after `%(` goes on with a word, a closing parenthesis and a letter. -/
private def startsWithField (chars : List Char) : Bool :=
  match chars.head?.any isWord, chars.dropWhile isWord with
  | true, ')' :: rest => startsWithLetter rest
  | _, _ => false

/-- Whether there is a field with a letter somewhere in a text. -/
private def hasField : List Char → Bool
  | '%' :: '(' :: rest => startsWithField rest || hasField rest
  | _ :: rest => hasField rest
  | [] => false

/-- Whether a format is valid: it is empty, or it has a field whose name is a word. -/
def isValidFormat (format : String) : Bool :=
  format = "" || hasField format.toList

end CertGraph.LogLine
