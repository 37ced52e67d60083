import CertGraph.Journal
import CertGraph.LogLine.Format
import CertGraph.LogLine.Record

/- Log lines: one object each, restricted to the fields that may leave the program. -/
set_option autoImplicit false
set_option relaxedAutoImplicit false

namespace CertGraph.LogLine

/-- The fields that a line may have. -/
def allowedFields : List String :=
  ["timestamp", "level", "message", "exc_info", "funcName", "lineno", "asset"]

/-! ### Objects -/

/-- Set a member; one that is there keeps its place. -/
def put (members : Members) (key : String) (value : Json) : Members :=
  if (members.map Prod.fst).contains key then
    members.map fun entry => if entry.1 = key then (key, value) else entry
  else members ++ [(key, value)]

/-- Set several members in order. -/
def putAll (members : Members) (more : Members) : Members :=
  more.foldl (fun members entry => put members entry.1 entry.2) members

/-- The name of a level. -/
def levelName (level : Int) : String :=
  match ([(0, "NOTSET"), (10, "DEBUG"), (20, "INFO"), (30, "WARNING"), (40, "ERROR"),
    (50, "CRITICAL")] : List (Int × String)).lookup level with
  | some name => name
  | none => "Level " ++ toString level

/-- An attribute of a record, null if the record lacks it. -/
def attributeOf (record : Record) (message : String) (name : String) : Json :=
  if name = "message" then .text message
  else record.extraOr name <|
    if name = "levelname" then .text (levelName record.level)
    else if name = "levelno" then .int record.level
    else if name = "funcName" then record.function
    else if name = "lineno" then record.line
    else if name = "name" then .text loggerName
    else .null

/-- The members of a message, with the text of an exception unless they have one of their own. -/
def messageMembers (record : Record) : Except Fault Members :=
  let own := match record.loggedMessage with
    | .object members => putAll [] members
    | _ => []
  if ((valueOf? own "exc_info").map Json.isSomething).getD false then .ok own
  else do
    record.checkException
    if record.notedException.isSomething then .ok (put own "exc_info" record.notedException)
    else .ok own

/-- Whether an extra attribute is shown: it is none of the format's or of every record's, and its
name does not start with an underscore. -/
def isExtra (fields : List String) (name : String) : Bool :=
  !fields.contains name && !standardAttributes.contains name && name.toList.head? ≠ some '_'

/-- Everything that a record has to show: the fields of the format, the members of the message,
extra attributes, and the time. -/
def allMembers (fields : List String) (record : Record) (message : String) :
    Except Fault Members := do
  let named := putAll [] (fields.map fun name => (name, attributeOf record message name))
  let withMessage := putAll named (← messageMembers record)
  let withExtra := putAll withMessage (record.extra.filter fun entry => isExtra fields entry.1)
  .ok (put withExtra "timestamp" (.text (← record.instant).isoText))

/-- The members with the level under its short name. -/
def renamed (members : Members) : Members :=
  match valueOf? members "levelname" with
  | some value => put (members.filter fun entry => entry.1 ≠ "levelname") "level" value
  | none => members

/-- The members that may leave the program. -/
def restricted (members : Members) : Members :=
  members.filter fun entry => allowedFields.contains entry.1

/-- The object of a record; the format has to be valid. -/
def membersOf (format : String) (record : Record) : Except Fault Members :=
  if isValidFormat format then do
    let message ← record.messageText
    .ok (restricted (renamed (← allMembers (formatFields format) record message)))
  else .error (.invalidFormat format)

/-- The line of a record. -/
def lineOf (format : String) (record : Record) : Except Fault String := do
  .ok (Json.object (← membersOf format record)).render

/-- A report as a record of some time in microseconds; no place in a text is known for it. -/
def Record.ofReport (report : Report) (created : Int) : Record where
  message := .text report.message
  values := .several []
  level := report.level.number
  function := .null
  line := .null
  created := .number created 6
  exceptionText := .null
  extra := (report.asset.map fun key => ("asset", Json.text key)).toList

/-- The line of a report. -/
def ofReport (report : Report) (created : Int) : Except Fault String :=
  lineOf defaultFormat (Record.ofReport report created)

end CertGraph.LogLine
