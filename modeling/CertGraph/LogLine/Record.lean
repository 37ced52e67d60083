import CertGraph.Template.Fill
import CertGraph.Time.Instant

/- Records of what happened, before they become lines: attributes, and what follows from them. -/
set_option autoImplicit false
set_option relaxedAutoImplicit false

namespace CertGraph.LogLine

open CertGraph.Decimal (Fraction)
open CertGraph.Time (Instant)

/-- The name of the logger. -/
def loggerName : String := "cluster_pki"

/-- The attributes that every record has; no extra attribute is shown under one of these names. -/
def standardAttributes : List String :=
  ["args", "asctime", "created", "exc_info", "exc_text", "filename", "funcName", "levelname",
   "levelno", "lineno", "module", "msecs", "message", "msg", "name", "pathname", "process",
   "processName", "relativeCreated", "stack_info", "thread", "threadName"]

/-- Members of an object, in order. -/
abbrev Members := List (String × Json)

/-- The value of a key, the last one if there are several. -/
def valueOf? (members : Members) (key : String) : Option Json :=
  (Json.object members).member? key

/-- What is to be logged: a message that is a template, or an object to show as it is, and values
for the template; the time is in seconds after the start of 1970. An extra attribute under the
name of another one stands for it. -/
structure Record where
  message : Json
  values : Template.Values
  level : Int
  function : Json
  line : Json
  created : Json
  exceptionText : Json
  extra : Members

/-- Why there is no line for a record. -/
inductive Fault where
  | invalidFormat (format : String)
  | values (fault : Template.Fault)
  | exception (value : Json)
  | timeNotANumber (kind : String)
  | timeTooLarge
  | yearOutside (year : Int)

/-- The third of the three parts of an exception, its trace; or why there is none. -/
private def missingTrace : Json → Template.Concern × String
  | .text text =>
    if text.length < 3 then (.index, "string index out of range")
    else (.member, "'str' object has no attribute 'tb_frame'")
  | .array parts =>
    match parts[2]? with
    | none => (.index, "list index out of range")
    | some part => (.member, "'" ++ part.kind ++ "' object has no attribute 'tb_frame'")
  | .object _ => (.key, "2")
  | other => (.kind, "'" ++ other.kind ++ "' object is not subscriptable")

namespace Fault

/-- The wording of a fault. -/
def message : Fault → String
  | .invalidFormat format => "Invalid format '" ++ format ++ "' for '%' style"
  | .values fault => fault.message
  | .exception value => (missingTrace value).2
  | .timeNotANumber kind => "'" ++ kind ++ "' object cannot be interpreted as an integer"
  | .timeTooLarge => "timestamp out of range for platform time_t"
  | .yearOutside year => "year " ++ toString year ++ " is out of range"

/-- What a fault is about. -/
def concern : Fault → Template.Concern
  | .invalidFormat _ => .value
  | .values fault => fault.concern
  | .exception value => (missingTrace value).1
  | .timeNotANumber _ => .kind
  | .timeTooLarge => .amount
  | .yearOutside _ => .value

end Fault

/-! ### The time -/

/-- The microseconds of a number of seconds, whose fraction is multiplied in double precision. -/
def microsOf (seconds : Fraction) : Nat :=
  let part : Fraction := ⟨seconds.num % seconds.den * 1000000, seconds.den⟩
  seconds.num / seconds.den * 1000000 + ((part.nearest?).getD part).rounded

/-- The largest count of seconds that a clock can show. -/
def maxSeconds : Nat := 9223372036854775807

/-- The instant that a value stands for as seconds after the start of 1970. -/
def instantOf (seconds : Json) : Except Fault Instant :=
  match seconds.real? with
  | none => .error (.timeNotANumber seconds.kind)
  | some (isNegative, exact) =>
    let near := if seconds.whole?.isSome then exact else (exact.nearest?).getD exact
    let micros : Int := microsOf near
    if near.reaches maxSeconds then .error .timeTooLarge
    else (Instant.ofEpochMicros? (if isNegative then -micros else micros)).mapError .yearOutside

/-! ### Attributes -/

namespace Record

/-- An extra attribute, or the value that stands there without it. -/
def extraOr (record : Record) (name : String) (own : Json) : Json :=
  (valueOf? record.extra name).getD own

/-- The message as it is logged. -/
def loggedMessage (record : Record) : Json :=
  record.extraOr "msg" record.message

/-- The values for the message. -/
def loggedValues (record : Record) : Template.Values :=
  match valueOf? record.extra "args" with
  | some value => .single value
  | none => record.values

/-- The text of the message: the template with the values in their places, or the template as it is
if there are none. An object is no text. -/
def messageText (record : Record) : Except Fault String :=
  match record.loggedMessage with
  | .object _ => .ok ""
  | message =>
    let template := String.ofList message.shownChars
    if record.loggedValues.isEmpty then .ok template
    else (Template.fill template record.loggedValues).mapError .values

/-- The text of an exception that was noted with the record. -/
def notedException (record : Record) : Json :=
  record.extraOr "exc_text" record.exceptionText

/-- Refuse an exception that is not given as its parts. -/
def checkException (record : Record) : Except Fault Unit :=
  let value := record.extraOr "exc_info" .null
  if value.isSomething then .error (.exception value) else .ok ()

/-- When the record was made. -/
def instant (record : Record) : Except Fault Instant :=
  instantOf (record.extraOr "created" record.created)

end Record

end CertGraph.LogLine
