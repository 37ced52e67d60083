import CertGraph.Text.Digits

/- Lengths of time in whole microseconds, of either sign. -/
set_option autoImplicit false
set_option relaxedAutoImplicit false

namespace CertGraph.Time

open CertGraph.Text (padded)

/-- A length of time. -/
structure Duration where
  micros : Int
deriving DecidableEq

namespace Duration

/-- Microseconds in a second. -/
def microsPerSecond : Nat := 1000000

/-- Seconds in a day. -/
def secondsPerDay : Nat := 86400

/-- Days, seconds and microseconds add up. -/
def ofParts (days seconds micros : Int) : Duration :=
  ⟨(days * secondsPerDay + seconds) * microsPerSecond + micros⟩

/-- A length of whole days. -/
def ofDays (days : Int) : Duration :=
  ofParts days 0 0

/-- Whole days, rounded down. -/
def days (duration : Duration) : Int :=
  duration.micros / microsPerSecond / secondsPerDay

/-- Whole seconds past the whole days. -/
def seconds (duration : Duration) : Nat :=
  (duration.micros / microsPerSecond % secondsPerDay).toNat

/-- Microseconds past the whole seconds. -/
def microseconds (duration : Duration) : Nat :=
  (duration.micros % microsPerSecond).toNat

/-- The largest number of days of either sign. -/
def maxDays : Nat := 999999999

/-- Parts that add up to a duration within the limit, or the days that exceed it. -/
def ofParts? (days seconds micros : Int) : Except Int Duration :=
  let total := ofParts days seconds micros
  if total.days.natAbs ≤ maxDays then .ok total else .error total.days

/-- Days if there are any, then hours, minutes and seconds, then microseconds if there are any. -/
def text (duration : Duration) : String :=
  let dayText :=
    if duration.days = 0 then ""
    else toString duration.days ++ (if duration.days.natAbs = 1 then " day, " else " days, ")
  let clock := toString (duration.seconds / 3600) ++ ":" ++
    padded 2 (duration.seconds / 60 % 60) ++ ":" ++ padded 2 (duration.seconds % 60)
  let fraction :=
    if duration.microseconds = 0 then "" else "." ++ padded 6 duration.microseconds
  dayText ++ clock ++ fraction

end Duration

end CertGraph.Time
