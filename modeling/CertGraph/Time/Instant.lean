import CertGraph.Time.Duration

/- Instants of the Gregorian calendar, counted in microseconds from the start of year one. -/
set_option autoImplicit false
set_option relaxedAutoImplicit false

namespace CertGraph.Time

open CertGraph.Text (padded)

/-- A date; months and days count from one. -/
structure Date where
  year : Nat
  month : Nat
  day : Nat
deriving DecidableEq

namespace Date

/-- Days before a year, the first of which has number one. -/
def daysBeforeYear (year : Nat) : Nat :=
  let passed := year - 1
  365 * passed + passed / 4 - passed / 100 + passed / 400

/-- Whether a year has a 29 February. -/
def isLeap (year : Nat) : Bool :=
  year % 4 = 0 && (year % 100 != 0 || year % 400 = 0)

/-- The lengths of the months of a year. -/
def monthLengths (year : Nat) : List Nat :=
  [31, if isLeap year then 29 else 28, 31, 30, 31, 30, 31, 31, 30, 31, 30, 31]

/-- The year of a day, the days counted from zero. -/
def yearOf (day : Nat) : Nat :=
  let guess := day * 400 / 146097 + 1
  if day < daysBeforeYear guess then guess - 1
  else if daysBeforeYear (guess + 1) ≤ day then guess + 1
  else guess

/-- How many of the months have passed on a day, and the day within the next. -/
def passMonths : List Nat → Nat → Nat × Nat
  | [], day => (0, day)
  | length :: others, day =>
    if day < length then (0, day)
    else
      let (passed, rest) := passMonths others (day - length)
      (passed + 1, rest)

/-- The date of a day, the days counted from zero. -/
def ofDay (day : Nat) : Date :=
  let year := yearOf day
  let (passed, rest) := passMonths (monthLengths year) (day - daysBeforeYear year)
  ⟨year, passed + 1, rest + 1⟩

/-- The day of a date, the days counted from zero. -/
def toDay (date : Date) : Nat :=
  let passed := (monthLengths date.year).take (date.month - 1)
  passed.foldl (· + ·) (daysBeforeYear date.year) + (date.day - 1)

/-- Whether a date is one of the calendar. -/
def isValid (date : Date) : Bool :=
  1 ≤ date.year && date.year ≤ 9999 && 1 ≤ date.month && date.month ≤ 12 && 1 ≤ date.day &&
    date.day ≤ (monthLengths date.year).getD (date.month - 1) 0

end Date

/-- Microseconds since the start of year one. -/
structure Instant where
  micros : Nat
deriving DecidableEq

namespace Instant

open Duration (microsPerSecond secondsPerDay)

/-- The number of days in the years one to 9999. -/
def calendarDays : Nat := 3652059

/-- The end of year 9999, which no instant may reach. -/
def limit : Nat := calendarDays * secondsPerDay * microsPerSecond

/-- Whole seconds since the start of year one. -/
def seconds (instant : Instant) : Nat :=
  instant.micros / microsPerSecond

/-- The instant of a count of whole seconds. -/
def ofSeconds (seconds : Nat) : Instant :=
  ⟨seconds * microsPerSecond⟩

/-- The start of the second that an instant lies in. -/
def truncated (instant : Instant) : Instant :=
  ofSeconds instant.seconds

/-- The date of an instant. -/
def date (instant : Instant) : Date :=
  Date.ofDay (instant.seconds / secondsPerDay)

/-- Seconds since midnight. -/
def secondOfDay (instant : Instant) : Nat :=
  instant.seconds % secondsPerDay

/-- The instant of a date, a second of the day and a microsecond of that second. -/
def ofDate (date : Date) (second : Nat) (micros : Nat) : Instant :=
  ⟨(date.toDay * secondsPerDay + second) * microsPerSecond + micros⟩

/-- The instant later by a duration, if it lies within the calendar. -/
def add? (instant : Instant) (duration : Duration) : Option Instant :=
  let micros := (instant.micros : Int) + duration.micros
  if 0 ≤ micros ∧ micros < limit then some ⟨micros.toNat⟩ else none

/-- Seconds from the start of year one to the start of 1970. -/
def epochSeconds : Nat := 719162 * secondsPerDay

/-- The instant so many microseconds after the start of 1970. -/
def ofEpochMicros (micros : Int) : Instant :=
  ⟨((epochSeconds * microsPerSecond : Nat) + micros).toNat⟩

/-- The year of a count of microseconds from the start of year one, before that start as well: the
calendar repeats itself every 400 years. -/
def yearOfMicros (micros : Int) : Int :=
  let day := micros.fdiv (secondsPerDay * microsPerSecond : Nat)
  400 * day.fdiv 146097 + Date.yearOf (day.fmod 146097).toNat

/-- The instant so many microseconds after the start of 1970, or its year if that is outside the
years one to 9999. -/
def ofEpochMicros? (micros : Int) : Except Int Instant :=
  let sinceYearOne := (epochSeconds * microsPerSecond : Nat) + micros
  if 0 ≤ sinceYearOne ∧ sinceYearOne < limit then .ok ⟨sinceYearOne.toNat⟩
  else .error (yearOfMicros sinceYearOne)

/-- Hours, minutes and seconds on two places each, with a separator between them. -/
def clockText (separator : String) (second : Nat) : String :=
  padded 2 (second / 3600) ++ separator ++ padded 2 (second / 60 % 60) ++ separator ++
    padded 2 (second % 60)

/-- Date and time with an explicit zero offset; microseconds only if there are any. -/
def isoText (instant : Instant) : String :=
  let date := instant.date
  let fraction := instant.micros % microsPerSecond
  padded 4 date.year ++ "-" ++ padded 2 date.month ++ "-" ++ padded 2 date.day ++ "T" ++
    clockText ":" instant.secondOfDay ++
    (if fraction = 0 then "" else "." ++ padded 6 fraction) ++ "+00:00"

/-- Month, day and time without separators. -/
def compactTail (instant : Instant) : String :=
  let date := instant.date
  padded 2 date.month ++ padded 2 date.day ++ clockText "" instant.secondOfDay ++ "Z"

/-- The form with two places for the year, for the years 1950 to 2049. -/
def shortText (instant : Instant) : String :=
  padded 2 (instant.date.year % 100) ++ compactTail instant

/-- The form with four places for the year. -/
def longText (instant : Instant) : String :=
  padded 4 instant.date.year ++ compactTail instant

end Instant

end CertGraph.Time
