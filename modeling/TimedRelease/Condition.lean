import TimedRelease.Text.Numeral

/-!
# Release conditions

A signed transaction is released to the network once a point in time has passed
or once a block height has been reached.  A point in time is shown as a date.
-/

namespace TimedRelease

/-!
## Calendar time

A unix time as a date and a time of day in the proleptic Gregorian calendar.
Years are counted from the first of March, so that the day of a leap year comes
last; four hundred such years have a fixed number of days.
-/

namespace Calendar

/-- A date. -/
structure Date where
  year : Nat
  month : Nat
  day : Nat
  deriving DecidableEq, Repr

/-- The days from the first of March of the year zero to the first of January 1970. -/
def epochDay : Nat := 719468

/-- The days of four hundred years. -/
def daysOfEra : Nat := 146097

/-- The days of a hundred years that do not end an era. -/
def daysOfCentury : Nat := 36524

/-- The days of four years with one leap day. -/
def daysOfFour : Nat := 1461

/-- A year counted from March, and the days passed in it. -/
def marchYear (day : Nat) : Nat × Nat :=
  let era := day / daysOfEra
  let inEra := day % daysOfEra
  let century := min (inEra / daysOfCentury) 3
  let inCentury := inEra - century * daysOfCentury
  let four := inCentury / daysOfFour
  let inFour := inCentury % daysOfFour
  let year := min (inFour / 365) 3
  (era * 400 + century * 100 + four * 4 + year, inFour - year * 365)

/-- A month counted from March, and the days passed in it. -/
def marchMonth (dayOfYear : Nat) : Nat × Nat :=
  let month := (5 * dayOfYear + 2) / 153
  (month, dayOfYear - (153 * month + 2) / 5)

/-- The date of a day counted from the first of January 1970. -/
def dateOfDay (day : Nat) : Date :=
  let (year, dayOfYear) := marchYear (day + epochDay)
  let (month, dayOfMonth) := marchMonth dayOfYear
  if month < 10 then ⟨year, month + 3, dayOfMonth + 1⟩
  else ⟨year + 1, month - 9, dayOfMonth + 1⟩

/-- The names of the days of the week, from Sunday. -/
def weekdays : List String :=
  ["Sun", "Mon", "Tue", "Wed", "Thu", "Fri", "Sat"]

/-- The names of the months. -/
def months : List String :=
  ["Jan", "Feb", "Mar", "Apr", "May", "Jun", "Jul", "Aug", "Sep", "Oct", "Nov", "Dec"]

/-- The name of the day of the week of a day counted from the first of January 1970. -/
def weekday (day : Nat) : String :=
  weekdays.getD ((day + 4) % 7) ""

/-- A year: four digits, and a plus sign before more of them. -/
def yearText (year : Nat) : String :=
  let digits := Text.decimal year
  let filled := List.replicate (4 - digits.length) '0' ++ digits
  String.ofList (if year < 10000 then filled else '+' :: filled)

/-- Two digits. -/
def twoDigits (n : Nat) : String :=
  String.ofList [Nat.digitChar (n / 10), Nat.digitChar (n % 10)]

/-- An hour of the day on a clock of twelve hours. -/
def twelveHour (hour : Nat) : Nat :=
  if hour % 12 = 0 then 12 else hour % 12

/-- The half of the day an hour lies in. -/
def halfDay (hour : Nat) : String :=
  if hour < 12 then "AM" else "PM"

/-- The last second that has a date. -/
def lastSecond : Nat := 8210266876799

/-- An instant as weekday, date and time of day, to the minute. -/
def instantText (seconds : Nat) : String :=
  let day := seconds / 86400
  let minute := seconds % 86400 / 60
  let date := dateOfDay day
  weekday day ++ ", " ++ months.getD (date.month - 1) "" ++ " " ++ Text.decimalText date.day ++
    ", " ++ yearText date.year ++ " " ++ Text.decimalText (twelveHour (minute / 60)) ++ ":" ++
    twoDigits (minute % 60) ++ " " ++ halfDay (minute / 60) ++ " UTC"

/-- A unix time for display; beyond the calendar it is shown as its number. -/
def timeText (seconds : UInt64) : String :=
  if seconds.toNat ≤ lastSecond then instantText seconds.toNat
  else "unix time " ++ Text.decimalText seconds.toNat

end Calendar

/-! ## Conditions -/

/-- When a transaction is released: at a unix time in seconds, or at a block. -/
inductive Condition where
  | time (seconds : UInt64)
  | block (number : UInt64)
  deriving DecidableEq, Repr, Inhabited

namespace Condition

/-- A block number for display. -/
def blockText (number : UInt64) : String :=
  "#" ++ Text.groupedText number.toNat

/-- The condition in words. -/
def display : Condition → String
  | .time seconds => "at unix time " ++ Text.decimalText seconds.toNat
  | .block number => "at block " ++ blockText number

/-- The condition in words, a time as a date. -/
def describe : Condition → String
  | .time seconds => Calendar.timeText seconds
  | .block number => display (.block number)

end Condition

end TimedRelease
