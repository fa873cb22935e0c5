import TimedRelease.Text.Numeral

/-!
# Dates and times in TOML

A date, a time of day, or both, in which case an offset may follow.  The parts
are checked against the calendar, and are written back in one form: a capital `T`
between date and time, and no zeros at the end of a fraction.
-/

namespace TimedRelease.Toml

/-- A date. -/
structure Date where
  year : Nat
  month : Nat
  day : Nat
  deriving DecidableEq, Repr

/-- A time of day. -/
structure Time where
  hour : Nat
  minute : Nat
  second : Nat
  nanosecond : Nat
  deriving DecidableEq, Repr

/-- The distance of local time from universal time. -/
inductive Offset where
  | utc
  | distance (negative : Bool) (hours minutes : Nat)
  deriving DecidableEq, Repr

/-- A date, a time, or both. -/
structure Datetime where
  date : Option Date
  time : Option Time
  offset : Option Offset
  deriving DecidableEq, Repr

namespace Datetime

/-- Reads a number of exactly so many digits. -/
def readNumber? (count : Nat) (text : List Char) : Option (Nat × List Char) :=
  let digits := text.take count
  if digits.length = count ∧ digits.all Text.isDecimalDigit then
    some (Text.valueOf 10 digits, text.drop count)
  else none

/-- Reads one given character. -/
def readMark? (mark : Char) : List Char → Option (List Char)
  | c :: rest => if c = mark then some rest else none
  | [] => none

/-- The year has a leap day. -/
def isLeapYear (year : Nat) : Bool :=
  year % 4 == 0 && (year % 100 != 0 || year % 400 == 0)

/-- The days of a month. -/
def daysOf (year month : Nat) : Nat :=
  if month = 2 then (if isLeapYear year then 29 else 28)
  else if month = 4 ∨ month = 6 ∨ month = 9 ∨ month = 11 then 30
  else 31

/-- The date is in the calendar. -/
def isDate (date : Date) : Bool :=
  1 ≤ date.month && date.month ≤ 12 && 1 ≤ date.day && date.day ≤ daysOf date.year date.month

/-- The time is on the clock; a minute may have a leap second. -/
def isTime (time : Time) : Bool :=
  time.hour ≤ 23 && time.minute ≤ 59 && time.second ≤ 60

/-- Reads a date. -/
def readDate? (text : List Char) : Option (Date × List Char) := do
  let (year, text) ← readNumber? 4 text
  let text ← readMark? '-' text
  let (month, text) ← readNumber? 2 text
  let text ← readMark? '-' text
  let (day, text) ← readNumber? 2 text
  if isDate ⟨year, month, day⟩ then some (⟨year, month, day⟩, text) else none

/-- The digits of a fraction that are kept. -/
def fractionDigits : Nat := 9

/-- The nanoseconds of the digits of a fraction; further digits are cut off. -/
def nanoseconds (digits : List Char) : Nat :=
  let kept := digits.take fractionDigits
  Text.valueOf 10 kept * Nat.pow 10 (fractionDigits - kept.length)

/-- Reads the fraction of a second, if there is one. -/
def readFraction? : List Char → Option (Nat × List Char)
  | '.' :: rest =>
    let digits := rest.takeWhile Text.isDecimalDigit
    if digits.isEmpty then none
    else some (nanoseconds digits, rest.dropWhile Text.isDecimalDigit)
  | text => some (0, text)

/-- Reads a time of day. -/
def readTime? (text : List Char) : Option (Time × List Char) := do
  let (hour, text) ← readNumber? 2 text
  let text ← readMark? ':' text
  let (minute, text) ← readNumber? 2 text
  let text ← readMark? ':' text
  let (second, text) ← readNumber? 2 text
  let (nanosecond, text) ← readFraction? text
  let time : Time := ⟨hour, minute, second, nanosecond⟩
  if isTime time then some (time, text) else none

/-- Reads the hours and minutes of an offset. -/
def readDistance? (negative : Bool) (text : List Char) : Option (Offset × List Char) := do
  let (hours, text) ← readNumber? 2 text
  let text ← readMark? ':' text
  let (minutes, text) ← readNumber? 2 text
  if hours ≤ 23 ∧ minutes ≤ 59 then some (.distance negative hours minutes, text) else none

/-- Reads an offset, if there is one. -/
def readOffset? : List Char → Option (Option Offset × List Char)
  | c :: rest =>
    if c = 'Z' ∨ c = 'z' then some (some .utc, rest)
    else if c = '+' ∨ c = '-' then
      (readDistance? (c = '-') rest).map fun (offset, rest) => (some offset, rest)
    else some (none, c :: rest)
  | [] => some (none, [])

/-- A mark between a date and a time. -/
def isDivider (c : Char) : Bool :=
  c = 'T' || c = 't' || c = ' '

/-- Reads the time and offset that may follow a date. -/
def readAfterDate? (date : Date) : List Char → Option Datetime
  | [] => some ⟨some date, none, none⟩
  | c :: rest =>
    if isDivider c then
      match readTime? rest with
      | none => none
      | some (time, rest) =>
        match readOffset? rest with
        | some (offset, []) => some ⟨some date, some time, offset⟩
        | _ => none
    else none

/-- Reads a whole text as a date, a time or both. -/
def ofText? (text : List Char) : Option Datetime :=
  match readDate? text with
  | some (date, rest) => readAfterDate? date rest
  | none =>
    match readTime? text with
    | some (time, []) => some ⟨none, some time, none⟩
    | _ => none

/-- A number in so many digits. -/
def padded (count n : Nat) : List Char :=
  let digits := Text.decimal n
  List.replicate (count - digits.length) '0' ++ digits

/-- A date as text. -/
def dateText (date : Date) : List Char :=
  padded 4 date.year ++ '-' :: (padded 2 date.month ++ '-' :: padded 2 date.day)

/-- The fraction of a second as text, without zeros at its end. -/
def fractionText (nanosecond : Nat) : List Char :=
  if nanosecond = 0 then []
  else '.' :: ((padded fractionDigits nanosecond).reverse.dropWhile (· = '0')).reverse

/-- A time as text. -/
def timeText (time : Time) : List Char :=
  padded 2 time.hour ++ ':' :: (padded 2 time.minute ++ ':' :: (padded 2 time.second ++
    fractionText time.nanosecond))

/-- An offset as text; no distance has a plus sign. -/
def offsetText : Offset → List Char
  | .utc => ['Z']
  | .distance negative hours minutes =>
    (if negative ∧ (hours, minutes) ≠ (0, 0) then '-' else '+') ::
      (padded 2 hours ++ ':' :: padded 2 minutes)

/-- The one form of a date, a time or both. -/
def text (value : Datetime) : String :=
  let date := value.date.elim [] dateText
  let time := value.time.elim [] timeText
  let divider := if value.date.isSome ∧ value.time.isSome then ['T'] else []
  String.ofList (date ++ divider ++ time ++ value.offset.elim [] offsetText)

end Datetime

end TimedRelease.Toml
