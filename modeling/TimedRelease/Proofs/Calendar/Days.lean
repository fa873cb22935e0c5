import Mathlib.Data.Nat.Cast.Order.Basic
import Mathlib.Logic.Function.Iterate
import Mathlib.Order.Monotone.Basic
import Mathlib.Tactic.IntervalCases
import Mathlib.Tactic.SplitIfs
import TimedRelease.Condition
import TimedRelease.Toml.Datetime

/-!
# Days of the calendar

Dates follow each other by the rules by which they are checked when they are read: a month has
its number of days, a year has twelve months, and the number of a year says whether it has a
leap day.  The date that is computed for a day is the one reached when the days are counted by
these rules, and no date is reached twice.
-/

namespace TimedRelease.Calendar

open Toml.Datetime (isLeapYear daysOf)

/-! ## Days in pieces -/

/-- A day is split into the number of the piece of time that it is in, and the days passed in
that piece; pieces follow each other from their starts. -/
structure Splits (start : Nat → Nat) (split : Nat → Nat × Nat) : Prop where
  rising : StrictMono start
  whole : ∀ day, start (split day).1 + (split day).2 = day
  inside : ∀ day, day < start ((split day).1 + 1)

namespace Splits

variable {start : Nat → Nat} {split : Nat → Nat × Nat}

theorem eq_of_inside (splits : Splits start split) {piece rest : Nat}
    (inside : start piece + rest < start (piece + 1)) :
    split (start piece + rest) = (piece, rest) := by
  have whole := splits.whole (start piece + rest)
  have bound := splits.inside (start piece + rest)
  have same : (split (start piece + rest)).1 = piece := by
    apply Nat.le_antisymm
    · apply Nat.lt_add_one_iff.mp
      apply splits.rising.lt_iff_lt.mp
      omega
    · apply Nat.lt_add_one_iff.mp
      apply splits.rising.lt_iff_lt.mp
      omega
  rw [same] at whole
  exact Prod.ext same (Nat.add_left_cancel whole)

end Splits

/-! ## Years from March -/

theorem isLeapYear_iff {year : Nat} :
    isLeapYear year = true ↔ year % 4 = 0 ∧ (year % 100 ≠ 0 ∨ year % 400 = 0) := by
  simp [isLeapYear]

/-- The days from the first of March of a year to the last of February. -/
def daysFromMarch (year : Nat) : Nat :=
  if isLeapYear (year + 1) then 366 else 365

/-- The days from the first of March of the year zero to that of a year. -/
def marchOf (year : Nat) : Nat :=
  365 * year + year / 4 - year / 100 + year / 400

theorem daysFromMarch_eq (year : Nat) : daysFromMarch year = 365 ∨ daysFromMarch year = 366 := by
  rw [daysFromMarch]
  split <;> simp

theorem marchOf_succ (year : Nat) : marchOf (year + 1) = marchOf year + daysFromMarch year := by
  have hundreds : year / 100 ≤ year / 4 := by omega
  simp only [marchOf, daysFromMarch, isLeapYear_iff, Nat.succ_div]
  split_ifs <;> omega

/-- A year by its place among four hundred, a hundred and four years. -/
structure Place where
  era : Nat
  century : Nat
  four : Nat
  single : Nat
  century_lt : century < 4
  four_lt : four < 25
  single_lt : single < 4

namespace Place

variable (place : Place)

/-- The number of the year. -/
def year : Nat :=
  place.era * 400 + place.century * 100 + place.four * 4 + place.single

theorem marchOf_year : marchOf place.year =
    place.era * daysOfEra + place.century * daysOfCentury + place.four * daysOfFour +
      place.single * 365 := by
  have centuryBound := place.century_lt
  have fourBound := place.four_lt
  have singleBound := place.single_lt
  have fours : place.year / 4 = 100 * place.era + 25 * place.century + place.four := by
    rw [year]
    omega
  have hundreds : place.year / 100 = 4 * place.era + place.century := by
    rw [year]
    omega
  have eras : place.year / 400 = place.era := by
    rw [year]
    omega
  rw [marchOf, fours, hundreds, eras, year, daysOfEra, daysOfCentury, daysOfFour]
  omega

theorem isLeapYear_year_succ : isLeapYear (place.year + 1) = true ↔
    place.single = 3 ∧ (place.four = 24 → place.century = 3) := by
  have centuryBound := place.century_lt
  have fourBound := place.four_lt
  have singleBound := place.single_lt
  rw [isLeapYear_iff, year]
  omega

end Place

/-- Of four pieces of one length the last takes what is left, which may be a day more. -/
theorem fourth_piece {length rest piece : Nat} (positive : 0 < length)
    (bound : rest ≤ 4 * length) (isPiece : piece = min (rest / length) 3) :
    piece < 4 ∧ piece * length ≤ rest ∧ rest - piece * length ≤ length ∧
      (rest - piece * length = length → piece = 3) := by
  rcases Nat.lt_or_eq_of_le bound with inside | rfl
  · have quotient : rest / length < 4 := Nat.div_lt_of_lt_mul (by omega)
    have isQuotient : piece = rest / length := by omega
    have whole := Nat.div_add_mod' rest length
    have remainder := Nat.mod_lt rest positive
    rw [isQuotient]
    omega
  · have quotient : 4 * length / length = 4 := Nat.mul_div_cancel 4 positive
    have isLast : piece = 3 := by omega
    rw [isLast]
    omega

/-- The year of a day has a place, and the days passed in it are fewer than it has. -/
theorem exists_place (day : Nat) : ∃ (place : Place) (rest : Nat),
    marchYear day = (place.year, rest) ∧ marchOf place.year + rest = day ∧
      rest < daysFromMarch place.year := by
  let inEra := day % daysOfEra
  let century := min (inEra / daysOfCentury) 3
  let inCentury := inEra - century * daysOfCentury
  let four := inCentury / daysOfFour
  let inFour := inCentury % daysOfFour
  let single := min (inFour / 365) 3
  have eras : day / daysOfEra * 146097 + inEra = day := Nat.div_add_mod' _ _
  have inEraBound : inEra < 146097 := Nat.mod_lt _ (by decide)
  obtain ⟨centuryBound, centuries, inCenturyBound, lastCentury⟩ :=
    fourth_piece (by decide : 0 < 36524) (by omega : inEra ≤ 4 * 36524)
      (rfl : century = min (inEra / 36524) 3)
  have inCenturyLeft : inCentury = inEra - century * 36524 := rfl
  have fours : four * 1461 + inFour = inCentury := Nat.div_add_mod' _ _
  have inFourBound : inFour < 1461 := Nat.mod_lt _ (by decide)
  have fourBound : four < 25 := by omega
  obtain ⟨singleBound, singles, restBound, lastSingle⟩ :=
    fourth_piece (by decide : 0 < 365) (by omega : inFour ≤ 4 * 365)
      (rfl : single = min (inFour / 365) 3)
  let place : Place :=
    ⟨day / daysOfEra, century, four, single, centuryBound, fourBound, singleBound⟩
  refine ⟨place, inFour - single * 365, rfl, ?_, ?_⟩
  · have start : marchOf place.year =
        day / daysOfEra * 146097 + century * 36524 + four * 1461 + single * 365 :=
      place.marchOf_year
    omega
  · -- A day more is left only in the last year of four, and in the last four years of a
    -- century only if the century is the last of its era: these are the leap years.
    have leap : isLeapYear (place.year + 1) = true ↔ single = 3 ∧ (four = 24 → century = 3) :=
      place.isLeapYear_year_succ
    simp only [daysFromMarch, leap]
    split <;> omega

theorem splits_marchYear : Splits marchOf marchYear where
  rising := by
    apply strictMono_nat_of_lt_succ
    intro year
    have days := daysFromMarch_eq year
    rw [marchOf_succ]
    omega
  whole := by
    intro day
    obtain ⟨place, rest, computed, whole, -⟩ := exists_place day
    rw [computed, whole]
  inside := by
    intro day
    obtain ⟨place, rest, computed, whole, inYear⟩ := exists_place day
    rw [computed, marchOf_succ]
    dsimp only
    omega

/-! ## Months from March -/

/-- The days from the first of March to the first of a month counted from March. -/
def monthOf (month : Nat) : Nat :=
  (153 * month + 2) / 5

theorem splits_marchMonth : Splits monthOf marchMonth where
  rising := by
    apply strictMono_nat_of_lt_succ
    intro month
    simp only [monthOf]
    omega
  whole := by
    intro dayOfYear
    simp only [marchMonth, monthOf]
    omega
  inside := by
    intro dayOfYear
    simp only [marchMonth, monthOf]
    omega

/-- The days of a month counted from March; the last of them ends with its year. -/
def daysOfMarchMonth (year month : Nat) : Nat :=
  if month < 11 then monthOf (month + 1) - monthOf month else daysFromMarch year - monthOf month

theorem daysOfMarchMonth_pos (year : Nat) {month : Nat} (twelve : month < 12) :
    0 < daysOfMarchMonth year month := by
  have days := daysFromMarch_eq year
  have february : monthOf 11 = 337 := rfl
  have follows := splits_marchMonth.rising (Nat.lt_add_one month)
  rw [daysOfMarchMonth]
  split
  case isTrue => omega
  case isFalse late =>
    have last : month = 11 := by omega
    subst last
    omega

/-! ## Day after day -/

namespace Date

/-- The first of January 1970. -/
def epoch : Date := ⟨1970, 1, 1⟩

/-- The date of the day after. -/
def tomorrow (date : Date) : Date :=
  if date.day < daysOf date.year date.month then ⟨date.year, date.month, date.day + 1⟩
  else if date.month < 12 then ⟨date.year, date.month + 1, 1⟩
  else ⟨date.year + 1, 1, 1⟩

/-- The date of a day in a year and a month counted from March. -/
def ofMarch (year month dayOfMonth : Nat) : Date :=
  if month < 10 then ⟨year, month + 3, dayOfMonth + 1⟩
  else ⟨year + 1, month - 9, dayOfMonth + 1⟩

theorem daysOf_ofMarch {year month : Nat} (twelve : month < 12) (dayOfMonth : Nat) :
    daysOf (ofMarch year month dayOfMonth).year (ofMarch year month dayOfMonth).month =
      daysOfMarchMonth year month := by
  rcases (by omega : month < 11 ∨ month = 11) with early | rfl
  · interval_cases month <;> rfl
  · change daysOf (year + 1) 2 = daysFromMarch year - 337
    rw [daysOf, if_pos rfl, daysFromMarch]
    split <;> rfl

@[simp] theorem day_ofMarch (year month dayOfMonth : Nat) :
    (ofMarch year month dayOfMonth).day = dayOfMonth + 1 := by
  rw [ofMarch]
  split <;> rfl

theorem tomorrow_ofMarch {year month : Nat} (twelve : month < 12) (dayOfMonth : Nat) :
    (ofMarch year month dayOfMonth).tomorrow =
      if dayOfMonth + 1 < daysOfMarchMonth year month then ofMarch year month (dayOfMonth + 1)
      else if month < 11 then ofMarch year (month + 1) 0
      else ofMarch (year + 1) 0 0 := by
  rw [tomorrow, daysOf_ofMarch twelve, day_ofMarch]
  split
  case isTrue inMonth =>
    rw [ofMarch, ofMarch]
    split <;> rfl
  case isFalse lastDay => interval_cases month <;> rfl

end Date

/-- A day counted from the first of January 1970 lies in a month counted from March, so many
days behind its first. -/
structure InMarch (day year month dayOfMonth : Nat) : Prop where
  twelve : month < 12
  short : dayOfMonth < daysOfMarchMonth year month
  whole : marchOf year + (monthOf month + dayOfMonth) = day + epochDay

namespace InMarch

variable {day year month dayOfMonth : Nat}

theorem inside (inMarch : InMarch day year month dayOfMonth) :
    monthOf month + dayOfMonth < daysFromMarch year ∧
      monthOf month + dayOfMonth < monthOf (month + 1) := by
  obtain ⟨twelve, short, -⟩ := inMarch
  have days := daysFromMarch_eq year
  have february : monthOf 11 = 337 := rfl
  have afterFebruary : monthOf (11 + 1) = 367 := rfl
  rw [daysOfMarchMonth] at short
  split at short
  case isTrue early =>
    have next := splits_marchMonth.rising.monotone (by omega : month + 1 ≤ 11)
    omega
  case isFalse late =>
    have last : month = 11 := by omega
    subst last
    omega

theorem dateOfDay_eq (inMarch : InMarch day year month dayOfMonth) :
    dateOfDay day = Date.ofMarch year month dayOfMonth := by
  obtain ⟨inYear, inMonth⟩ := inMarch.inside
  have foundYear : marchYear (day + epochDay) = (year, monthOf month + dayOfMonth) := by
    rw [← inMarch.whole]
    apply splits_marchYear.eq_of_inside
    rw [marchOf_succ]
    omega
  have foundMonth : marchMonth (monthOf month + dayOfMonth) = (month, dayOfMonth) :=
    splits_marchMonth.eq_of_inside inMonth
  simp only [dateOfDay, foundYear, foundMonth, Date.ofMarch]

/-- By cases of what ends with the day: nothing, a month, or February and with it the year that
began in March. -/
theorem next_day (inMarch : InMarch day year month dayOfMonth) :
    if dayOfMonth + 1 < daysOfMarchMonth year month then
      InMarch (day + 1) year month (dayOfMonth + 1)
    else if month < 11 then InMarch (day + 1) year (month + 1) 0
    else InMarch (day + 1) (year + 1) 0 0 := by
  obtain ⟨twelve, short, whole⟩ := inMarch
  have follows := splits_marchMonth.rising (Nat.lt_add_one month)
  have days := daysFromMarch_eq year
  have february : monthOf 11 = 337 := rfl
  have march : monthOf 0 = 0 := rfl
  split_ifs with sameMonth early
  · exact ⟨twelve, sameMonth, by omega⟩
  · rw [daysOfMarchMonth, if_pos early] at short sameMonth
    exact ⟨by omega, daysOfMarchMonth_pos year (by omega), by omega⟩
  · have last : month = 11 := by omega
    subst last
    rw [daysOfMarchMonth, if_neg early] at short sameMonth
    refine ⟨by omega, daysOfMarchMonth_pos (year + 1) (by omega), ?_⟩
    rw [marchOf_succ]
    omega

end InMarch

theorem exists_inMarch (day : Nat) :
    ∃ year month dayOfMonth, InMarch day year month dayOfMonth := by
  have yearWhole := splits_marchYear.whole (day + epochDay)
  have yearInside := splits_marchYear.inside (day + epochDay)
  generalize marchYear (day + epochDay) = inYear at yearWhole yearInside
  have monthWhole := splits_marchMonth.whole inYear.2
  have monthInside := splits_marchMonth.inside inYear.2
  generalize marchMonth inYear.2 = inMonth at monthWhole monthInside
  rw [marchOf_succ] at yearInside
  have days := daysFromMarch_eq inYear.1
  have afterFebruary : monthOf 12 = 367 := rfl
  have twelve : inMonth.1 < 12 := by
    apply splits_marchMonth.rising.lt_iff_lt.mp
    omega
  refine ⟨inYear.1, inMonth.1, inMonth.2, twelve, ?_, ?_⟩
  · rw [daysOfMarchMonth]
    split <;> omega
  · rw [monthWhole, yearWhole]

theorem dateOfDay_succ (day : Nat) : dateOfDay (day + 1) = (dateOfDay day).tomorrow := by
  obtain ⟨year, month, dayOfMonth, inMarch⟩ := exists_inMarch day
  have next := inMarch.next_day
  rw [inMarch.dateOfDay_eq, Date.tomorrow_ofMarch inMarch.twelve]
  split_ifs at next ⊢ <;> exact next.dateOfDay_eq

/-- The date of a day is found by counting the days. -/
theorem dateOfDay_eq_iterate (day : Nat) : dateOfDay day = Date.tomorrow^[day] Date.epoch := by
  induction day with
  | zero => rfl
  | succ day induction => rw [dateOfDay_succ, induction, Function.iterate_succ_apply']

/-- Of the last years of centuries, 2000 has a leap day and 2100 has none. -/
example : dateOfDay 11016 = ⟨2000, 2, 29⟩ ∧ dateOfDay 47541 = ⟨2100, 3, 1⟩ := by decide

/-! ## Dates in order -/

theorem one_le_daysOf (year month : Nat) : 1 ≤ daysOf year month := by
  rw [daysOf]
  split_ifs <;> decide

theorem daysOf_le (year month : Nat) : daysOf year month ≤ 31 := by
  rw [daysOf]
  split_ifs <;> decide

namespace Date

/-- The date is in the calendar. -/
structure IsProper (date : Date) : Prop where
  month_pos : 1 ≤ date.month
  month_le : date.month ≤ 12
  day_pos : 1 ≤ date.day
  day_le : date.day ≤ daysOf date.year date.month

theorem IsProper.tomorrow {date : Date} (proper : date.IsProper) : date.tomorrow.IsProper := by
  obtain ⟨month_pos, month_le, day_pos, day_le⟩ := proper
  rw [Date.tomorrow]
  split_ifs with inMonth inYear
  · exact ⟨month_pos, month_le, Nat.le_add_left _ _, inMonth⟩
  · exact ⟨Nat.le_add_left _ _, inYear, Nat.le_refl _, one_le_daysOf _ _⟩
  · exact ⟨Nat.le_refl _, Nat.le_add_left _ _, Nat.le_refl _, one_le_daysOf _ _⟩

/-- A number that grows with the date. -/
def rank (date : Date) : Nat :=
  (date.year * 12 + date.month) * 32 + date.day

theorem IsProper.rank_lt_tomorrow {date : Date} (proper : date.IsProper) :
    date.rank < date.tomorrow.rank := by
  have days := daysOf_le date.year date.month
  obtain ⟨month_pos, month_le, day_pos, day_le⟩ := proper
  rw [Date.tomorrow]
  split_ifs <;> simp only [rank] <;> omega

theorem year_le_tomorrow (date : Date) : date.year ≤ date.tomorrow.year := by
  rw [tomorrow]
  split_ifs <;> simp

end Date

theorem isProper_dateOfDay (day : Nat) : (dateOfDay day).IsProper := by
  induction day with
  | zero => constructor <;> decide
  | succ day induction =>
      rw [dateOfDay_succ]
      exact induction.tomorrow

theorem dateOfDay_injective : Function.Injective dateOfDay := by
  have rising : StrictMono fun day => (dateOfDay day).rank := by
    apply strictMono_nat_of_lt_succ
    intro day
    rw [dateOfDay_succ]
    exact (isProper_dateOfDay day).rank_lt_tomorrow
  intro day other same
  exact rising.injective (congrArg Date.rank same)

theorem year_dateOfDay_monotone : Monotone fun day => (dateOfDay day).year := by
  apply monotone_nat_of_le_succ
  intro day
  rw [dateOfDay_succ]
  exact (dateOfDay day).year_le_tomorrow

/-! ## Days of the week -/

/-- A day of the week. -/
inductive Weekday where
  | sunday
  | monday
  | tuesday
  | wednesday
  | thursday
  | friday
  | saturday
  deriving DecidableEq, Repr

namespace Weekday

/-- The day of the week of the day after. -/
def tomorrow : Weekday → Weekday
  | sunday => monday
  | monday => tuesday
  | tuesday => wednesday
  | wednesday => thursday
  | thursday => friday
  | friday => saturday
  | saturday => sunday

/-- The name of a day of the week in three letters. -/
def name : Weekday → String
  | sunday => "Sun"
  | monday => "Mon"
  | tuesday => "Tue"
  | wednesday => "Wed"
  | thursday => "Thu"
  | friday => "Fri"
  | saturday => "Sat"

/-- The place of a day in the week, from Sunday. -/
def index : Weekday → Nat
  | sunday => 0
  | monday => 1
  | tuesday => 2
  | wednesday => 3
  | thursday => 4
  | friday => 5
  | saturday => 6

theorem index_tomorrow (day : Weekday) : day.tomorrow.index = (day.index + 1) % 7 := by
  cases day <;> rfl

theorem name_eq (day : Weekday) : day.name = weekdays.getD day.index "" := by
  cases day <;> rfl

theorem name_injective : Function.Injective name := by
  intro day other same
  cases day <;> cases other <;> simp_all [name]

end Weekday

/-- The first of January 1970 was a Thursday. -/
theorem weekday_eq_iterate (day : Nat) :
    weekday day = (Weekday.tomorrow^[day] .thursday).name := by
  have index : (Weekday.tomorrow^[day] .thursday).index = (day + 4) % 7 := by
    induction day with
    | zero => rfl
    | succ day induction =>
        rw [Function.iterate_succ_apply', Weekday.index_tomorrow, induction]
        omega
  rw [weekday, Weekday.name_eq, index]

end TimedRelease.Calendar
