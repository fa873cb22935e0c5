import TimedRelease.Proofs.Calendar.Days
import TimedRelease.Proofs.Text.Fields

/-!
# Times as they are displayed

A time is displayed as the minute of the day in which it lies, by the names of its weekday and
its month, its day, its year and a clock of twelve hours.  The text tells its parts apart and
gives the minute away, so that two times have one text exactly when they lie in one minute.
Times after the last year with dates are displayed as numbers.
-/

namespace TimedRelease.Calendar

/-! ## A clock of twelve hours -/

/-- An hour of the day, its number on the dial, and the half of the day. -/
inductive OnDial : Nat → Nat → String → Prop where
  | midnight : OnDial 0 12 "AM"
  | morning {hour : Nat} (begun : 1 ≤ hour) (early : hour < 12) : OnDial hour hour "AM"
  | noon : OnDial 12 12 "PM"
  | afternoon {hour : Nat} (begun : 1 ≤ hour) (early : hour < 12) :
      OnDial (hour + 12) hour "PM"

namespace OnDial

theorem of_lt {hour : Nat} (inDay : hour < 24) : OnDial hour (twelveHour hour) (halfDay hour) := by
  rcases Nat.lt_trichotomy hour 12 with early | rfl | late
  · rcases Nat.eq_zero_or_pos hour with rfl | begun
    · exact .midnight
    · have dial : twelveHour hour = hour := by
        rw [twelveHour, Nat.mod_eq_of_lt early, if_neg (by omega)]
      rw [dial, halfDay, if_pos early]
      exact .morning begun early
  · exact .noon
  · obtain ⟨begun, rfl⟩ : ∃ begun, hour = begun + 12 := ⟨hour - 12, by omega⟩
    have dial : twelveHour (begun + 12) = begun := by
      rw [twelveHour, Nat.add_mod_right, Nat.mod_eq_of_lt (by omega), if_neg (by omega)]
    rw [dial, halfDay, if_neg (by omega)]
    exact .afternoon (by omega) (by omega)

variable {hour dial : Nat} {half : String}

theorem bounds (shown : OnDial hour dial half) :
    hour < 24 ∧ 1 ≤ dial ∧ dial ≤ 12 ∧ dial % 12 = hour % 12 := by
  cases shown <;> omega

theorem half_eq (shown : OnDial hour dial half) : half = if hour < 12 then "AM" else "PM" := by
  cases shown with
  | midnight => rfl
  | morning begun early => rw [if_pos early]
  | noon => rfl
  | afternoon begun early => rw [if_neg (by omega)]

theorem dial_eq {otherDial : Nat} {otherHalf : String} (shown : OnDial hour dial half)
    (also : OnDial hour otherDial otherHalf) : dial = otherDial ∧ half = otherHalf := by
  have bounds := shown.bounds
  have otherBounds := also.bounds
  exact ⟨by omega, shown.half_eq.trans also.half_eq.symm⟩

theorem hour_eq {other : Nat} (shown : OnDial hour dial half) (also : OnDial other dial half) :
    hour = other := by
  have bounds := shown.bounds
  have otherBounds := also.bounds
  have halves := shown.half_eq.symm.trans also.half_eq
  split_ifs at halves
  · omega
  · contradiction
  · contradiction
  · omega

end OnDial

/-! ## Months and years -/

/-- A month and its name in three letters. -/
inductive MonthName : Nat → String → Prop where
  | january : MonthName 1 "Jan"
  | february : MonthName 2 "Feb"
  | march : MonthName 3 "Mar"
  | april : MonthName 4 "Apr"
  | may : MonthName 5 "May"
  | june : MonthName 6 "Jun"
  | july : MonthName 7 "Jul"
  | august : MonthName 8 "Aug"
  | september : MonthName 9 "Sep"
  | october : MonthName 10 "Oct"
  | november : MonthName 11 "Nov"
  | december : MonthName 12 "Dec"

namespace MonthName

variable {month : Nat} {name : String}

theorem getElem?_months (named : MonthName month name) :
    1 ≤ month ∧ months[month - 1]? = some name := by
  cases named <;> exact ⟨by decide, rfl⟩

theorem of_months (positive : 1 ≤ month) (twelve : month ≤ 12) :
    MonthName month (months.getD (month - 1) "") := by
  interval_cases month <;> constructor

theorem month_eq {other : Nat} (named : MonthName month name) (also : MonthName other name) :
    month = other := by
  obtain ⟨positive, found⟩ := named.getElem?_months
  obtain ⟨otherPositive, otherFound⟩ := also.getElem?_months
  have distinct : months.Nodup := by decide
  have inTable : month - 1 < months.length := (List.getElem?_eq_some_iff.mp found).1
  have same := (List.getElem?_inj inTable distinct).mp (found.trans otherFound.symm)
  omega

theorem name_eq {other : String} (named : MonthName month name) (also : MonthName month other) :
    name = other :=
  Option.some.inj (named.getElem?_months.2.symm.trans also.getElem?_months.2)

theorem blank_not_mem (named : MonthName month name) : ' ' ∉ name.toList := by
  cases named <;> decide

end MonthName

/-- The digits of a year: four of them, or all behind a plus sign if there are more. -/
inductive ShowsYear (year : Nat) : List Char → Prop where
  | four {digits : List Char} (fills : Text.Fills 4 year digits) : ShowsYear year digits
  | signed (large : 10000 ≤ year) : ShowsYear year ('+' :: Text.decimal year)

namespace ShowsYear

theorem of_yearText (year : Nat) : ShowsYear year (yearText year).toList := by
  have short : (Text.decimal year).length ≤ 4 ↔ year < 10000 :=
    Nat.length_toDigits_le_iff (by decide) (by decide)
  rw [yearText, String.toList_ofList]
  split
  case isTrue few => exact .four (Text.fills_decimal (short.mpr few))
  case isFalse many =>
    have none : 4 - (Text.decimal year).length = 0 := by omega
    rw [none]
    exact .signed (by omega)

variable {year : Nat} {text : List Char}

theorem text_eq {other : List Char} (shown : ShowsYear year text) (also : ShowsYear year other) :
    text = other := by
  cases shown with
  | four fills =>
      cases also with
      | four alsoFills => exact fills.digits_eq alsoFills
      | signed large => exact absurd fills.lt (by omega)
  | signed large =>
      cases also with
      | four fills => exact absurd fills.lt (by omega)
      | signed _ => rfl

theorem year_eq {other : Nat} {otherText : List Char} (shown : ShowsYear year text)
    (also : ShowsYear other otherText) (same : text = otherText) : year = other := by
  cases shown with
  | four fills =>
      cases also with
      | four alsoFills =>
          subst same
          exact fills.value.symm.trans alsoFills.value
      | signed _ =>
          subst same
          exact absurd List.mem_cons_self (fills.not_mem (by decide))
  | signed _ =>
      cases also with
      | four fills =>
          subst same
          exact absurd List.mem_cons_self (fills.not_mem (by decide))
      | signed _ => exact Text.decimal_injective (List.cons.inj same).2

theorem blank_not_mem (shown : ShowsYear year text) : ' ' ∉ text := by
  cases shown with
  | four fills => exact fills.not_mem (by decide)
  | signed large =>
      intro member
      rcases List.mem_cons.mp member with sign | digit
      · contradiction
      · exact Text.not_mem_decimal rfl digit

end ShowsYear

/-! ## Moments -/

/-- A minute of a day. -/
@[ext]
structure Moment where
  weekday : Weekday
  date : Date
  hour : Nat
  minute : Nat
  deriving DecidableEq, Repr

/-- The parts of a text that shows a minute of a day. -/
@[ext]
structure Parts where
  weekday : String
  month : String
  day : String
  year : String
  dial : String
  minute : String
  half : String
  deriving DecidableEq, Repr

namespace Parts

/-- The text of its parts. -/
def text (parts : Parts) : String :=
  parts.weekday ++ ", " ++ parts.month ++ " " ++ parts.day ++ ", " ++ parts.year ++ " " ++
    parts.dial ++ ":" ++ parts.minute ++ " " ++ parts.half ++ " UTC"

/-- No part contains the mark that stands behind it. -/
structure Apart (parts : Parts) : Prop where
  weekday : ',' ∉ parts.weekday.toList
  month : ' ' ∉ parts.month.toList
  day : ',' ∉ parts.day.toList
  year : ' ' ∉ parts.year.toList
  dial : ':' ∉ parts.dial.toList
  minute : ' ' ∉ parts.minute.toList
  half : ' ' ∉ parts.half.toList

theorem toList_text (parts : Parts) : parts.text.toList =
    parts.weekday.toList ++ ',' :: ' ' :: (parts.month.toList ++ ' ' :: (parts.day.toList ++
      ',' :: ' ' :: (parts.year.toList ++ ' ' :: (parts.dial.toList ++ ':' ::
        (parts.minute.toList ++ ' ' :: (parts.half.toList ++ ' ' :: "UTC".toList)))))) := by
  have comma : ", ".toList = [',', ' '] := rfl
  have blank : " ".toList = [' '] := rfl
  have colon : ":".toList = [':'] := rfl
  have zone : " UTC".toList = ' ' :: "UTC".toList := rfl
  simp only [text, String.toList_append, List.append_assoc, comma, blank, colon, zone,
    List.cons_append, List.nil_append]

theorem Apart.eq_of_text_eq {parts others : Parts} (apart : parts.Apart)
    (othersApart : others.Apart) (same : parts.text = others.text) : parts = others := by
  have characters := congrArg String.toList same
  rw [toList_text, toList_text] at characters
  obtain ⟨weekday, characters⟩ :=
    Text.append_cons_inj apart.weekday othersApart.weekday characters
  obtain ⟨month, characters⟩ :=
    Text.append_cons_inj apart.month othersApart.month (List.cons.inj characters).2
  obtain ⟨day, characters⟩ := Text.append_cons_inj apart.day othersApart.day characters
  obtain ⟨year, characters⟩ :=
    Text.append_cons_inj apart.year othersApart.year (List.cons.inj characters).2
  obtain ⟨dial, characters⟩ := Text.append_cons_inj apart.dial othersApart.dial characters
  obtain ⟨minute, characters⟩ := Text.append_cons_inj apart.minute othersApart.minute characters
  obtain ⟨half, -⟩ := Text.append_cons_inj apart.half othersApart.half characters
  simp only [String.toList_inj] at weekday month day year dial minute half
  exact Parts.ext weekday month day year dial minute half

end Parts

namespace Moment

/-- The minute of a day in which a unix time lies: its days are counted from Thursday, the first
of January 1970. -/
def ofUnix (seconds : Nat) : Moment where
  weekday := Weekday.tomorrow^[seconds / 86400] .thursday
  date := Date.tomorrow^[seconds / 86400] .epoch
  hour := seconds / 3600 % 24
  minute := seconds / 60 % 60

theorem date_ofUnix (seconds : Nat) : (ofUnix seconds).date = dateOfDay (seconds / 86400) :=
  (dateOfDay_eq_iterate _).symm

theorem ofUnix_eq_iff {first second : Nat} :
    ofUnix first = ofUnix second ↔ first / 60 = second / 60 := by
  -- Days and hours are counted from the number of the minute.
  have hours (seconds : Nat) : seconds / 3600 = seconds / 60 / 60 := by omega
  have days (seconds : Nat) : seconds / 86400 = seconds / 60 / 1440 := by omega
  constructor
  · intro same
    have date := congrArg Moment.date same
    rw [date_ofUnix, date_ofUnix] at date
    have day := dateOfDay_injective date
    obtain ⟨-, -, hour, minute⟩ := Moment.mk.inj same
    rw [days, days] at day
    rw [hours, hours] at hour
    omega
  · intro same
    simp only [ofUnix, hours, days, same]

/-- The parts show the moment: the names of its weekday and its month, its day, its year, its
minute in two places, and its hour on a clock of twelve hours. -/
structure ShownBy (moment : Moment) (parts : Parts) : Prop where
  weekday : parts.weekday = moment.weekday.name
  month : MonthName moment.date.month parts.month
  day : parts.day = Text.decimalText moment.date.day
  year : ShowsYear moment.date.year parts.year.toList
  hour : ∃ dial, OnDial moment.hour dial parts.half ∧ parts.dial = Text.decimalText dial
  minute : Text.Fills 2 moment.minute parts.minute.toList

/-- A text that shows a moment. -/
def Shows (moment : Moment) (text : String) : Prop :=
  ∃ parts : Parts, moment.ShownBy parts ∧ text = parts.text

namespace ShownBy

variable {moment : Moment} {parts : Parts}

theorem apart (shown : moment.ShownBy parts) : parts.Apart where
  weekday := by
    rw [shown.weekday]
    cases moment.weekday <;> decide
  month := shown.month.blank_not_mem
  day := by
    rw [shown.day]
    exact Text.not_mem_decimalText rfl
  year := shown.year.blank_not_mem
  dial := by
    obtain ⟨dial, -, written⟩ := shown.hour
    rw [written]
    exact Text.not_mem_decimalText rfl
  minute := shown.minute.not_mem rfl
  half := by
    obtain ⟨dial, onDial, -⟩ := shown.hour
    rw [onDial.half_eq]
    split <;> decide

/-- A moment is shown in one way. -/
theorem parts_eq {others : Parts} (shown : moment.ShownBy parts) (also : moment.ShownBy others) :
    parts = others := by
  have weekday : parts.weekday = others.weekday := shown.weekday.trans also.weekday.symm
  have month : parts.month = others.month := shown.month.name_eq also.month
  have day : parts.day = others.day := shown.day.trans also.day.symm
  have year : parts.year = others.year := String.toList_inj.mp (shown.year.text_eq also.year)
  have minute : parts.minute = others.minute :=
    String.toList_inj.mp (shown.minute.digits_eq also.minute)
  obtain ⟨dial, onDial, written⟩ := shown.hour
  obtain ⟨otherDial, otherOnDial, otherWritten⟩ := also.hour
  obtain ⟨rfl, half⟩ := onDial.dial_eq otherOnDial
  have dials : parts.dial = others.dial := written.trans otherWritten.symm
  exact Parts.ext weekday month day year dials minute half

/-- The parts give the moment away. -/
theorem moment_eq {other : Moment} (shown : moment.ShownBy parts) (also : other.ShownBy parts) :
    moment = other := by
  have weekday : moment.weekday = other.weekday :=
    Weekday.name_injective (shown.weekday.symm.trans also.weekday)
  have year : moment.date.year = other.date.year := shown.year.year_eq also.year rfl
  have month : moment.date.month = other.date.month := shown.month.month_eq also.month
  have day : moment.date.day = other.date.day :=
    Text.decimalText_injective (shown.day.symm.trans also.day)
  have hour : moment.hour = other.hour := by
    obtain ⟨dial, onDial, written⟩ := shown.hour
    obtain ⟨otherDial, otherOnDial, otherWritten⟩ := also.hour
    obtain rfl := Text.decimalText_injective (written.symm.trans otherWritten)
    exact onDial.hour_eq otherOnDial
  have minute : moment.minute = other.minute := shown.minute.value.symm.trans also.minute.value
  have date : moment.date = other.date := by
    calc
      moment.date = ⟨moment.date.year, moment.date.month, moment.date.day⟩ := rfl
      _ = ⟨other.date.year, other.date.month, other.date.day⟩ := by rw [year, month, day]
      _ = other.date := rfl
  exact Moment.ext weekday date hour minute

end ShownBy

namespace Shows

variable {moment : Moment} {text : String}

theorem text_eq {other : String} (shown : moment.Shows text) (also : moment.Shows other) :
    text = other := by
  obtain ⟨parts, shownBy, rfl⟩ := shown
  obtain ⟨others, alsoShownBy, rfl⟩ := also
  rw [shownBy.parts_eq alsoShownBy]

theorem moment_eq {other : Moment} (shown : moment.Shows text) (also : other.Shows text) :
    moment = other := by
  obtain ⟨parts, shownBy, rfl⟩ := shown
  obtain ⟨others, alsoShownBy, same⟩ := also
  obtain rfl := shownBy.apart.eq_of_text_eq alsoShownBy.apart same
  exact shownBy.moment_eq alsoShownBy

theorem comma_mem (shown : moment.Shows text) : ',' ∈ text.toList := by
  obtain ⟨parts, -, rfl⟩ := shown
  rw [Parts.toList_text]
  exact List.mem_append_right _ List.mem_cons_self

end Shows

end Moment

/-! ## Times with a date -/

/-- The last year with dates. -/
def lastYear : Nat := 262142

/-- The time lies in a year with dates. -/
def IsDated (seconds : Nat) : Prop :=
  (Moment.ofUnix seconds).date.year ≤ lastYear

theorem isDated_iff {seconds : Nat} : IsDated seconds ↔ seconds ≤ lastSecond := by
  have lastDay : (dateOfDay 95026236).year = 262142 := by decide
  have dayAfter : (dateOfDay 95026237).year = 262143 := by decide
  rw [IsDated, Moment.date_ofUnix, lastYear, lastSecond]
  constructor
  · intro early
    by_contra late
    have beyond := year_dateOfDay_monotone (by omega : 95026237 ≤ seconds / 86400)
    dsimp only at beyond
    omega
  · intro early
    have within := year_dateOfDay_monotone (by omega : seconds / 86400 ≤ 95026236)
    dsimp only at within
    omega

theorem fills_twoDigits {n : Nat} (small : n < 100) : Text.Fills 2 n (twoDigits n).toList := by
  rw [twoDigits, String.toList_ofList]
  refine ⟨rfl, ?_, ?_⟩
  · intro c member
    have all : ∀ digit < 10, Text.isDecimalDigit (Nat.digitChar digit) = true := by decide
    rcases List.mem_pair.mp member with rfl | rfl
    · exact all _ (by omega)
    · exact all _ (by omega)
  · rw [← Text.valueOf_eq_positional]
    have value : Text.valueOf 10 [Nat.digitChar (n / 10), Nat.digitChar (n % 10)] =
        Text.digitValue (Nat.digitChar (n / 10)) * 10 +
          Text.digitValue (Nat.digitChar (n % 10)) := by
      simp [Text.valueOf]
    rw [value, Text.digitValue_digitChar (by omega), Text.digitValue_digitChar (by omega)]
    omega

/-- The parts that are written for a time. -/
def Parts.ofUnix (seconds : Nat) : Parts where
  weekday := Calendar.weekday (seconds / 86400)
  month := months.getD ((dateOfDay (seconds / 86400)).month - 1) ""
  day := Text.decimalText (dateOfDay (seconds / 86400)).day
  year := yearText (dateOfDay (seconds / 86400)).year
  dial := Text.decimalText (twelveHour (seconds % 86400 / 60 / 60))
  minute := twoDigits (seconds % 86400 / 60 % 60)
  half := halfDay (seconds % 86400 / 60 / 60)

theorem shownBy_ofUnix (seconds : Nat) :
    (Moment.ofUnix seconds).ShownBy (Parts.ofUnix seconds) where
  weekday := weekday_eq_iterate _
  month := by
    have proper := isProper_dateOfDay (seconds / 86400)
    rw [Moment.date_ofUnix]
    exact .of_months proper.month_pos proper.month_le
  day := by
    rw [Moment.date_ofUnix]
    rfl
  year := by
    rw [Moment.date_ofUnix]
    exact .of_yearText _
  hour := by
    have hour : (Moment.ofUnix seconds).hour = seconds % 86400 / 60 / 60 := by
      change seconds / 3600 % 24 = _
      omega
    rw [hour]
    exact ⟨_, .of_lt (by omega), rfl⟩
  minute := by
    have minute : (Moment.ofUnix seconds).minute = seconds % 86400 / 60 % 60 := by
      change seconds / 60 % 60 = _
      omega
    rw [minute]
    exact fills_twoDigits (by omega)

theorem shows_instantText (seconds : Nat) :
    (Moment.ofUnix seconds).Shows (instantText seconds) :=
  ⟨Parts.ofUnix seconds, shownBy_ofUnix seconds, rfl⟩

/-- What a unix time is shown as: its minute if it has a date, and otherwise its number. -/
inductive ShownAs (seconds : Nat) : String → Prop where
  | dated {text : String} (dated : IsDated seconds) (shows : (Moment.ofUnix seconds).Shows text) :
      ShownAs seconds text
  | numbered (undated : ¬IsDated seconds) :
      ShownAs seconds ("unix time " ++ Text.decimalText seconds)

theorem shownAs_timeText (seconds : UInt64) : ShownAs seconds.toNat (timeText seconds) := by
  rw [timeText]
  split
  case isTrue early => exact .dated (isDated_iff.mpr early) (shows_instantText _)
  case isFalse late => exact .numbered (isDated_iff.not.mpr late)

namespace ShownAs

variable {seconds : Nat} {text : String}

theorem text_eq {other : String} (shown : ShownAs seconds text) (also : ShownAs seconds other) :
    text = other := by
  cases shown with
  | dated dated shows =>
      cases also with
      | dated _ alsoShows => exact shows.text_eq alsoShows
      | numbered undated => contradiction
  | numbered undated =>
      cases also with
      | dated dated _ => contradiction
      | numbered _ => rfl

theorem comma_mem_iff (shown : ShownAs seconds text) : ',' ∈ text.toList ↔ IsDated seconds := by
  cases shown with
  | dated dated shows => exact iff_of_true shows.comma_mem dated
  | numbered undated =>
      refine iff_of_false ?_ undated
      rw [String.toList_append, List.mem_append]
      rintro (front | digits)
      · exact absurd front (by decide)
      · exact Text.not_mem_decimalText rfl digits

theorem text_eq_iff {other : Nat} {otherText : String} (shown : ShownAs seconds text)
    (also : ShownAs other otherText) (dated : IsDated seconds) (otherDated : IsDated other) :
    text = otherText ↔ seconds / 60 = other / 60 := by
  cases shown with
  | numbered undated => contradiction
  | dated _ shows =>
      cases also with
      | numbered undated => contradiction
      | dated _ alsoShows =>
          rw [← Moment.ofUnix_eq_iff]
          constructor
          · rintro rfl
            exact shows.moment_eq alsoShows
          · intro same
            rw [same] at shows
            exact shows.text_eq alsoShows

end ShownAs

/-- Every time is shown in exactly one way: up to the last year with dates as the minute of
the day in which it lies, and from then on as its number.  Texts of dated times agree exactly
when the times lie in one minute, and none of them is the text of a time without a date. -/
theorem times_shown_by_calendar (seconds other : UInt64) :
    (∀ text, timeText seconds = text ↔ ShownAs seconds.toNat text) ∧
    (IsDated seconds.toNat → IsDated other.toNat →
      (timeText seconds = timeText other ↔ seconds.toNat / 60 = other.toNat / 60)) ∧
    (IsDated seconds.toNat → ¬IsDated other.toNat → timeText seconds ≠ timeText other) := by
  have shown := shownAs_timeText seconds
  have otherShown := shownAs_timeText other
  refine ⟨?_, ?_, ?_⟩
  · intro text
    constructor
    · rintro rfl
      exact shown
    · exact shown.text_eq
  · exact shown.text_eq_iff otherShown
  · intro dated undated same
    rw [same] at shown
    exact undated (otherShown.comma_mem_iff.mp (shown.comma_mem_iff.mpr dated))

/-- The first and the last second of the minute at noon of a leap day, the last second with a
date and the one after it. -/
theorem noon_and_last_second_shown :
    IsDated (951825600 : UInt64).toNat ∧ IsDated (951825659 : UInt64).toNat ∧
    ShownAs (951825600 : UInt64).toNat "Tue, Feb 29, 2000 12:00 PM UTC" ∧
    timeText 951825600 = timeText 951825659 ∧
    IsDated (8210266876799 : UInt64).toNat ∧ ¬IsDated (8210266876800 : UInt64).toNat ∧
    ShownAs (8210266876799 : UInt64).toNat "Mon, Dec 31, +262142 11:59 PM UTC" ∧
    timeText 8210266876799 ≠ timeText 8210266876800 := by
  have noon : IsDated (951825600 : UInt64).toNat := isDated_iff.mpr (by decide)
  have afterNoon : IsDated (951825659 : UInt64).toNat := isDated_iff.mpr (by decide)
  have last : IsDated (8210266876799 : UInt64).toNat := isDated_iff.mpr (by decide)
  have next : ¬IsDated (8210266876800 : UInt64).toNat := isDated_iff.not.mpr (by decide)
  obtain ⟨shown, minutes, -⟩ := times_shown_by_calendar 951825600 951825659
  obtain ⟨lastShown, -, kinds⟩ := times_shown_by_calendar 8210266876799 8210266876800
  have noonText := (shown "Tue, Feb 29, 2000 12:00 PM UTC").mp (by decide +kernel)
  have lastText := (lastShown "Mon, Dec 31, +262142 11:59 PM UTC").mp (by decide +kernel)
  have sameText := (minutes noon afterNoon).mpr (by decide)
  exact ⟨noon, afterNoon, noonText, sameText, last, next, lastText, kinds last next⟩

end TimedRelease.Calendar
