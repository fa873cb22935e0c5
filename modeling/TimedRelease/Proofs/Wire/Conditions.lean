import TimedRelease.Proofs.Wire.Messages
import TimedRelease.Proofs.Wire.Records

/-!
# The shapes of a condition

`Shape` lists the values that a condition is read from, each with the condition it is read
as.  Beyond the plain shapes with one member, the other member may be there as `null`, the
fields may be the items of an array, and the digits of a block may stand without their mark
or behind a plus sign; they are of base sixteen all the same.
-/

namespace TimedRelease

open Json (Value)
open Wire

namespace Wire

theorem uint64_eq_ok_iff {value : Value} {n : UInt64} :
    uint64 value = .ok n ↔ value = .natural n.toNat := by
  constructor
  · intro read
    rw [uint64] at read
    split at read
    case h_1 found number =>
      cases read
      cases value with
      | number given =>
          cases given with
          | integer i =>
              simp only [Value.uint64?] at number
              split at number
              case isTrue fits =>
                cases number
                rw [Value.natural, UInt64.toNat_ofNat_of_lt' fits.2, Int.toNat_of_nonneg fits.1]
              case isFalse => contradiction
          | double d => contradiction
      | _ => contradiction
    case h_2 => contradiction
  · rintro rfl
    exact uint64_natural n

namespace Part

theorem value?_given {value : Value} (present : value ≠ .null) :
    (given value).value? = some value := by
  cases value with
  | null => contradiction
  | _ => rfl

theorem value?_eq_some_iff {part : Part} {value : Value} :
    part.value? = some value ↔ part = .given value ∧ value ≠ .null := by
  constructor
  · intro found
    refine ⟨?_, ?_⟩
    · cases part with
      | given there => cases there <;> cases found <;> rfl
      | unnamed => cases found
      | cutOff => cases found
    · rintro rfl
      exact part.value?_ne_null found
  · rintro ⟨rfl, present⟩
    exact value?_given present

theorem value?_eq_none_iff {part : Part} :
    part.value? = none ↔ part = .given .null ∨ part = .unnamed ∨ part = .cutOff := by
  cases part with
  | given value => cases value <;> simp [value?]
  | unnamed => simp [value?]
  | cutOff => simp [value?]

end Part

end Wire

namespace Condition

/-! ## Numbers of blocks -/

/-- The values that name a block: an integer of 64 bits, or a text of hexadecimal digits
for one, which may follow a mark and a plus sign. -/
inductive NamesBlock : Value → UInt64 → Prop where
  | integer (number : UInt64) : NamesBlock (.natural number.toNat) number
  | text {text : String} {mark numeral : List Char} {number : UInt64}
      (marked : mark ∈ [[], ['0', 'x'], ['0', 'X']]) (written : text.toList = mark ++ numeral)
      (denotes : Text.IntegerText 16 Text.isHexDigit numeral number.toNat) :
      NamesBlock (.string text) number

theorem withoutHexMark_of_integerText {numeral : List Char} {n : Nat}
    (denotes : Text.IntegerText 16 Text.isHexDigit numeral n) :
    Text.withoutHexMark numeral = numeral := by
  -- Behind a zero in front only digits follow, and the letter of a mark is none.
  have noMark (c : Char) (letter : Text.isHexDigit c = false) (rest : List Char) :
      numeral ≠ '0' :: c :: rest := by
    rintro rfl
    cases denotes with
    | unsigned nonempty all =>
        have digit := all c (by simp)
        rw [letter] at digit
        contradiction
  unfold Text.withoutHexMark
  split
  · exact absurd rfl (noMark 'x' rfl _)
  · exact absurd rfl (noMark 'X' rfl _)
  · rfl

/-- What is left of a text without its mark is a numeral exactly when the text is a mark,
or none, with that numeral behind it. -/
theorem integerText_withoutHexMark_iff {text : List Char} {n : Nat} :
    Text.IntegerText 16 Text.isHexDigit (Text.withoutHexMark text) n ↔
      ∃ mark ∈ [[], ['0', 'x'], ['0', 'X']], ∃ numeral, text = mark ++ numeral ∧
        Text.IntegerText 16 Text.isHexDigit numeral n := by
  constructor
  · intro denotes
    unfold Text.withoutHexMark at denotes
    split at denotes
    · exact ⟨['0', 'x'], by simp, _, rfl, denotes⟩
    · exact ⟨['0', 'X'], by simp, _, rfl, denotes⟩
    · exact ⟨[], by simp, text, rfl, denotes⟩
  · rintro ⟨mark, marked, numeral, rfl, denotes⟩
    simp only [List.mem_cons, List.not_mem_nil, or_false] at marked
    rcases marked with rfl | rfl | rfl
    · rw [List.nil_append, withoutHexMark_of_integerText denotes]
      exact denotes
    · exact denotes
    · exact denotes

theorem resolve_text_eq_ok_iff {text : String} {number : UInt64} :
    GivenBlock.resolve (.text text) = .ok number ↔ NamesBlock (.string text) number := by
  have read : GivenBlock.resolve (.text text) = .ok number ↔
      Text.readHexUInt64 (Text.withoutHexMark text.toList) = .ok number := by
    rw [GivenBlock.resolve]
    cases Text.readHexUInt64 (Text.withoutHexMark text.toList) <;> simp
  rw [read, Text.readHexUInt64_eq_ok_iff, integerText_withoutHexMark_iff]
  constructor
  · rintro ⟨mark, marked, numeral, written, denotes⟩
    exact .text marked written denotes
  · rintro ⟨⟩
    exact ⟨_, ‹_›, _, ‹_›, ‹_›⟩

theorem givenBlock_resolve_iff {value : Value} {number : UInt64} :
    (∃ given, givenBlock value = .ok given ∧ given.resolve = .ok number) ↔
      NamesBlock value number := by
  have asNumber (other : ∀ text, value ≠ .string text) :
      (∃ given, (uint64 value).map GivenBlock.number = .ok given ∧ given.resolve = .ok number) ↔
        NamesBlock value number := by
    constructor
    · rintro ⟨given, mapped, resolved⟩
      cases read : uint64 value with
      | error error =>
          rw [read] at mapped
          cases mapped
      | ok found =>
          rw [read] at mapped
          cases mapped
          cases resolved
          rw [uint64_eq_ok_iff.mp read]
          exact .integer number
    · intro names
      cases names with
      | integer => exact ⟨.number number, by rw [uint64_natural]; rfl, rfl⟩
      | text => exact absurd rfl (other _)
  cases value with
  | string text =>
      constructor
      · rintro ⟨given, read, resolved⟩
        cases read
        exact resolve_text_eq_ok_iff.mp resolved
      · intro names
        exact ⟨_, rfl, resolve_text_eq_ok_iff.mpr names⟩
  | _ => exact asNumber (by simp)

theorem NamesBlock.ne_null {value : Value} {number : UInt64} (names : NamesBlock value number) :
    value ≠ .null := by
  cases names <;> simp [Value.natural]

/-! ## Fields -/

/-- What the fields for time and block come to: one of them is given. -/
inductive Given (timePart blockPart : Part) : Condition → Prop where
  | time {seconds : UInt64} (given : timePart.value? = some (.natural seconds.toNat))
      (alone : blockPart.value? = none) : Given timePart blockPart (.time seconds)
  | block {named : Value} {number : UInt64} (alone : timePart.value? = none)
      (given : blockPart.value? = some named) (names : NamesBlock named number) :
      Given timePart blockPart (.block number)

theorem decode_eq_ok_iff {value : Value} {condition : Condition} :
    decode value = .ok condition ↔
      ∃ timePart blockPart, partsOnly ["time", "block"] value = .ok [timePart, blockPart] ∧
        Given timePart blockPart condition := by
  rw [decode, bind_eq_ok_iff]
  constructor
  · rintro ⟨parts, found, chosen⟩
    rcases parts with _ | ⟨timePart, _ | ⟨blockPart, _ | ⟨third, rest⟩⟩⟩
    case nil => cases chosen
    case cons.nil => cases chosen
    case cons.cons.cons => cases chosen
    case cons.cons.nil =>
      refine ⟨timePart, blockPart, found, ?_⟩
      simp only [bind_eq_ok_iff, Part.defaulted_eq_ok_iff] at chosen
      obtain ⟨givenTime, timeRead, givenNumber, blockRead, chosen⟩ := chosen
      cases givenTime with
      | none =>
          cases givenNumber with
          | none => cases chosen
          | some block =>
              obtain ⟨number, resolves, same⟩ := bind_eq_ok_iff.mp chosen
              obtain ⟨named, there, reads⟩ := rel_some_iff.mp blockRead
              cases same
              exact .block (rel_none_iff.mp timeRead) there
                (givenBlock_resolve_iff.mp ⟨block, reads, resolves⟩)
      | some seconds =>
          cases givenNumber with
          | none =>
              obtain ⟨number, there, reads⟩ := rel_some_iff.mp timeRead
              cases chosen
              exact .time (uint64_eq_ok_iff.mp reads ▸ there) (rel_none_iff.mp blockRead)
          | some block => cases chosen
  · rintro ⟨timePart, blockPart, found, given⟩
    refine ⟨_, found, ?_⟩
    simp only [bind_eq_ok_iff, Part.defaulted_eq_ok_iff]
    cases given with
    | time given alone =>
        exact ⟨some _, rel_some_iff.mpr ⟨_, given, uint64_natural _⟩, none,
          rel_none_iff.mpr alone, rfl⟩
    | block alone given names =>
        obtain ⟨block, reads, resolves⟩ := givenBlock_resolve_iff.mpr names
        exact ⟨none, rel_none_iff.mpr alone, some block,
          rel_some_iff.mpr ⟨_, given, reads⟩, bind_eq_ok_iff.mpr ⟨_, resolves, rfl⟩⟩

/-- What is there for the fields of a condition. -/
inductive Laid : Value → Part → Part → Prop where
  | nothing : Laid (.object []) .unnamed .unnamed
  | time (first : Value) : Laid (.object [("time", first)]) (.given first) .unnamed
  | block (first : Value) : Laid (.object [("block", first)]) .unnamed (.given first)
  | timeBlock (first second : Value) :
      Laid (.object [("time", first), ("block", second)]) (.given first) (.given second)
  | blockTime (first second : Value) :
      Laid (.object [("block", first), ("time", second)]) (.given second) (.given first)
  | noItem : Laid (.array []) .cutOff .cutOff
  | item (first : Value) : Laid (.array [first]) (.given first) .cutOff
  | items (first second : Value) :
      Laid (.array [first, second]) (.given first) (.given second)

theorem length_eq_of_known {members : List (String × Value)}
    (known : ∀ member ∈ members, member.1 = "time" ∨ member.1 = "block") :
    members.length =
      (Value.occurrences "time" members).length +
        (Value.occurrences "block" members).length := by
  induction members with
  | nil => rfl
  | cons member rest induction =>
      obtain ⟨name, value⟩ := member
      obtain ⟨here, later⟩ := List.forall_mem_cons.mp known
      have counted := induction later
      simp only [Value.occurrences] at counted ⊢
      rcases here with rfl | rfl
      · simp [counted]
        omega
      · simp [counted]
        omega

theorem laid_of_members {members : List (String × Value)} {timePart blockPart : Part}
    (found : partsOnly ["time", "block"] (.object members) = .ok [timePart, blockPart]) :
    Laid (.object members) timePart blockPart := by
  rw [partsOnly] at found
  split at found
  case isFalse => cases found
  case isTrue known =>
    rw [parts_eq] at found
    split at found
    case isFalse => cases found
    case isTrue record =>
      cases found
      simp only [List.all_eq_true, List.contains_iff_mem, List.mem_cons, List.not_mem_nil,
        or_false] at known
      -- Two names, of which neither is there twice.
      have few : members.length ≤ 2 := by
        simp only [isRecord, List.all_cons, List.all_nil, Bool.and_true, Bool.and_eq_true,
          decide_eq_true_eq] at record
        rw [length_eq_of_known known]
        omega
      rcases members with _ | ⟨⟨first, firstValue⟩, _ | ⟨⟨second, secondValue⟩, _ | ⟨third, rest⟩⟩⟩
      case nil => exact .nothing
      case cons.nil =>
        rcases known (first, firstValue) (by simp) with rfl | rfl
        · exact .time firstValue
        · exact .block firstValue
      case cons.cons.nil =>
        rcases known (first, firstValue) (by simp) with rfl | rfl <;>
          rcases known (second, secondValue) (by simp) with rfl | rfl
        · cases record
        · exact .timeBlock firstValue secondValue
        · exact .blockTime firstValue secondValue
        · cases record
      case cons.cons.cons => simp at few

theorem partsOnly_eq_ok_iff {value : Value} {timePart blockPart : Part} :
    partsOnly ["time", "block"] value = .ok [timePart, blockPart] ↔
      Laid value timePart blockPart := by
  constructor
  · intro found
    cases value with
    | object members => exact laid_of_members found
    | array items =>
        rcases items with _ | ⟨first, _ | ⟨second, _ | ⟨third, rest⟩⟩⟩ <;> cases found
        · exact .noItem
        · exact .item first
        · exact .items first second
    | _ => cases found
  · intro laid
    cases laid <;> rfl

/-! ## Shapes -/

/-- An object that gives this member: alone, or beside the other one as `null`. -/
inductive Gives (name other : String) (value : Value) : Value → Prop where
  | alone : Gives name other value (.object [(name, value)])
  | before : Gives name other value (.object [(name, value), (other, .null)])
  | behind : Gives name other value (.object [(other, .null), (name, value)])

/-- The values that a condition is read from. -/
inductive Shape : Value → Condition → Prop where
  | time {value : Value} {seconds : UInt64}
      (gives : Gives "time" "block" (.natural seconds.toNat) value) : Shape value (.time seconds)
  | timeItem (seconds : UInt64) : Shape (.array [.natural seconds.toNat]) (.time seconds)
  | timeItems (seconds : UInt64) :
      Shape (.array [.natural seconds.toNat, .null]) (.time seconds)
  | block {value named : Value} {number : UInt64} (names : NamesBlock named number)
      (gives : Gives "block" "time" named value) : Shape value (.block number)
  | blockItems {named : Value} {number : UInt64} (names : NamesBlock named number) :
      Shape (.array [.null, named]) (.block number)

theorem shape_iff {value : Value} {condition : Condition} :
    Shape value condition ↔
      ∃ timePart blockPart, Laid value timePart blockPart ∧
        Given timePart blockPart condition := by
  constructor
  · intro shape
    cases shape with
    | time gives =>
        cases gives with
        | alone => exact ⟨_, _, .time _, .time rfl rfl⟩
        | before => exact ⟨_, _, .timeBlock _ _, .time rfl rfl⟩
        | behind => exact ⟨_, _, .blockTime _ _, .time rfl rfl⟩
    | timeItem seconds => exact ⟨_, _, .item _, .time rfl rfl⟩
    | timeItems seconds => exact ⟨_, _, .items _ _, .time rfl rfl⟩
    | block names gives =>
        have there := Part.value?_given names.ne_null
        cases gives with
        | alone => exact ⟨_, _, .block _, .block rfl there names⟩
        | before => exact ⟨_, _, .blockTime _ _, .block rfl there names⟩
        | behind => exact ⟨_, _, .timeBlock _ _, .block rfl there names⟩
    | blockItems names =>
        exact ⟨_, _, .items _ _, .block rfl (Part.value?_given names.ne_null) names⟩
  · rintro ⟨timePart, blockPart, laid, given⟩
    cases given with
    | time given alone =>
        obtain ⟨rfl, -⟩ := Part.value?_eq_some_iff.mp given
        rcases Part.value?_eq_none_iff.mp alone with rfl | rfl | rfl
        · cases laid with
          | timeBlock => exact .time .before
          | blockTime => exact .time .behind
          | items => exact .timeItems _
        · cases laid
          exact .time .alone
        · cases laid
          exact .timeItem _
    | block alone given names =>
        obtain ⟨rfl, -⟩ := Part.value?_eq_some_iff.mp given
        rcases Part.value?_eq_none_iff.mp alone with rfl | rfl | rfl
        · cases laid with
          | timeBlock => exact .block names .behind
          | blockTime => exact .block names .before
          | items => exact .blockItems names
        · cases laid
          exact .block names .alone
        · cases laid

theorem decode_eq_ok_iff_shape {value : Value} {condition : Condition} :
    decode value = .ok condition ↔ Shape value condition := by
  simp only [decode_eq_ok_iff, partsOnly_eq_ok_iff, shape_iff]

/-! ## Plain shapes -/

/-- An integer of 64 bits, or a text of hexadecimal digits for one behind `0x`. -/
inductive PlainBlock : Value → UInt64 → Prop where
  | integer (number : UInt64) : PlainBlock (.natural number.toNat) number
  | text {text : String} {digits : List Char} {number : UInt64}
      (written : text.toList = '0' :: 'x' :: digits) (nonempty : digits ≠ [])
      (all : ∀ c ∈ digits, Text.isHexDigit c = true)
      (denotes : Text.valueOf 16 digits = number.toNat) : PlainBlock (.string text) number

/-- An object with the one member `time` or `block`. -/
inductive Plain : Value → Condition → Prop where
  | time (seconds : UInt64) : Plain (.object [("time", .natural seconds.toNat)]) (.time seconds)
  | block {named : Value} {number : UInt64} (names : PlainBlock named number) :
      Plain (.object [("block", named)]) (.block number)

theorem PlainBlock.namesBlock {named : Value} {number : UInt64}
    (plain : PlainBlock named number) : NamesBlock named number := by
  cases plain with
  | integer => exact .integer number
  | @text text digits number written nonempty all denotes =>
      have numeral : Text.IntegerText 16 Text.isHexDigit digits (Text.valueOf 16 digits) :=
        .unsigned nonempty all
      have marked : text.toList = ['0', 'x'] ++ digits := written
      rw [denotes] at numeral
      exact .text (by simp) marked numeral

theorem Plain.shape {value : Value} {condition : Condition} (plain : Plain value condition) :
    Shape value condition := by
  cases plain with
  | time seconds => exact .time .alone
  | block names => exact .block names.namesBlock .alone

theorem Plain.digits {text : String} {condition : Condition}
    (plain : Plain (.object [("block", .string text)]) condition) :
    ∃ digits, text.toList = '0' :: 'x' :: digits ∧ ∀ c ∈ digits, Text.isHexDigit c = true := by
  generalize same : Value.object [("block", .string text)] = value at plain
  cases plain with
  | time seconds => simp at same
  | block names =>
      cases names with
      | integer number => simp [Value.natural] at same
      | text written nonempty all denotes =>
          simp only [Value.object.injEq, List.cons.injEq, Prod.mk.injEq, Value.string.injEq,
            true_and, and_true] at same
          rw [same]
          exact ⟨_, written, all⟩

theorem Plain.members {members : List (String × Value)} {condition : Condition}
    (plain : Plain (.object members) condition) : members.length = 1 := by
  cases plain <;> rfl

/-- A value is read as a condition exactly when it has one of the shapes of that condition;
and the plain shapes are among them. -/
theorem conditions_read_from_shapes (value : Value) (condition : Condition) :
    (decode value = .ok condition ↔ Shape value condition) ∧
      (Plain value condition → decode value = .ok condition) :=
  ⟨decode_eq_ok_iff_shape, fun plain => decode_eq_ok_iff_shape.mpr plain.shape⟩

/-- Zeros in front of a block number do not count towards its 64 bits. -/
theorem padded_block_read :
    let value : Value := .object [("block", .string "0x00000000000000000000fF")]
    Plain value (.block 255) ∧ decode value = .ok (.block 255) := by
  intro value
  have plain : Plain value (.block 255) := by
    have all : ∀ c ∈ "00000000000000000000fF".toList, Text.isHexDigit c = true :=
      List.all_eq_true.mp rfl
    exact .block (.text rfl (by simp) all rfl)
  exact ⟨plain, (conditions_read_from_shapes value _).2 plain⟩

/-- The plain shapes are not all: digits without their mark are read in base sixteen, the
mark may have a capital letter and a plus sign behind it, the other member may be `null`,
and an array is read as well. -/
theorem more_than_plain_shapes_read :
    ¬(∀ value condition, decode value = .ok condition ↔ Plain value condition) ∧
      ∀ read ∈ ([
        (.object [("block", .string "150")], .block 336),
        (.object [("block", .string "0X96")], .block 150),
        (.object [("block", .string "0x+96")], .block 150),
        (.object [("time", .natural 7), ("block", .null)], .time 7),
        (.array [.natural 7], .time 7),
        (.array [.null, .string "0x96"], .block 150)] : List (Value × Condition)),
        decode read.1 = .ok read.2 ∧ ∀ condition, ¬Plain read.1 condition := by
  have unmarked : ∀ condition, ¬Plain (.object [("block", .string "150")]) condition := by
    intro condition plain
    obtain ⟨digits, written, -⟩ := plain.digits
    simp at written
  have capital : ∀ condition, ¬Plain (.object [("block", .string "0X96")]) condition := by
    intro condition plain
    obtain ⟨digits, written, -⟩ := plain.digits
    simp at written
  have signed : ∀ condition, ¬Plain (.object [("block", .string "0x+96")]) condition := by
    intro condition plain
    obtain ⟨digits, written, all⟩ := plain.digits
    obtain rfl : ['+', '9', '6'] = digits := by simpa using written
    simp [Text.isHexDigit] at all
  have two (first second : String × Value) :
      ∀ condition, ¬Plain (.object [first, second]) condition := by
    intro condition plain
    have one := plain.members
    simp at one
  have array (items : List Value) : ∀ condition, ¬Plain (.array items) condition := by
    rintro condition ⟨⟩
  refine ⟨fun same => unmarked _ ((same _ (.block 336)).mp rfl), ?_⟩
  simp only [List.forall_mem_cons, List.not_mem_nil, false_implies, implies_true, and_true]
  exact ⟨⟨rfl, unmarked⟩, ⟨rfl, capital⟩, ⟨rfl, signed⟩, ⟨rfl, two _ _⟩, ⟨rfl, array _⟩,
    rfl, array _⟩

end Condition

end TimedRelease
