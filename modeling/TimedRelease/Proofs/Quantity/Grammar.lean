import Mathlib.Data.Nat.Digits.Defs
import TimedRelease.Proofs.Text.Words
import TimedRelease.Quantity.Basic

/-!
# The grammar of typed quantities

`Denotes` is the grammar as a relation between a text in small letters and the
number it stands for, without a bound.  Reading agrees with it exactly below the
256-bit bound, so that no number wraps, and every other text counts as zero.
-/

namespace TimedRelease

namespace Text

/-- The number that digits denote by their places, the last one lowest. -/
def positional (base : Nat) (digits : List Char) : Nat :=
  Nat.ofDigits base (digits.reverse.map digitValue)

theorem valueOf_eq_positional (base : Nat) (digits : List Char) :
    valueOf base digits = positional base digits := by
  rw [positional, Nat.ofDigits_eq_foldr, List.foldr_map, List.foldr_reverse, valueOf]
  congr 1
  funext total c
  simp only [Nat.cast_id]
  ring

theorem readDecimal?_eq_some_iff {text : List Char} {n : Nat} :
    readDecimal? text = some n ↔
      text ≠ [] ∧ (∀ c ∈ text, isDecimalDigit c = true) ∧ positional 10 text = n := by
  rw [← valueOf_eq_positional]
  simp [readDecimal?, isDecimalNumeral, and_assoc]

theorem readHex?_eq_some_iff {text : List Char} {n : Nat} :
    readHex? text = some n ↔
      text ≠ [] ∧ (∀ c ∈ text, isHexDigit c = true) ∧ positional 16 text = n := by
  rw [← valueOf_eq_positional]
  simp [readHex?, isHexNumeral, and_assoc]

end Text

namespace Denomination

/-- Every name of a unit, with the power of ten that makes wei of it. -/
def table : List (String × Nat) :=
  [("wei", 0), ("kwei", 3), ("babbage", 3), ("femtoether", 3), ("mwei", 6),
    ("lovelace", 6), ("picoether", 6), ("gwei", 9), ("shannon", 9), ("nanoether", 9),
    ("nano", 9), ("szabo", 12), ("microether", 12), ("micro", 12), ("finney", 15),
    ("milliether", 15), ("milli", 15), ("ether", 18), ("kether", 21), ("grand", 21),
    ("mether", 24), ("gether", 27), ("tether", 30)]

theorem mem_table_of_ofName? {name : String} {unit : Denomination}
    (named : ofName? name = some unit) : (name, unit.decimals) ∈ table := by
  unfold ofName? at named
  split at named <;> simp only [Option.some.injEq, reduceCtorEq] at named
  all_goals
    subst named
    decide

theorem ofName?_of_mem_table {name : String} {decimals : Nat}
    (member : (name, decimals) ∈ table) :
    ∃ unit, ofName? name = some unit ∧ unit.decimals = decimals := by
  have named : ∀ entry ∈ table,
      (ofName? entry.1).map Denomination.decimals = some entry.2 := by decide
  simpa using named (name, decimals) member

/-- A magnitude of a unit, and its amount in wei.  Digits stand on at least one
side of a point, and no more of them behind it than the unit has decimals. -/
inductive Magnitude (decimals : Nat) : List Char → Nat → Prop where
  | whole {whole : List Char} (nonempty : whole ≠ [])
      (digits : ∀ c ∈ whole, Text.isDecimalDigit c = true) :
      Magnitude decimals whole (Text.positional 10 whole * 10 ^ decimals)
  | pointed {whole fraction : List Char} (nonempty : whole ++ fraction ≠ [])
      (digits : ∀ c ∈ whole ++ fraction, Text.isDecimalDigit c = true)
      (short : fraction.length ≤ decimals) :
      Magnitude decimals (whole ++ '.' :: fraction)
        (Text.positional 10 whole * 10 ^ decimals +
          Text.positional 10 fraction * 10 ^ (decimals - fraction.length))

theorem splitAtPoint_of_not_mem {magnitude : List Char} (absent : '.' ∉ magnitude) :
    splitAtPoint magnitude = (magnitude, []) := by
  have beforePoint : ∀ c ∈ magnitude, (c != '.') = true := by
    intro c member
    exact bne_iff_ne.mpr (ne_of_mem_of_not_mem member absent)
  rw [splitAtPoint, List.takeWhile_eq_self_iff.mpr beforePoint,
    List.dropWhile_eq_nil_iff.mpr beforePoint]
  rfl

theorem splitAtPoint_append {whole : List Char} (absent : '.' ∉ whole)
    (fraction : List Char) :
    splitAtPoint (whole ++ '.' :: fraction) = (whole, fraction) := by
  have beforePoint : ∀ c ∈ whole, (c != '.') = true := by
    intro c member
    exact bne_iff_ne.mpr (ne_of_mem_of_not_mem member absent)
  rw [splitAtPoint, List.takeWhile_append_of_pos beforePoint,
    List.dropWhile_append_of_pos beforePoint]
  simp

theorem point_not_mem_of_digits {digits : List Char}
    (all : ∀ c ∈ digits, Text.isDecimalDigit c = true) : '.' ∉ digits := by
  intro member
  have isDigit := all '.' member
  contradiction

theorem toWei?_eq_some_iff_of_split {unit : Denomination}
    {magnitude whole fraction : List Char} {word : Word256}
    (split : splitAtPoint magnitude = (whole, fraction)) :
    unit.toWei? magnitude = some word ↔
      whole ++ fraction ≠ [] ∧
        (∀ c ∈ whole ++ fraction, Text.isDecimalDigit c = true) ∧
        fraction.length ≤ unit.decimals ∧
        word.toNat = Text.positional 10 whole * 10 ^ unit.decimals +
          Text.positional 10 fraction * 10 ^ (unit.decimals - fraction.length) := by
  have guarded : ∀ (refuse : Prop) [Decidable refuse] (rest : Option Word256),
      (if refuse then none else rest) = some word ↔ ¬refuse ∧ rest = some word := by
    intro refuse _ rest
    split <;> simp_all
  simp only [toWei?, split, guarded, Word256.ofNat?_eq_some_iff, multiplier,
    Text.valueOf_eq_positional, Nat.pow_eq, Nat.not_lt]
  simp [or_imp, forall_and]

theorem toWei?_eq_some_iff {unit : Denomination} {magnitude : List Char}
    {word : Word256} :
    unit.toWei? magnitude = some word ↔
      Magnitude unit.decimals magnitude word.toNat := by
  constructor
  · intro read
    by_cases pointed : '.' ∈ magnitude
    · obtain ⟨whole, fraction, rfl, absent⟩ := List.eq_append_cons_of_mem pointed
      have split := splitAtPoint_append absent fraction
      obtain ⟨nonempty, digits, short, value⟩ :=
        (toWei?_eq_some_iff_of_split split).mp read
      rw [value]
      exact .pointed nonempty digits short
    · have split := splitAtPoint_of_not_mem pointed
      obtain ⟨nonempty, digits, _, value⟩ :=
        (toWei?_eq_some_iff_of_split split).mp read
      rw [List.append_nil] at nonempty digits
      rw [value, show Text.positional 10 [] = 0 from rfl, Nat.zero_mul, Nat.add_zero]
      exact .whole nonempty digits
  · intro denoted
    generalize value : word.toNat = n at denoted
    cases denoted with
    | whole nonempty digits =>
        have split := splitAtPoint_of_not_mem (point_not_mem_of_digits digits)
        refine (toWei?_eq_some_iff_of_split split).mpr ⟨?_, ?_, ?_, ?_⟩
        · rwa [List.append_nil]
        · rwa [List.append_nil]
        · exact Nat.zero_le _
        · rw [value, show Text.positional 10 [] = 0 from rfl, Nat.zero_mul, Nat.add_zero]
    | @pointed whole fraction nonempty digits short =>
        have wholeDigits : ∀ c ∈ whole, Text.isDecimalDigit c = true := by
          intro c member
          exact digits c (List.mem_append_left _ member)
        have split := splitAtPoint_append (point_not_mem_of_digits wholeDigits) fraction
        exact (toWei?_eq_some_iff_of_split split).mpr ⟨nonempty, digits, short, value⟩

end Denomination

namespace Quantity

/-- What a text in small letters stands for: digits of base sixteen behind a mark, a
magnitude and the name of its unit, or digits of base ten.  Shorthand letters stand
for zeros, and whatever follows the name of a unit is passed over. -/
inductive Denotes : List Char → Nat → Prop where
  | hexadecimal {digits : List Char} (nonempty : digits ≠ [])
      (all : ∀ c ∈ digits, Text.isHexDigit c = true) :
      Denotes ('0' :: 'x' :: digits) (Text.positional 16 digits)
  | amount {text magnitude unit : List Char} {others : List (List Char)}
      {decimals n : Nat} (unmarked : ¬['0', 'x'] <+: text)
      (words : Text.words text = magnitude :: unit :: others)
      (named : (String.ofList unit, decimals) ∈ Denomination.table)
      (scaled : Denomination.Magnitude decimals (expandShorthand magnitude) n) :
      Denotes text n
  | plain {text : List Char} (unmarked : ¬['0', 'x'] <+: text)
      (few : (Text.words text).length < 2)
      (nonempty : expandShorthand (Text.trim text) ≠ [])
      (all : ∀ c ∈ expandShorthand (Text.trim text), Text.isDecimalDigit c = true) :
      Denotes text (Text.positional 10 (expandShorthand (Text.trim text)))

theorem readLowered?_of_unmarked {text : List Char} (unmarked : ¬['0', 'x'] <+: text) :
    readLowered? text =
      match Text.words text with
      | [] => none
      | [numeral] =>
        (Text.readDecimal? (expandShorthand numeral)).bind Word256.ofNat?
      | magnitude :: unit :: _ =>
        (Denomination.ofName? (String.ofList unit)).bind
          fun unit => unit.toWei? (expandShorthand magnitude) := by
  unfold readLowered?
  split
  · exact (unmarked ⟨_, rfl⟩).elim
  · rfl

theorem readLowered?_marked_eq_some_iff {digits : List Char} {word : Word256} :
    readLowered? ('0' :: 'x' :: digits) = some word ↔
      Denotes ('0' :: 'x' :: digits) word.toNat := by
  have marked : ['0', 'x'] <+: '0' :: 'x' :: digits := ⟨digits, rfl⟩
  constructor
  · intro read
    obtain ⟨n, readDigits, fits⟩ := Option.bind_eq_some_iff.mp read
    obtain ⟨nonempty, all, rfl⟩ := Text.readHex?_eq_some_iff.mp readDigits
    rw [Word256.ofNat?_eq_some_iff.mp fits]
    exact .hexadecimal nonempty all
  · intro denoted
    generalize value : word.toNat = n at denoted
    cases denoted with
    | hexadecimal nonempty all =>
        have readDigits := Text.readHex?_eq_some_iff.mpr ⟨nonempty, all, rfl⟩
        exact Option.bind_eq_some_iff.mpr
          ⟨_, readDigits, Word256.ofNat?_eq_some_iff.mpr value⟩
    | amount unmarked words named scaled => exact (unmarked marked).elim
    | plain unmarked few nonempty all => exact (unmarked marked).elim

theorem denotes_of_unmarked {text : List Char} {word : Word256}
    (unmarked : ¬['0', 'x'] <+: text) (read : readLowered? text = some word) :
    Denotes text word.toNat := by
  rw [readLowered?_of_unmarked unmarked] at read
  split at read
  case h_1 => contradiction
  case h_2 numeral single =>
    obtain ⟨n, readDigits, fits⟩ := Option.bind_eq_some_iff.mp read
    obtain ⟨nonempty, all, rfl⟩ := Text.readDecimal?_eq_some_iff.mp readDigits
    rw [Word256.ofNat?_eq_some_iff.mp fits]
    have trimmed := Text.trim_of_words_eq_singleton single
    rw [← trimmed] at nonempty all ⊢
    exact .plain unmarked (by simp [single]) nonempty all
  case h_3 magnitude name others words =>
    obtain ⟨unit, named, scaled⟩ := Option.bind_eq_some_iff.mp read
    exact .amount unmarked words (Denomination.mem_table_of_ofName? named)
      (Denomination.toWei?_eq_some_iff.mp scaled)

theorem readLowered?_of_denotes {text : List Char} {word : Word256}
    (unmarked : ¬['0', 'x'] <+: text) (denoted : Denotes text word.toNat) :
    readLowered? text = some word := by
  rw [readLowered?_of_unmarked unmarked]
  generalize value : word.toNat = n at denoted
  cases denoted with
  | hexadecimal nonempty all => exact (unmarked ⟨_, rfl⟩).elim
  | amount _ words named scaled =>
      obtain ⟨unit, isUnit, rfl⟩ := Denomination.ofName?_of_mem_table named
      rw [← value] at scaled
      simp only [words]
      exact Option.bind_eq_some_iff.mpr
        ⟨unit, isUnit, Denomination.toWei?_eq_some_iff.mpr scaled⟩
  | plain _ few nonempty all =>
      have readDigits := Text.readDecimal?_eq_some_iff.mpr ⟨nonempty, all, rfl⟩
      cases words : Text.words text with
      | nil =>
          rw [Text.trim_of_words_eq_nil words] at nonempty
          contradiction
      | cons numeral others =>
          cases others with
          | nil =>
              rw [Text.trim_of_words_eq_singleton words] at readDigits value
              exact Option.bind_eq_some_iff.mpr
                ⟨_, readDigits, Word256.ofNat?_eq_some_iff.mpr value⟩
          | cons second others =>
              simp only [words, List.length_cons] at few
              omega

/-- Reading a text in small letters gives the number it denotes. -/
theorem readLowered?_eq_some_iff {text : List Char} {word : Word256} :
    readLowered? text = some word ↔ Denotes text word.toNat := by
  by_cases marked : ['0', 'x'] <+: text
  · obtain ⟨digits, rfl⟩ := marked
    exact readLowered?_marked_eq_some_iff
  · exact ⟨denotes_of_unmarked marked, readLowered?_of_denotes marked⟩

theorem amount?_parse_eq_some_iff {text : String} {word : Word256} :
    (parse text).amount? = some word ↔
      Denotes (Text.lowerCase text.toList) word.toNat :=
  readLowered?_eq_some_iff

/-- A quantity keeps its text; it is valid, with a number as its value, exactly when
its text in small letters denotes that number and the number has at most 256 bits;
and when there is no such number it is not valid and counts as zero. -/
theorem parse_denotes (text : String) :
    (parse text).text = text ∧
      (∀ n, ((parse text).isValid = true ∧ (parse text).value.toNat = n) ↔
        (Denotes (Text.lowerCase text.toList) n ∧ n < 2 ^ 256)) ∧
      ((¬∃ n, Denotes (Text.lowerCase text.toList) n ∧ n < 2 ^ 256) →
        (parse text).isValid = false ∧ (parse text).value = 0) := by
  have reads : ∀ n, ((parse text).isValid = true ∧ (parse text).value.toNat = n) ↔
      (Denotes (Text.lowerCase text.toList) n ∧ n < 2 ^ 256) := by
    intro n
    constructor
    · rintro ⟨valid, rfl⟩
      obtain ⟨word, amount⟩ := Option.isSome_iff_exists.mp valid
      have denoted := amount?_parse_eq_some_iff.mp amount
      have value : (parse text).value = word := by rw [Quantity.value, amount]; rfl
      rw [value]
      exact ⟨denoted, word.toNat_lt⟩
    · rintro ⟨denoted, fits⟩
      let word : Word256 := ⟨n, fits⟩
      have amount : (parse text).amount? = some word :=
        amount?_parse_eq_some_iff.mpr denoted
      rw [isValid, Quantity.value, amount]
      exact ⟨rfl, rfl⟩
  refine ⟨rfl, reads, ?_⟩
  intro nothing
  cases valid : (parse text).isValid with
  | true => exact (nothing ⟨_, (reads _).mp ⟨valid, rfl⟩⟩).elim
  | false => exact ⟨rfl, value_of_not_isValid valid⟩

end Quantity

end TimedRelease
