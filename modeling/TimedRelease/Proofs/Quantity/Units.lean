import TimedRelease.Proofs.Quantity.Grammar
import TimedRelease.Proofs.Text.Numerals

/-!
# Whole numbers of a unit

A number written in base ten in front of the name of a unit is read as that many units,
up to the largest word.
-/

namespace TimedRelease

namespace Text

theorem toLower_of_isDecimalDigit {c : Char} (digit : isDecimalDigit c = true) :
    c.toLower = c := by
  have notCapital : ¬(c.val ≥ 'A'.val ∧ c.val ≤ 'Z'.val) := by
    simp only [isDecimalDigit, Char.isDigit, ge_iff_le, Char.reduceVal,
      UInt32.le_iff_toNat_le, Bool.and_eq_true, decide_eq_true_eq] at digit ⊢
    simp only [UInt32.reduceToNat] at digit ⊢
    omega
  exact dif_neg notCapital

theorem small_of_isDecimalDigit {c : Char} (digit : isDecimalDigit c = true) :
    c.toNat < 0x80 ∧ c.toLower = c := by
  have bounds := toNat_of_isHexDigit (isHexDigit_of_isDecimalDigit digit)
  exact ⟨by omega, toLower_of_isDecimalDigit digit⟩

theorem isWord_decimal (n : Nat) : IsWord (decimal n) := by
  refine ⟨decimal_ne_nil n, ?_⟩
  intro c member
  exact isBlank_of_isHexDigit
    (isHexDigit_of_isDecimalDigit (isDecimalDigit_of_mem_decimal member))

theorem lowerCase_of_small {text : List Char}
    (small : ∀ c ∈ text, c.toNat < 0x80 ∧ c.toLower = c) : lowerCase text = text := by
  have ascii : isAscii text = true := by
    simp only [isAscii, List.all_eq_true, decide_eq_true_eq]
    intro c member
    exact (small c member).1
  have kept : text.map Char.toLower = text.map id := by
    apply List.map_congr_left
    intro c member
    exact (small c member).2
  rw [lowerCase_ascii text ascii, kept, List.map_id]

theorem words_pair {first second : List Char} (isFirst : IsWord first)
    (isSecond : IsWord second) : words (first ++ ' ' :: second) = [first, second] := by
  have behind : EndsWord (' ' :: second) := by
    simp [EndsWord, isBlank]
  rw [words_append_of_isWord isFirst behind, words_blank (by decide), isSecond.words_eq]

end Text

namespace Quantity

theorem expandShorthand_append (first second : List Char) :
    expandShorthand (first ++ second) = expandShorthand first ++ expandShorthand second :=
  List.flatMap_append

/-- A text without shorthand letters is left alone. -/
theorem expandShorthand_of_plain {numeral : List Char}
    (plain : ∀ c ∈ numeral, c ≠ 'k' ∧ c ≠ 'm' ∧ c ≠ 'g') : expandShorthand numeral = numeral := by
  induction numeral with
  | nil => rfl
  | cons c rest induction =>
      obtain ⟨⟨notKilo, notMega, notGiga⟩, others⟩ := List.forall_mem_cons.mp plain
      have kept := induction others
      rw [expandShorthand] at kept ⊢
      simp [expandLetter, notKilo, notMega, notGiga, kept]

theorem no_letter_of_isDecimalDigit {c : Char} (digit : Text.isDecimalDigit c = true) :
    c ≠ 'k' ∧ c ≠ 'm' ∧ c ≠ 'g' := by
  refine ⟨?_, ?_, ?_⟩ <;>
  · rintro rfl
    contradiction

theorem expandShorthand_of_digits {digits : List Char}
    (all : ∀ c ∈ digits, Text.isDecimalDigit c = true) : expandShorthand digits = digits :=
  expandShorthand_of_plain fun c member => no_letter_of_isDecimalDigit (all c member)

/-- The names of units are words in small letters of the seven-bit set. -/
theorem names_of_table {name : String} {decimals : Nat}
    (named : (name, decimals) ∈ Denomination.table) : name.toList ≠ [] ∧
      ∀ c ∈ name.toList, Text.isBlank c = false ∧ c.toNat < 0x80 ∧ c.toLower = c := by
  -- Characters are finitely many, so a decision over all of one name has to be Boolean.
  have all : Denomination.table.all (fun entry => !entry.1.toList.isEmpty &&
      entry.1.toList.all fun c =>
        !Text.isBlank c && decide (c.toNat < 0x80) && c.toLower == c) = true := by
    decide
  have small := List.all_eq_true.mp all (name, decimals) named
  simpa [and_assoc] using small

theorem isWord_of_table {name : String} {decimals : Nat}
    (named : (name, decimals) ∈ Denomination.table) : Text.IsWord name.toList := by
  obtain ⟨nonempty, letters⟩ := names_of_table named
  exact ⟨nonempty, fun c member => (letters c member).1⟩

/-- The mark of base sixteen begins no text whose first word has no `x`. -/
theorem unmarked_of_not_mem {word : List Char} (noMark : 'x' ∉ word) (rest : List Char) :
    ¬['0', 'x'] <+: word ++ ' ' :: rest := by
  rintro ⟨others, same⟩
  match word with
  | [] => simp at same
  | [c] => simp at same
  | c :: second :: more =>
      obtain ⟨-, same⟩ := List.cons.inj same
      obtain ⟨rfl, -⟩ := List.cons.inj same
      exact noMark (by simp)

/-- A number in base ten in front of the name of a unit denotes that many units. -/
theorem denotes_units {name : String} {decimals : Nat}
    (named : (name, decimals) ∈ Denomination.table) (n : Nat) :
    Denotes (Text.lowerCase (Text.decimal n ++ ' ' :: name.toList)) (n * 10 ^ decimals) := by
  obtain ⟨-, letters⟩ := names_of_table named
  have digits : ∀ c ∈ Text.decimal n, Text.isDecimalDigit c = true := by
    intro c member
    exact Text.isDecimalDigit_of_mem_decimal member
  have small : ∀ c ∈ Text.decimal n ++ ' ' :: name.toList,
      c.toNat < 0x80 ∧ c.toLower = c := by
    intro c member
    rcases List.mem_append.mp member with digit | rest
    · exact Text.small_of_isDecimalDigit (digits c digit)
    · rcases List.mem_cons.mp rest with rfl | letter
      · decide
      · exact (letters c letter).2
  have magnitude : Denomination.Magnitude decimals (expandShorthand (Text.decimal n))
      (n * 10 ^ decimals) := by
    have whole : Denomination.Magnitude decimals (Text.decimal n)
        (Text.positional 10 (Text.decimal n) * 10 ^ decimals) :=
      .whole (Text.decimal_ne_nil n) digits
    rwa [← Text.valueOf_eq_positional, Text.valueOf_decimal,
      ← expandShorthand_of_digits digits] at whole
  rw [Text.lowerCase_of_small small]
  apply Denotes.amount
  · apply unmarked_of_not_mem
    intro member
    exact absurd (digits 'x' member) (by decide)
  · exact Text.words_pair (Text.isWord_decimal n) (isWord_of_table named)
  · simpa using named
  · exact magnitude

/-- It is read as its amount, when that has at most 256 bits. -/
theorem amount?_parse_units {name : String} {decimals : Nat}
    (named : (name, decimals) ∈ Denomination.table) {n : Nat} {word : Word256}
    (fits : word.toNat = n * 10 ^ decimals) :
    (parse (Text.decimalText n ++ " " ++ name)).amount? = some word := by
  have text : (Text.decimalText n ++ " " ++ name).toList =
      Text.decimal n ++ ' ' :: name.toList := by
    simp [Text.decimalText]
  rw [amount?_parse_eq_some_iff, text, fits]
  exact denotes_units named n

theorem value_parse_units {name : String} {decimals : Nat}
    (named : (name, decimals) ∈ Denomination.table) {n : Nat} {word : Word256}
    (fits : word.toNat = n * 10 ^ decimals) :
    (parse (Text.decimalText n ++ " " ++ name)).value = word := by
  rw [Quantity.value, amount?_parse_units named fits]
  rfl

end Quantity

end TimedRelease
