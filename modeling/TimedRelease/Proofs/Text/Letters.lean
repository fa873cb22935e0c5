import Mathlib.Tactic.SplitIfs
import TimedRelease.Proofs.Text.Numerals
import TimedRelease.Text.LowerCase

/-!
# Letters in either case

Two texts that differ only in the case of seven-bit letters are the same in small
letters.  A digit of base sixteen stays one in the other case.
-/

namespace TimedRelease.Text

theorem toNat_toLower (c : Char) :
    c.toLower.toNat = if 65 ≤ c.toNat ∧ c.toNat ≤ 90 then c.toNat + 32 else c.toNat := by
  have least : 'A'.val ≤ c.val ↔ 65 ≤ c.toNat := UInt32.le_iff_toNat_le
  have greatest : c.val ≤ 'Z'.val ↔ c.toNat ≤ 90 := UInt32.le_iff_toNat_le
  delta Char.toLower
  simp only [ge_iff_le, least, greatest]
  split
  · rename_i capital
    have sum : (c.val + ('a'.val - 'A'.val)).toNat = (c.toNat + 32) % 2 ^ 32 :=
      UInt32.toNat_add ..
    exact sum.trans (Nat.mod_eq_of_lt (by omega))
  · rfl

theorem toNat_toUpper (c : Char) :
    c.toUpper.toNat = if 97 ≤ c.toNat ∧ c.toNat ≤ 122 then c.toNat - 32 else c.toNat := by
  have least : 'a'.val ≤ c.val ↔ 97 ≤ c.toNat := UInt32.le_iff_toNat_le
  have greatest : c.val ≤ 'z'.val ↔ c.toNat ≤ 122 := UInt32.le_iff_toNat_le
  delta Char.toUpper
  simp only [least, greatest]
  split
  · rename_i small
    -- The distance is added around the end of the words.
    have sum : (c.val + ('A'.val - 'a'.val)).toNat = (c.toNat + (2 ^ 32 - 32)) % 2 ^ 32 :=
      UInt32.toNat_add ..
    refine sum.trans ?_
    omega
  · rfl

@[simp] theorem toLower_toLower (c : Char) : c.toLower.toLower = c.toLower := by
  apply Char.toNat_inj.mp
  rw [toNat_toLower, toNat_toLower]
  split_ifs <;> omega

@[simp] theorem toLower_toUpper (c : Char) : c.toUpper.toLower = c.toLower := by
  apply Char.toNat_inj.mp
  rw [toNat_toLower, toNat_toUpper, toNat_toLower]
  split_ifs <;> omega

theorem isHexDigit_iff_toNat {c : Char} :
    isHexDigit c = true ↔ 48 ≤ c.toNat ∧ c.toNat ≤ 57 ∨ 65 ≤ c.toNat ∧ c.toNat ≤ 70 ∨
      97 ≤ c.toNat ∧ c.toNat ≤ 102 := by
  refine ⟨toNat_of_isHexDigit, ?_⟩
  intro bounds
  simp only [isHexDigit, Char.isDigit, ge_iff_le, Char.le_def, UInt32.le_iff_toNat_le,
    Char.reduceVal, UInt32.reduceToNat, Bool.or_eq_true, Bool.and_eq_true,
    decide_eq_true_eq]
  rw [Char.toNat] at bounds
  omega

@[simp] theorem isHexDigit_toLower (c : Char) : isHexDigit c.toLower = isHexDigit c := by
  rw [Bool.eq_iff_iff, isHexDigit_iff_toNat, isHexDigit_iff_toNat, toNat_toLower]
  split_ifs <;> omega

@[simp] theorem isBlank_toLower (c : Char) : isBlank c.toLower = isBlank c := by
  simp only [isBlank, toNat_toLower]
  split
  · rw [Bool.eq_iff_iff]
    simp only [Bool.or_eq_true, Bool.and_eq_true, decide_eq_true_eq, beq_iff_eq]
    omega
  · rfl

/-- The digits of base sixteen are in the seven-bit set. -/
theorem forall_isHexDigit (property : Char → Prop)
    (all : ∀ n < 128, isHexDigit (Char.ofNat n) = true → property (Char.ofNat n)) {c : Char}
    (digit : isHexDigit c = true) : property c := by
  have bounds := toNat_of_isHexDigit digit
  have here := all c.toNat (by omega)
  rw [Char.ofNat_toNat] at here
  exact here digit

/-- Digits have one value in either case. -/
theorem digitValue_toLower {c : Char} (digit : isHexDigit c = true) :
    digitValue c.toLower = digitValue c :=
  forall_isHexDigit (fun c => digitValue c.toLower = digitValue c) (by decide) digit

theorem digitValue_lt_of_isHexDigit {c : Char} (digit : isHexDigit c = true) :
    digitValue c < 16 :=
  forall_isHexDigit (fun c => digitValue c < 16) (by decide) digit

theorem digitChar_digitValue {c : Char} (digit : isHexDigit c = true) :
    Nat.digitChar (digitValue c) = c.toLower :=
  forall_isHexDigit (fun c => Nat.digitChar (digitValue c) = c.toLower) (by decide) digit

/-- The texts differ at most in the case of letters. -/
def SameLetters (first second : List Char) : Prop :=
  first.map Char.toLower = second.map Char.toLower

instance (first second : List Char) : Decidable (SameLetters first second) :=
  inferInstanceAs (Decidable (_ = _))

namespace SameLetters

variable {first second : List Char}

theorem small (text : List Char) : SameLetters (text.map Char.toLower) text := by
  simp [SameLetters]

theorem trans {third : List Char} (same : SameLetters first second)
    (alsoSame : SameLetters second third) : SameLetters first third :=
  Eq.trans same alsoSame

theorem length_eq (same : SameLetters first second) : first.length = second.length := by
  simpa using congrArg List.length same

theorem exists_mem (same : SameLetters first second) {c : Char} (member : c ∈ first) :
    ∃ d ∈ second, d.toLower = c.toLower := by
  have small : c.toLower ∈ second.map Char.toLower := by
    rw [← same]
    exact List.mem_map_of_mem member
  exact List.mem_map.mp small

theorem all_isHexDigit (same : SameLetters first second)
    (digits : ∀ c ∈ second, isHexDigit c = true) : ∀ c ∈ first, isHexDigit c = true := by
  intro c member
  obtain ⟨d, among, sameLetter⟩ := same.exists_mem member
  rw [← isHexDigit_toLower, ← sameLetter, isHexDigit_toLower]
  exact digits d among

theorem isAscii (same : SameLetters first second) (ascii : Text.isAscii second = true) :
    Text.isAscii first = true := by
  simp only [Text.isAscii, List.all_eq_true, decide_eq_true_eq] at ascii ⊢
  intro c member
  obtain ⟨d, among, sameLetter⟩ := same.exists_mem member
  have codes := congrArg Char.toNat sameLetter
  have bound := ascii d among
  rw [toNat_toLower, toNat_toLower] at codes
  split_ifs at codes <;> omega

theorem lowerCase_eq (same : SameLetters first second) (ascii : Text.isAscii second = true) :
    lowerCase first = lowerCase second := by
  rw [lowerCase_ascii _ (same.isAscii ascii), lowerCase_ascii _ ascii]
  exact same

theorem isBlank_eq (same : SameLetters first second) (solid : ∀ c ∈ second, isBlank c = false) :
    ∀ c ∈ first, isBlank c = false := by
  intro c member
  obtain ⟨d, among, sameLetter⟩ := same.exists_mem member
  rw [← isBlank_toLower, ← sameLetter, isBlank_toLower]
  exact solid d among

end SameLetters

theorem isAscii_of_isHexDigit {text : List Char}
    (digits : ∀ c ∈ text, isHexDigit c = true) : isAscii text = true := by
  simp only [isAscii, List.all_eq_true, decide_eq_true_eq]
  intro c member
  have bounds := toNat_of_isHexDigit (digits c member)
  omega

theorem lowerCase_of_isHexDigit {text : List Char}
    (digits : ∀ c ∈ text, isHexDigit c = true) : lowerCase text = text.map Char.toLower :=
  lowerCase_ascii text (isAscii_of_isHexDigit digits)

/-! ## In front of other text -/

theorem isAscii_append {front rest : List Char} :
    isAscii (front ++ rest) = true ↔ isAscii front = true ∧ isAscii rest = true := by
  simp [isAscii]

theorem not_isAscii_lowerChar_capitalSigma : isAscii (lowerChar capitalSigma) = false := by
  decide +kernel

/-- Only a capital sigma takes notice of what was passed, and neither of its small letters is
in the seven-bit set. -/
theorem lowerAfter_congr {before text : List Char}
    (ascii : isAscii (lowerAfter before text) = true) (others : List Char) :
    lowerAfter others text = lowerAfter before text := by
  induction text generalizing before others with
  | nil => rfl
  | cons c rest induction =>
      rw [lowerAfter, isAscii_append] at ascii
      obtain ⟨here, later⟩ := ascii
      have notSigma : c ≠ capitalSigma := by
        rintro rfl
        split at here
        · contradiction
        · rw [not_isAscii_lowerChar_capitalSigma] at here
          contradiction
      simp [lowerAfter, notSigma, induction later (c :: others)]

theorem lowerAfter_append {front : List Char} (ascii : isAscii front = true)
    (before rest : List Char) :
    lowerAfter before (front ++ rest) =
      front.map Char.toLower ++ lowerAfter (front.reverse ++ before) rest := by
  induction front generalizing before with
  | nil => rfl
  | cons c others induction =>
      obtain ⟨small, othersAscii⟩ : c.toNat < 0x80 ∧ isAscii others = true := by
        simpa [isAscii] using ascii
      have notSigma : c ≠ capitalSigma := by
        rintro rfl
        exact absurd small (by decide)
      simp [lowerAfter, notSigma, lowerChar_ascii small, induction othersAscii (c :: before)]

theorem lowerCase_append {front rest : List Char} (ascii : isAscii front = true)
    (restAscii : isAscii (lowerCase rest) = true) :
    lowerCase (front ++ rest) = front.map Char.toLower ++ lowerCase rest := by
  rw [lowerCase, lowerAfter_append ascii]
  exact congrArg _ (lowerAfter_congr restAscii _)

end TimedRelease.Text
