import Mathlib.Tactic.SplitIfs
import TimedRelease.Json.Printer
import TimedRelease.Json.Reader
import TimedRelease.Proofs.Text.Numerals

/-!
# Strings read back

Each character of a string is written in one of three ways: behind a letter that
stands for it, by its code, or as it is.  The reader takes one step for each.
-/

namespace TimedRelease.Json

theorem scanUnit_low {n : Nat} (small : n < 256) (more : List Char) :
    scanUnit ('0' :: '0' :: Nat.digitChar (n / 16) :: Nat.digitChar (n % 16) :: more) =
      some (n, more) := by
  have high : n / 16 < 16 := by omega
  have low : n % 16 < 16 := by omega
  have zero : Text.isHexDigit '0' = true := by decide
  have nothing : Text.digitValue '0' = 0 := by decide
  have value : n / 16 * 16 + n % 16 = n := by omega
  simp [scanUnit, zero, nothing, Text.isHexDigit_digitChar high,
    Text.isHexDigit_digitChar low, Text.valueOf, Text.digitValue_digitChar high,
    Text.digitValue_digitChar low, value]

theorem stringStep_escape {letter c : Char} (meant : simpleEscape? letter = some c)
    (more : List Char) : stringStep ('\\' :: letter :: more) = .char c more := by
  have notUnit : letter ≠ 'u' := by
    rintro rfl
    simp [simpleEscape?] at meant
  -- The step for a single letter asks that it not be `u`, found among the hypotheses.
  simp [stringStep, meant]

theorem stringStep_unit {n : Nat} (small : n < 256) (more : List Char) :
    stringStep ('\\' :: 'u' :: '0' :: '0' :: Nat.digitChar (n / 16) ::
      Nat.digitChar (n % 16) :: more) = .char (Char.ofNat n) more := by
  have notLeading : isLeading n = false := by
    simp [isLeading]
    omega
  have notTrailing : isTrailing n = false := by
    simp [isTrailing]
    omega
  simp [stringStep, scanUnit_low small, notLeading, notTrailing]

theorem stringStep_plain {c : Char} (notQuote : c ≠ '"') (notEscape : c ≠ '\\')
    (visible : 0x20 ≤ c.toNat) (more : List Char) :
    stringStep (c :: more) = .char c more := by
  have shown : ¬c.toNat < 0x20 := by omega
  unfold stringStep
  split <;> simp_all

/-- One step takes what one character is written as. -/
theorem stringStep_escaped (c : Char) (more : List Char) :
    stringStep (escaped c ++ more) = .char c more := by
  have named {n : Nat} (same : c.toNat = n) : c = Char.ofNat n := by
    rw [← same, Char.ofNat_toNat]
  have letter {letter : Char} (meant : simpleEscape? letter = some c) :
      stringStep (['\\', letter] ++ more) = .char c more :=
    stringStep_escape meant more
  unfold escaped
  split_ifs with quote backslash eight nine ten twelve thirteen control
  · subst quote
    exact letter (by decide)
  · subst backslash
    exact letter (by decide)
  · apply letter
    rw [named eight]
    decide
  · apply letter
    rw [named nine]
    decide
  · apply letter
    rw [named ten]
    decide
  · apply letter
    rw [named twelve]
    decide
  · apply letter
    rw [named thirteen]
    decide
  · have step := stringStep_unit (n := c.toNat) (by omega) more
    rwa [Char.ofNat_toNat] at step
  · exact stringStep_plain quote backslash (by omega) more

theorem scanString_escaped (text done rest : List Char) {fuel : Nat}
    (enough : text.length < fuel) :
    scanString fuel (some done) (text.flatMap escaped ++ '"' :: rest) =
      some (some (done.reverse ++ text), rest) := by
  induction text generalizing done fuel with
  | nil =>
      obtain ⟨fuel, rfl⟩ := Nat.exists_eq_add_one_of_ne_zero (by omega : fuel ≠ 0)
      simp [scanString, stringStep]
  | cons c text induction =>
      obtain ⟨fuel, rfl⟩ := Nat.exists_eq_add_one_of_ne_zero (by omega : fuel ≠ 0)
      have left : text.length < fuel := by
        rw [List.length_cons] at enough
        omega
      rw [List.flatMap_cons, List.append_assoc, scanString, stringStep_escaped]
      have goesOn := induction (c :: done) left
      simpa using goesOn

theorem length_le_flatMap_escaped (text : List Char) :
    text.length ≤ (text.flatMap escaped).length := by
  induction text with
  | nil => simp
  | cons c text induction =>
      have some : 0 < (escaped c).length := by
        unfold escaped
        split_ifs <;> simp
      rw [List.flatMap_cons, List.length_append, List.length_cons]
      omega

/-- A string is read back after its opening quote. -/
theorem scanText_escaped (text : String) (rest : List Char) :
    scanText (text.toList.flatMap escaped ++ '"' :: rest) = some (some text, rest) := by
  have enough : text.toList.length <
      (text.toList.flatMap escaped ++ '"' :: rest).length + 1 := by
    have short := length_le_flatMap_escaped text.toList
    rw [List.length_append]
    omega
  have scanned := scanString_escaped text.toList [] rest enough
  rw [scanText, scanned]
  simp

end TimedRelease.Json
