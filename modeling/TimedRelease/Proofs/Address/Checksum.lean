import TimedRelease.Address
import TimedRelease.Proofs.Text.Letters

/-!
# Checksums in letter case

Whatever the hash, the checksum form of an address depends on the address alone and not
on the case its letters are given in.  Of all ways to write an address two raise no
warning: the checksum form and small letters throughout.
-/

namespace TimedRelease.Address

open Text (SameLetters)

/-- The forty hexadecimal digits of an address. -/
structure IsDigits (digits : List Char) : Prop where
  length : digits.length = digitCount
  hexadecimal : ∀ c ∈ digits, Text.isHexDigit c = true

/-- Digits behind the mark `0x`. -/
def marked (digits : List Char) : List Char :=
  '0' :: 'x' :: digits

theorem IsDigits.of_sameLetters {digits variant : List Char} (isDigits : IsDigits digits)
    (same : SameLetters variant digits) : IsDigits variant :=
  ⟨same.length_eq.trans isDigits.length, same.all_isHexDigit isDigits.hexadecimal⟩

theorem isWellFormed_iff {address : List Char} :
    isWellFormed address = true ↔ ∃ digits, IsDigits digits ∧ address = marked digits := by
  constructor
  · intro formed
    unfold isWellFormed at formed
    split at formed
    · rename_i digits
      simp only [Bool.and_eq_true, beq_iff_eq, List.all_eq_true] at formed
      exact ⟨digits, ⟨formed.1, formed.2⟩, rfl⟩
    · contradiction
  · rintro ⟨digits, isDigits, rfl⟩
    simp only [isWellFormed, marked, Bool.and_eq_true, beq_iff_eq, List.all_eq_true]
    exact ⟨isDigits.length, isDigits.hexadecimal⟩

theorem warning?_ne_malformed_iff [Digest.Hash] {address : List Char} :
    warning? address ≠ some .malformed ↔ address = [] ∨ isWellFormed address = true := by
  cases address with
  | nil => simp [warning?]
  | cons c rest =>
      cases formed : isWellFormed (c :: rest) with
      | true =>
          simp only [warning?, formed]
          split_ifs <;> simp_all
      | false => simp [warning?, formed]

theorem warning?_eq_malformed_iff [Digest.Hash] {address : List Char} :
    warning? address = some .malformed ↔
      address ≠ [] ∧ ¬∃ digits, IsDigits digits ∧ address = marked digits := by
  rw [← isWellFormed_iff, ← not_or, ← warning?_ne_malformed_iff, ne_eq, Decidable.not_not]

/-! ## The checksum form -/

/-- No mark is mistaken for digits. -/
theorem withoutHexMark_of_isHexDigit {text : List Char}
    (digits : ∀ c ∈ text, Text.isHexDigit c = true) : Text.withoutHexMark text = text := by
  unfold Text.withoutHexMark
  split
  · exact absurd (digits 'x' (by simp)) (by decide)
  · exact absurd (digits 'X' (by simp)) (by decide)
  · rfl

theorem length_hashNibbles [Digest.Hash] (text : List Char) : (hashNibbles text).length = 64 := by
  simp [hashNibbles, nibbles, List.length_flatMap, List.map_const']

theorem toLower_caseFor (c : Char) (nibble : Nat) : (caseFor c nibble).toLower = c.toLower := by
  unfold caseFor
  split
  · exact Text.toLower_toUpper c
  · rfl

/-- The digits are those of the text in another case. -/
theorem sameLetters_checksumDigits [Digest.Hash] {lowered : List Char}
    (length : lowered.length = digitCount) : SameLetters (checksumDigits lowered) lowered := by
  have enough : lowered.length ≤ (hashNibbles lowered).length := by
    rw [length, length_hashNibbles]
    decide
  calc (checksumDigits lowered).map Char.toLower
      = ((lowered.zip (hashNibbles lowered)).map Prod.fst).map Char.toLower := by
        rw [checksumDigits, ← length, List.take_length, List.map_map, List.map_map]
        apply List.map_congr_left
        rintro ⟨c, nibble⟩ _
        exact toLower_caseFor c nibble
    _ = lowered.map Char.toLower := by rw [List.map_fst_zip enough]

section

variable [Digest.Hash] {digits variant : List Char}

theorem checksummed_of_isDigits (isDigits : IsDigits digits) :
    checksummed digits = marked (checksumDigits (digits.map Char.toLower)) := by
  rw [checksummed, withoutHexMark_of_isHexDigit isDigits.hexadecimal,
    Text.lowerCase_of_isHexDigit isDigits.hexadecimal]
  rfl

/-- Either mark is taken off before anything else. -/
theorem checksummed_marked (isDigits : IsDigits digits) :
    checksummed (marked digits) = checksummed digits ∧
      checksummed ('0' :: 'X' :: digits) = checksummed digits := by
  have unmarked := withoutHexMark_of_isHexDigit isDigits.hexadecimal
  constructor <;> rw [checksummed, checksummed, unmarked] <;> rfl

theorem checksummed_sameLetters (isDigits : IsDigits digits)
    (same : SameLetters variant digits) : checksummed variant = checksummed digits := by
  rw [checksummed_of_isDigits isDigits,
    checksummed_of_isDigits (isDigits.of_sameLetters same), same]

/-- The digits of the checksum form are those of the address in another case. -/
theorem exists_sameLetters_checksummed (isDigits : IsDigits digits) :
    ∃ variant, SameLetters variant digits ∧ checksummed digits = marked variant := by
  have small : SameLetters (checksumDigits (digits.map Char.toLower)) (digits.map Char.toLower) :=
    sameLetters_checksumDigits (by simpa using isDigits.length)
  exact ⟨_, small.trans (SameLetters.small digits), checksummed_of_isDigits isDigits⟩

theorem warning?_of_sameLetters (isDigits : IsDigits digits)
    (same : SameLetters variant digits) :
    warning? (marked variant) =
      if variant = digits.map Char.toLower ∨ marked variant = checksummed digits then none
      else some .badChecksum := by
  have isVariant := isDigits.of_sameLetters same
  have formed : isWellFormed (marked variant) = true := isWellFormed_iff.mpr ⟨_, isVariant, rfl⟩
  have checksum : checksummed (marked variant) = checksummed digits := by
    rw [(checksummed_marked isVariant).1, checksummed_sameLetters isDigits same]
  have ascii : Text.isAscii (marked variant) = true := by
    simpa [marked, Text.isAscii] using Text.isAscii_of_isHexDigit isVariant.hexadecimal
  have lowered : Text.lowerCase (marked variant) = marked (digits.map Char.toLower) := by
    rw [Text.lowerCase_ascii _ ascii, ← same]
    rfl
  have small : marked (digits.map Char.toLower) = marked variant ↔
      variant = digits.map Char.toLower := by
    simp [marked, eq_comm]
  have notEmpty : (marked variant).isEmpty = false := rfl
  simp only [warning?, formed, checksum, lowered, ne_eq, small, notEmpty]
  by_cases lower : variant = digits.map Char.toLower
  · simp [lower]
  · by_cases agrees : marked variant = checksummed digits <;> simp [lower, agrees]

theorem checksumText_ofList (text : List Char) :
    checksumText (String.ofList text) = String.ofList (checksummed text) := by
  rw [checksumText, String.toList_ofList]

/-- Whatever the hash: a text that is not empty is malformed unless it is forty hexadecimal
digits behind the mark.  All ways to write such digits, with a mark or without, have one
checksum form, which differs from them in letter case at most and is its own checksum form.
With the mark, exactly that form and the one in small letters raise no warning, and every
other has a bad checksum. -/
theorem letter_case_settles_warning :
    (∀ text : String, (classify text).warning = some .malformed ↔
      text ≠ "" ∧ ¬∃ digits, IsDigits digits ∧ text = String.ofList (marked digits)) ∧
    (∀ digits, IsDigits digits →
      let address := String.ofList (marked digits)
      (∀ variant, SameLetters variant digits →
        checksumText (String.ofList variant) = checksumText address ∧
        checksumText (String.ofList (marked variant)) = checksumText address ∧
        checksumText (String.ofList ('0' :: 'X' :: variant)) = checksumText address) ∧
      (∃ variant, SameLetters variant digits ∧
        checksumText address = String.ofList (marked variant)) ∧
      checksumText (checksumText address) = checksumText address ∧
      (∀ variant, SameLetters variant digits →
        (classify (String.ofList (marked variant))).warning =
          if variant = digits.map Char.toLower ∨
            String.ofList (marked variant) = checksumText address then none
          else some .badChecksum)) := by
  refine ⟨?_, ?_⟩
  · intro text
    have asList (digits : List Char) :
        text = String.ofList (marked digits) ↔ text.toList = marked digits := by
      rw [← String.toList_inj, String.toList_ofList]
    simp only [classify, warning?_eq_malformed_iff, asList, ne_eq, String.toList_eq_nil_iff]
  · intro digits isDigits address
    have checksum : checksumText address = String.ofList (checksummed digits) := by
      rw [checksumText_ofList, (checksummed_marked isDigits).1]
    obtain ⟨cased, casedSame, form⟩ := exists_sameLetters_checksummed isDigits
    refine ⟨?_, ⟨cased, casedSame, checksum.trans (congrArg String.ofList form)⟩, ?_, ?_⟩
    · intro variant same
      have isVariant := isDigits.of_sameLetters same
      obtain ⟨ofMarked, ofCapital⟩ := checksummed_marked isVariant
      rw [checksum, checksumText_ofList, checksumText_ofList, checksumText_ofList, ofMarked,
        ofCapital, checksummed_sameLetters isDigits same]
      exact ⟨rfl, rfl, rfl⟩
    · have isCased := isDigits.of_sameLetters casedSame
      rw [checksum, checksumText_ofList, form, (checksummed_marked isCased).1,
        checksummed_sameLetters isDigits casedSame, form]
    · intro variant same
      simp only [checksum, String.ofList_inj]
      exact (congrArg warning? String.toList_ofList).trans (warning?_of_sameLetters isDigits same)

end

/-- With a hash whose digits are zero and fifteen in turn every other letter is a capital in
the checksum form, and capitals throughout have a bad checksum. -/
theorem capitals_have_bad_checksum :
    let hash : Digest.Hash := ⟨fun _ => Vector.replicate 32 0x0F⟩
    let digits := (List.replicate 20 ['a', 'b']).flatten
    let cased := (List.replicate 20 ['a', 'B']).flatten
    let capitals := (List.replicate 20 ['A', 'B']).flatten
    IsDigits digits ∧ SameLetters cased digits ∧ SameLetters capitals digits ∧
    @checksumText hash (String.ofList capitals) = String.ofList (marked cased) ∧
    (@classify hash (String.ofList (marked capitals))).warning = some .badChecksum ∧
    (@classify hash (String.ofList (marked cased))).warning = none ∧
    (@classify hash (String.ofList (marked digits))).warning = none := by
  intro hash digits cased capitals
  have hexadecimal : digits.all Text.isHexDigit = true := by decide
  have isDigits : IsDigits digits := ⟨rfl, List.all_eq_true.mp hexadecimal⟩
  have same : SameLetters cased digits := by decide
  have capitalsSame : SameLetters capitals digits := by decide
  obtain ⟨ofVariant, -, -, warnings⟩ := (@letter_case_settles_warning hash).2 digits isDigits
  have form : @checksumText hash (String.ofList (marked digits)) =
      String.ofList (marked cased) := by
    rw [checksumText_ofList]
    decide
  refine ⟨isDigits, same, capitalsSame, (ofVariant capitals capitalsSame).1.trans form, ?_, ?_, ?_⟩
  · rw [warnings capitals capitalsSame, form]
    decide
  · rw [warnings cased same, form]
    exact if_pos (.inr rfl)
  · rw [warnings digits (by decide), form]
    exact if_pos (.inl (by decide))

end TimedRelease.Address
