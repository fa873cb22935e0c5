import TimedRelease.Proofs.Text.Letters
import TimedRelease.Proofs.Text.Words

/-!
# Blanks in small letters

A blank has no case, and no other character has a blank among its small letters.  A search
for a neighbouring letter ends at a blank.  The parts of a text around a blank are therefore
lower-cased on their own, and the words of a text in small letters are its words in small
letters.
-/

namespace TimedRelease.Text

/-! ## Blanks in the case tables -/

/-- The code points of the blank characters. -/
def blankCodes : List Nat :=
  [0x09, 0x0A, 0x0B, 0x0C, 0x0D, 0x20, 0x85, 0xA0, 0x1680, 0x2000, 0x2001, 0x2002, 0x2003,
    0x2004, 0x2005, 0x2006, 0x2007, 0x2008, 0x2009, 0x200A, 0x2028, 0x2029, 0x202F, 0x205F,
    0x3000]

theorem isBlank_iff_mem_blankCodes {c : Char} : isBlank c = true ↔ c.toNat ∈ blankCodes := by
  simp only [isBlank, blankCodes, Bool.or_eq_true, Bool.and_eq_true, decide_eq_true_eq,
    beq_iff_eq, List.mem_cons, List.not_mem_nil, or_false]
  omega

theorem isCased_of_isBlank {c : Char} (blank : isBlank c = true) : isCased c = false := by
  have all : ∀ code ∈ blankCodes, CaseTable.cased.any (·.holds code) = false := by
    decide +kernel
  exact all _ (isBlank_iff_mem_blankCodes.mp blank)

theorem isCaseIgnorable_of_isBlank {c : Char} (blank : isBlank c = true) :
    isCaseIgnorable c = false := by
  have all : ∀ code ∈ blankCodes, CaseTable.ignorable.any (·.holds code) = false := by
    decide +kernel
  exact all _ (isBlank_iff_mem_blankCodes.mp blank)

theorem ne_capitalSigma_of_isBlank {c : Char} (blank : isBlank c = true) : c ≠ capitalSigma := by
  rintro rfl
  exact absurd blank (by decide +kernel)

theorem lowerChar_of_isBlank {c : Char} (blank : isBlank c = true) : lowerChar c = [c] := by
  have small : ∀ code ∈ blankCodes, ¬(65 ≤ code ∧ code ≤ 90) ∧ code ≠ 0x130 ∧
      CaseTable.capitals.all (fun run => !run.holds code) = true := by decide +kernel
  obtain ⟨noCapital, notDotted, inNoRun⟩ := small _ (isBlank_iff_mem_blankCodes.mp blank)
  have nothing : CaseTable.capitals.find? (·.holds c.toNat) = none := by
    simpa [List.find?_eq_none] using inNoRun
  have same : c.toLower = c := by
    apply Char.toNat_inj.mp
    rw [toNat_toLower, if_neg noCapital]
  simp [lowerChar, notDotted, nothing, same]

/-- The small letters of a run of capitals hold no blank. -/
theorem not_blank_of_holds {run : CapitalRun} (member : run ∈ CaseTable.capitals) {code : Nat}
    (holds : run.holds code = true) : ((code : Int) + run.offset).toNat ∉ blankCodes := by
  have all : ∀ run ∈ CaseTable.capitals, ∀ blank ∈ blankCodes,
      (blank : Int) < run.first + run.offset ∨ run.last + run.offset < (blank : Int) := by
    decide +kernel
  intro blank
  have apart := all run member _ blank
  have positive : ∀ blank ∈ blankCodes, 0 < blank := by decide
  have visible := positive _ blank
  simp only [CapitalRun.holds, Bool.and_eq_true, decide_eq_true_eq] at holds
  omega

theorem isBlank_of_mem_lowerChar {c d : Char} (solid : isBlank c = false)
    (member : d ∈ lowerChar c) : isBlank d = false := by
  unfold lowerChar at member
  split at member
  · rw [List.mem_singleton.mp member, isBlank_toLower, solid]
  · split at member
    · simp only [List.mem_cons, List.not_mem_nil, or_false] at member
      rcases member with rfl | rfl <;> decide
    · split at member
      · rename_i run found
        have holds : run.holds c.toNat = true := by simpa using List.find?_some found
        have apart := not_blank_of_holds (List.mem_of_find?_eq_some found) holds
        rw [List.mem_singleton.mp member, Bool.eq_false_iff, ne_eq, isBlank_iff_mem_blankCodes]
        by_cases valid : ((c.toNat : Int) + run.offset).toNat.isValidChar
        · rw [Char.ofNat, dif_pos valid]
          exact apart
        · rw [Char.ofNat, dif_neg valid]
          decide
      · rw [List.mem_singleton.mp member, solid]

theorem lowerChar_ne_nil (c : Char) : lowerChar c ≠ [] := by
  unfold lowerChar
  split
  · simp
  · split
    · simp
    · split <;> simp

/-! ## Small letters around a blank -/

variable {c : Char}

theorem meetsLetter_append_blank (blank : isBlank c = true) (text rest : List Char) :
    meetsLetter (text ++ c :: rest) = meetsLetter text := by
  have stops : (c :: rest).dropWhile isCaseIgnorable = c :: rest :=
    List.dropWhile_cons_of_neg (by simp [isCaseIgnorable_of_isBlank blank])
  unfold meetsLetter
  rw [List.dropWhile_append, stops]
  cases text.dropWhile isCaseIgnorable with
  | nil => exact isCased_of_isBlank blank
  | cons d others => rfl

theorem lowerAfter_append_blank (blank : isBlank c = true) (before text rest : List Char) :
    lowerAfter before (text ++ c :: rest) =
      lowerAfter before text ++ c :: lowerAfter (c :: (text.reverse ++ before)) rest := by
  induction text generalizing before with
  | nil => simp [lowerAfter, ne_capitalSigma_of_isBlank blank, lowerChar_of_isBlank blank]
  | cons d text induction =>
      simp [lowerAfter, meetsLetter_append_blank blank, induction]

/-- What was passed before a blank makes no difference. -/
theorem lowerAfter_behind_blank (blank : isBlank c = true) (passed before text : List Char) :
    lowerAfter (passed ++ c :: before) text = lowerAfter passed text := by
  induction text generalizing passed with
  | nil => rfl
  | cons d text induction =>
      have others := induction (d :: passed)
      rw [List.cons_append] at others
      simp only [lowerAfter, meetsLetter_append_blank blank, others]

theorem lowerCase_append_blank (blank : isBlank c = true) (text rest : List Char) :
    lowerCase (text ++ c :: rest) = lowerCase text ++ c :: lowerCase rest := by
  rw [lowerCase, lowerAfter_append_blank blank]
  exact congrArg (lowerCase text ++ c :: ·) (lowerAfter_behind_blank blank [] _ rest)

theorem lowerCase_allBlank_append {before : List Char} (blank : AllBlank before)
    (text : List Char) : lowerCase (before ++ text) = before ++ lowerCase text := by
  induction before with
  | nil => rfl
  | cons c rest induction =>
      obtain ⟨headBlank, restBlank⟩ := allBlank_cons.mp blank
      have cut := lowerCase_append_blank headBlank [] (rest ++ text)
      rw [induction restBlank] at cut
      exact cut

theorem lowerCase_surrounded {before after : List Char} (beforeBlank : AllBlank before)
    (afterBlank : AllBlank after) (text : List Char) :
    lowerCase (before ++ (text ++ after)) = before ++ (lowerCase text ++ after) := by
  rw [lowerCase_allBlank_append beforeBlank]
  congr 1
  cases after with
  | nil => simp
  | cons c rest =>
      obtain ⟨headBlank, restBlank⟩ := allBlank_cons.mp afterBlank
      have kept : lowerCase (rest ++ []) = rest ++ [] := lowerCase_allBlank_append restBlank []
      rw [List.append_nil] at kept
      rw [lowerCase_append_blank headBlank, kept]

/-! ## Words in small letters -/

theorem words_append_blank (blank : isBlank c = true) (text rest : List Char) :
    words (text ++ c :: rest) = words text ++ words rest := by
  induction text with
  | nil => exact words_blank blank rest
  | cons d text induction =>
      cases solid : isBlank d with
      | true => rw [List.cons_append, words_blank solid, words_blank solid, induction]
      | false =>
          cases text with
          | nil => simp [words, solid, blank]
          | cons next text =>
              cases nextSolid : isBlank next with
              | true => simpa [words, solid, nextSolid] using induction
              | false =>
                  have visible : words (next :: text) ≠ [] := by
                    intro empty
                    have nextBlank := (allBlank_cons.mp (words_eq_nil_iff.mp empty)).1
                    rw [nextSolid] at nextBlank
                    contradiction
                  obtain ⟨word, others, cut⟩ := List.exists_cons_of_ne_nil visible
                  rw [cut, List.cons_append] at induction
                  rw [List.cons_append, List.cons_append, words, words]
                  simp [solid, nextSolid, induction, cut]

theorem words_surrounded {before after : List Char} (beforeBlank : AllBlank before)
    (afterBlank : AllBlank after) (text : List Char) :
    words (before ++ (text ++ after)) = words text := by
  rw [words_append_of_allBlank beforeBlank]
  cases after with
  | nil => rw [List.append_nil]
  | cons c rest =>
      obtain ⟨headBlank, restBlank⟩ := allBlank_cons.mp afterBlank
      rw [words_append_blank headBlank, words_eq_nil_iff.mpr restBlank, List.append_nil]

theorem isBlank_of_mem_lowerAfter {before text : List Char}
    (solid : ∀ d ∈ text, isBlank d = false) : ∀ d ∈ lowerAfter before text, isBlank d = false := by
  induction text generalizing before with
  | nil => exact nofun
  | cons first rest induction =>
      obtain ⟨firstSolid, restSolid⟩ := List.forall_mem_cons.mp solid
      rw [lowerAfter]
      intro d member
      rcases List.mem_append.mp member with here | later
      · split at here
        · rw [List.mem_singleton.mp here]
          decide +kernel
        · exact isBlank_of_mem_lowerChar firstSolid here
      · exact induction restSolid d later

theorem IsWord.lowerCase {word : List Char} (isWord : IsWord word) :
    IsWord (Text.lowerCase word) := by
  refine ⟨?_, isBlank_of_mem_lowerAfter isWord.solid⟩
  cases word with
  | nil => exact absurd rfl isWord.nonempty
  | cons first rest =>
      have first : lowerChar first ≠ [] := lowerChar_ne_nil first
      rw [Text.lowerCase, lowerAfter]
      split <;> simp [first]

theorem words_lowerCase (text : List Char) :
    words (lowerCase text) = (words text).map lowerCase := by
  induction length : text.length using Nat.strongRecOn generalizing text with
  | ind n induction =>
      by_cases visible : ∃ c ∈ text, isBlank c = true
      · -- The text falls apart at any blank it has.
        obtain ⟨c, member, blank⟩ := visible
        obtain ⟨front, rest, rfl⟩ := List.append_of_mem member
        rw [List.length_append, List.length_cons] at length
        rw [lowerCase_append_blank blank, words_append_blank blank, words_append_blank blank,
          induction _ (by omega) front rfl, induction _ (by omega) rest rfl, List.map_append]
      · by_cases empty : text = []
        · rw [empty]
          rfl
        · have isWord : IsWord text := ⟨empty, by simpa using visible⟩
          rw [isWord.words_eq, isWord.lowerCase.words_eq]
          rfl

end TimedRelease.Text
