import Mathlib.Data.List.DropRight
import Mathlib.Data.List.TakeWhile
import TimedRelease.Text.Blank

/-!
# Words and the blanks around them

The words of a text are its maximal runs without blanks.  A text with a first word
is that word with blanks before it and either nothing or a blank after it, and a
text of a single word is that word once trimmed.
-/

namespace TimedRelease.Text

/-- A text of blanks only. -/
def AllBlank (text : List Char) : Prop :=
  ∀ c ∈ text, isBlank c = true

/-- A text that has characters and no blanks. -/
structure IsWord (word : List Char) : Prop where
  nonempty : word ≠ []
  solid : ∀ c ∈ word, isBlank c = false

/-- A text that does not go on with the word before it. -/
def EndsWord (after : List Char) : Prop :=
  ∀ c ∈ after.head?, isBlank c = true

theorem allBlank_cons {c : Char} {rest : List Char} :
    AllBlank (c :: rest) ↔ isBlank c = true ∧ AllBlank rest :=
  List.forall_mem_cons

theorem words_append_of_allBlank {before : List Char} (blank : AllBlank before)
    (text : List Char) : words (before ++ text) = words text := by
  induction before with
  | nil => rfl
  | cons c rest induction =>
      obtain ⟨headBlank, restBlank⟩ := allBlank_cons.mp blank
      rw [List.cons_append, words_blank headBlank, induction restBlank]

theorem words_eq_nil_iff {text : List Char} : words text = [] ↔ AllBlank text := by
  induction text with
  | nil => simp [AllBlank]
  | cons c rest induction =>
      constructor
      · intro empty
        by_cases blank : isBlank c = true
        · rw [words_blank blank] at empty
          exact allBlank_cons.mpr ⟨blank, induction.mp empty⟩
        · cases rest with
          | nil => simp [words, blank] at empty
          | cons next rest =>
              simp only [words, blank, Bool.false_eq_true, ↓reduceIte] at empty
              split at empty
              · simp at empty
              · split at empty <;> simp at empty
      · intro blank
        simpa using words_append_of_allBlank blank []

/-- A solid beginning joins the word that follows it, or is a word of its own. -/
theorem words_append_of_isWord {word after : List Char} (isWord : IsWord word)
    (ends : EndsWord after) : words (word ++ after) = word :: words after := by
  obtain ⟨nonempty, solid⟩ := isWord
  induction word with
  | nil => contradiction
  | cons c rest induction =>
      have headSolid : isBlank c = false := solid c (by simp)
      have restSolid : ∀ other ∈ rest, isBlank other = false := by
        intro other member
        exact solid other (by simp [member])
      cases rest with
      | nil =>
          cases after with
          | nil => simp [words, headSolid]
          | cons next after =>
              have nextBlank : isBlank next = true := ends next (by simp)
              simp [words, headSolid, nextBlank]
      | cons next rest =>
          have nextSolid : isBlank next = false := restSolid next (by simp)
          have joined := induction (by simp) restSolid
          rw [List.cons_append] at joined
          rw [List.cons_append, List.cons_append, words]
          simp [headSolid, nextSolid, joined]

theorem IsWord.words_eq {word : List Char} (isWord : IsWord word) : words word = [word] := by
  have nothing : EndsWord [] := by simp [EndsWord]
  have only := words_append_of_isWord isWord nothing
  rwa [List.append_nil, words_nil] at only

private theorem exists_word_prefix {c : Char} (solid : isBlank c = false)
    (rest : List Char) :
    ∃ word after, c :: rest = word ++ after ∧ IsWord word ∧ EndsWord after := by
  induction rest generalizing c with
  | nil => exact ⟨[c], [], rfl, ⟨by simp, by simpa using solid⟩, by simp [EndsWord]⟩
  | cons next rest induction =>
      cases nextBlank : isBlank next with
      | true =>
          exact ⟨[c], next :: rest, rfl, ⟨by simp, by simpa using solid⟩,
            by simpa [EndsWord] using nextBlank⟩
      | false =>
          obtain ⟨word, after, same, isWord, ends⟩ := induction nextBlank
          refine ⟨c :: word, after, by rw [same, List.cons_append], ⟨by simp, ?_⟩, ends⟩
          intro other member
          rcases List.mem_cons.mp member with here | later
          · rw [here]
            exact solid
          · exact isWord.solid other later

/-- A text that is not all blank opens with blanks, a word, and what ends it. -/
theorem exists_first_word {text : List Char} (visible : ¬AllBlank text) :
    ∃ before word after, text = before ++ (word ++ after) ∧
      AllBlank before ∧ IsWord word ∧ EndsWord after := by
  induction text with
  | nil => exact (visible (by simp [AllBlank])).elim
  | cons c rest induction =>
      cases blank : isBlank c with
      | true =>
          have restVisible : ¬AllBlank rest := by
            intro restBlank
            exact visible (allBlank_cons.mpr ⟨blank, restBlank⟩)
          obtain ⟨before, word, after, same, beforeBlank, isWord, ends⟩ :=
            induction restVisible
          exact ⟨c :: before, word, after, by rw [same, List.cons_append],
            allBlank_cons.mpr ⟨blank, beforeBlank⟩, isWord, ends⟩
      | false =>
          obtain ⟨word, after, same, isWord, ends⟩ := exists_word_prefix blank rest
          exact ⟨[], word, after, same, by simp [AllBlank], isWord, ends⟩

/-- The first word with what stands around it. -/
theorem words_eq_cons {text word : List Char} {others : List (List Char)}
    (split : words text = word :: others) :
    ∃ before after, text = before ++ (word ++ after) ∧ AllBlank before ∧
      IsWord word ∧ EndsWord after ∧ words after = others := by
  have visible : ¬AllBlank text := by
    intro blank
    rw [words_eq_nil_iff.mpr blank] at split
    contradiction
  obtain ⟨before, first, after, same, blank, isWord, ends⟩ := exists_first_word visible
  rw [same, words_append_of_allBlank blank, words_append_of_isWord isWord ends] at split
  injection split with sameWord sameOthers
  subst sameWord
  exact ⟨before, after, same, blank, isWord, ends, sameOthers⟩

theorem isWord_of_mem_words {text word : List Char} (member : word ∈ words text) :
    IsWord word := by
  induction cut : words text generalizing text with
  | nil =>
      rw [cut] at member
      contradiction
  | cons first others induction =>
      obtain ⟨-, after, -, -, isWord, -, rest⟩ := words_eq_cons cut
      rw [cut] at member
      rcases List.mem_cons.mp member with here | later
      · rwa [here]
      · exact induction (rest ▸ later) rest

private theorem dropWhile_append_of_allBlank {before : List Char}
    (blank : AllBlank before) (text : List Char) :
    (before ++ text).dropWhile isBlank = text.dropWhile isBlank := by
  rw [List.dropWhile_append, List.dropWhile_eq_nil_iff.mpr blank]
  rfl

/-- Trimming takes away the blanks on both sides of a word. -/
theorem trim_of_isWord {before word after : List Char} (beforeBlank : AllBlank before)
    (isWord : IsWord word) (afterBlank : AllBlank after) :
    trim (before ++ (word ++ after)) = word := by
  have starts : trimStart (before ++ (word ++ after)) = word ++ after := by
    cases word with
    | nil => exact (isWord.nonempty rfl).elim
    | cons c rest =>
        have headSolid : isBlank c = false := isWord.solid c (by simp)
        simp [trimStart, dropWhile_append_of_allBlank beforeBlank, headSolid]
  have reversedBlank : AllBlank after.reverse := by
    intro c member
    exact afterBlank c (List.mem_reverse.mp member)
  have reversedSolid : ∀ c ∈ word.reverse, isBlank c = false := by
    intro c member
    exact isWord.solid c (List.mem_reverse.mp member)
  have ends : trimEnd (word ++ after) = word := by
    rw [trimEnd, List.reverse_append, dropWhile_append_of_allBlank reversedBlank]
    cases reversed : word.reverse with
    | nil => exact (isWord.nonempty (by simpa using reversed)).elim
    | cons c rest =>
        have lastSolid : isBlank c = false := reversedSolid c (by simp [reversed])
        rw [List.dropWhile_cons_of_neg (by simp [lastSolid]), ← reversed,
          List.reverse_reverse]
  rw [trim, starts, ends]

theorem IsWord.trim_eq {word : List Char} (isWord : IsWord word) : trim word = word := by
  have nothing : AllBlank [] := List.forall_mem_nil _
  have bare := trim_of_isWord nothing isWord nothing
  rwa [List.nil_append, List.append_nil] at bare

/-- Trimmed text has no blank at its start: trimming its end leaves the start alone. -/
private theorem trimStart_trim (text : List Char) : trimStart (trim text) = trim text := by
  have begins : trim text <+: trimStart text := List.rdropWhile_prefix isBlank (trimStart text)
  obtain ⟨after, same⟩ := begins
  refine List.dropWhile_eq_self_iff.mpr ?_
  intro positive
  have visible : 0 < (trimStart text).length := by
    rw [← same, List.length_append]
    exact Nat.lt_add_right _ positive
  have start := List.dropWhile_get_zero_not isBlank text visible
  have sameFirst : (trimStart text)[0] = (trim text)[0] := by
    simp only [← same, List.getElem_append_left positive]
  rw [← sameFirst]
  exact start

theorem trim_trim (text : List Char) : trim (trim text) = trim text :=
  calc
    trim (trim text) = trimEnd (trim text) := by rw [trim, trimStart_trim]
    _ = trim text := List.rdropWhile_idempotent isBlank (trimStart text)

@[simp] theorem trimmed_trimmed (text : String) : trimmed (trimmed text) = trimmed text := by
  rw [trimmed, trimmed, String.toList_ofList, trim_trim]

/-- A text of one word is that word once trimmed. -/
theorem trim_of_words_eq_singleton {text word : List Char}
    (single : words text = [word]) : trim text = word := by
  obtain ⟨before, after, same, beforeBlank, isWord, _, none⟩ := words_eq_cons single
  rw [same]
  exact trim_of_isWord beforeBlank isWord (words_eq_nil_iff.mp none)

/-- Nothing is left of a text without words once it is trimmed. -/
theorem trim_of_words_eq_nil {text : List Char} (empty : words text = []) :
    trim text = [] := by
  have blank := words_eq_nil_iff.mp empty
  rw [trim, trimStart, List.dropWhile_eq_nil_iff.mpr blank]
  rfl

end TimedRelease.Text
