import TimedRelease.Proofs.Quantity.Shorthand
import TimedRelease.Proofs.Text.Blanks

/-!
# What stands around an amount

Blanks around a text leave its amount alone, except that a text in base sixteen has its mark
in front of all else and only digits behind it: with a blank on either side it is no amount.
A further word behind an amount is its unit if the amount has none yet, and is passed over
otherwise.
-/

namespace TimedRelease

namespace Quantity

/-- A text in small letters begins with the mark of base sixteen. -/
def Marked (lowered : List Char) : Prop :=
  ['0', 'x'] <+: lowered

instance (lowered : List Char) : Decidable (Marked lowered) :=
  inferInstanceAs (Decidable (_ <+: _))

/-- A text begins with the mark of base sixteen, in either case. -/
def IsMarked (text : String) : Prop :=
  Marked (Text.lowerCase text.toList)

instance (text : String) : Decidable (IsMarked text) :=
  inferInstanceAs (Decidable (Marked _))

variable {before lowered after : List Char}

/-! ## The mark -/

/-- What ends a word takes no part in a mark. -/
theorem marked_append_iff (ends : Text.EndsWord after) :
    Marked (lowered ++ after) ↔ Marked lowered := by
  constructor
  · rintro ⟨rest, same⟩
    match lowered with
    | [] =>
        have zero := ends '0' (congrArg List.head? same).symm
        contradiction
    | [c] =>
        obtain ⟨-, behind⟩ := List.cons.inj same
        have mark := ends 'x' (congrArg List.head? behind).symm
        contradiction
    | c :: d :: more =>
        obtain ⟨rfl, behind⟩ := List.cons.inj same
        obtain ⟨rfl, -⟩ := List.cons.inj behind
        exact ⟨more, rfl⟩
  · intro marked
    exact marked.trans (List.prefix_append _ _)

theorem not_marked_of_blank_before (blank : Text.AllBlank before) (visible : before ≠ [])
    (text : List Char) : ¬Marked (before ++ text) := by
  rintro ⟨rest, same⟩
  cases before with
  | nil => contradiction
  | cons c others =>
      obtain ⟨rfl, -⟩ := List.cons.inj same
      have zero := (Text.allBlank_cons.mp blank).1
      contradiction

theorem mark_mem_word {word : List Char} {others : List (List Char)} (marked : Marked lowered)
    (cut : Text.words lowered = word :: others) : 'x' ∈ word := by
  obtain ⟨rest, rfl⟩ := marked
  obtain ⟨before, after, same, beforeBlank, isWord, ends, -⟩ := Text.words_eq_cons cut
  have atStart : before = [] := by
    by_contra visible
    exact not_marked_of_blank_before beforeBlank visible (word ++ after) ⟨rest, same⟩
  subst atStart
  have front : Marked (word ++ after) := ⟨rest, same⟩
  obtain ⟨more, isFront⟩ := (marked_append_iff ends).mp front
  rw [← isFront]
  simp

theorem mark_not_mem_of_magnitude {decimals n : Nat} {magnitude : List Char}
    (denoted : Denomination.Magnitude decimals magnitude n) : 'x' ∉ magnitude := by
  intro member
  cases denoted with
  | whole _ digits => exact absurd (digits 'x' member) (by decide)
  | pointed _ digits _ =>
      rcases List.mem_append.mp member with front | behind
      · exact absurd (digits 'x' (List.mem_append_left _ front)) (by decide)
      · rcases List.mem_cons.mp behind with point | behind
        · contradiction
        · exact absurd (digits 'x' (List.mem_append_right _ behind)) (by decide)

theorem mark_mem_expandShorthand {numeral : List Char} (member : 'x' ∈ numeral) :
    'x' ∈ expandShorthand numeral :=
  List.mem_flatMap.mpr ⟨'x', member, by decide⟩

/-- A mark that is not in front of all else spoils the amount. -/
theorem readLowered?_of_late_mark {word : List Char} {others : List (List Char)}
    (unmarked : ¬Marked lowered) (cut : Text.words lowered = word :: others)
    (mark : 'x' ∈ word) : readLowered? lowered = none := by
  apply Option.eq_none_iff_forall_ne_some.mpr
  intro amount read
  have denoted := readLowered?_eq_some_iff.mp read
  have expanded := mark_mem_expandShorthand mark
  generalize amount.toNat = n at denoted
  cases denoted with
  | hexadecimal nonempty all => exact unmarked ⟨_, rfl⟩
  | amount _ words named scaled =>
      rw [words] at cut
      obtain ⟨rfl, -⟩ := List.cons.inj cut
      exact mark_not_mem_of_magnitude scaled expanded
  | plain _ few nonempty all =>
      have single : others = [] := by
        rw [cut, List.length_cons] at few
        exact List.length_eq_zero_iff.mp (by omega)
      rw [single] at cut
      rw [Text.trim_of_words_eq_singleton cut] at all
      exact absurd (all 'x' expanded) (by decide)

/-- Base sixteen has no blanks. -/
theorem readLowered?_of_marked_blank {c : Char} (marked : Marked lowered)
    (member : c ∈ lowered) (blank : Text.isBlank c = true) : readLowered? lowered = none := by
  obtain ⟨digits, rfl⟩ := marked
  apply Option.eq_none_iff_forall_ne_some.mpr
  intro amount read
  obtain ⟨n, readDigits, -⟩ := Option.bind_eq_some_iff.mp read
  obtain ⟨-, all, -⟩ := Text.readHex?_eq_some_iff.mp readDigits
  have among : c ∈ digits := by
    have elsewhere : c ≠ '0' ∧ c ≠ 'x' := by
      constructor <;>
      · rintro rfl
        contradiction
    simpa [elsewhere] using member
  rw [Text.isBlank_of_isHexDigit (all c among)] at blank
  contradiction

/-! ## Blanks around a text -/

theorem readLowered?_surrounded (beforeBlank : Text.AllBlank before)
    (afterBlank : Text.AllBlank after) :
    readLowered? (before ++ (lowered ++ after)) =
      if before ++ after = [] ∨ ¬Marked lowered then readLowered? lowered else none := by
  have ends : Text.EndsWord after := by
    intro c first
    exact afterBlank c (List.mem_of_mem_head? first)
  have sameWords := Text.words_surrounded beforeBlank afterBlank lowered
  by_cases bare : before ++ after = []
  · obtain ⟨rfl, rfl⟩ := List.append_eq_nil_iff.mp bare
    simp
  by_cases marked : Marked lowered
  · rw [if_neg (by simp [bare, marked])]
    by_cases behind : before = []
    · obtain ⟨c, member⟩ := List.exists_mem_of_ne_nil after (by simpa [behind] using bare)
      have stillMarked := (marked_append_iff ends).mpr marked
      rw [behind, List.nil_append]
      exact readLowered?_of_marked_blank stillMarked (List.mem_append_right _ member)
        (afterBlank c member)
    · have unmarked := not_marked_of_blank_before beforeBlank behind (lowered ++ after)
      cases cut : Text.words lowered with
      | nil =>
          rw [readLowered?_of_unmarked unmarked, sameWords, cut]
      | cons word others =>
          exact readLowered?_of_late_mark unmarked (sameWords.trans cut)
            (mark_mem_word marked cut)
  · have unmarked : ¬Marked (before ++ (lowered ++ after)) := by
      by_cases behind : before = []
      · rw [behind]
        exact (marked_append_iff ends).not.mpr marked
      · exact not_marked_of_blank_before beforeBlank behind _
    rw [if_pos (.inr marked), readLowered?_of_unmarked unmarked, sameWords,
      readLowered?_of_unmarked marked]

theorem amount?_surrounded {before after : String} (beforeBlank : Text.AllBlank before.toList)
    (afterBlank : Text.AllBlank after.toList) (text : String) :
    (parse (before ++ text ++ after)).amount? =
      if before ++ after = "" ∨ ¬IsMarked text then (parse text).amount? else none := by
  have bare : before ++ after = "" ↔ before.toList ++ after.toList = [] := by
    rw [← String.toList_inj]
    simp
  have read := @readLowered?_surrounded _ (Text.lowerCase text.toList) _ beforeBlank afterBlank
  rw [← Text.lowerCase_surrounded beforeBlank afterBlank] at read
  rw [amount?_parse, String.toList_append, String.toList_append, List.append_assoc, read?, read]
  simp only [bare]
  rfl

theorem value_isValid_eq_iff {first second : Quantity} :
    first.value = second.value ∧ first.isValid = second.isValid ↔
      first.amount? = second.amount? := by
  constructor
  · rintro ⟨sameValue, sameValid⟩
    cases left : first.amount? <;> cases right : second.amount? <;>
      simp_all [value, isValid]
  · intro same
    rw [value, value, isValid, isValid, same]
    exact ⟨rfl, rfl⟩

/-- Blanks around a text make another quantity of it exactly when it is valid and has the mark
of base sixteen, and there is a blank at all.  Such a text with blanks is no amount. -/
theorem blanks_around_kept_iff {before after : String}
    (beforeBlank : Text.AllBlank before.toList) (afterBlank : Text.AllBlank after.toList)
    (text : String) :
    let surrounded := parse (before ++ text ++ after)
    ((surrounded.value = (parse text).value ∧ surrounded.isValid = (parse text).isValid) ↔
        ¬(IsMarked text ∧ (parse text).isValid = true ∧ before ++ after ≠ "")) ∧
      (IsMarked text → before ++ after ≠ "" →
        surrounded.isValid = false ∧ surrounded.value = 0) := by
  intro surrounded
  have amount : surrounded.amount? =
      if before ++ after = "" ∨ ¬IsMarked text then (parse text).amount? else none :=
    amount?_surrounded beforeBlank afterBlank text
  have invalid_iff : none = (parse text).amount? ↔ ¬(parse text).isValid = true := by
    rw [isValid, Option.not_isSome_iff_eq_none, eq_comm]
  constructor
  · rw [value_isValid_eq_iff, amount, ite_eq_left_iff, not_or, not_not, invalid_iff]
    constructor
    · rintro spoils ⟨marked, valid, visible⟩
      exact spoils ⟨visible, marked⟩ valid
    · rintro unspoiled ⟨visible, marked⟩ valid
      exact unspoiled ⟨marked, valid, visible⟩
  · intro marked visible
    have invalid : surrounded.isValid = false := by
      rw [isValid, amount, if_neg (by simp [marked, visible])]
      rfl
    exact ⟨invalid, value_of_not_isValid invalid⟩

/-- A tabulator and a wide blank around a fraction, and a blank in front of a mark. -/
theorem blanks_around_amounts :
    Text.AllBlank "\t".toList ∧ Text.AllBlank "\u3000".toList ∧
      (parse ("\t" ++ "1.5 GWei" ++ "\u3000")).value = (parse "1.5 GWei").value ∧
      IsMarked "0X1a" ∧ (parse "0X1a").isValid = true ∧
      (parse ("\t" ++ "0X1a" ++ "")).isValid = false := by
  have tabulator : Text.AllBlank "\t".toList := by simp [Text.AllBlank, Text.isBlank]
  have wide : Text.AllBlank "\u3000".toList := by simp [Text.AllBlank, Text.isBlank]
  have nothing : Text.AllBlank "".toList := List.forall_mem_nil _
  have marked : IsMarked "0X1a" := by decide +kernel
  obtain ⟨kept, -⟩ := blanks_around_kept_iff tabulator wide "1.5 GWei"
  obtain ⟨-, spoiled⟩ := blanks_around_kept_iff tabulator nothing "0X1a"
  have unspoiled : ¬(IsMarked "1.5 GWei" ∧ (parse "1.5 GWei").isValid = true ∧
      "\t" ++ "\u3000" ≠ "") := by decide +kernel
  exact ⟨tabulator, wide, (kept.mpr unspoiled).1, marked, by decide +kernel,
    (spoiled marked (by decide)).1⟩

/-- Blanks around a text may make another quantity of it. -/
theorem blanks_around_not_kept :
    ¬∀ before text after : String, Text.AllBlank before.toList → Text.AllBlank after.toList →
      (parse (before ++ text ++ after)).value = (parse text).value ∧
        (parse (before ++ text ++ after)).isValid = (parse text).isValid := by
  intro kept
  have same := (kept " " "0x1a" "" (by simp [Text.AllBlank, Text.isBlank])
    (List.forall_mem_nil _)).2
  exact absurd same (by decide +kernel)

/-! ## A further word -/

theorem exists_blank_of_words {word next : List Char} {others : List (List Char)}
    (cut : Text.words lowered = word :: next :: others) :
    ∃ c ∈ lowered, Text.isBlank c = true := by
  by_contra solid
  have isWord : Text.IsWord lowered := by
    refine ⟨?_, by simpa using solid⟩
    rintro rfl
    simp at cut
  rw [isWord.words_eq] at cut
  simp at cut

theorem readLowered?_of_mark_mem {word next : List Char} {others : List (List Char)}
    (cut : Text.words lowered = word :: next :: others) (mark : 'x' ∈ word) :
    readLowered? lowered = none := by
  by_cases marked : Marked lowered
  · obtain ⟨c, member, blank⟩ := exists_blank_of_words cut
    exact readLowered?_of_marked_blank marked member blank
  · exact readLowered?_of_late_mark marked cut mark

/-- Of two words or more the first two make the amount. -/
theorem readLowered?_eq_of_words {first second word next : List Char}
    {others more : List (List Char)} (cut : Text.words first = word :: next :: others)
    (sameCut : Text.words second = word :: next :: more) :
    readLowered? first = readLowered? second := by
  by_cases mark : 'x' ∈ word
  · rw [readLowered?_of_mark_mem cut mark, readLowered?_of_mark_mem sameCut mark]
  · have unmarked : ¬Marked first := fun marked => mark (mark_mem_word marked cut)
    have sameUnmarked : ¬Marked second := fun marked => mark (mark_mem_word marked sameCut)
    rw [readLowered?_of_unmarked unmarked, readLowered?_of_unmarked sameUnmarked, cut, sameCut]

theorem words_continued {next : List Char} (isWord : Text.IsWord next) (text : List Char) :
    Text.words (text ++ ' ' :: next) = Text.words text ++ [next] := by
  rw [Text.words_append_blank (by decide), isWord.words_eq]

theorem readLowered?_continued {numeral next : List Char} {word amount : Word256}
    (unmarked : ¬Marked lowered) (single : Text.words lowered = [numeral])
    (read : readLowered? lowered = some word) (isWord : Text.IsWord next) :
    readLowered? (lowered ++ ' ' :: next) = some amount ↔
      ∃ decimals, (String.ofList next, decimals) ∈ Denomination.table ∧
        amount.toNat = word.toNat * 10 ^ decimals := by
  have ends : Text.EndsWord (' ' :: next) := by
    simp [Text.EndsWord, Text.isBlank]
  rw [readLowered?_of_unmarked unmarked, single] at read
  obtain ⟨n, readDigits, fits⟩ := Option.bind_eq_some_iff.mp read
  obtain ⟨nonempty, all, rfl⟩ := Text.readDecimal?_eq_some_iff.mp readDigits
  rw [readLowered?_of_unmarked ((marked_append_iff ends).not.mpr unmarked),
    words_continued isWord, single, Word256.ofNat?_eq_some_iff.mp fits]
  simp only [List.singleton_append, Option.bind_eq_some_iff, Denomination.toWei?_eq_some_iff,
    Denomination.magnitude_whole_iff all, nonempty, ne_eq, not_false_eq_true, true_and]
  constructor
  · rintro ⟨unit, named, value⟩
    exact ⟨unit.decimals, Denomination.mem_table_of_ofName? named, value⟩
  · rintro ⟨decimals, member, value⟩
    obtain ⟨unit, named, rfl⟩ := Denomination.ofName?_of_mem_table member
    exact ⟨unit, named, value⟩

theorem isSome_continued {numeral next : List Char} {word : Word256}
    (unmarked : ¬Marked lowered) (single : Text.words lowered = [numeral])
    (read : readLowered? lowered = some word) (isWord : Text.IsWord next) :
    (readLowered? (lowered ++ ' ' :: next)).isSome = true ↔
      ∃ decimals, (String.ofList next, decimals) ∈ Denomination.table ∧
        word.toNat * 10 ^ decimals < 2 ^ 256 := by
  simp only [Option.isSome_iff_exists, readLowered?_continued unmarked single read isWord]
  constructor
  · rintro ⟨amount, decimals, named, value⟩
    exact ⟨decimals, named, value ▸ amount.toNat_lt⟩
  · rintro ⟨decimals, named, fits⟩
    exact ⟨⟨_, fits⟩, decimals, named, rfl⟩

theorem words_ne_nil_of_isValid {text : String} (valid : (parse text).isValid = true) :
    Text.words text.toList ≠ [] := by
  intro empty
  have small : Text.words (Text.lowerCase text.toList) = [] := by
    rw [Text.words_lowerCase, empty]
    rfl
  have unmarked : ¬IsMarked text := by
    rintro ⟨rest, same⟩
    have zero := Text.words_eq_nil_iff.mp small '0' (by simp [← same])
    contradiction
  rw [isValid, amount?_parse, read?, readLowered?_of_unmarked unmarked, small] at valid
  contradiction

theorem amount?_parse_continued (text word : String) :
    (parse (text ++ " " ++ word)).amount? =
      readLowered? (Text.lowerCase text.toList ++ ' ' :: Text.lowerCase word.toList) := by
  rw [amount?_parse, read?, ← Text.lowerCase_append_blank (by decide)]
  simp

theorem amount?_parse_of_words {text : String} {first second : List Char}
    {others : List (List Char)} (cut : Text.words text.toList = first :: second :: others) :
    (parse text).amount? =
      (parse (String.ofList first ++ " " ++ String.ofList second)).amount? := by
  have areWords : ∀ word ∈ Text.words text.toList, Text.IsWord word :=
    fun _ => Text.isWord_of_mem_words
  rw [cut, List.forall_mem_cons, List.forall_mem_cons] at areWords
  obtain ⟨isFirst, isSecond, -⟩ := areWords
  rw [amount?_parse_continued, String.toList_ofList, String.toList_ofList]
  apply readLowered?_eq_of_words
  · rw [Text.words_lowerCase, cut]
    rfl
  · rw [words_continued isSecond.lowerCase, isFirst.lowerCase.words_eq]
    rfl

theorem amount?_continued_of_two_words {text word : String} (isWord : Text.IsWord word.toList)
    (two : 2 ≤ (Text.words text.toList).length) :
    (parse (text ++ " " ++ word)).amount? = (parse text).amount? := by
  match cut : Text.words text.toList with
  | [] => simp [cut] at two
  | [_] => simp [cut] at two
  | first :: second :: others =>
      have continued : Text.words (text ++ " " ++ word).toList =
          first :: second :: (others ++ [word.toList]) := by
        have appended : (text ++ " " ++ word).toList = text.toList ++ ' ' :: word.toList := by
          simp
        rw [appended, words_continued isWord, cut]
        rfl
      rw [amount?_parse_of_words continued, amount?_parse_of_words cut]

theorem continued_isValid_iff_of_one_word {text word : String}
    (valid : (parse text).isValid = true) (isWord : Text.IsWord word.toList)
    (single : (Text.words text.toList).length = 1) :
    (parse (text ++ " " ++ word)).isValid = true ↔ ¬IsMarked text ∧ ∃ decimals,
      (String.ofList (Text.lowerCase word.toList), decimals) ∈ Denomination.table ∧
        (parse text).value.toNat * 10 ^ decimals < 2 ^ 256 := by
  obtain ⟨amount, read⟩ := Option.isSome_iff_exists.mp valid
  have value : (parse text).value = amount := by rw [Quantity.value, read]; rfl
  rw [isValid, amount?_parse_continued, value]
  by_cases marked : IsMarked text
  · have blank : ' ' ∈ Text.lowerCase text.toList ++ ' ' :: Text.lowerCase word.toList := by simp
    have spoiled := readLowered?_of_marked_blank (marked.trans (List.prefix_append _ _)) blank
      (by decide)
    simp [spoiled, marked]
  · obtain ⟨numeral, cut⟩ : ∃ numeral, Text.words (Text.lowerCase text.toList) = [numeral] := by
      rw [← List.length_eq_one_iff, Text.words_lowerCase, List.length_map, single]
    rw [isSome_continued marked cut read isWord.lowerCase]
    simp [marked]

/-- A valid text with a further word is valid exactly when it had two words before, or is a
single number and the word is the name of a unit of which the number fits.  With two words
before it keeps its value: of a text with two words or more the first two are read, and
whatever follows is passed over. -/
theorem continued_isValid_iff (text : String) :
    (∀ word : String, (parse text).isValid = true → Text.IsWord word.toList →
      let count := (Text.words text.toList).length
      let continued := parse (text ++ " " ++ word)
      (continued.isValid = true ↔
          2 ≤ count ∨ count = 1 ∧ ¬IsMarked text ∧ ∃ decimals,
            (String.ofList (Text.lowerCase word.toList), decimals) ∈ Denomination.table ∧
              (parse text).value.toNat * 10 ^ decimals < 2 ^ 256) ∧
        (2 ≤ count → continued.value = (parse text).value)) ∧
      ∀ (first second : List Char) (others : List (List Char)),
        Text.words text.toList = first :: second :: others →
          let pair := parse (String.ofList first ++ " " ++ String.ofList second)
          (parse text).isValid = pair.isValid ∧ (parse text).value = pair.value := by
  constructor
  · intro word valid isWord count continued
    have positive : 0 < count := List.length_pos_iff.mpr (words_ne_nil_of_isValid valid)
    by_cases two : 2 ≤ count
    · have same : continued.amount? = (parse text).amount? :=
        amount?_continued_of_two_words isWord two
      have stillValid : continued.isValid = true := by rwa [isValid, same]
      refine ⟨iff_of_true stillValid (.inl two), fun _ => ?_⟩
      rw [value, value, same]
    · have single : count = 1 := by omega
      refine ⟨?_, fun several => absurd several two⟩
      rw [continued_isValid_iff_of_one_word valid isWord single]
      simp [single]
  · intro first second others cut pair
    exact (value_isValid_eq_iff.mpr (amount?_parse_of_words cut)).symm

/-- A further word behind a number is its unit, and behind a number with its unit anything. -/
theorem continued_amounts :
    (parse "3k").isValid = true ∧ (parse ("3k" ++ " " ++ "Gwei")).isValid = true ∧
      (parse "3 gwei").isValid = true ∧ (parse ("3 gwei" ++ " " ++ "Σ")).isValid = true ∧
      (parse ("3 gwei" ++ " " ++ "Σ")).value = (parse "3 gwei").value := by
  obtain ⟨numberContinued, -⟩ := continued_isValid_iff "3k"
  obtain ⟨amountContinued, -⟩ := continued_isValid_iff "3 gwei"
  have number : (parse "3k").isValid = true := by decide +kernel
  have amount : (parse "3 gwei").isValid = true := by decide +kernel
  have unit : Text.IsWord "Gwei".toList := ⟨by decide, by simp [Text.isBlank]⟩
  have sigma : Text.IsWord "Σ".toList := ⟨by decide, by simp [Text.isBlank]⟩
  have passed := amountContinued "Σ" amount sigma
  have two : 2 ≤ (Text.words "3 gwei".toList).length := by decide +kernel
  refine ⟨number, (numberContinued "Gwei" number unit).1.mpr (.inr ?_), amount,
    passed.1.mpr (.inl two), passed.2 two⟩
  exact ⟨by decide +kernel, by decide +kernel, 9, by decide +kernel, by decide +kernel⟩

/-- A valid text with a further word may have more words than a number and its unit. -/
theorem continued_text_not_accounted :
    ¬∀ text word : String, (parse text).isValid = true → Text.IsWord word.toList →
      (parse (text ++ " " ++ word)).isValid = true →
        (Text.words text.toList).length = 1 ∧
          ∃ decimals, (String.ofList (Text.lowerCase word.toList), decimals) ∈
            Denomination.table := by
  intro accounted
  have isWord : Text.IsWord "more".toList := ⟨by decide, by simp [Text.isBlank]⟩
  have single := (accounted "3 gwei" "more" (by decide +kernel) isWord (by decide +kernel)).1
  exact absurd single (by decide +kernel)

end Quantity

end TimedRelease
