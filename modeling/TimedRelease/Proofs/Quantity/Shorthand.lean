import TimedRelease.Proofs.Quantity.Units
import TimedRelease.Proofs.Text.Letters

/-!
# Shorthand in front of a unit

A shorthand letter stands for zeros behind the digits it follows.  Behind a whole number
these scale the amount by a power of ten; behind a point they are further digits of the
fraction, which leave the amount as it is and use up the decimals of the unit.
-/

namespace TimedRelease

namespace Text

theorem positional_append_zeros (digits : List Char) (zeros : Nat) :
    positional 10 (digits ++ List.replicate zeros '0') = positional 10 digits * 10 ^ zeros := by
  rw [← valueOf_eq_positional, ← valueOf_eq_positional]
  induction zeros with
  | zero => simp
  | succ zeros induction =>
      rw [List.replicate_succ', ← List.append_assoc, valueOf_append_singleton, induction,
        show digitValue '0' = 0 from rfl]
      ring

end Text

namespace Denomination

variable {decimals n : Nat} {whole fraction : List Char}

theorem magnitude_whole_iff (digits : ∀ c ∈ whole, Text.isDecimalDigit c = true) :
    Magnitude decimals whole n ↔
      whole ≠ [] ∧ n = Text.positional 10 whole * 10 ^ decimals := by
  constructor
  · intro denoted
    cases denoted with
    | whole nonempty _ => exact ⟨nonempty, rfl⟩
    | pointed => exact (point_not_mem_of_digits digits (by simp)).elim
  · rintro ⟨nonempty, rfl⟩
    exact .whole nonempty digits

theorem magnitude_pointed_iff
    (digits : ∀ c ∈ whole ++ fraction, Text.isDecimalDigit c = true) :
    Magnitude decimals (whole ++ '.' :: fraction) n ↔
      whole ++ fraction ≠ [] ∧ fraction.length ≤ decimals ∧
        n = Text.positional 10 whole * 10 ^ decimals +
          Text.positional 10 fraction * 10 ^ (decimals - fraction.length) := by
  have pointless {part : List Char} (all : ∀ c ∈ part, Text.isDecimalDigit c = true) :=
    point_not_mem_of_digits all
  constructor
  · intro denoted
    generalize written : whole ++ '.' :: fraction = magnitude at denoted
    cases denoted with
    | whole _ all => exact (pointless all (by simp [← written])).elim
    | @pointed front behind nonempty all short =>
        -- Both sides are cut at their first point.
        have cut := splitAtPoint_append
          (pointless fun c member => digits c (List.mem_append_left _ member)) fraction
        have sameCut := splitAtPoint_append
          (pointless fun c member => all c (List.mem_append_left _ member)) behind
        rw [written, sameCut] at cut
        obtain ⟨rfl, rfl⟩ := Prod.mk.inj cut
        exact ⟨nonempty, short, rfl⟩
  · rintro ⟨nonempty, short, rfl⟩
    exact .pointed nonempty digits short

end Denomination

namespace Quantity

/-- The letters of shorthand, and how many zeros each stands for. -/
def shorthandLetters : List (Char × Nat) :=
  [('k', 3), ('m', 6), ('g', 9)]

/-- Digits as typed, perhaps with a point and further digits behind it. -/
structure TypedNumber where
  whole : List Char
  fraction? : Option (List Char)
  nonempty : whole ++ fraction?.getD [] ≠ []
  digits : ∀ c ∈ whole ++ fraction?.getD [], Text.isDecimalDigit c = true

namespace TypedNumber

/-- The number as it is typed. -/
def chars (number : TypedNumber) : List Char :=
  match number.fraction? with
  | none => number.whole
  | some fraction => number.whole ++ '.' :: fraction

def text (number : TypedNumber) : String :=
  String.ofList number.chars

theorem mem_chars {number : TypedNumber} {c : Char} (member : c ∈ number.chars) :
    Text.isDecimalDigit c = true ∨ c = '.' := by
  have digits := number.digits
  unfold chars at member
  split at member <;> rename_i given <;> rw [given] at digits
  · exact .inl (digits c (by simpa using member))
  · rcases List.mem_append.mp member with front | behind
    · exact .inl (digits c (List.mem_append_left _ front))
    · rcases List.mem_cons.mp behind with point | behind
      · exact .inr point
      · exact .inl (digits c (List.mem_append_right _ behind))

theorem chars_ne_nil (number : TypedNumber) : number.chars ≠ [] := by
  have nonempty := number.nonempty
  unfold chars
  split <;> rename_i given <;> simp_all

theorem isAscii_chars (number : TypedNumber) : Text.isAscii number.chars = true := by
  simp only [Text.isAscii, List.all_eq_true, decide_eq_true_eq]
  intro c member
  rcases mem_chars member with digit | rfl
  · have bounds := Text.toNat_of_isHexDigit (Text.isHexDigit_of_isDecimalDigit digit)
    omega
  · decide

theorem toLower_chars (number : TypedNumber) :
    number.chars.map Char.toLower = number.chars := by
  have kept : ∀ c ∈ number.chars, c.toLower = id c := by
    intro c member
    rcases mem_chars member with digit | rfl
    · exact Text.toLower_of_isDecimalDigit digit
    · rfl
  rw [List.map_congr_left kept, List.map_id]

theorem expandShorthand_chars (number : TypedNumber) :
    expandShorthand number.chars = number.chars := by
  apply expandShorthand_of_plain
  intro c member
  rcases mem_chars member with digit | rfl
  · exact no_letter_of_isDecimalDigit digit
  · decide

end TypedNumber

/-- At most one letter of shorthand, in either case, and the zeros it stands for. -/
inductive Shorthand : List Char → Nat → Prop where
  | none : Shorthand [] 0
  | letter {letter : Char} {zeros : Nat}
      (isLetter : (letter.toLower, zeros) ∈ shorthandLetters) : Shorthand [letter] zeros

namespace Shorthand

variable {letters : List Char} {zeros : Nat}

theorem expanded (shorthand : Shorthand letters zeros) :
    expandShorthand (letters.map Char.toLower) = List.replicate zeros '0' := by
  cases shorthand with
  | none => rfl
  | @letter letter _ isLetter =>
      have expands : ∀ entry ∈ shorthandLetters,
          expandShorthand [entry.1] = List.replicate entry.2 '0' := by decide
      exact expands _ isLetter

theorem isAscii (shorthand : Shorthand letters zeros) : Text.isAscii letters = true := by
  cases shorthand with
  | none => rfl
  | @letter letter _ isLetter =>
      have codes : ∀ entry ∈ shorthandLetters, entry.1.toNat < 0x80 := by decide
      have code := codes _ isLetter
      simp only [Text.toNat_toLower] at code
      simp only [Text.isAscii, List.all_cons, List.all_nil, Bool.and_true, decide_eq_true_eq]
      split at code <;> omega

theorem plain (shorthand : Shorthand letters zeros) :
    ∀ c ∈ letters.map Char.toLower, Text.isBlank c = false ∧ c ≠ 'x' := by
  cases shorthand with
  | none => simp
  | @letter letter _ isLetter =>
      have kinds : ∀ entry ∈ shorthandLetters,
          Text.isBlank entry.1 = false ∧ entry.1 ≠ 'x' := by decide
      simpa using kinds _ isLetter

end Shorthand

/-! ## Two words -/

/-- The amount of a word in front of a unit, both in small letters. -/
theorem readLowered?_pair {word name : List Char} {decimals : Nat} (isWord : Text.IsWord word)
    (noMark : 'x' ∉ word) (named : (String.ofList name, decimals) ∈ Denomination.table)
    {amount : Word256} :
    readLowered? (word ++ ' ' :: name) = some amount ↔
      Denomination.Magnitude decimals (expandShorthand word) amount.toNat := by
  have isName : Text.IsWord name := by simpa using isWord_of_table named
  obtain ⟨unit, isUnit, rfl⟩ := Denomination.ofName?_of_mem_table named
  rw [readLowered?_of_unmarked (unmarked_of_not_mem noMark name), Text.words_pair isWord isName]
  simp only [isUnit, Option.bind_some]
  exact Denomination.toWei?_eq_some_iff

/-- The amount of a word of the seven-bit set in front of the name of a unit in any case. -/
theorem amount?_parse_pair {word : List Char} {unit : String} {decimals : Nat}
    (ascii : Text.isAscii word = true) (isWord : Text.IsWord (word.map Char.toLower))
    (noMark : 'x' ∉ word.map Char.toLower)
    (isUnit : (String.ofList (Text.lowerCase unit.toList), decimals) ∈ Denomination.table)
    {amount : Word256} :
    (parse (String.ofList word ++ " " ++ unit)).amount? = some amount ↔
      Denomination.Magnitude decimals (expandShorthand (word.map Char.toLower)) amount.toNat := by
  have small : Text.isAscii (Text.lowerCase unit.toList) = true := by
    have letters := (names_of_table isUnit).2
    simp only [Text.isAscii, List.all_eq_true, decide_eq_true_eq]
    intro c member
    exact (letters c (by simpa using member)).2.1
  have front : Text.isAscii (word ++ [' ']) = true := by
    rw [Text.isAscii_append]
    exact ⟨ascii, by decide⟩
  have lowered : Text.lowerCase (String.ofList word ++ " " ++ unit).toList =
      word.map Char.toLower ++ ' ' :: Text.lowerCase unit.toList := by
    have apart := Text.lowerCase_append front small
    simpa using apart
  rw [amount?_parse, read?, lowered]
  exact readLowered?_pair isWord noMark isUnit

/-- A quantity whose amount is one number under a condition is valid if that holds and the
number has at most 256 bits. -/
theorem isValid_iff_of_amount? {quantity : Quantity} {allowed : Prop} {n : Nat}
    (reads : ∀ amount, quantity.amount? = some amount ↔ allowed ∧ amount.toNat = n) :
    (quantity.isValid = true ↔ allowed ∧ n < 2 ^ 256) ∧
      (quantity.isValid = true → quantity.value.toNat = n) := by
  have value : quantity.isValid = true → allowed ∧ quantity.value.toNat = n := by
    intro valid
    obtain ⟨amount, found⟩ := Option.isSome_iff_exists.mp valid
    have same : quantity.value = amount := by rw [Quantity.value, found]; rfl
    rw [same]
    exact (reads amount).mp found
  refine ⟨⟨fun valid => ?_, ?_⟩, fun valid => (value valid).2⟩
  · obtain ⟨holds, same⟩ := value valid
    exact ⟨holds, same ▸ quantity.value.toNat_lt⟩
  · rintro ⟨holds, fits⟩
    have found := (reads ⟨n, fits⟩).mpr ⟨holds, rfl⟩
    rw [isValid, found]
    rfl

/-- The amount of a number in front of a unit, with the zeros of a shorthand letter. -/
theorem amount?_parse_number (number : TypedNumber) {letters : List Char} {zeros : Nat}
    (shorthand : Shorthand letters zeros) {unit : String} {decimals : Nat}
    (isUnit : (String.ofList (Text.lowerCase unit.toList), decimals) ∈ Denomination.table)
    {amount : Word256} :
    (parse (number.text ++ String.ofList letters ++ " " ++ unit)).amount? = some amount ↔
      Denomination.Magnitude decimals (number.chars ++ List.replicate zeros '0')
        amount.toNat := by
  have ascii : Text.isAscii (number.chars ++ letters) = true :=
    Text.isAscii_append.mpr ⟨number.isAscii_chars, shorthand.isAscii⟩
  have lowered : (number.chars ++ letters).map Char.toLower =
      number.chars ++ letters.map Char.toLower := by
    rw [List.map_append, number.toLower_chars]
  have plain : ∀ c ∈ number.chars ++ letters.map Char.toLower,
      Text.isBlank c = false ∧ c ≠ 'x' := by
    intro c member
    rcases List.mem_append.mp member with digit | letter
    · rcases number.mem_chars digit with digit | rfl
      · refine ⟨Text.isBlank_of_isHexDigit (Text.isHexDigit_of_isDecimalDigit digit), ?_⟩
        rintro rfl
        contradiction
      · decide
    · exact shorthand.plain c letter
  have reads := @amount?_parse_pair _ _ _ ascii
    (lowered ▸ ⟨by simp [number.chars_ne_nil], fun c member => (plain c member).1⟩)
    (lowered ▸ fun member => (plain 'x' member).2 rfl) isUnit
  rw [lowered, expandShorthand_append, number.expandShorthand_chars, shorthand.expanded,
    String.ofList_append] at reads
  exact reads

/-! ## Zeros behind a number -/

theorem isDecimalDigit_of_mem_append_zeros (zeros : Nat) {digits : List Char}
    (all : ∀ c ∈ digits, Text.isDecimalDigit c = true) :
    ∀ c ∈ digits ++ List.replicate zeros '0', Text.isDecimalDigit c = true := by
  intro c member
  rcases List.mem_append.mp member with digit | zero
  · exact all c digit
  · rw [List.eq_of_mem_replicate zero]
    decide

/-- Zeros behind a whole number scale it. -/
theorem TypedNumber.magnitude_whole_iff {number : TypedNumber} (pointless : number.fraction? = none)
    {decimals zeros n : Nat} :
    Denomination.Magnitude decimals (number.chars ++ List.replicate zeros '0') n ↔
      True ∧ n = Text.positional 10 number.whole * 10 ^ decimals * 10 ^ zeros := by
  obtain ⟨whole, fraction?, nonempty, digits⟩ := number
  subst pointless
  have some : whole ≠ [] := by simpa using nonempty
  have all : ∀ c ∈ whole, Text.isDecimalDigit c = true := by simpa using digits
  have written := @Denomination.magnitude_whole_iff decimals n _
    (isDecimalDigit_of_mem_append_zeros zeros all)
  rw [Text.positional_append_zeros, Nat.mul_right_comm] at written
  simpa [chars, some] using written

/-- Zeros behind a fraction use up decimals and leave the amount as it is. -/
theorem TypedNumber.magnitude_pointed_iff {number : TypedNumber} {fraction : List Char}
    (pointed : number.fraction? = some fraction) {decimals zeros n : Nat} :
    Denomination.Magnitude decimals (number.chars ++ List.replicate zeros '0') n ↔
      fraction.length + zeros ≤ decimals ∧
        n = Text.positional 10 number.whole * 10 ^ decimals +
          Text.positional 10 fraction * 10 ^ (decimals - fraction.length) := by
  obtain ⟨whole, fraction?, nonempty, digits⟩ := number
  subst pointed
  have some : whole ++ (fraction ++ List.replicate zeros '0') ≠ [] := by
    rw [← List.append_assoc]
    exact List.append_ne_nil_of_left_ne_nil nonempty _
  have all : ∀ c ∈ whole ++ (fraction ++ List.replicate zeros '0'),
      Text.isDecimalDigit c = true := by
    rw [← List.append_assoc]
    exact isDecimalDigit_of_mem_append_zeros zeros digits
  have written := @Denomination.magnitude_pointed_iff decimals n _ _ all
  rw [Text.positional_append_zeros, List.length_append, List.length_replicate] at written
  have shape : TypedNumber.chars ⟨whole, Option.some fraction, nonempty, digits⟩ ++
      List.replicate zeros '0' = whole ++ '.' :: (fraction ++ List.replicate zeros '0') := by
    simp [chars]
  rw [shape, written]
  simp only [ne_eq, some, not_false_eq_true, true_and]
  apply and_congr_right
  intro short
  have power : 10 ^ zeros * 10 ^ (decimals - (fraction.length + zeros)) =
      10 ^ (decimals - fraction.length) := by
    rw [← pow_add]
    congr 1
    omega
  rw [Nat.mul_assoc, power]

/-- A shorthand letter in front of a unit scales a whole number, as far as the amount fits
into a word.  Behind a point it leaves the amount as it is, as far as the unit has decimals
for the zeros. -/
theorem shorthand_scales_whole_numbers (number : TypedNumber) {unit : String} {decimals : Nat}
    {letter : Char} {zeros : Nat}
    (isUnit : (String.ofList (Text.lowerCase unit.toList), decimals) ∈ Denomination.table)
    (isLetter : (letter.toLower, zeros) ∈ shorthandLetters) :
    let plain := parse (number.text ++ " " ++ unit)
    let short := parse (number.text ++ String.ofList [letter] ++ " " ++ unit)
    plain.isValid = true →
      (number.fraction? = none →
        (short.isValid = true ↔ plain.value.toNat * 10 ^ zeros < 2 ^ 256) ∧
          (short.isValid = true → short.value.toNat = plain.value.toNat * 10 ^ zeros)) ∧
      ∀ fraction, number.fraction? = some fraction →
        (short.isValid = true ↔ fraction.length + zeros ≤ decimals) ∧
          (short.isValid = true → short.value = plain.value) := by
  intro plain short valid
  have readsPlain {amount : Word256} : plain.amount? = some amount ↔
      Denomination.Magnitude decimals (number.chars ++ List.replicate 0 '0') amount.toNat := by
    have reads := @amount?_parse_number number [] 0 .none unit decimals isUnit amount
    rwa [String.ofList_nil, String.append_empty] at reads
  have readsShort {amount : Word256} : short.amount? = some amount ↔
      Denomination.Magnitude decimals (number.chars ++ List.replicate zeros '0') amount.toNat :=
    amount?_parse_number number (.letter isLetter) isUnit
  constructor
  · intro pointless
    obtain ⟨-, plainValue⟩ := isValid_iff_of_amount? fun amount =>
      readsPlain.trans (TypedNumber.magnitude_whole_iff pointless)
    obtain ⟨shortValid, shortValue⟩ := isValid_iff_of_amount? fun amount =>
      readsShort.trans (TypedNumber.magnitude_whole_iff pointless)
    rw [plainValue valid, pow_zero, Nat.mul_one]
    exact ⟨shortValid.trans (and_iff_right trivial), shortValue⟩
  · intro fraction pointed
    obtain ⟨plainValid, plainValue⟩ := isValid_iff_of_amount? fun amount =>
      readsPlain.trans (TypedNumber.magnitude_pointed_iff pointed)
    obtain ⟨shortValid, shortValue⟩ := isValid_iff_of_amount? fun amount =>
      readsShort.trans (TypedNumber.magnitude_pointed_iff pointed)
    refine ⟨shortValid.trans (and_iff_left (plainValid.mp valid).2), ?_⟩
    intro valid'
    exact Word256.ext ((shortValue valid').trans (plainValue valid).symm)

/-- Twelve thousand gwei in capitals. -/
theorem capital_kilo_scales :
    let number : TypedNumber := ⟨['1', '2'], none, by decide, by simp; decide⟩
    let plain := parse (number.text ++ " " ++ "Gwei")
    let short := parse (number.text ++ String.ofList ['K'] ++ " " ++ "Gwei")
    (String.ofList (Text.lowerCase "Gwei".toList), 9) ∈ Denomination.table ∧
      ('K'.toLower, 3) ∈ shorthandLetters ∧ plain.isValid = true ∧ short.isValid = true ∧
      short.value.toNat = plain.value.toNat * 10 ^ 3 := by
  intro number plain short
  have isUnit : (String.ofList (Text.lowerCase "Gwei".toList), 9) ∈ Denomination.table := by
    decide +kernel
  have isLetter : ('K'.toLower, 3) ∈ shorthandLetters := by decide
  have valid : plain.isValid = true := by decide +kernel
  have shortValid : short.isValid = true := by decide +kernel
  obtain ⟨scales, -⟩ := shorthand_scales_whole_numbers number isUnit isLetter valid
  exact ⟨isUnit, isLetter, valid, shortValid, (scales rfl).2 shortValid⟩

/-- The zeros of a letter behind a point are digits of the fraction. -/
theorem fraction_not_scaled :
    (parse "1.5 ether").isValid = true ∧ (parse "1.5k ether").isValid = true ∧
      (parse "1.5k ether").value.toNat ≠ (parse "1.5 ether").value.toNat * 10 ^ 3 := by
  decide +kernel

end Quantity

end TimedRelease
