import TimedRelease.Proofs.Quantity.Literals
import TimedRelease.Proofs.Text.Letters

/-!
# Amounts as the program writes them

Whatever form an amount is written in, in base sixteen, in base ten or in wei, reading it gives
the amount back.  The form in base sixteen is canonical: all ways to write an amount in digits
of base sixteen come to it in small letters and without zeros in front.
-/

namespace TimedRelease

namespace Text

/-! ## Digits without zeros in front -/

/-- Digits without the zeros they start with, and a zero if nothing is left. -/
def withoutLeadingZeros (digits : List Char) : List Char :=
  match digits.dropWhile (· = '0') with
  | [] => ['0']
  | kept => kept

theorem withoutLeadingZeros_zero_cons (digits : List Char) :
    withoutLeadingZeros ('0' :: digits) = withoutLeadingZeros digits := by
  simp [withoutLeadingZeros]

theorem withoutLeadingZeros_cons_of_ne {c : Char} (visible : c ≠ '0') (digits : List Char) :
    withoutLeadingZeros (c :: digits) = c :: digits := by
  simp [withoutLeadingZeros, visible]

theorem hexadecimal_append {digits : List Char} (all : ∀ c ∈ digits, isHexDigit c = true)
    {total : Nat} (positive : 0 < total) :
    hexadecimal (digits.foldl (fun total c => total * 16 + digitValue c) total) =
      hexadecimal total ++ digits.map Char.toLower := by
  induction digits generalizing total with
  | nil => simp
  | cons c rest induction =>
      obtain ⟨digit, restAll⟩ := List.forall_mem_cons.mp all
      have small := digitValue_lt_of_isHexDigit digit
      have last : hexadecimal (total * 16 + digitValue c) = hexadecimal total ++ [c.toLower] := by
        rw [hexadecimal, Nat.mul_comm, ← Nat.toDigits_append_toDigits (by omega) positive small,
          Nat.toDigits_of_lt_base small, digitChar_digitValue digit]
        rfl
      rw [List.foldl_cons, induction restAll (by omega), last, List.map_cons, List.append_assoc]
      rfl

/-- The number that digits denote is written in the same digits. -/
theorem hexadecimal_valueOf {digits : List Char} (all : ∀ c ∈ digits, isHexDigit c = true) :
    hexadecimal (valueOf 16 digits) = withoutLeadingZeros (digits.map Char.toLower) := by
  induction digits with
  | nil => rfl
  | cons c rest induction =>
      obtain ⟨digit, restAll⟩ := List.forall_mem_cons.mp all
      have small := digitValue_lt_of_isHexDigit digit
      have written := digitChar_digitValue digit
      rw [List.map_cons]
      cases value : digitValue c with
      | zero =>
          have zero : c.toLower = '0' := by
            rw [← written, value]
            rfl
          have rest : valueOf 16 (c :: rest) = valueOf 16 rest := by
            simp [valueOf, value]
          rw [rest, zero, withoutLeadingZeros_zero_cons, induction restAll]
      | succ n =>
          have visible : c.toLower ≠ '0' := by
            intro zero
            have same := digitValue_toLower digit
            rw [zero, value] at same
            contradiction
          have front : valueOf 16 (c :: rest) =
              rest.foldl (fun total c => total * 16 + digitValue c) (digitValue c) := by
            simp [valueOf]
          rw [front, hexadecimal_append restAll (by omega), withoutLeadingZeros_cons_of_ne visible,
            hexadecimal, Nat.toDigits_of_lt_base small, written]
          rfl

end Text

namespace Quantity

theorem reads_of_amount? {text : String} {word : Word256}
    (amount : (parse text).amount? = some word) :
    (parse text).isValid = true ∧ (parse text).value = word := by
  rw [isValid, value, amount]
  exact ⟨rfl, rfl⟩

/-- A number in base ten denotes itself. -/
theorem denotes_decimal (n : Nat) : Denotes (Text.lowerCase (Text.decimal n)) n := by
  have digits : ∀ c ∈ Text.decimal n, Text.isDecimalDigit c = true := by
    intro c member
    exact Text.isDecimalDigit_of_mem_decimal member
  have lowered : Text.lowerCase (Text.decimal n) = Text.decimal n := by
    apply Text.lowerCase_of_small
    intro c member
    exact Text.small_of_isDecimalDigit (digits c member)
  have unmarked : ¬['0', 'x'] <+: Text.decimal n := by
    intro marked
    have mark := digits 'x' (marked.subset (by simp))
    contradiction
  have expanded : expandShorthand (Text.trim (Text.decimal n)) = Text.decimal n := by
    rw [(Text.isWord_decimal n).trim_eq, expandShorthand_of_digits digits]
  have few : (Text.words (Text.decimal n)).length < 2 := by
    simp [(Text.isWord_decimal n).words_eq]
  have denoted : Denotes (Text.decimal n)
      (Text.positional 10 (expandShorthand (Text.trim (Text.decimal n)))) := by
    apply Denotes.plain unmarked few <;> rw [expanded]
    · exact Text.decimal_ne_nil n
    · exact digits
  rw [lowered]
  rwa [expanded, ← Text.valueOf_eq_positional, Text.valueOf_decimal] at denoted

theorem amount?_parse_decimal (word : Word256) : (parse word.decimal).amount? = some word := by
  rw [amount?_parse_eq_some_iff, Word256.decimal, Text.decimalText, String.toList_ofList]
  exact denotes_decimal word.toNat

theorem amount?_parse_of_sameLetters {word : Word256} {text : String}
    (same : Text.SameLetters text.toList word.hex.toList) :
    (parse text).amount? = some word := by
  rw [amount?_parse_eq_some_iff, same.lowerCase_eq (Text.isAscii_hexText word.toNat)]
  exact denotes_hexText word.toNat

/-- The amount that digits are read as is written in the same digits. -/
theorem hex_of_amount? {mark : Char} (isMark : mark = 'x' ∨ mark = 'X') {digits : List Char}
    (all : ∀ c ∈ digits, Text.isHexDigit c = true) {word : Word256}
    (amount : (parse (String.ofList ('0' :: mark :: digits))).amount? = some word) :
    word.hex =
      String.ofList ('0' :: 'x' :: Text.withoutLeadingZeros (digits.map Char.toLower)) := by
  have ascii : Text.isAscii ('0' :: mark :: digits) = true := by
    have small := Text.isAscii_of_isHexDigit all
    rcases isMark with rfl | rfl <;> simpa [Text.isAscii] using small
  have lowered :
      Text.lowerCase ('0' :: mark :: digits) = '0' :: 'x' :: digits.map Char.toLower := by
    rw [Text.lowerCase_ascii _ ascii]
    rcases isMark with rfl | rfl <;> rfl
  rw [amount?_parse, String.toList_ofList, read?, lowered] at amount
  obtain ⟨n, read, fits⟩ := Option.bind_eq_some_iff.mp amount
  obtain ⟨-, lowerAll, value⟩ := Text.readHex?_eq_some_iff.mp read
  have written := Text.hexadecimal_valueOf lowerAll
  rw [Text.valueOf_eq_positional, value, List.map_map] at written
  have twice : Char.toLower ∘ Char.toLower = Char.toLower := funext Text.toLower_toLower
  rw [Word256.hex, Text.hexText, Word256.ofNat?_eq_some_iff.mp fits, written, twice]

theorem amount?_of_reads {text : String} {word : Word256} (valid : (parse text).isValid = true)
    (value : (parse text).value = word) : (parse text).amount? = some word := by
  obtain ⟨amount, found⟩ := Option.isSome_iff_exists.mp valid
  rw [Quantity.value, found] at value
  rw [found]
  exact congrArg some value

/-- Each way in which an amount is written is read back as this amount: base sixteen in letters
of either case, base ten, which gives the whole quantity back, and base ten with the name of
the smallest unit.  In base sixteen an amount is written as any digits behind a mark that are
read as it, in small letters and without leading zeros. -/
theorem renderings_read_back (word : Word256) :
    let quantity := ofWord word
    (∀ text : String, Text.SameLetters text.toList quantity.hex.toList →
        (parse text).isValid = true ∧ (parse text).value = word) ∧
      parse quantity.text = quantity ∧
      (parse (quantity.text ++ " wei")).isValid = true ∧
      (parse (quantity.text ++ " wei")).value = word ∧
      ∀ mark digits, mark = 'x' ∨ mark = 'X' → (∀ c ∈ digits, Text.isHexDigit c = true) →
        let typed := parse (String.ofList ('0' :: mark :: digits))
        typed.isValid = true → typed.value = word →
          quantity.hex =
            String.ofList ('0' :: 'x' :: Text.withoutLeadingZeros (digits.map Char.toLower)) := by
  intro quantity
  have hex : quantity.hex = word.hex := congrArg Word256.hex (value_ofWord word)
  have wei : (parse (quantity.text ++ " wei")).amount? = some word := by
    have named : ("wei", 0) ∈ Denomination.table := by decide
    have fits : word.toNat = word.toNat * 10 ^ 0 := by simp
    have amount := amount?_parse_units named fits
    rwa [String.append_assoc] at amount
  refine ⟨?_, ?_, (reads_of_amount? wei).1, (reads_of_amount? wei).2, ?_⟩
  · intro text same
    rw [hex] at same
    exact reads_of_amount? (amount?_parse_of_sameLetters same)
  · have amount := amount?_parse_decimal word
    exact congrArg (Quantity.mk word.decimal) amount
  · intro mark digits isMark all typed valid value
    rw [hex]
    exact hex_of_amount? isMark all (amount?_of_reads valid value)

/-- The largest word in capitals, and with zeros in front of it. -/
theorem largest_read_back :
    let word := Word256.largest
    let quantity := ofWord word
    let capitals := String.ofList ('0' :: 'X' :: List.replicate 64 'F')
    let digits := '0' :: '0' :: List.replicate 64 'F'
    let typed := parse (String.ofList ('0' :: 'X' :: digits))
    Text.SameLetters capitals.toList quantity.hex.toList ∧ (parse capitals).isValid = true ∧
      (parse capitals).value = word ∧ (∀ c ∈ digits, Text.isHexDigit c = true) ∧
      typed.isValid = true ∧ typed.value = word ∧
      quantity.hex =
        String.ofList ('0' :: 'x' :: Text.withoutLeadingZeros (digits.map Char.toLower)) := by
  intro word quantity capitals digits typed
  obtain ⟨reads, -, -, -, canonical⟩ := renderings_read_back word
  have same : Text.SameLetters capitals.toList quantity.hex.toList := by
    decide +kernel
  have all : ∀ c ∈ digits, Text.isHexDigit c = true :=
    List.all_eq_true.mp (by decide +kernel)
  have valid : typed.isValid = true := by decide +kernel
  have value : typed.value = word := by decide +kernel
  exact ⟨same, (reads _ same).1, (reads _ same).2, all, valid, value,
    canonical _ _ (.inr rfl) all valid value⟩

end Quantity

end TimedRelease
