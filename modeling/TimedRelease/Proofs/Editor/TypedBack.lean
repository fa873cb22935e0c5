import TimedRelease.Proofs.Editor.Gate
import TimedRelease.Proofs.Quantity.Renderings

/-!
# Block numbers typed back

A block number is shown in base ten, with or without commas, and in base sixteen.  Each of
these texts, with any blanks around it, is read as the number it shows, so that typing back
what is shown has one outcome whatever the form.
-/

namespace TimedRelease

namespace Text

/-! ## Groups of three -/

/-- Digits and a text that shows them in groups: a first group of at most three, and groups
of exactly three behind a comma each. -/
structure InThrees (digits text first : List Char) (others : List (List Char)) : Prop where
  digits : digits = first ++ others.flatten
  text : text = first ++ others.flatMap (',' :: ·)
  nonempty : first ≠ []
  short : first.length ≤ 3
  threes : ∀ group ∈ others, group.length = 3

theorem InThrees.length_eq {digits text first : List Char} {others : List (List Char)}
    (shape : InThrees digits text first others) :
    digits.length = first.length + 3 * others.length := by
  have lengths : others.map List.length = others.map fun _ => 3 :=
    List.map_congr_left shape.threes
  rw [shape.digits, List.length_append, List.length_flatten, lengths, List.map_const',
    List.sum_replicate_nat, Nat.mul_comm]

/-- By induction on the digits from the left: a comma follows the first of them exactly when
the first group of the others is full. -/
theorem exists_inThrees {digits : List Char} (nonempty : digits ≠ []) :
    ∃ first others, InThrees digits (grouped digits) first others := by
  induction digits with
  | nil => contradiction
  | cons c rest induction =>
      cases rest with
      | nil => exact ⟨[c], [], by simp, by simp [grouped], by simp, by simp, by simp⟩
      | cons next more =>
          obtain ⟨first, others, shape⟩ := induction (by simp)
          have length := shape.length_eq
          have positive := List.length_pos_iff.mpr shape.nonempty
          have short := shape.short
          rw [grouped]
          by_cases full : (next :: more).length % 3 = 0
          · have isFull : first.length = 3 := by omega
            refine ⟨[c], first :: others, ?_, ?_, by simp, by simp, ?_⟩
            · rw [shape.digits]
              rfl
            · rw [shape.text]
              simpa using full
            · exact List.forall_mem_cons.mpr ⟨isFull, shape.threes⟩
          · have notFull : (c :: first).length ≤ 3 := by
              rw [List.length_cons]
              omega
            refine ⟨c :: first, others, ?_, ?_, by simp, notFull, shape.threes⟩
            · rw [shape.digits]
              rfl
            · rw [shape.text]
              simpa using full

theorem filter_grouped {digits : List Char} (noComma : ',' ∉ digits) :
    (grouped digits).filter (· != ',') = digits := by
  induction digits with
  | nil => rfl
  | cons c rest induction =>
      obtain ⟨other, restNoComma⟩ := not_or.mp (List.mem_cons.not.mp noComma)
      have kept : (c != ',') = true := bne_iff_ne.mpr (Ne.symm other)
      rw [grouped]
      split <;> simp [kept, induction restNoComma]

theorem withCommas_decimal (n : Nat) : withCommas (decimal n) = grouped (decimal n) := by
  have numeral : isDecimalNumeral (decimal n) = true := by
    simp only [isDecimalNumeral, Bool.and_eq_true, List.all_eq_true]
    exact ⟨by simp [decimal_ne_nil n], fun c member => isDecimalDigit_of_mem_decimal member⟩
  rw [withCommas, if_pos numeral]

theorem mem_grouped {digits : List Char} {c : Char} (member : c ∈ grouped digits) :
    c ∈ digits ∨ c = ',' := by
  induction digits with
  | nil => contradiction
  | cons first rest induction =>
      rw [grouped] at member
      split at member <;> grind

/-! ## Texts of a number -/

/-- The ways in which a number is shown: in base ten, in base ten with commas, and in base
sixteen behind its mark, all of it in letters of either case. -/
inductive Displays (n : Nat) : List Char → Prop where
  | decimal : Displays n (decimal n)
  | grouped : Displays n (withCommas (Text.decimal n))
  | hexadecimal {text : List Char} (same : SameLetters text (hexText n).toList) :
      Displays n text

theorem comma_not_mem_decimal (n : Nat) : ',' ∉ decimal n :=
  not_mem_decimal rfl

namespace Displays

variable {n : Nat} {text : List Char}

theorem isWord (displays : Displays n text) : IsWord text := by
  cases displays with
  | decimal => exact isWord_decimal n
  | grouped =>
      obtain ⟨first, others, shape⟩ := exists_inThrees (decimal_ne_nil n)
      rw [withCommas_decimal]
      refine ⟨by simp [shape.text, shape.nonempty], ?_⟩
      intro c member
      rcases mem_grouped member with digit | rfl
      · exact (isWord_decimal n).solid c digit
      · rfl
  | hexadecimal same =>
      have hexadecimal := isWord_hexText n
      refine ⟨?_, same.isBlank_eq hexadecimal.solid⟩
      rintro rfl
      exact hexadecimal.nonempty (List.length_eq_zero_iff.mp same.length_eq.symm)

/-- Once its commas are deleted it denotes the number. -/
theorem denotes (displays : Displays n text) :
    Quantity.Denotes (lowerCase (text.filter (· != ','))) n := by
  have whole {digits : List Char} (noComma : ',' ∉ digits) :
      digits.filter (· != ',') = digits := by
    apply List.filter_eq_self.mpr
    intro c member
    exact bne_iff_ne.mpr (ne_of_mem_of_not_mem member noComma)
  cases displays with
  | decimal =>
      rw [whole (comma_not_mem_decimal n)]
      exact Quantity.denotes_decimal n
  | grouped =>
      rw [withCommas_decimal, filter_grouped (comma_not_mem_decimal n)]
      exact Quantity.denotes_decimal n
  | hexadecimal same =>
      have noComma : ',' ∉ text := by
        intro member
        obtain ⟨d, among, sameLetter⟩ := same.exists_mem member
        rcases mem_hexText among with rfl | ⟨-, small⟩
        · contradiction
        · have isComma : d = ',' := small.symm.trans sameLetter
          exact comma_not_mem_hexText n (isComma ▸ among)
      rw [whole noComma, same.lowerCase_eq (isAscii_hexText n)]
      exact Quantity.denotes_hexText n

end Displays

end Text

namespace Editor

theorem readBlock?_of_displays {number : UInt64} {before text after : List Char}
    (beforeBlank : Text.AllBlank before) (displays : Text.Displays number.toNat text)
    (afterBlank : Text.AllBlank after) :
    readBlock? (String.ofList (before ++ (text ++ after))) = some number := by
  apply readBlock?_eq_some_iff.mpr
  rw [String.toList_ofList, Text.trim_of_isWord beforeBlank displays.isWord afterBlank]
  exact displays.denotes

/-- A text that gives a number is shown with it, and a release of that block is issued and
published if it lies above the floor. -/
theorem step_editBlock_of_read (editor : Editor) {text : String} {number : UInt64}
    (read : readBlock? text = some number) :
    let shown := { editor with block := ⟨text, some number, editor.block.floor⟩ }
    let release := editor.nextRelease (.block number)
    editor.step (.editBlock text) =
      if editor.block.floor < number then
        ({ shown with
            current := release
            channel := editor.channel.publish release
            issued := editor.issued + 1 }, .accepted release)
      else (shown, .refused (.blockNotAboveFloor number editor.block.floor)) := by
  intro shown release
  have showing : editor.showBlock text = shown := by
    rw [showBlock, read]
  by_cases above : editor.block.floor < number
  · rw [step, editBlock_of_above editor read above, if_pos above, showing]
    rfl
  · rw [step, editBlock_of_below editor read (UInt64.not_lt.mp above), if_neg above, showing]
    rfl

/-- Every text in which a block number is shown, with any blanks around it, has the same
outcome when it is typed: the number is shown beside it, and a release of that block is
issued and published exactly when it lies above the floor.  With commas the number is shown
in groups, a first one of at most three digits and further ones of exactly three, and the
digits are left when the commas are deleted. -/
theorem displayed_block_typed_back (editor : Editor) (number : UInt64) :
    (∀ before typed after : List Char, Text.AllBlank before →
      Text.Displays number.toNat typed → Text.AllBlank after →
        let text := String.ofList (before ++ (typed ++ after))
        let shown := { editor with block := ⟨text, some number, editor.block.floor⟩ }
        let release := editor.nextRelease (.block number)
        editor.step (.editBlock text) =
          if editor.block.floor < number then
            ({ shown with
                current := release
                channel := editor.channel.publish release
                issued := editor.issued + 1 }, .accepted release)
          else (shown, .refused (.blockNotAboveFloor number editor.block.floor))) ∧
      let digits := Text.decimal number.toNat
      (∃ first others, Text.InThrees digits (Text.withCommas digits) first others) ∧
        (Text.withCommas digits).filter (· != ',') = digits := by
  refine ⟨?_, ?_, ?_⟩
  · intro before typed after beforeBlank displays afterBlank
    exact editor.step_editBlock_of_read
      (readBlock?_of_displays beforeBlank displays afterBlank)
  · rw [Text.withCommas_decimal]
    exact Text.exists_inThrees (Text.decimal_ne_nil _)
  · rw [Text.withCommas_decimal]
    exact Text.filter_grouped (Text.comma_not_mem_decimal _)

/-- A number of seven digits in commas between blanks, and the largest number in capitals,
which a floor of the same height refuses. -/
theorem blocks_typed_back :
    let editor := start 1700000000 100 10800
    let raised := editor.setFloor 18446744073709551615
    let typed := "\t1,234,567\u2003"
    let largest := " 0XFFFFffffFFFFffff"
    (editor.step (.editBlock typed)).2 = .accepted (editor.nextRelease (.block 1234567)) ∧
      (editor.step (.editBlock typed)).1.channel =
        editor.channel.publish (editor.nextRelease (.block 1234567)) ∧
      (raised.step (.editBlock largest)).2 =
        .refused (.blockNotAboveFloor 18446744073709551615 18446744073709551615) ∧
      (raised.step (.editBlock largest)).1.channel = raised.channel := by
  intro editor raised typed largest
  obtain ⟨reads, -⟩ := displayed_block_typed_back editor 1234567
  obtain ⟨readsLargest, -⟩ := displayed_block_typed_back raised 18446744073709551615
  have blank {c : Char} (isBlank : Text.isBlank c = true) : Text.AllBlank [c] := by
    simpa [Text.AllBlank] using isBlank
  have grouped := reads ['\t'] _ ['\u2003'] (blank (by decide)) .grouped (blank (by decide))
  have groupedText : String.ofList (['\t'] ++ (Text.withCommas (Text.decimal
      (1234567 : UInt64).toNat) ++ ['\u2003'])) = typed := by decide +kernel
  have capitals : Text.Displays (18446744073709551615 : UInt64).toNat
      "0XFFFFffffFFFFffff".toList := .hexadecimal (by decide +kernel)
  have marked := readsLargest [' '] _ [] (blank (by decide)) capitals (List.forall_mem_nil _)
  have markedText : String.ofList ([' '] ++ ("0XFFFFffffFFFFffff".toList ++ [])) = largest := by
    decide +kernel
  dsimp only at grouped marked
  rw [groupedText, if_pos (by decide)] at grouped
  rw [markedText, if_neg (by decide)] at marked
  rw [grouped, marked]
  exact ⟨rfl, rfl, rfl, rfl⟩

end Editor

end TimedRelease
