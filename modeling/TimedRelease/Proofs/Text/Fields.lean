import TimedRelease.Proofs.Quantity.Grammar
import TimedRelease.Proofs.Text.Letters

/-!
# Fields of a text

A number can fill a fixed number of places, which then hold it in one way only.  Other fields
end at a mark: if they do not contain it, the text gives them away.
-/

namespace TimedRelease.Text

theorem decimalText_injective : Function.Injective decimalText := by
  intro n m same
  exact decimal_injective (String.ofList_injective same)

theorem not_mem_decimalText {n : Nat} {c : Char} (other : isDecimalDigit c = false) :
    c ∉ (decimalText n).toList := by
  rw [decimalText, String.toList_ofList]
  exact not_mem_decimal other

theorem digitChar_digitValue_of_isDecimalDigit {c : Char} (digit : isDecimalDigit c = true) :
    Nat.digitChar (digitValue c) = c :=
  forall_isHexDigit (fun c => isDecimalDigit c = true → Nat.digitChar (digitValue c) = c)
    (by decide) (isHexDigit_of_isDecimalDigit digit) digit

theorem digitValue_lt_of_isDecimalDigit {c : Char} (digit : isDecimalDigit c = true) :
    digitValue c < 10 :=
  forall_isHexDigit (fun c => isDecimalDigit c = true → digitValue c < 10) (by decide)
    (isHexDigit_of_isDecimalDigit digit) digit

/-! ## Numbers in so many places -/

/-- Digits that fill a number of places, with zeros in front where they are needed. -/
structure Fills (places n : Nat) (digits : List Char) : Prop where
  length : digits.length = places
  all : ∀ c ∈ digits, isDecimalDigit c = true
  value : positional 10 digits = n

namespace Fills

variable {places n : Nat} {digits : List Char}

theorem digitValue_lt (fills : Fills places n digits) :
    ∀ value ∈ digits.reverse.map digitValue, value < 10 := by
  intro value member
  obtain ⟨c, among, rfl⟩ := List.mem_map.mp member
  exact digitValue_lt_of_isDecimalDigit (fills.all c (List.mem_reverse.mp among))

theorem lt (fills : Fills places n digits) : n < 10 ^ places := by
  have bound := Nat.ofDigits_lt_base_pow_length (by decide : 1 < 10) fills.digitValue_lt
  rw [List.length_map, List.length_reverse, fills.length] at bound
  rw [← fills.value]
  exact bound

theorem not_mem (fills : Fills places n digits) {c : Char} (other : isDecimalDigit c = false) :
    c ∉ digits := by
  intro member
  rw [fills.all c member] at other
  contradiction

/-- The number gives the digits away, since there are so many of them. -/
theorem digits_eq {others : List Char} (fills : Fills places n digits)
    (also : Fills places n others) : digits = others := by
  have lengths :
      (digits.reverse.map digitValue).length = (others.reverse.map digitValue).length := by
    simp [fills.length, also.length]
  have values : digits.reverse.map digitValue = others.reverse.map digitValue :=
    Nat.ofDigits_inj_of_len_eq (by decide) lengths fills.digitValue_lt also.digitValue_lt
      (fills.value.trans also.value.symm)
  have written {text : List Char} (all : ∀ c ∈ text, isDecimalDigit c = true) :
      ((text.reverse.map digitValue).map Nat.digitChar).reverse = text := by
    have kept : text.map (Nat.digitChar ∘ digitValue) = text.map id := by
      apply List.map_congr_left
      intro c member
      exact digitChar_digitValue_of_isDecimalDigit (all c member)
    rw [List.map_map, ← List.map_reverse, List.reverse_reverse, kept, List.map_id]
  rw [← written fills.all, values, written also.all]

end Fills

theorem valueOf_zeros_append (zeros : Nat) (digits : List Char) :
    valueOf 10 (List.replicate zeros '0' ++ digits) = valueOf 10 digits := by
  induction zeros with
  | zero => rfl
  | succ zeros induction => exact induction

theorem fills_decimal {places n : Nat} (short : (decimal n).length ≤ places) :
    Fills places n (List.replicate (places - (decimal n).length) '0' ++ decimal n) := by
  refine ⟨?_, ?_, ?_⟩
  · simp [Nat.sub_add_cancel short]
  · intro c member
    rcases List.mem_append.mp member with zero | digit
    · rw [List.eq_of_mem_replicate zero]
      rfl
    · exact isDecimalDigit_of_mem_decimal digit
  · rw [← valueOf_eq_positional, valueOf_zeros_append, valueOf_decimal]

/-! ## Fields that end at a mark -/

/-- What stands in front of the first mark is told by the mark. -/
theorem append_cons_inj {mark : Char} {before others after rest : List Char}
    (free : mark ∉ before) (othersFree : mark ∉ others)
    (same : before ++ mark :: after = others ++ mark :: rest) :
    before = others ∧ after = rest := by
  have front {text : List Char} (free : mark ∉ text) (tail : List Char) :
      (text ++ mark :: tail).takeWhile (· != mark) = text := by
    rw [List.takeWhile_append_of_pos, List.takeWhile_cons_of_neg (by simp), List.append_nil]
    intro c member
    exact bne_iff_ne.mpr (ne_of_mem_of_not_mem member free)
  have fronts : before = others := by
    rw [← front free after, same, front othersFree rest]
  subst fronts
  exact ⟨rfl, (List.cons.inj (List.append_cancel_left same)).2⟩

end TimedRelease.Text
