import TimedRelease.Proofs.Quantity.Units

/-!
# Numbers in base sixteen

A number written in base sixteen behind its mark is a word in small letters, and a
quantity that denotes this number.
-/

namespace TimedRelease

namespace Text

theorem toList_hexText (n : Nat) : (hexText n).toList = '0' :: 'x' :: hexadecimal n :=
  String.toList_ofList

theorem mem_hexText {n : Nat} {c : Char} (member : c ∈ (hexText n).toList) :
    c = 'x' ∨ isHexDigit c = true ∧ c.toLower = c := by
  rw [toList_hexText] at member
  rcases List.mem_cons.mp member with rfl | member
  · exact .inr (by decide)
  · rcases List.mem_cons.mp member with rfl | digit
    · exact .inl rfl
    · exact .inr ⟨isHexDigit_of_mem_hexadecimal digit, toLower_of_mem_hexadecimal digit⟩

theorem isWord_hexText (n : Nat) : IsWord (hexText n).toList := by
  refine ⟨by simp [toList_hexText], ?_⟩
  intro c member
  rcases mem_hexText member with rfl | ⟨digit, -⟩
  · rfl
  · exact isBlank_of_isHexDigit digit

theorem isAscii_hexText (n : Nat) : isAscii (hexText n).toList = true := by
  simp only [isAscii, List.all_eq_true, decide_eq_true_eq]
  intro c member
  rcases mem_hexText member with rfl | ⟨digit, -⟩
  · decide
  · have bounds := toNat_of_isHexDigit digit
    omega

theorem lowerCase_hexText (n : Nat) : lowerCase (hexText n).toList = (hexText n).toList := by
  apply lowerCase_of_small
  intro c member
  rcases mem_hexText member with rfl | ⟨digit, small⟩
  · decide
  · have bounds := toNat_of_isHexDigit digit
    exact ⟨by omega, small⟩

theorem comma_not_mem_hexText (n : Nat) : ',' ∉ (hexText n).toList := by
  intro member
  rcases mem_hexText member with same | ⟨digit, -⟩
  · contradiction
  · contradiction

end Text

namespace Quantity

theorem denotes_hexText (n : Nat) : Denotes (Text.lowerCase (Text.hexText n).toList) n := by
  have digits : ∀ c ∈ Text.hexadecimal n, Text.isHexDigit c = true := by
    intro c member
    exact Text.isHexDigit_of_mem_hexadecimal member
  have denoted : Denotes ('0' :: 'x' :: Text.hexadecimal n)
      (Text.positional 16 (Text.hexadecimal n)) :=
    .hexadecimal (Text.hexadecimal_ne_nil n) digits
  rw [← Text.valueOf_eq_positional, Text.valueOf_hexadecimal] at denoted
  rwa [Text.lowerCase_hexText, Text.toList_hexText]

end Quantity

end TimedRelease
