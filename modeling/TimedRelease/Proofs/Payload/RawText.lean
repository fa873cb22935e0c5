import TimedRelease.Payload
import TimedRelease.Proofs.Text.Numerals
import TimedRelease.Proofs.Text.Words

/-!
# The text of a raw transaction

Raw transactions are told by a pattern: any number of marks, and digits behind them.  They
have no blanks, so that their text is read back as it is.  Text that was trimmed before
is relayed character for character, or refused.
-/

namespace TimedRelease

namespace Payload

/-- Any number of marks `0x`, and behind them digits of base sixteen, at least one. -/
def MarkedDigits (text : List Char) : Prop :=
  ∃ (marks : Nat) (digits : List Char),
    text = (List.replicate marks ['0', 'x']).flatten ++ digits ∧
      digits ≠ [] ∧ ∀ c ∈ digits, Text.isHexDigit c = true

theorem isRawTransaction_of_digits {digits : List Char} (nonempty : digits ≠ [])
    (all : ∀ c ∈ digits, Text.isHexDigit c = true) : isRawTransaction digits = true := by
  cases digits with
  | nil => contradiction
  | cons c rest =>
      have unmarked : ∀ more, c = '0' → rest = 'x' :: more → False := by
        rintro more - rfl
        have digit := all 'x' (by simp)
        contradiction
      rw [isRawTransaction.eq_3 c rest unmarked]
      exact List.all_eq_true.mpr all

/-- The pattern has no other reading, since the letter of the mark is no digit. -/
theorem isRawTransaction_iff {text : List Char} :
    isRawTransaction text = true ↔ MarkedDigits text := by
  constructor
  · intro isRaw
    induction text using isRawTransaction.induct with
    | case1 => contradiction
    | case2 rest induction =>
        obtain ⟨marks, digits, rfl, nonempty, all⟩ := induction isRaw
        exact ⟨marks + 1, digits, rfl, nonempty, all⟩
    | case3 c rest unmarked =>
        rw [isRawTransaction.eq_3 c rest unmarked] at isRaw
        exact ⟨0, c :: rest, rfl, by simp, List.all_eq_true.mp isRaw⟩
  · rintro ⟨marks, digits, rfl, nonempty, all⟩
    induction marks with
    | zero => exact isRawTransaction_of_digits nonempty all
    | succ marks induction => exact induction

theorem isWord_of_isRawTransaction {text : List Char} (isRaw : isRawTransaction text = true) :
    Text.IsWord text := by
  obtain ⟨marks, digits, rfl, nonempty, all⟩ := isRawTransaction_iff.mp isRaw
  refine ⟨by simp [nonempty], ?_⟩
  intro c member
  rcases List.mem_append.mp member with marked | digit
  · obtain ⟨mark, repeated, inside⟩ := List.mem_flatten.mp marked
    rw [List.eq_of_mem_replicate repeated] at inside
    have solid : ∀ c ∈ ['0', 'x'], Text.isBlank c = false := by simp [Text.isBlank]
    exact solid c inside
  · exact Text.isBlank_of_isHexDigit (all c digit)

end Payload

namespace RawTransaction

theorem eq_of_text {first second : RawTransaction} (same : first.text = second.text) :
    first = second := by
  obtain ⟨text, isRaw⟩ := first
  obtain rfl : text = second.text := same
  rfl

theorem parse_eq_ok_iff {text : String} {raw : RawTransaction} :
    parse text = .ok raw ↔ Text.trimmed text = raw.text := by
  obtain ⟨stored, storedRaw⟩ := raw
  by_cases isRaw : Payload.isRawTransaction (Text.trimmed text).toList = true
  · rw [parse, dif_pos isRaw, Except.ok.injEq, mk.injEq]
  · rw [parse, dif_neg isRaw]
    simp only [reduceCtorEq, false_iff]
    intro same
    rw [same] at isRaw
    exact isRaw storedRaw

@[simp] theorem trimmed_text (raw : RawTransaction) : Text.trimmed raw.text = raw.text := by
  have bare := (Payload.isWord_of_isRawTransaction raw.isRaw).trim_eq
  rw [Text.trimmed, bare, String.ofList_toList]

@[simp] theorem parse_text (raw : RawTransaction) : parse raw.text = .ok raw :=
  parse_eq_ok_iff.mpr raw.trimmed_text

theorem exists_error_of_refused {text : String}
    (refused : Payload.isRawTransaction (Text.trimmed text).toList = false) :
    ∃ error, parse text = .error error := by
  rw [parse, dif_neg (by simp [refused])]
  exact ⟨_, rfl⟩

theorem error?_eq_some_iff {text : String} {error : PayloadError} :
    error? text = some error ↔ parse text = .error error := by
  rw [error?]
  cases parse text <;> simp

theorem error?_eq_none_iff {text : String} :
    error? text = none ↔ ∃ raw, parse text = .ok raw := by
  rw [error?]
  cases parse text <;> simp

end RawTransaction

end TimedRelease
