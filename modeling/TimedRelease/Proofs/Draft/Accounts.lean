import Mathlib.Data.List.DropRight
import Mathlib.Data.List.Forall2
import TimedRelease.Draft.Basic
import TimedRelease.Proofs.Address.Checksum
import TimedRelease.Proofs.Tracker.Texts

/-!
# The accounts of a wallet as senders

Whatever accounts a wallet reports, a draft offers each of them, in the order of the report
and under the checksum form of its address.  The first one becomes the sender, which then
keeps no draft from being signed; without accounts there is no sender.
-/

namespace TimedRelease

namespace Address

/-! ## Labels -/

theorem utf8Size_of_small {c : Char} (small : c.toNat < 0x80) : c.utf8Size = 1 := by
  apply Char.utf8Size_eq_one_iff.mpr
  rw [UInt32.le_iff_toNat_le]
  exact Nat.le_of_lt_succ small

/-- In the seven-bit set bytes are counted as characters. -/
theorem cutBytes_of_isAscii {text : List Char} (ascii : Text.isAscii text = true) {count : Nat}
    (enough : count ≤ text.length) :
    takeBytes? text count = some (text.take count) ∧
      dropBytes? text count = some (text.drop count) := by
  induction text generalizing count with
  | nil =>
      obtain rfl : count = 0 := Nat.le_zero.mp enough
      exact ⟨rfl, rfl⟩
  | cons c rest induction =>
      obtain ⟨small, restAscii⟩ : c.toNat < 0x80 ∧ Text.isAscii rest = true := by
        simpa [Text.isAscii] using ascii
      cases count with
      | zero => exact ⟨rfl, rfl⟩
      | succ count =>
          obtain ⟨taken, dropped⟩ := induction restAscii (Nat.le_of_succ_le_succ enough)
          simp [takeBytes?, dropBytes?, utf8Size_of_small small, taken, dropped]

theorem label_of_isAscii {text : List Char} (ascii : Text.isAscii text = true)
    (long : tailStart < text.length) :
    label text = text.take headBytes ++ ['.', '.', '.'] ++ text.drop tailStart := by
  have headFits : headBytes ≤ text.length := by
    rw [tailStart] at long
    rw [headBytes]
    omega
  obtain ⟨head, -⟩ := cutBytes_of_isAscii ascii headFits
  obtain ⟨-, tail⟩ := cutBytes_of_isAscii ascii (Nat.le_of_lt long)
  rw [label, head, tail]
  cases behind : text.drop tailStart with
  | nil => exact absurd (List.drop_eq_nil_iff.mp behind) (Nat.not_le_of_lt long)
  | cons c rest => simp

end Address

/-! ## Addresses of accounts -/

namespace Account

theorem isDigits_digits (account : Account) : Address.IsDigits account.digits := by
  constructor
  · simp [digits, Digest.hexBytes, Digest.hexByte, List.length_flatMap, List.map_const',
      Address.digitCount]
  · intro c member
    obtain ⟨byte, -, digit⟩ := List.mem_flatMap.mp member
    have bound := byte.toNat_lt
    simp only [Digest.hexByte, List.mem_cons, List.not_mem_nil, or_false] at digit
    rcases digit with rfl | rfl <;> exact Text.isHexDigit_digitChar (by omega)

theorem byteOf_toLower {high low : Char} (highDigit : Text.isHexDigit high = true)
    (lowDigit : Text.isHexDigit low = true) :
    byteOf high.toLower low.toLower = byteOf high low := by
  rw [byteOf, byteOf, Text.digitValue_toLower highDigit, Text.digitValue_toLower lowDigit]

/-- Digits stand for the same bytes in small letters. -/
theorem bytesOf_map_toLower {digits : List Char}
    (all : ∀ c ∈ digits, Text.isHexDigit c = true) :
    bytesOf (digits.map Char.toLower) = bytesOf digits := by
  induction digits using bytesOf.induct with
  | case1 high low rest induction =>
      obtain ⟨highDigit, lowDigit, restDigits⟩ :
          Text.isHexDigit high = true ∧ Text.isHexDigit low = true ∧
            ∀ c ∈ rest, Text.isHexDigit c = true := by simpa using all
      simp only [List.map_cons, bytesOf, byteOf_toLower highDigit lowDigit, induction restDigits]
  | case2 digits short =>
      match digits, short with
      | [], _ => rfl
      | [_], _ => rfl
      | high :: low :: rest, short => exact (short high low rest rfl).elim

theorem bytesOf_of_sameLetters {variant : List Char} {account : Account}
    (same : Text.SameLetters variant account.digits) :
    bytesOf variant = account.bytes.toList := by
  have isDigits := account.isDigits_digits
  calc bytesOf variant
      = bytesOf (variant.map Char.toLower) :=
        (bytesOf_map_toLower (isDigits.of_sameLetters same).hexadecimal).symm
    _ = bytesOf (account.digits.map Char.toLower) := congrArg bytesOf same
    _ = bytesOf account.digits := bytesOf_map_toLower isDigits.hexadecimal
    _ = account.bytes.toList := bytesOf_hexBytes _

end Account

namespace AccountOption

/-- The option shows the account: its address has the digits of the account's bytes and raises
no warning, and the label is the start and the end of the address. -/
structure Offers [Digest.Hash] (option : AccountOption) (account : Account) : Prop where
  address : ∃ digits, Address.IsDigits digits ∧
    option.address = String.ofList (Address.marked digits) ∧
    Account.bytesOf digits = account.bytes.toList
  unwarned : (Address.classify option.address).warning = none
  label : option.label.toList =
    option.address.toList.take 12 ++ "...".toList ++ option.address.toList.rtake 10

theorem offers_ofAccount [Digest.Hash] (account : Account) :
    (ofAccount account).Offers account := by
  have isDigits := account.isDigits_digits
  obtain ⟨variant, same, form⟩ := Address.exists_sameLetters_checksummed isDigits
  have isVariant := isDigits.of_sameLetters same
  have address : (ofAccount account).address = String.ofList (Address.marked variant) :=
    congrArg String.ofList form
  have characters : (ofAccount account).address.toList = Address.marked variant := by
    rw [address, String.toList_ofList]
  refine ⟨⟨variant, isVariant, address, Account.bytesOf_of_sameLetters same⟩, ?_, ?_⟩
  · rw [Address.classify, characters, Address.warning?_of_sameLetters isDigits same]
    exact if_pos (.inr form.symm)
  · have ascii : Text.isAscii (Address.marked variant) = true := by
      simpa [Address.marked, Text.isAscii] using Text.isAscii_of_isHexDigit isVariant.hexadecimal
    have length : (Address.marked variant).length = 42 := by
      simp [Address.marked, isVariant.length, Address.digitCount]
    have long : Address.tailStart < (Address.marked variant).length := by
      rw [length]
      decide
    have label : (ofAccount account).label.toList = Address.label (Address.marked variant) := by
      rw [← characters]
      exact String.toList_ofList
    rw [label, characters, Address.label_of_isAscii ascii long, List.rtake, length]
    rfl

end AccountOption

/-! ## The sender -/

/-- The refusal is about the sender. -/
def DraftError.BlamesSender : DraftError → Prop
  | .missingSender => True
  | .invalidSender _ => True
  | _ => False

namespace Draft

theorem exists_blamesSender_iff {draft : Draft} :
    (∃ error, draft.validate = .error error ∧ error.BlamesSender) ↔
      draft.sender.value = "" ∨ draft.sender.warning = some .malformed := by
  constructor
  · intro refused
    obtain ⟨error, failed, blames⟩ := refused
    by_contra fine
    obtain ⟨given, formed⟩ := not_or.mp fine
    have notEmpty : draft.sender.isEmpty = false := by simpa [AddressCheck.isEmpty] using given
    rw [validate, notEmpty, if_neg Bool.false_ne_true, if_neg formed] at failed
    split at failed
    · obtain rfl := Except.error.inj failed
      exact blames
    · split at failed
      · obtain rfl := Except.error.inj failed
        exact blames
      · contradiction
  · intro fault
    by_cases empty : draft.sender.value = ""
    · refine ⟨.missingSender, ?_, trivial⟩
      rw [validate, if_pos (by simpa [AddressCheck.isEmpty] using empty)]
    · refine ⟨.invalidSender draft.sender.value, ?_, trivial⟩
      rw [validate, if_neg (by simpa [AddressCheck.isEmpty] using empty),
        if_pos (fault.resolve_left empty)]

/-- Whatever the hash: each account that is reported is offered at its place, and the first one
becomes the sender, so that nothing is wrong with the sender exactly if there is one.  Nothing
else of the draft changes. -/
theorem accounts_offered_in_order [Digest.Hash] (draft : Draft) (accounts : List Account) :
    let after := draft.applyAccounts accounts
    List.Forall₂ AccountOption.Offers after.accounts accounts ∧
      after.sender = Address.classify (after.accounts.head?.elim "" AccountOption.address) ∧
      ((¬∃ error, after.validate = .error error ∧ error.BlamesSender) ↔ accounts ≠ []) ∧
      after = { draft with accounts := after.accounts, sender := after.sender } := by
  intro after
  refine ⟨?_, ?_, ?_, rfl⟩
  · apply List.forall₂_map_left_iff.mpr
    apply List.forall₂_same.mpr
    intro account _
    exact AccountOption.offers_ofAccount account
  · cases accounts with
    | nil => rfl
    | cons first rest => rfl
  · rw [exists_blamesSender_iff]
    cases accounts with
    | nil => simp [after, applyAccounts, Address.classify]
    | cons first rest =>
        have offers := AccountOption.offers_ofAccount first
        have sender : after.sender = Address.classify (AccountOption.ofAccount first).address := rfl
        obtain ⟨digits, -, address, -⟩ := offers.address
        have given : after.sender.value ≠ "" := by
          rw [sender, Address.classify, address]
          simp [Address.marked]
        have unwarned : after.sender.warning = none := by
          rw [sender]
          exact offers.unwarned
        simp [given, unwarned]

end Draft

end TimedRelease
