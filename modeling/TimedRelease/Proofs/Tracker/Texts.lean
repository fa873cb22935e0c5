import Mathlib.Data.List.Destutter
import TimedRelease.Proofs.Json.Values
import TimedRelease.Proofs.Poller.Changes
import TimedRelease.Proofs.Tracker.Kinds

/-!
# Values and their texts

What a wallet answers is compared by its JSON text.  The text gives the value away, so the
changes of the text are the changes of the value.
-/

namespace TimedRelease

theorem Json.Value.eq_of_text_eq {value other : Json.Value} (exact : value.isExact = true)
    (otherExact : other.isExact = true) (same : value.text = other.text) : value = other := by
  have rendered : value.render = other.render := String.ofList_injective same
  have read := Json.readLeading_render exact
  rw [rendered, Json.readLeading_render otherExact] at read
  injection read with pair
  exact (congrArg Prod.fst pair).symm

theorem Word256.hex_injective : Function.Injective Word256.hex := by
  intro price other same
  have digits : Text.hexadecimal price.toNat = Text.hexadecimal other.toNat := by
    have texts := String.ofList_injective same
    injection texts with _ marked
    injection marked
  apply Word256.ext
  rw [← Text.valueOf_hexadecimal price.toNat, digits, Text.valueOf_hexadecimal]

namespace Account

theorem bytesOf_hexBytes (bytes : List UInt8) : bytesOf (Digest.hexBytes bytes) = bytes := by
  induction bytes with
  | nil => rfl
  | cons byte rest induction =>
      have high : byte.toNat / 16 < 16 := by
        have := byte.toNat_lt
        omega
      have low : byte.toNat % 16 < 16 := Nat.mod_lt _ (by omega)
      have whole : byteOf (Nat.digitChar (byte.toNat / 16))
          (Nat.digitChar (byte.toNat % 16)) = byte := by
        rw [byteOf, Text.digitValue_digitChar high, Text.digitValue_digitChar low,
          Nat.div_add_mod]
        exact UInt8.ofNat_toNat
      have pair : bytesOf (Digest.hexBytes (byte :: rest)) =
          byteOf (Nat.digitChar (byte.toNat / 16)) (Nat.digitChar (byte.toNat % 16)) ::
            bytesOf (Digest.hexBytes rest) := rfl
      rw [pair, whole, induction]

theorem digits_injective : Function.Injective digits := by
  intro account other same
  have bytes : account.bytes.toList = other.bytes.toList := by
    rw [← bytesOf_hexBytes account.bytes.toList, ← bytesOf_hexBytes other.bytes.toList]
    exact congrArg bytesOf same
  cases account
  cases other
  congr
  exact Vector.toList_inj.mp bytes

end Account

namespace WalletSource

/-- A value of a kind as it is compared. -/
def write : (kind : NewsKind) → kind.Value → Json.Value
  | .accounts => writeAccounts
  | .gasPrice => writePrice
  | .chainHead => writeBlock

theorem writeAccounts_injective : Function.Injective writeAccounts := by
  intro accounts others same
  injection same with items
  refine List.map_injective_iff.mpr ?_ items
  intro account other sameItem
  injection sameItem with texts
  have characters := String.ofList_injective texts
  injection characters with _ marked
  injection marked with _ digits
  exact Account.digits_injective digits

theorem write_injective (kind : NewsKind) : Function.Injective (write kind) := by
  intro value other same
  cases kind with
  | accounts => exact writeAccounts_injective same
  | gasPrice =>
      injection same with texts
      exact Word256.hex_injective texts
  | chainHead =>
      injection same with numbers
      injection numbers with integers
      exact UInt64.toNat_inj.mp (Int.ofNat.inj integers)

theorem isExact_writeAccounts (accounts : List Account) :
    (writeAccounts accounts).isExact = true := by
  induction accounts with
  | nil => rfl
  | cons account rest induction => exact induction

theorem isExact_write (kind : NewsKind) (value : kind.Value) :
    (write kind value).isExact = true := by
  cases kind with
  | accounts => exact isExact_writeAccounts value
  | gasPrice => rfl
  | chainHead =>
      have small := UInt64.toNat_lt value
      simp [write, writeBlock, Json.Value.natural, Json.Value.isExact, Json.Number.isInteger]
      omega

/-- The text by which values of a kind are compared. -/
def textOf (kind : NewsKind) (value : kind.Value) : String :=
  (write kind value).text

theorem textOf_injective (kind : NewsKind) : Function.Injective (textOf kind) := by
  intro value other same
  apply write_injective kind
  exact Json.Value.eq_of_text_eq (isExact_write kind value) (isExact_write kind other) same

end WalletSource

variable {α : Type} [DecidableEq α] {textOf : α → String}

theorem changes_eq_destutter' (injective : Function.Injective textOf) (value : α)
    (values : List α) :
    value :: changes (some (textOf value)) (values.map fun value => (value, textOf value)) =
      values.destutter' (· ≠ ·) value := by
  induction values generalizing value with
  | nil => rfl
  | cons next rest induction =>
      rw [List.map_cons, changes]
      by_cases same : value = next
      · rw [List.destutter'_cons_neg _ (by simpa using same), if_pos (by rw [same]), ← same]
        exact induction value
      · have different : some (textOf value) ≠ some (textOf next) := by
          intro texts
          exact same (injective (Option.some.inj texts))
        rw [List.destutter'_cons_pos _ same, if_neg different, induction next]

/-- If texts tell values apart, the changes are the values without those that are equal to
the one just before. -/
theorem changes_eq_destutter (injective : Function.Injective textOf) (values : List α) :
    changes none (values.map fun value => (value, textOf value)) =
      values.destutter (· ≠ ·) := by
  cases values with
  | nil => rfl
  | cons value rest => exact changes_eq_destutter' injective value rest

end TimedRelease
