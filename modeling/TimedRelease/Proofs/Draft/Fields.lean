import TimedRelease.Draft.Basic
import TimedRelease.Proofs.Address.Checksum

/-!
# The fields of a draft

However a draft is edited, its sender and its recipient carry the warnings of their own
texts.  So a draft that validates holds in the three fields that go out as they were
typed nothing but addresses and bytes in hexadecimal.
-/

namespace TimedRelease

theorem AddressWarning.any_isBlocking_iff {warning : Option AddressWarning} :
    warning.any isBlocking = true ↔ warning = some .malformed := by
  rcases warning with _ | _ | _ | _ <;> decide

theorem Payload.dataError?_eq_none_iff {text : String} :
    dataError? text = none ↔ isData text.toList = true := by
  rw [dataError?]
  split <;> simp_all

namespace Draft

theorem run_append [Digest.Hash] (draft : Draft) (first second : List DraftEdit) :
    draft.run (first ++ second) = (draft.run first).run second :=
  List.foldl_append

/-- The gas price after news from the network: the one chosen before, or the middle of the
options. -/
def priceAfter (chosen : Quantity) (price : Word256) : Quantity :=
  if chosen.isZero then
    match GasPriceOption.middle?
        (GasPriceOption.around (price.toNat / Denomination.gwei.multiplier)) with
    | some middle => .ofWord middle.value
    | none => chosen
  else chosen

/-- News of the gas price rebuilds the options and touches nothing but the gas price. -/
theorem applyGasPrice_eq (draft : Draft) (price : Word256) :
    draft.applyGasPrice price =
      { draft with
        options := GasPriceOption.around (price.toNat / Denomination.gwei.multiplier)
        gasPrice := priceAfter draft.gasPrice price } := by
  simp only [applyGasPrice, priceAfter]
  split
  · split <;> simp_all
  · rfl

theorem exists_applyGasPrice (draft : Draft) (price : Word256) :
    ∃ gasPrice, draft.applyGasPrice price =
      { draft with
        options := GasPriceOption.around (price.toNat / Denomination.gwei.multiplier)
        gasPrice } :=
  ⟨_, draft.applyGasPrice_eq price⟩

/-- The addresses of a draft carry the warnings of their own texts. -/
structure Classified [Digest.Hash] (draft : Draft) : Prop where
  sender : draft.sender = Address.classify draft.sender.value
  recipient : draft.recipient = Address.classify draft.recipient.value

namespace Classified

variable [Digest.Hash] {draft : Draft}

theorem start : Classified Draft.start := ⟨rfl, rfl⟩

theorem of_same {next : Draft} (classified : draft.Classified)
    (sameSender : next.sender = draft.sender) (sameRecipient : next.recipient = draft.recipient) :
    next.Classified := by
  constructor
  · rw [sameSender]
    exact classified.sender
  · rw [sameRecipient]
    exact classified.recipient

theorem fill (classified : draft.Classified) (field : DraftField) (text : String) :
    (draft.fill field text).Classified := by
  cases field with
  | sender => exact ⟨rfl, classified.recipient⟩
  | recipient => exact ⟨classified.sender, rfl⟩
  | value => exact classified.of_same rfl rfl
  | gasLimit => exact classified.of_same rfl rfl
  | gasPrice => exact classified.of_same rfl rfl
  | data => exact classified.of_same rfl rfl

theorem applyGasPrice (classified : draft.Classified) (price : Word256) :
    (draft.applyGasPrice price).Classified := by
  obtain ⟨gasPrice, same⟩ := exists_applyGasPrice draft price
  rw [same]
  exact classified.of_same rfl rfl

theorem step (classified : draft.Classified) (edit : DraftEdit) :
    (draft.step edit).Classified := by
  cases edit with
  | setField field text => exact classified.fill field text
  | chooseGasPrice text => exact classified.of_same rfl rfl
  | applyGasPrice price => exact classified.applyGasPrice price
  | applyAccounts accounts => exact ⟨rfl, classified.recipient⟩

theorem run (classified : draft.Classified) (edits : List DraftEdit) :
    (draft.run edits).Classified := by
  induction edits generalizing draft with
  | nil => exact classified
  | cons edit rest induction => exact induction (classified.step edit)

end Classified

/-- What a draft that validates holds in the fields that go out as typed. -/
structure Signable (draft : Draft) : Prop where
  sender : Address.isWellFormed draft.sender.value.toList = true
  recipient : draft.recipient.value = "" ∨
    Address.isWellFormed draft.recipient.value.toList = true
  data : Payload.isData draft.data.toList = true

theorem validate_eq_ok_iff {draft : Draft} :
    draft.validate = .ok () ↔
      draft.sender.value ≠ "" ∧ draft.sender.warning ≠ some .malformed ∧
        draft.recipient.warning ≠ some .malformed ∧
        Payload.isData draft.data.toList = true := by
  have blocking : draft.recipient.warning.any AddressWarning.isBlocking = true ↔
      draft.recipient.warning = some .malformed := AddressWarning.any_isBlocking_iff
  have accepted : draft.dataError? = none ↔ Payload.isData draft.data.toList = true :=
    Payload.dataError?_eq_none_iff
  rw [← accepted]
  unfold validate
  cases refused : draft.dataError? <;>
    split_ifs <;> simp_all [AddressCheck.isEmpty]

theorem Classified.signable [Digest.Hash] {draft : Draft} (classified : draft.Classified)
    (valid : draft.validate = .ok ()) : draft.Signable := by
  obtain ⟨given, sender, recipient, data⟩ := validate_eq_ok_iff.mp valid
  rw [classified.sender] at sender
  rw [classified.recipient] at recipient
  constructor
  · have formed := Address.warning?_ne_malformed_iff.mp sender
    simpa [given] using formed
  · have formed := Address.warning?_ne_malformed_iff.mp recipient
    simpa using formed
  · exact data

end Draft

end TimedRelease
