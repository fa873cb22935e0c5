import Mathlib.Algebra.Group.Nat.Even
import Mathlib.Data.List.Induction
import TimedRelease.Proofs.Draft.Fields

/-!
# What keeps a draft from being signed

The sender of a draft has to be an address; its recipient may be left out, and so may its
data, which are bytes in hexadecimal otherwise.  However the draft came about, the first of
the three that is something else is reported.  The hints shown during edits are about the
same texts: a draft whose edits end without a hint can be signed.
-/

namespace TimedRelease

/-! ## Shapes of texts -/

/-- The mark `0x` and forty hexadecimal digits. -/
def Address.IsAddress (text : String) : Prop :=
  ∃ digits, IsDigits digits ∧ text = String.ofList (marked digits)

theorem Address.isAddress_iff {text : String} :
    IsAddress text ↔ isWellFormed text.toList = true := by
  rw [isWellFormed_iff]
  apply exists_congr
  intro digits
  rw [← String.toList_inj, String.toList_ofList]

theorem Address.IsAddress.ne_empty {text : String} (isAddress : IsAddress text) : text ≠ "" := by
  rintro rfl
  rw [isAddress_iff] at isAddress
  contradiction

theorem Address.classify_ne_malformed_iff [Digest.Hash] {text : String} :
    (classify text).warning ≠ some .malformed ↔ text = "" ∨ IsAddress text := by
  rw [isAddress_iff, ← String.toList_eq_nil_iff]
  exact warning?_ne_malformed_iff

/-- The mark `0x` and two hexadecimal digits for each byte. -/
def Payload.IsBytes (text : String) : Prop :=
  ∃ digits : List Char, Even digits.length ∧ (∀ c ∈ digits, Text.isHexDigit c = true) ∧
    text = String.ofList ('0' :: 'x' :: digits)

theorem Payload.isData_iff {text : String} :
    isData text.toList = true ↔ text = "" ∨ IsBytes text := by
  constructor
  · intro accepted
    unfold isData at accepted
    split at accepted
    case h_1 nothing =>
      exact .inl (String.toList_eq_nil_iff.mp nothing)
    case h_2 digits given =>
      simp only [Bool.and_eq_true, beq_iff_eq, List.all_eq_true] at accepted
      refine .inr ⟨digits, Nat.even_iff.mpr accepted.1, accepted.2, ?_⟩
      rw [← String.toList_inj, String.toList_ofList, given]
    case h_3 => contradiction
  · intro shape
    rcases shape with empty | ⟨digits, even, all, same⟩
    · rw [empty]
      rfl
    · rw [same, String.toList_ofList]
      simp only [isData, Bool.and_eq_true, beq_iff_eq, List.all_eq_true]
      exact ⟨Nat.even_iff.mp even, all⟩

namespace Draft

open Address (IsAddress)
open Payload (IsBytes)

/-- All that a signature needs is there, in the shape that it has to have. -/
structure Complete (draft : Draft) : Prop where
  sender : IsAddress draft.sender.value
  recipient : draft.recipient.value = "" ∨ IsAddress draft.recipient.value
  data : draft.data = "" ∨ IsBytes draft.data

/-- The first thing wrong with a draft, in the order sender, recipient, data. -/
inductive FirstFault (draft : Draft) : DraftError → Prop where
  | noSender (empty : draft.sender.value = "") : FirstFault draft .missingSender
  | sender (given : draft.sender.value ≠ "") (bad : ¬IsAddress draft.sender.value) :
      FirstFault draft (.invalidSender draft.sender.value)
  | recipient (sender : IsAddress draft.sender.value)
      (bad : ¬(draft.recipient.value = "" ∨ IsAddress draft.recipient.value)) :
      FirstFault draft (.invalidRecipient draft.recipient.value)
  | data (sender : IsAddress draft.sender.value)
      (recipient : draft.recipient.value = "" ∨ IsAddress draft.recipient.value)
      (bad : ¬(draft.data = "" ∨ IsBytes draft.data)) :
      FirstFault draft (.invalidData (.data draft.data))

section

variable [Digest.Hash] {draft : Draft} {error : DraftError}

open scoped Classical in
/-- The checks of a draft, in the words of the texts it holds. -/
theorem Classified.validate_eq (classified : draft.Classified) :
    draft.validate =
      if draft.sender.value = "" then .error .missingSender
      else if IsAddress draft.sender.value then
        if draft.recipient.value = "" ∨ IsAddress draft.recipient.value then
          if draft.data = "" ∨ IsBytes draft.data then .ok ()
          else .error (.invalidData (.data draft.data))
        else .error (.invalidRecipient draft.recipient.value)
      else .error (.invalidSender draft.sender.value) := by
  have sender : draft.sender.warning = some .malformed ↔
      ¬(draft.sender.value = "" ∨ IsAddress draft.sender.value) := by
    rw [← Address.classify_ne_malformed_iff, ← classified.sender, ne_eq, not_not]
  have recipient : draft.recipient.warning = some .malformed ↔
      ¬(draft.recipient.value = "" ∨ IsAddress draft.recipient.value) := by
    rw [← Address.classify_ne_malformed_iff, ← classified.recipient, ne_eq, not_not]
  have data : draft.dataError? =
      if draft.data = "" ∨ IsBytes draft.data then none else some (.data draft.data) := by
    simp only [dataError?, Payload.dataError?, Payload.isData_iff]
  simp only [validate, AddressCheck.isEmpty, String.isEmpty_iff,
    AddressWarning.any_isBlocking_iff, sender, recipient, data]
  by_cases empty : draft.sender.value = ""
  · simp only [empty, if_true]
  · by_cases isAddress : IsAddress draft.sender.value
    · simp only [empty, isAddress, or_true, not_true, if_false, if_true]
      split_ifs <;> rfl
    · simp only [empty, isAddress, or_false, not_false_iff, if_false, if_true]

theorem Classified.validate_eq_ok_iff_complete (classified : draft.Classified) :
    draft.validate = .ok () ↔ draft.Complete := by
  rw [classified.validate_eq]
  constructor
  · intro accepted
    split_ifs at accepted with empty sender recipient data
    exact ⟨sender, recipient, data⟩
  · intro complete
    rw [if_neg complete.sender.ne_empty, if_pos complete.sender, if_pos complete.recipient,
      if_pos complete.data]

theorem Classified.validate_eq_error_iff (classified : draft.Classified) :
    draft.validate = .error error ↔ draft.FirstFault error := by
  rw [classified.validate_eq]
  constructor
  · intro refused
    split_ifs at refused with empty sender recipient data <;>
      obtain rfl := Except.error.inj refused
    · exact .noSender empty
    · exact .data sender recipient data
    · exact .recipient sender recipient
    · exact .sender empty sender
  · intro fault
    cases fault with
    | noSender empty => rw [if_pos empty]
    | sender given bad => rw [if_neg given, if_neg bad]
    | recipient sender bad => rw [if_neg sender.ne_empty, if_pos sender, if_neg bad]
    | data sender recipient bad =>
        rw [if_neg sender.ne_empty, if_pos sender, if_pos recipient, if_neg bad]

end

/-! ## What is handed to the signer -/

/-- A transaction holds the texts of a draft in the shapes that they have to have, and nothing
where they are empty. -/
structure Carries (draft : Draft) (transaction : CanonicalTransaction) : Prop where
  sender : transaction.sender = draft.sender.value ∧ IsAddress transaction.sender
  recipient : ∀ text, transaction.recipient = some text →
    text = draft.recipient.value ∧ IsAddress text
  noRecipient : transaction.recipient = none ↔ draft.recipient.value = ""
  data : ∀ text, transaction.data = some text → text = draft.data ∧ IsBytes text
  noData : transaction.data = none ↔ draft.data = ""

theorem nonEmpty_eq_none_iff {text : String} : nonEmpty text = none ↔ text = "" := by
  simp [nonEmpty]

theorem nonEmpty_eq_some_iff {text given : String} :
    nonEmpty text = some given ↔ text ≠ "" ∧ text = given := by
  simp [nonEmpty]

theorem Complete.carries {draft : Draft} (complete : draft.Complete) :
    draft.Carries draft.canonical where
  sender := ⟨rfl, complete.sender⟩
  recipient := by
    intro text sent
    obtain ⟨given, rfl⟩ := nonEmpty_eq_some_iff.mp sent
    exact ⟨rfl, complete.recipient.resolve_left given⟩
  noRecipient := nonEmpty_eq_none_iff
  data := by
    intro text sent
    obtain ⟨given, rfl⟩ := nonEmpty_eq_some_iff.mp sent
    exact ⟨rfl, complete.data.resolve_left given⟩
  noData := nonEmpty_eq_none_iff

end Draft

/-! ## Hints of edits -/

/-- The change leaves what a field holds as it is. -/
def DraftEdit.Spares (field : DraftField) : DraftEdit → Prop
  | .setField other _ => other ≠ field
  | .chooseGasPrice _ => field ≠ .gasPrice
  | .applyGasPrice _ => field ≠ .gasPrice
  | .applyAccounts _ => field ≠ .sender

instance (field : DraftField) : DecidablePred (DraftEdit.Spares field)
  | .setField other _ => inferInstanceAs (Decidable (other ≠ field))
  | .chooseGasPrice _ => inferInstanceAs (Decidable (field ≠ .gasPrice))
  | .applyGasPrice _ => inferInstanceAs (Decidable (field ≠ .gasPrice))
  | .applyAccounts _ => inferInstanceAs (Decidable (field ≠ .sender))

namespace Draft

section

variable [Digest.Hash] {edits : List DraftEdit} {field : DraftField} {hint : Option FieldHint}

/-- The last edit of a field among the changes to a new draft returned this hint, and what the
field holds has not changed since. -/
def LastHint (edits : List DraftEdit) (field : DraftField) (hint : Option FieldHint) : Prop :=
  ∃ before text after, edits = before ++ .setField field text :: after ∧
    (∀ edit ∈ after, edit.Spares field) ∧ ((start.run before).setField field text).2 = hint

theorem hint?_step_of_spares (draft : Draft) {edit : DraftEdit} (spares : edit.Spares field) :
    (draft.step edit).hint? field = draft.hint? field := by
  cases edit with
  | setField other text => cases other <;> cases field <;> trivial
  | chooseGasPrice text => cases field <;> trivial
  | applyGasPrice price =>
      rw [step, applyGasPrice_eq]
      cases field <;> trivial
  | applyAccounts accounts => cases field <;> trivial

theorem hint?_run_of_spares (draft : Draft) (spares : ∀ edit ∈ edits, edit.Spares field) :
    (draft.run edits).hint? field = draft.hint? field := by
  induction edits generalizing draft with
  | nil => rfl
  | cons edit rest induction =>
      obtain ⟨here, later⟩ := List.forall_mem_cons.mp spares
      exact (induction (draft.step edit) later).trans (hint?_step_of_spares draft here)

/-- The hint of the last edit is still the hint about the field. -/
theorem LastHint.hint?_run (last : LastHint edits field hint) :
    (start.run edits).hint? field = hint := by
  obtain ⟨before, text, after, rfl, spares, rfl⟩ := last
  rw [run_append]
  exact hint?_run_of_spares ((start.run before).fill field text) spares

/-- A field is as it was at the start, or has been edited. -/
theorem spared_or_exists_lastHint (typed : field = .recipient ∨ field = .data) :
    (∀ edit ∈ edits, edit.Spares field) ∨ ∃ hint, LastHint edits field hint := by
  induction edits using List.reverseRecOn with
  | nil => exact .inl (by simp)
  | append_singleton earlier edit induction =>
      by_cases spares : edit.Spares field
      · rcases induction with all | ⟨hint, before, text, after, rfl, later, returned⟩
        · left
          exact List.forall_mem_append.mpr ⟨all, List.forall_mem_singleton.mpr spares⟩
        · refine .inr ⟨hint, before, text, after ++ [edit], by simp, ?_, returned⟩
          exact List.forall_mem_append.mpr ⟨later, List.forall_mem_singleton.mpr spares⟩
      · right
        obtain ⟨text, rfl⟩ : ∃ text, edit = .setField field text := by
          rcases typed with rfl | rfl <;> cases edit <;> simp_all [DraftEdit.Spares]
        exact ⟨_, earlier, text, [], rfl, by simp, rfl⟩

variable {draft : Draft}

theorem Classified.validate_eq_ok_of_hints (classified : draft.Classified)
    (sender : draft.hint? .sender = none)
    (recipient : draft.hint? .recipient ≠ some (.address .malformed))
    (data : draft.hint? .data = none) : draft.validate = .ok () := by
  have noWarning : draft.sender.warning = none := Option.map_eq_none_iff.mp sender
  have given : draft.sender.value ≠ "" := by
    intro empty
    rw [classified.sender, empty] at noWarning
    contradiction
  have noError : draft.dataError? = none := Option.map_eq_none_iff.mp data
  refine validate_eq_ok_iff.mpr ⟨given, ?_, ?_, Payload.dataError?_eq_none_iff.mp noError⟩
  · rw [noWarning]
    exact Option.some_ne_none _ |>.symm
  · intro malformed
    exact recipient (congrArg (Option.map FieldHint.address) malformed)

theorem Classified.validate_ne_invalidRecipient (classified : draft.Classified)
    (recipient : draft.hint? .recipient ≠ some (.address .malformed)) (text : String) :
    draft.validate ≠ .error (.invalidRecipient text) := by
  intro refused
  have fault := classified.validate_eq_error_iff.mp refused
  cases fault with
  | recipient _ bad =>
      rw [← Address.classify_ne_malformed_iff, ← classified.recipient, ne_eq, not_not] at bad
      exact recipient (congrArg (Option.map FieldHint.address) bad)

/-- A draft that was edited in any way validates exactly when its three typed texts have the
shapes that they have to have, and is refused for the first one that has not.  The transaction
of a draft that validates has these texts.  It validates if the last edits of the sender, the
recipient and the data left no hint, and the wallet has not replaced the sender since; a
recipient that is left out, or has a bad checksum, never makes it fail. -/
theorem first_fault_reported (edits : List DraftEdit) :
    let draft := start.run edits
    (draft.validate = .ok () ↔ draft.Complete) ∧
      (∀ error, draft.validate = .error error ↔ draft.FirstFault error) ∧
      (draft.validate = .ok () → draft.Carries draft.canonical) ∧
      (LastHint edits .sender none →
        (∀ hint, LastHint edits .recipient hint → hint = none ∨
          hint = some (.address .badChecksum) ∨ hint = some (.address .contractCreation)) →
        (∀ hint, LastHint edits .data hint → hint = none) → draft.validate = .ok ()) ∧
      (∀ hint, LastHint edits .recipient hint →
        hint = some (.address .badChecksum) ∨ hint = some (.address .contractCreation) →
        ∀ text, draft.validate ≠ .error (.invalidRecipient text)) := by
  intro draft
  have classified : draft.Classified := Classified.start.run edits
  refine ⟨classified.validate_eq_ok_iff_complete, fun error => classified.validate_eq_error_iff,
    ?_, ?_, ?_⟩
  · intro valid
    exact (classified.validate_eq_ok_iff_complete.mp valid).carries
  · intro senderHint recipientHint dataHint
    apply classified.validate_eq_ok_of_hints senderHint.hint?_run
    · rcases spared_or_exists_lastHint (.inl rfl) with spared | ⟨hint, last⟩
      · have absent : start.hint? .recipient = some (.address .contractCreation) := rfl
        rw [hint?_run_of_spares start spared, absent]
        decide
      · rw [last.hint?_run]
        rcases recipientHint hint last with rfl | rfl | rfl <;> decide
    · rcases spared_or_exists_lastHint (.inr rfl) with spared | ⟨hint, last⟩
      · rw [hint?_run_of_spares start spared]
        rfl
      · rw [last.hint?_run]
        exact dataHint hint last
  · intro hint last harmless
    apply classified.validate_ne_invalidRecipient
    rw [last.hint?_run]
    rcases harmless with rfl | rfl <;> decide

end

/-- Capitals throughout as a recipient, after a recipient that was none and a sender that the
wallet had chosen, with a hash whose digits are zero and fifteen in turn. -/
theorem bad_checksum_validates :
    let hash : Digest.Hash := ⟨fun _ => Vector.replicate 32 0x0F⟩
    let sender := "0xaBaBaBaBaBaBaBaBaBaBaBaBaBaBaBaBaBaBaBaB"
    let recipient := "0xABABABABABABABABABABABABABABABABABABABAB"
    let edits : List DraftEdit := [.applyAccounts [⟨Vector.replicate 20 0x11⟩],
      .setField .recipient "nobody", .setField .sender sender, .setField .recipient recipient,
      .applyGasPrice ⟨20000000000, by decide⟩, .setField .data "0xCAfe",
      .chooseGasPrice "3 gwei"]
    let draft := start.run edits
    LastHint edits .sender none ∧ LastHint edits .recipient (some (.address .badChecksum)) ∧
      LastHint edits .data none ∧ draft.validate = .ok () ∧ draft.Carries draft.canonical ∧
      ∀ text, draft.validate ≠ .error (.invalidRecipient text) := by
  intro hash sender recipient edits draft
  have senderLast : LastHint edits .sender none :=
    ⟨edits.take 2, sender, edits.drop 3, rfl, by decide, by decide +kernel⟩
  have recipientLast : LastHint edits .recipient (some (.address .badChecksum)) :=
    ⟨edits.take 3, recipient, edits.drop 4, rfl, by decide, by decide +kernel⟩
  have dataLast : LastHint edits .data none :=
    ⟨edits.take 5, "0xCAfe", edits.drop 6, rfl, by decide, by decide +kernel⟩
  obtain ⟨-, -, carries, validates, harmless⟩ := first_fault_reported edits
  have valid : draft.validate = .ok () := by
    apply validates senderLast
    · intro hint last
      exact .inr (.inl (last.hint?_run.symm.trans recipientLast.hint?_run))
    · intro hint last
      exact last.hint?_run.symm.trans dataLast.hint?_run
  exact ⟨senderLast, recipientLast, dataLast, valid, carries valid,
    harmless _ recipientLast (.inl rfl)⟩

end Draft

end TimedRelease
