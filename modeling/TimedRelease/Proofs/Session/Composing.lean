import TimedRelease.Digest.Keccak
import TimedRelease.Proofs.Session.Stages

/-!
# Composing is all or nothing

A composition either ends with the signed transaction in place of the raw text and
nothing else changed, or with the session as it was.  What it puts in place is a raw
transaction, and scheduling submits it as the signer gave it.
-/

namespace TimedRelease

open Dialogue (Yields)

/-- The step leaves the raw text alone. -/
def SessionStep.keepsRaw : SessionStep → Bool
  | .paste _ => false
  | .compose => false
  | _ => true

/-- What a signed composition leaves behind. -/
structure Adoption [Digest.Hash] (session next : Session) (signed : SignedTransaction) :
    Prop where
  replaced : next = { session with raw := signed.raw.text }
  flawless : next.rawError? = none
  submitted : ∀ steps : List SessionStep, (∀ step ∈ steps, step.keepsRaw = true) →
    ∀ exchanges last, Yields (next.run steps) exchanges last →
      ∀ calls result, Yields last.schedule calls result →
        calls.map Exchange.question =
          [.schedule last.editor.current.condition signed.raw]

namespace Session

/-- Only a paste or another composition replaces the raw text. -/
theorem raw_run_of_keepsRaw [Digest.Hash] {steps : List SessionStep}
    (keep : ∀ step ∈ steps, step.keepsRaw = true) {session last : Session}
    {exchanges : List (Exchange Call Call.Answer)}
    (yields : Yields (session.run steps) exchanges last) : last.raw = session.raw := by
  induction steps generalizing session exchanges with
  | nil =>
      cases yields
      rfl
  | cons first rest induction =>
      obtain ⟨keepFirst, keepRest⟩ := List.forall_mem_cons.mp keep
      rw [run, Dialogue.yields_bind_iff] at yields
      obtain ⟨calls, next, later, rfl, step, goesOn⟩ := yields
      have kept : next.raw = session.raw := by
        obtain same | ⟨text, rfl, -⟩ | ⟨rfl, -⟩ := raw_step step
        · exact same
        · contradiction
        · contradiction
      rw [induction keepRest goesOn, kept]

end Session

theorem Adoption.of_signed [Digest.Hash] (session : Session) (signed : SignedTransaction) :
    Adoption session { session with raw := signed.raw.text } signed := by
  refine ⟨rfl, ?_, ?_⟩
  · exact RawTransaction.error?_eq_none_iff.mpr ⟨signed.raw, signed.raw.parse_text⟩
  · intro steps keep exchanges last yields calls result schedules
    exact Session.questions_schedule (Session.raw_run_of_keepsRaw keep yields) schedules

namespace Session

/-- Composing goes one of the four ways of `Composition`, with each answer of the signer.
A failure leaves the whole session as it was, one after a call in the signer's words; a
signed transaction is adopted. -/
theorem compose_all_or_nothing [Digest.Hash] (session : Session) :
    (∀ answer : List (Exchange Call Call.Answer) → (call : Call) → call.Answer,
      ∃ calls next result, Yields session.compose calls (next, result) ∧
        Dialogue.Answered answer calls) ∧
    (∀ calls next result,
      Yields session.compose calls (next, result) ↔ Composition session calls next result) ∧
    (∀ calls next error, Yields session.compose calls (next, .error error) →
      next = session ∧ ∀ call ∈ calls, ∃ refusal : AccountError,
        call = ⟨.sign session.draft.canonical, .error refusal⟩ ∧
          error.message = "Signing failed: " ++ refusal.message) ∧
    (∀ calls next signed, Yields session.compose calls (next, .ok signed) →
      Adoption session next signed) := by
  refine ⟨?_, ?_, ?_, ?_⟩
  · intro answer
    obtain ⟨calls, ⟨next, result⟩, yields, answered⟩ :=
      Dialogue.exists_yields session.compose answer
    exact ⟨calls, next, result, yields, answered⟩
  · intro calls next result
    exact yields_compose_iff
  · intro calls next error yields
    cases yields_compose_iff.mp yields with
    | unsigned => exact ⟨rfl, by simp⟩
    | invalid => exact ⟨rfl, by simp⟩
    | refused _ _ refusal =>
        refine ⟨rfl, ?_⟩
        intro call member
        exact ⟨refusal, List.mem_singleton.mp member, rfl⟩
  · intro calls next signed yields
    cases yields_compose_iff.mp yields with
    | signed => exact .of_signed session signed

/-- The signer refuses over a pasted transaction and signs when asked again; what it then
gives is submitted, also after news from the chain. -/
theorem signed_after_refusal :
    let opened := start (.start 1700000000 0 Editor.defaultDelay) true
    let session := { opened with
      draft := opened.draft.fill .sender "0x5aaeb6053f3e94c9b9a09f33669435e7ef1beaed"
      raw := "0xdeadbeef" }
    let call : Call := .sign session.draft.canonical
    let failure : DraftError := .signingFailed (.signingFailed "user rejected")
    let signed : SignedTransaction := ⟨⟨"0xf86c", by decide⟩, none⟩
    let composed := { session with raw := "0xf86c" }
    Yields session.compose [⟨call, .error (.signingFailed "user rejected")⟩]
      (session, .error (.draft failure)) ∧
    (SessionError.draft failure).message = "Signing failed: Signing failed: user rejected" ∧
    Yields session.compose [⟨call, .ok signed⟩] (composed, .ok signed) ∧
    Adoption session composed signed := by
  intro opened session call failure signed composed
  have valid : session.draft.validate = .ok () := by rfl
  obtain ⟨-, ways, failures, successes⟩ := compose_all_or_nothing session
  have refused : Yields session.compose [⟨call, .error (.signingFailed "user rejected")⟩]
      (session, .error (.draft failure)) := (ways _ _ _).mpr (.refused rfl valid _)
  have signs : Yields session.compose [⟨call, .ok signed⟩] (composed, .ok signed) :=
    (ways _ _ _).mpr (.signed rfl valid signed)
  obtain ⟨-, words⟩ := failures _ _ _ refused
  obtain ⟨refusal, same, wording⟩ := words _ (List.mem_singleton_self _)
  cases same
  exact ⟨refused, wording, signs, successes _ _ _ signs⟩

end Session

end TimedRelease
