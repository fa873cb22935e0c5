import TimedRelease.Proofs.Dialogue.Yields
import TimedRelease.Proofs.Payload.RawText
import TimedRelease.Session

/-!
# The calls of a session

`Attempt` and `Composition` describe scheduling and composing by the calls that are made,
what is answered, and what comes of it.  Only a paste and a signed composition put text
in place of the raw transaction, and neither leaves blanks around it.
-/

namespace TimedRelease

open Dialogue (Yields)

variable {session next : Session} {calls : List (Exchange Call Call.Answer)}

/-- An attempt to schedule: the calls and the result. -/
inductive Attempt (session : Session) :
    List (Exchange Call Call.Answer) → Except SessionError ScheduleOutcome → Prop where
  | refused {error : PayloadError}
      (invalid : Payload.isRawTransaction session.raw.toList = false)
      (fault : session.rawError? = some error) :
      Attempt session [] (.error (.invalidPayload error))
  | scheduled (valid : Payload.isRawTransaction session.raw.toList = true) (id : String) :
      Attempt session
        [⟨.schedule session.editor.current.condition ⟨session.raw, valid⟩, .ok id⟩]
        (.ok (.scheduled id))
  | failed (valid : Payload.isRawTransaction session.raw.toList = true)
      (error : SchedulingError) :
      Attempt session
        [⟨.schedule session.editor.current.condition ⟨session.raw, valid⟩, .error error⟩]
        (.ok (.failed error.message))

/-- A composition: the calls, the session after it, and the result. -/
inductive Composition (session : Session) :
    List (Exchange Call Call.Answer) → Session → Except SessionError SignedTransaction →
      Prop where
  | unsigned (missing : session.hasSigner = false) :
      Composition session [] session (.error .noSigner)
  | invalid {error : DraftError} (signer : session.hasSigner = true)
      (fault : session.draft.validate = .error error) :
      Composition session [] session (.error (.draft error))
  | refused (signer : session.hasSigner = true) (valid : session.draft.validate = .ok ())
      (error : AccountError) :
      Composition session [⟨.sign session.draft.canonical, .error error⟩] session
        (.error (.draft (.signingFailed error)))
  | signed (signer : session.hasSigner = true) (valid : session.draft.validate = .ok ())
      (signed : SignedTransaction) :
      Composition session [⟨.sign session.draft.canonical, .ok signed⟩]
        { session with raw := signed.raw.text } (.ok signed)

namespace Session

/-- The raw text has no blanks around it. -/
def Bare (session : Session) : Prop :=
  Text.trimmed session.raw = session.raw

theorem schedule_of_valid (bare : session.Bare)
    (valid : Payload.isRawTransaction session.raw.toList = true) :
    session.schedule =
      .ask (.schedule session.editor.current.condition ⟨session.raw, valid⟩) fun answer =>
        .done (.ok (.ofAnswer answer)) := by
  have read : RawTransaction.parse session.raw = .ok ⟨session.raw, valid⟩ :=
    RawTransaction.parse_eq_ok_iff.mpr bare
  rw [schedule, read]

theorem schedule_of_invalid (bare : session.Bare)
    (invalid : Payload.isRawTransaction session.raw.toList = false) :
    ∃ error, session.rawError? = some error ∧
      session.schedule = .done (.error (.invalidPayload error)) := by
  have refused : Payload.isRawTransaction (Text.trimmed session.raw).toList = false := by
    rw [bare, invalid]
  obtain ⟨error, read⟩ := RawTransaction.exists_error_of_refused refused
  refine ⟨error, RawTransaction.error?_eq_some_iff.mpr read, ?_⟩
  rw [schedule, read]

theorem yields_schedule_iff (bare : session.Bare)
    {result : Except SessionError ScheduleOutcome} :
    Yields session.schedule calls result ↔ Attempt session calls result := by
  constructor
  · intro yields
    cases valid : Payload.isRawTransaction session.raw.toList with
    | true =>
        rw [schedule_of_valid bare valid] at yields
        obtain ⟨answer, later, rfl, ends⟩ := Dialogue.yields_ask_iff.mp yields
        obtain ⟨rfl, rfl⟩ := Dialogue.yields_done_iff.mp ends
        cases answer with
        | ok id => exact .scheduled valid id
        | error error => exact .failed valid error
    | false =>
        obtain ⟨error, fault, ends⟩ := schedule_of_invalid bare valid
        rw [ends] at yields
        cases yields
        exact .refused valid fault
  · intro attempt
    cases attempt with
    | refused invalid fault =>
        obtain ⟨error, same, ends⟩ := schedule_of_invalid bare invalid
        rw [ends, Option.some.inj (fault.symm.trans same)]
        exact .done _
    | scheduled valid id =>
        rw [schedule_of_valid bare valid]
        exact .ask (.done _)
    | failed valid error =>
        rw [schedule_of_valid bare valid]
        exact .ask (.done _)

/-- A session with the text of a raw transaction submits just that. -/
theorem questions_schedule {raw : RawTransaction} (stored : session.raw = raw.text)
    {result : Except SessionError ScheduleOutcome}
    (yields : Yields session.schedule calls result) :
    calls.map Exchange.question =
      [.schedule session.editor.current.condition raw] := by
  rw [schedule, stored, RawTransaction.parse_text, Dialogue.yields_ask_iff] at yields
  obtain ⟨answer, later, rfl, ends⟩ := yields
  obtain ⟨rfl, -⟩ := Dialogue.yields_done_iff.mp ends
  rfl

theorem compose_unsigned (missing : session.hasSigner = false) :
    session.compose = .done (session, .error .noSigner) := by
  rw [compose, missing, if_neg Bool.false_ne_true]

theorem compose_of_invalid {error : DraftError} (signer : session.hasSigner = true)
    (fault : session.draft.validate = .error error) :
    session.compose = .done (session, .error (.draft error)) := by
  rw [compose, signer, if_pos rfl, Draft.submit, fault]
  rfl

theorem compose_of_valid (signer : session.hasSigner = true)
    (valid : session.draft.validate = .ok ()) :
    session.compose = .ask (.sign session.draft.canonical) fun answer =>
      .done (session.adopt (Draft.signedBy answer)) := by
  rw [compose, signer, if_pos rfl, Draft.submit, valid]
  rfl

theorem yields_compose_iff {result : Except SessionError SignedTransaction} :
    Yields session.compose calls (next, result) ↔ Composition session calls next result := by
  constructor
  · intro yields
    cases signer : session.hasSigner with
    | false =>
        rw [compose_unsigned signer] at yields
        cases yields
        exact .unsigned signer
    | true =>
        cases valid : session.draft.validate with
        | error error =>
            rw [compose_of_invalid signer valid] at yields
            cases yields
            exact .invalid signer valid
        | ok =>
            rw [compose_of_valid signer valid] at yields
            obtain ⟨answer, later, rfl, ends⟩ := Dialogue.yields_ask_iff.mp yields
            obtain ⟨rfl, same⟩ := Dialogue.yields_done_iff.mp ends
            cases answer with
            | ok signed =>
                cases same
                exact .signed signer valid signed
            | error error =>
                cases same
                exact .refused signer valid error
  · intro composition
    cases composition with
    | unsigned missing =>
        rw [compose_unsigned missing]
        exact .done _
    | invalid signer fault =>
        rw [compose_of_invalid signer fault]
        exact .done _
    | refused signer valid error =>
        rw [compose_of_valid signer valid]
        exact .ask (.done _)
    | signed signer valid signed =>
        rw [compose_of_valid signer valid]
        exact .ask (.done _)

section

variable [Digest.Hash]

theorem yields_step_schedule_iff :
    Yields (session.step .schedule) calls next ↔
      next = session ∧ ∃ result, Yields session.schedule calls result := by
  rw [step, Dialogue.yields_bind_done_iff, exists_and_left]

theorem yields_step_compose_iff :
    Yields (session.step .compose) calls next ↔
      ∃ result, Yields session.compose calls (next, result) := by
  have asks : session.step .compose = session.compose.bind fun value => .done value.1 := rfl
  rw [asks, Dialogue.yields_bind_done_iff]
  constructor
  · rintro ⟨⟨after, result⟩, rfl, yields⟩
    exact ⟨result, yields⟩
  · rintro ⟨result, yields⟩
    exact ⟨(next, result), rfl, yields⟩

@[simp] theorem raw_applyUpdate (session : Session) (update : WalletUpdate) :
    (session.applyUpdate update).raw = session.raw := by
  cases update <;> rfl

/-- Where the raw text after a step comes from. -/
theorem raw_step {step : SessionStep} (yields : Yields (session.step step) calls next) :
    next.raw = session.raw ∨ (∃ text, step = .paste text ∧ next.raw = Text.trimmed text) ∨
      (step = .compose ∧ ∃ raw : RawTransaction, next.raw = raw.text) := by
  cases step with
  | edit edit =>
      cases yields
      exact .inl rfl
  | draft edit =>
      cases yields
      exact .inl rfl
  | update update =>
      cases yields
      exact .inl (session.raw_applyUpdate update)
  | paste text =>
      cases yields
      exact .inr (.inl ⟨text, rfl, rfl⟩)
  | compose =>
      obtain ⟨result, composed⟩ := yields_step_compose_iff.mp yields
      cases yields_compose_iff.mp composed with
      | signed _ _ signed => exact .inr (.inr ⟨rfl, signed.raw, rfl⟩)
      | _ => exact .inl rfl
  | schedule =>
      obtain ⟨rfl, -⟩ := yields_step_schedule_iff.mp yields
      exact .inl rfl

theorem Bare.step {step : SessionStep} (bare : session.Bare)
    (yields : Yields (session.step step) calls next) : next.Bare := by
  rw [Bare]
  obtain same | ⟨text, -, pasted⟩ | ⟨-, raw, signed⟩ := raw_step yields
  · rw [same, bare]
  · rw [pasted, Text.trimmed_trimmed]
  · rw [signed, RawTransaction.trimmed_text]

theorem bare_start (editor : Editor) (hasSigner : Bool) : (start editor hasSigner).Bare := by
  rfl

end

end Session

end TimedRelease
