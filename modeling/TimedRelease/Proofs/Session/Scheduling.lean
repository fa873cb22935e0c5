import TimedRelease.Digest.Keccak
import TimedRelease.Proofs.Session.Stages

/-!
# What a session submits

The scheduler is called by the scheduling steps at which the stored text is a raw
transaction, once by each, and by nothing else.  Scheduling leaves the session as it
is, so an attempt that failed can be made again.
-/

namespace TimedRelease

open Dialogue (Yields)

/-- The call goes to the scheduler. -/
def Call.isScheduling : Call → Bool
  | .sign _ => false
  | .schedule _ _ => true

/-- The calls that go to the scheduler, in order. -/
def submissions (calls : List (Exchange Call Call.Answer)) : List Call :=
  (calls.map Exchange.question).filter Call.isScheduling

/-- The call that an attempt to schedule makes: the stored text, if it is a raw
transaction, under the condition in effect. -/
def Session.submission? (session : Session) : Option Call :=
  if valid : Payload.isRawTransaction session.raw.toList = true then
    some (.schedule session.editor.current.condition ⟨session.raw, valid⟩)
  else none

/-- The call that a stage makes to the scheduler. -/
def Stage.submission? (stage : Stage) : Option Call :=
  match stage.step with
  | .schedule => stage.before.submission?
  | _ => none

theorem submissions_append (earlier later : List (Exchange Call Call.Answer)) :
    submissions (earlier ++ later) = submissions earlier ++ submissions later := by
  simp [submissions]

theorem submissions_flatMap {stages : List Stage}
    (called : ∀ stage ∈ stages, submissions stage.calls = stage.submission?.toList) :
    submissions (stages.flatMap Stage.calls) = stages.filterMap Stage.submission? := by
  induction stages with
  | nil => rfl
  | cons stage rest induction =>
      obtain ⟨here, later⟩ := List.forall_mem_cons.mp called
      rw [List.flatMap_cons, submissions_append, here, induction later, List.filterMap_cons]
      cases stage.submission? <;> rfl

namespace Attempt

variable {session : Session} {calls : List (Exchange Call Call.Answer)}
variable {result : Except SessionError ScheduleOutcome}

theorem silent (attempt : Attempt session calls result) :
    (∃ error, result = .error (.invalidPayload error)) ↔ calls = [] := by
  cases attempt <;> simp

theorem questions (attempt : Attempt session calls result) :
    calls.map Exchange.question = session.submission?.toList := by
  cases attempt with
  | refused invalid => rw [Session.submission?, dif_neg (by simp [invalid])]; rfl
  | scheduled valid => rw [Session.submission?, dif_pos valid]; rfl
  | failed valid => rw [Session.submission?, dif_pos valid]; rfl

theorem submissions_calls (attempt : Attempt session calls result) :
    submissions calls = session.submission?.toList := by
  rw [submissions, attempt.questions, Session.submission?]
  split <;> rfl

end Attempt

/-- What a stage has to do with the scheduler. -/
structure Submission (stage : Stage) : Prop where
  called : submissions stage.calls = stage.submission?.toList
  attempted : ∀ calls result,
    Yields stage.before.schedule calls result ↔ Attempt stage.before calls result
  silent : ∀ calls result, Yields stage.before.schedule calls result →
    ((∃ error, result = .error (.invalidPayload error)) ↔ calls = [])
  kept : stage.step = .schedule →
    stage.after = stage.before ∧ ∃ result, Yields stage.before.schedule stage.calls result
  again : stage.step = .schedule → ∀ calls result, Yields stage.after.schedule calls result →
    calls.map Exchange.question = stage.calls.map Exchange.question

section

variable [Digest.Hash]

theorem submissions_step {before after : Session} {step : SessionStep}
    {calls : List (Exchange Call Call.Answer)} (bare : before.Bare)
    (yields : Yields (before.step step) calls after) :
    submissions calls = (Stage.mk before step calls after).submission?.toList := by
  cases step with
  | compose =>
      obtain ⟨result, composed⟩ := Session.yields_step_compose_iff.mp yields
      cases Session.yields_compose_iff.mp composed <;> rfl
  | schedule =>
      obtain ⟨-, result, attempted⟩ := Session.yields_step_schedule_iff.mp yields
      exact ((Session.yields_schedule_iff bare).mp attempted).submissions_calls
  | _ =>
      cases yields
      rfl

theorem Submission.of_yields {stage : Stage} (bare : stage.before.Bare)
    (yields : Yields (stage.before.step stage.step) stage.calls stage.after) :
    Submission stage := by
  have attempted (calls : List (Exchange Call Call.Answer))
      (result : Except SessionError ScheduleOutcome) :
      Yields stage.before.schedule calls result ↔ Attempt stage.before calls result :=
    Session.yields_schedule_iff bare
  have kept (schedules : stage.step = .schedule) : stage.after = stage.before ∧
      ∃ result, Yields stage.before.schedule stage.calls result := by
    rw [schedules] at yields
    exact Session.yields_step_schedule_iff.mp yields
  refine ⟨submissions_step bare yields, attempted, ?_, kept, ?_⟩
  · intro calls result yields
    exact ((attempted calls result).mp yields).silent
  · intro schedules calls result again
    obtain ⟨same, first, yields⟩ := kept schedules
    rw [same] at again
    rw [((attempted calls result).mp again).questions,
      ((attempted stage.calls first).mp yields).questions]

end

namespace Session

/-- Every run of a session submits by its scheduling steps alone: each one at which the
stored text is a raw transaction calls the scheduler once, with that text and under the
condition in effect, and reports what was answered. -/
theorem attempts_submit_once [Digest.Hash] (editor : Editor) (hasSigner : Bool)
    (steps : List SessionStep) :
    (∀ answer : List (Exchange Call Call.Answer) → (call : Call) → call.Answer,
      ∃ exchanges last, Yields ((start editor hasSigner).run steps) exchanges last ∧
        Dialogue.Answered answer exchanges) ∧
    ∀ exchanges last, Yields ((start editor hasSigner).run steps) exchanges last →
      ∃ stages, Stages (start editor hasSigner) stages last ∧
        stages.map Stage.step = steps ∧ stages.flatMap Stage.calls = exchanges ∧
        submissions exchanges = stages.filterMap Stage.submission? ∧
        ∀ stage ∈ stages, Submission stage := by
  constructor
  · intro answer
    exact Dialogue.exists_yields _ answer
  · intro exchanges last yields
    obtain ⟨stages, chain, sameSteps, rfl⟩ := yields_run_iff.mp yields
    have bare := chain.forall_stage Bare.step (bare_start editor hasSigner)
    refine ⟨stages, chain, sameSteps, rfl, submissions_flatMap ?_, ?_⟩
    · intro stage member
      obtain ⟨bareBefore, goes⟩ := bare stage member
      exact submissions_step bareBefore goes
    · intro stage member
      obtain ⟨bareBefore, goes⟩ := bare stage member
      exact .of_yields bareBefore goes

/-- A pasted transaction is refused by the scheduler and submitted again as it was. -/
theorem refused_transaction_resubmitted :
    let session := start (.start 1700000000 0 Editor.defaultDelay) false
    let steps : List SessionStep := [.paste " 0xf86c ", .schedule, .schedule]
    let call : Call := .schedule (.time 1700010800) ⟨"0xf86c", by decide⟩
    let exchanges : List (Exchange Call Call.Answer) :=
      [⟨call, .error (.refused "Nonce too low")⟩, ⟨call, .ok "sched-42"⟩]
    ∃ last, Yields (session.run steps) exchanges last ∧
      ∃ stages, Stages session stages last ∧ stages.map Stage.step = steps ∧
        stages.flatMap Stage.calls = exchanges ∧
        submissions exchanges = stages.filterMap Stage.submission? ∧
        ∀ stage ∈ stages, Submission stage := by
  intro session steps call exchanges
  let pasted : Session := { session with raw := "0xf86c" }
  have paste : Yields (session.step (.paste " 0xf86c ")) [] pasted := .done pasted
  have valid : Payload.isRawTransaction pasted.raw.toList = true := by decide
  have bare : pasted.Bare := RawTransaction.trimmed_text ⟨"0xf86c", valid⟩
  have attempt {calls : List (Exchange Call Call.Answer)}
      {result : Except SessionError ScheduleOutcome} (made : Attempt pasted calls result) :
      Yields (pasted.step .schedule) calls pasted :=
    yields_step_schedule_iff.mpr ⟨rfl, result, (yields_schedule_iff bare).mpr made⟩
  have first := attempt (.failed valid (.refused "Nonce too low"))
  have second := attempt (.scheduled valid "sched-42")
  have yields : Yields (session.run steps) exchanges pasted :=
    yields_run_iff.mpr
      ⟨_, .cons paste (.cons first (.cons second (.nil pasted))), rfl, rfl⟩
  exact ⟨pasted, yields, (attempts_submit_once _ false steps).2 exchanges pasted yields⟩

end Session

end TimedRelease
