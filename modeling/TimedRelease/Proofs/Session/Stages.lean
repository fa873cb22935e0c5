import TimedRelease.Proofs.Session.Calls

/-!
# The stages of a session

A run of a session is a chain of stages, one for each step: the session before it, the
calls it makes with their answers, and the session after it.  What every step keeps
therefore holds at every stage.
-/

namespace TimedRelease

open Dialogue (Yields)

/-- A step of a session and the calls it makes. -/
structure Stage where
  before : Session
  step : SessionStep
  calls : List (Exchange Call Call.Answer)
  after : Session

variable [Digest.Hash]

/-- A chain of stages from one session to another. -/
inductive Stages : Session → List Stage → Session → Prop where
  | nil (session : Session) : Stages session [] session
  | cons {before next last : Session} {step : SessionStep}
      {calls : List (Exchange Call Call.Answer)} {rest : List Stage} :
      Yields (before.step step) calls next →
      Stages next rest last →
      Stages before (⟨before, step, calls, next⟩ :: rest) last

/-- Every way a run can go is a chain of stages. -/
theorem Session.yields_run_iff {session last : Session} {steps : List SessionStep}
    {exchanges : List (Exchange Call Call.Answer)} :
    Yields (session.run steps) exchanges last ↔
      ∃ stages, Stages session stages last ∧ stages.map Stage.step = steps ∧
        stages.flatMap Stage.calls = exchanges := by
  induction steps generalizing session exchanges with
  | nil =>
      rw [run, Dialogue.yields_done_iff]
      constructor
      · rintro ⟨rfl, rfl⟩
        exact ⟨[], .nil _, rfl, rfl⟩
      · rintro ⟨stages, chain, none, rfl⟩
        obtain rfl := List.map_eq_nil_iff.mp none
        cases chain
        exact ⟨rfl, rfl⟩
  | cons first rest induction =>
      rw [run, Dialogue.yields_bind_iff]
      constructor
      · rintro ⟨calls, next, later, rfl, yields, goesOn⟩
        obtain ⟨stages, chain, rfl, rfl⟩ := induction.mp goesOn
        exact ⟨⟨session, first, calls, next⟩ :: stages, .cons yields chain, rfl, rfl⟩
      · rintro ⟨stages, chain, sameSteps, rfl⟩
        cases chain with
        | nil => simp at sameSteps
        | cons yields later =>
            obtain ⟨rfl, sameRest⟩ := List.cons.inj sameSteps
            exact ⟨_, _, _, rfl, yields, induction.mpr ⟨_, later, sameRest, rfl⟩⟩

namespace Stages

/-- What every step keeps holds at every stage. -/
theorem forall_stage {Holds : Session → Prop}
    (kept : ∀ {session : Session} {step : SessionStep} {calls next}, Holds session →
      Yields (session.step step) calls next → Holds next)
    {session last : Session} {stages : List Stage} (chain : Stages session stages last)
    (starts : Holds session) :
    ∀ stage ∈ stages, Holds stage.before ∧
      Yields (stage.before.step stage.step) stage.calls stage.after := by
  induction chain with
  | nil => simp
  | cons yields later induction =>
      intro stage member
      rcases List.mem_cons.mp member with rfl | member
      · exact ⟨starts, yields⟩
      · exact induction (kept starts yields) stage member

end Stages

end TimedRelease
