import TimedRelease.Proofs.Poller.Script

/-!
# What a cancellation cuts off

Once a poller was cancelled it hands nothing on, whatever polls are on their way and
whatever the timer still does.  What it handed on before is also how every run begins
that goes on from there without the cancellation.
-/

namespace TimedRelease

/-- A run ends early, as far as what it hands on goes: the rest of it adds nothing to
what came earlier, and with that every run begins that goes on in another way. -/
structure CutOff {ε β : Type} (handed : List ε → List β) (earlier rest : List ε) : Prop where
  nothingMore : handed (earlier ++ rest) = handed earlier
  begins : ∀ others, handed earlier <+: handed (earlier ++ others)

/-- A run falls apart where it is cut, and what comes after hands nothing on. -/
theorem CutOff.of_append {ε β : Type} {handed after : List ε → List β}
    {earlier rest : List ε}
    (append : ∀ others, handed (earlier ++ others) = handed earlier ++ after others)
    (silent : after rest = []) : CutOff handed earlier rest := by
  constructor
  · rw [append, silent, List.append_nil]
  · intro others
    rw [append]
    exact List.prefix_append _ _

variable {α : Type}

namespace Poller

theorem isCancelled_run_cancel (poller : Poller) (earlier later : List (PollEvent α)) :
    (poller.run (earlier ++ .cancel :: later)).1.isCancelled = true := by
  rw [run_append, run_cons]
  exact (run_of_cancelled (isCancelled_step_cancel (poller.run earlier).1) later).1

theorem cutOff_cancel (poller : Poller) (earlier later : List (PollEvent α)) :
    CutOff (fun events => (poller.run events).2) earlier (.cancel :: later) := by
  apply CutOff.of_append
  · intro others
    rw [run_append]
  · rw [run_cons]
    exact (run_of_cancelled (isCancelled_step_cancel (poller.run earlier).1) later).2

/-- What a run with cancellations hands on is how it begins without them. -/
theorem run_prefix_uncancelled (poller : Poller) (events : List (PollEvent α)) :
    (poller.run events).2 <+: (poller.run (events.filter (!·.isCancel))).2 := by
  induction events generalizing poller with
  | nil => exact List.prefix_rfl
  | cons event rest induction =>
      cases cancels : event.isCancel with
      | true =>
          have stopped : event = .cancel := by
            cases event with
            | cancel => rfl
            | _ => contradiction
          subst stopped
          have nothing := (run_of_cancelled (isCancelled_step_cancel (α := α) poller) rest).2
          rw [run_cons, nothing]
          exact List.nil_prefix
      | false =>
          rw [List.filter_cons_of_pos (by simp [cancels]), run_cons, run_cons]
          exact (List.prefix_append_right_inj _).mpr (induction _)

end Poller

namespace Timeline

variable {source : Nat → Poll α}

theorem run_cons (timeline : Timeline α) (entry : Control × ClockStep)
    (rest : List (Control × ClockStep)) :
    timeline.run source (entry :: rest) =
      (((timeline.step source entry.1 entry.2).1.run source rest).1,
        (timeline.step source entry.1 entry.2).2 ++
          ((timeline.step source entry.1 entry.2).1.run source rest).2) := rfl

theorem run_append (timeline : Timeline α) (earlier later : List (Control × ClockStep)) :
    timeline.run source (earlier ++ later) =
      (((timeline.run source earlier).1.run source later).1,
        (timeline.run source earlier).2 ++
          ((timeline.run source earlier).1.run source later).2) := by
  induction earlier generalizing timeline with
  | nil => rfl
  | cons entry rest induction =>
      rw [List.cons_append, run_cons, induction, run_cons, List.append_assoc]

theorem isCancelled_control (timeline : Timeline α) {control : Control}
    (ends : control ≠ .keep) : (timeline.control control).poller.isCancelled = true := by
  have cancelled := Poller.isCancelled_step_cancel (α := α) timeline.poller
  cases control with
  | keep => contradiction
  | cancel => exact cancelled
  | drop => exact cancelled

theorem run_of_cancelled {timeline : Timeline α}
    (cancelled : timeline.poller.isCancelled = true) (script : List (Control × ClockStep)) :
    (timeline.run source script).1.poller.isCancelled = true ∧
      (timeline.run source script).2 = [] := by
  have silent := Poller.run_of_cancelled cancelled (timeline.events source script)
  rw [run_of_script] at silent
  exact ⟨silent.1, List.map_eq_nil_iff.mp silent.2⟩

/-- A step in which the poller is cancelled before the clock moves. -/
theorem step_of_cancelled {timeline : Timeline α} {control : Control}
    (cancelled : (timeline.control control).poller.isCancelled = true) (clock : ClockStep) :
    (timeline.step source control clock).1.poller.isCancelled = true ∧
      (timeline.step source control clock).2 = [] := by
  have silent : ((timeline.control control).run source [(.keep, clock)]).1.poller.isCancelled =
      true ∧ ((timeline.control control).run source [(.keep, clock)]).2 = [] :=
    run_of_cancelled cancelled [(.keep, clock)]
  rw [run_cons] at silent
  exact ⟨silent.1, List.append_eq_nil_iff.mp silent.2 |>.1⟩

/-- What the owner does comes before the clock moves. -/
theorem run_control (timeline : Timeline α) (control : Control) (clock : ClockStep)
    (rest : List (Control × ClockStep)) :
    timeline.run source ((control, clock) :: rest) =
      (timeline.control control).run source ((.keep, clock) :: rest) := rfl

theorem isCancelled_run_control (timeline : Timeline α) {control : Control}
    (ends : control ≠ .keep) (clock : ClockStep)
    (earlier later : List (Control × ClockStep)) :
    (timeline.run source
      (earlier ++ (control, clock) :: later)).1.poller.isCancelled = true := by
  rw [run_append, run_control]
  exact (run_of_cancelled (isCancelled_control _ ends) _).1

/-- Values are dated, and the dates of those handed on before stay as they are. -/
theorem cutOff_control (timeline : Timeline α) {control : Control}
    (ends : control ≠ .keep) (clock : ClockStep)
    (earlier later : List (Control × ClockStep)) :
    CutOff (fun script => (timeline.run source script).2) earlier
      ((control, clock) :: later) := by
  apply CutOff.of_append
  · intro others
    rw [run_append]
  · rw [run_control]
    exact (run_of_cancelled (isCancelled_control _ ends) _).2

end Timeline

end TimedRelease
