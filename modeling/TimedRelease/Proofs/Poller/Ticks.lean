import TimedRelease.Proofs.Poller.Script

/-!
# Ticks and the clock

A timer is never behind the clock: its ticks come when the clock moves on and not before,
and the next one is still to come.  It goes on until its poller is cancelled.
-/

namespace TimedRelease

/-- No tick up to now is still to come. -/
def TimerState.Ahead (now : Nat) : TimerState → Prop
  | .running timer => now ≤ timer.next
  | _ => True

namespace Timer

/-- All points of the grid up to a time have been counted. -/
theorem le_next_skip (timer : Timer) (time : Nat) :
    time ≤ (timer.skip (timer.countTo time)).next := by
  simp only [skip, countTo]
  split
  · omega
  · have quotient := Nat.lt_div_mul_add timer.period.positive (a := time - timer.next)
    rw [Nat.add_mul]
    omega

theorem le_of_mem_passTo {timer : Timer} {now time tick : Nat} (ahead : now ≤ timer.next)
    (member : tick ∈ (timer.passTo time).1) : now ≤ tick := by
  obtain ⟨index, -, same⟩ := List.mem_map.mp member
  omega

theorem eq_of_mem_jumpTo {timer : Timer} {time tick : Nat}
    (member : tick ∈ (timer.jumpTo time).1) : tick = time :=
  (List.mem_replicate.mp member).2

end Timer

namespace TimerState

theorem ahead_ticksOf (timer : Timer) (now : Nat) (clock : ClockStep) :
    now + clock.length ≤ (ticksOf timer now clock).2.next := by
  cases clock with
  | pass milliseconds => exact timer.le_next_skip _
  | jump milliseconds => exact timer.le_next_skip _

theorem le_of_mem_ticksOf {timer : Timer} {now tick : Nat} {clock : ClockStep}
    (ahead : now ≤ timer.next) (member : tick ∈ (ticksOf timer now clock).1) : now ≤ tick := by
  cases clock with
  | pass milliseconds => exact Timer.le_of_mem_passTo ahead member
  | jump milliseconds =>
      rw [Timer.eq_of_mem_jumpTo member]
      exact Nat.le_add_right _ _

theorem le_origin (now : Nat) (clock : ClockStep) : now ≤ origin now clock := by
  cases clock with
  | pass milliseconds => exact Nat.le_refl _
  | jump milliseconds => exact Nat.le_add_right _ _

theorem isStopped_move (state : TimerState) (now : Nat) (clock : ClockStep) :
    (state.move now clock).2.isStopped = state.isStopped := by
  cases state <;> rfl

theorem Ahead.move {state : TimerState} (now : Nat) (clock : ClockStep) :
    (state.move now clock).2.Ahead (now + clock.length) := by
  cases state with
  | pending period => exact ahead_ticksOf _ now clock
  | running timer => exact ahead_ticksOf timer now clock
  | stopped => trivial

theorem Ahead.le_of_mem {state : TimerState} {now tick : Nat} (ahead : state.Ahead now)
    {clock : ClockStep} (member : tick ∈ (state.move now clock).1) : now ≤ tick := by
  cases state with
  | pending period => exact le_of_mem_ticksOf (le_origin now clock) member
  | running timer => exact le_of_mem_ticksOf ahead member
  | stopped => contradiction

end TimerState

namespace Timeline

variable {α : Type} {source : Nat → Poll α}

theorem timer_issues (timeline : Timeline α) (times : List Nat) :
    (times.foldl (issue source) timeline).timer = timeline.timer := by
  induction times generalizing timeline with
  | nil => rfl
  | cons time rest induction => exact induction (timeline.issue source time)

theorem timer_advance (timeline : Timeline α) (clock : ClockStep) :
    (timeline.advance source clock).1.timer = (timeline.timer.move timeline.now clock).2 := by
  cases clock <;> exact timer_issues _ (timeline.startsIn _)

theorem isCancelled_advance (timeline : Timeline α) (clock : ClockStep) :
    (timeline.advance source clock).1.poller.isCancelled = timeline.poller.isCancelled := by
  have events := congrArg (fun ended => ended.1.isCancelled)
    (timeline.run_of_clock source clock)
  have uncancelled : (timeline.clockEvents source clock).any PollEvent.isCancel = false := by
    simp [clockEvents, List.any_map, Function.comp_def, PollEvent.isCancel, Flight.event]
  simp only [Poller.isCancelled_run, uncancelled, Bool.or_false] at events
  exact events.symm

theorem isStopped_control (timeline : Timeline α) (control : Control)
    (same : timeline.timer.isStopped = timeline.poller.isCancelled) :
    (timeline.control control).timer.isStopped =
      (timeline.control control).poller.isCancelled := by
  have cancelled := Poller.isCancelled_step_cancel (α := α) timeline.poller
  cases control with
  | keep => exact same
  | cancel => exact cancelled.symm
  | drop => exact cancelled.symm

theorem isStopped_run {timeline : Timeline α}
    (same : timeline.timer.isStopped = timeline.poller.isCancelled)
    (script : List (Control × ClockStep)) :
    (timeline.run source script).1.timer.isStopped =
      (timeline.run source script).1.poller.isCancelled := by
  induction script generalizing timeline with
  | nil => exact same
  | cons entry rest induction =>
      obtain ⟨control, clock⟩ := entry
      have next : (timeline.step source control clock).1.timer.isStopped =
          (timeline.step source control clock).1.poller.isCancelled := by
        rw [step, timer_advance, TimerState.isStopped_move, isCancelled_advance]
        exact isStopped_control timeline control same
      exact induction next

end Timeline

end TimedRelease
