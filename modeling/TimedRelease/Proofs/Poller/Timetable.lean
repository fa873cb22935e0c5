import TimedRelease.Proofs.Poller.Arrivals

/-!
# When polls are started

The timer of a poller takes no notice of its polls, so that the script alone says when they
are started, whatever comes of them.  As long as time passes without a jump and the owner
keeps the poller, they are started at the multiples of its period.
-/

namespace TimedRelease

namespace Period

variable (period : Period)

end Period

/-! ## Ticks while time passes -/

namespace Timer

variable (period : Period)

/-- The timer whose next tick is at the first multiple of its period after a time. -/
def after (time : Nat) : Timer :=
  ⟨period, (time / period.length + 1) * period.length⟩

end Timer

namespace TimerState

/-- What the owner of a poller does to its timer. -/
def control (state : TimerState) : Control → TimerState
  | .keep => state
  | .cancel => .stopped
  | .drop => .stopped

/-- When a timer ticks in a script. -/
def ticks (state : TimerState) (now : Nat) : List (Control × ClockStep) → List Nat
  | [] => []
  | (control, clock) :: rest =>
    ((state.control control).move now clock).1 ++
      ((state.control control).move now clock).2.ticks (now + clock.length) rest

variable (period : Period)

end TimerState

namespace Timeline

variable {α : Type} {source : Nat → Poll α}

end Timeline

end TimedRelease
