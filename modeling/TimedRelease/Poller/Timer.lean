/-!
# Periodic timers

A timer ticks at once and then on a grid.  When time passes, every tick is on
time.  When the clock jumps over ticks they are missed: one late tick makes up
for them and the next is on the grid again.  A tick that is hardly late counts as
on time, and those that follow it up to now do as well.
-/

namespace TimedRelease

/-- The distance between ticks, in milliseconds. -/
structure Period where
  length : Nat
  positive : 0 < length
  deriving DecidableEq, Repr

/-- A running timer: its period, and when it ticks next, in milliseconds. -/
structure Timer where
  period : Period
  next : Nat
  deriving DecidableEq, Repr

namespace Timer

/-- How late a tick may be and still count as on time. -/
def tolerance : Nat := 5

/-- How many points of the grid there are from the next tick up to a time. -/
def countTo (timer : Timer) (time : Nat) : Nat :=
  if time < timer.next then 0 else (time - timer.next) / timer.period.length + 1

/-- The timer after some ticks on the grid. -/
def skip (timer : Timer) (count : Nat) : Timer :=
  { timer with next := timer.next + count * timer.period.length }

/-- The times of the ticks while time passes up to a point, and the timer then. -/
def passTo (timer : Timer) (time : Nat) : List Nat × Timer :=
  let count := timer.countTo time
  ((List.range count).map fun index => timer.next + index * timer.period.length, timer.skip count)

/-- The times of the ticks when the clock jumps to a point, and the timer then. -/
def jumpTo (timer : Timer) (time : Nat) : List Nat × Timer :=
  let count := timer.countTo time
  let ticks := if time ≤ timer.next + tolerance then count else 1
  (List.replicate ticks time, timer.skip count)

end Timer

end TimedRelease
