import TimedRelease.Poller.Timeline
import TimedRelease.Proofs.Poller.Run

/-!
# Scripts as runs of events

A poller on a clock does what its poller does on a list of events: a cancellation
for each control, a tick for each poll started, and the end of each poll that is due.
Laws about all runs of events therefore hold of all scripts.
-/

namespace TimedRelease

variable {α : Type}

/-- The end of a poll on its way. -/
def Flight.event (flight : Flight α) : PollEvent α :=
  .resolve flight.number flight.result flight.panics

/-- What an owner does to the poller. -/
def Control.events : Control → List (PollEvent α)
  | .keep => []
  | .cancel => [.cancel]
  | .drop => [.cancel]

namespace Timeline

/-- The polls that a move of the clock starts, with those on their way before. -/
def afterStarts (source : Nat → Poll α) (timeline : Timeline α) (clock : ClockStep) :
    Timeline α :=
  (timeline.startsIn clock).foldl (issue source)
    { timeline with timer := (timeline.timer.move timeline.now clock).2 }

/-- What happens to the poller as the clock moves: ticks, and polls that are due. -/
def clockEvents (source : Nat → Poll α) (timeline : Timeline α) (clock : ClockStep) :
    List (PollEvent α) :=
  let due := (timeline.afterStarts source clock).flights.takeWhile
    (·.due ≤ timeline.now + clock.length)
  (timeline.startsIn clock).map (fun _ => .tick) ++ due.map Flight.event

/-- What happens to the poller in a script. -/
def events (source : Nat → Poll α) (timeline : Timeline α) :
    List (Control × ClockStep) → List (PollEvent α)
  | [] => []
  | (control, clock) :: rest =>
    control.events ++ (timeline.control control).clockEvents source clock ++
      (timeline.step source control clock).1.events source rest

theorem run_of_land (now : Nat) (poller : Poller) (flights : List (Flight α)) :
    poller.run (flights.map Flight.event) =
      ((land now poller flights).1, (land now poller flights).2.map Prod.snd) := by
  induction flights generalizing poller with
  | nil => rfl
  | cons flight rest induction =>
      let next := (poller.step flight.event).1
      let handed := (poller.step flight.event).2
      have landed : land now poller (flight :: rest) =
          ((land now next rest).1,
            (handed.map (max now flight.due, ·)).toList ++ (land now next rest).2) := rfl
      rw [List.map_cons, Poller.run_cons, induction, landed]
      cases same : handed <;> simp [handed, next] at same ⊢ <;> simp [same]

theorem run_of_ticks (source : Nat → Poll α) (timeline : Timeline α)
    (times : List Nat) :
    timeline.poller.run (times.map fun _ => (.tick : PollEvent α)) =
      ((times.foldl (issue source) timeline).poller, []) := by
  induction times generalizing timeline with
  | nil => rfl
  | cons time rest induction =>
      have issued : (timeline.poller.step (.tick : PollEvent α)).1 =
          (issue source timeline time).poller := rfl
      rw [List.map_cons, Poller.run_cons, List.foldl_cons, issued, induction]
      rfl

theorem run_of_control (timeline : Timeline α) (control : Control) :
    timeline.poller.run (control.events : List (PollEvent α)) =
      ((timeline.control control).poller, []) := by
  cases control <;> rfl

theorem run_of_clock (source : Nat → Poll α) (timeline : Timeline α)
    (clock : ClockStep) :
    timeline.poller.run (timeline.clockEvents source clock) =
      ((timeline.advance source clock).1.poller,
        (timeline.advance source clock).2.map Prod.snd) := by
  let started := timeline.afterStarts source clock
  let due := started.flights.takeWhile (·.due ≤ timeline.now + clock.length)
  have ticks : timeline.poller.run
      ((timeline.startsIn clock).map fun _ => (.tick : PollEvent α)) =
        (started.poller, []) :=
    run_of_ticks source
      { timeline with timer := (timeline.timer.move timeline.now clock).2 }
      (timeline.startsIn clock)
  rw [clockEvents, Poller.run_append_of_silent ticks]
  -- A jump moves only the clock by which values are dated.
  cases clock with
  | pass milliseconds => exact run_of_land started.now started.poller due
  | jump milliseconds =>
      exact run_of_land (started.now + milliseconds) started.poller due

/-- A script does to the poller, and hands on, what its events do. -/
theorem run_of_script (source : Nat → Poll α) (timeline : Timeline α)
    (script : List (Control × ClockStep)) :
    timeline.poller.run (timeline.events source script) =
      ((timeline.run source script).1.poller,
        (timeline.run source script).2.map Prod.snd) := by
  induction script generalizing timeline with
  | nil => rfl
  | cons first rest induction =>
      obtain ⟨control, clock⟩ := first
      let next := (timeline.step source control clock).1
      have advanced : (timeline.control control).poller.run
          ((timeline.control control).clockEvents source clock) =
            (next.poller, (timeline.step source control clock).2.map Prod.snd) :=
        run_of_clock source (timeline.control control) clock
      have controlled := run_of_control timeline control
      rw [events, List.append_assoc, Poller.run_append_of_silent controlled,
        Poller.run_append, advanced, induction]
      simp [run]

end Timeline

end TimedRelease
