import TimedRelease.Poller.Basic
import TimedRelease.Poller.Timer

/-!
# Pollers in time

A poller with its timer on a clock in milliseconds.  Each tick issues a poll, which
ends some time later; a poll on its way is never waited for.  Polls that end
together are taken in the order they were issued.
-/

namespace TimedRelease

/-- What a source gives for one poll: after how long it ends, and how; and whether the
callback panics if it is called with its value. -/
structure Poll (α : Type) where
  delay : Nat
  result : PollResult α
  panics : Bool
  deriving DecidableEq, Repr

/-- A poll on its way: when it ends, its number, and how it and its callback will end. -/
structure Flight (α : Type) where
  due : Nat
  number : Nat
  result : PollResult α
  panics : Bool
  deriving DecidableEq, Repr

namespace Flight

/-- Puts a poll behind those on their way that end no later. -/
def insert {α : Type} (flight : Flight α) : List (Flight α) → List (Flight α)
  | [] => [flight]
  | first :: rest =>
    if first.due ≤ flight.due then first :: insert flight rest else flight :: first :: rest

end Flight

/-- The timer of a poller: it is made with the first step of the clock, and is gone
once it was stopped. -/
inductive TimerState where
  | pending (period : Period)
  | running (timer : Timer)
  | stopped
  deriving DecidableEq, Repr

/-- How the clock moves. -/
inductive ClockStep where
  /-- Time passes through every instant. -/
  | pass (milliseconds : Nat)
  /-- The clock jumps. -/
  | jump (milliseconds : Nat)
  deriving DecidableEq, Repr

/-- How far the clock moves. -/
def ClockStep.length : ClockStep → Nat
  | .pass milliseconds => milliseconds
  | .jump milliseconds => milliseconds

namespace TimerState

/-- The timer of a period; a period of zero has none. -/
def ofPeriod (period : Nat) : TimerState :=
  if positive : 0 < period then .pending ⟨period, positive⟩ else .stopped

/-- The timer has stopped. -/
def isStopped : TimerState → Bool
  | .stopped => true
  | _ => false

/-- The ticks of a running timer as the clock moves on from a point, and the timer then. -/
def ticksOf (timer : Timer) (now : Nat) : ClockStep → List Nat × Timer
  | .pass milliseconds => timer.passTo (now + milliseconds)
  | .jump milliseconds => timer.jumpTo (now + milliseconds)

/-- Where the grid of a timer starts that is made with a step of the clock. -/
def origin (now : Nat) : ClockStep → Nat
  | .pass _ => now
  | .jump milliseconds => now + milliseconds

/-- The ticks as the clock moves on from a point, and the timer then. -/
def move (state : TimerState) (now : Nat) (step : ClockStep) : List Nat × TimerState :=
  match state with
  | .pending period =>
    let (ticks, timer) := ticksOf ⟨period, origin now step⟩ now step
    (ticks, .running timer)
  | .running timer =>
    let (ticks, timer) := ticksOf timer now step
    (ticks, .running timer)
  | .stopped => ([], .stopped)

end TimerState

/-- What the owner of a poller does before the clock moves. -/
inductive Control where
  | keep
  | cancel
  | drop
  deriving DecidableEq, Repr

/-- A poller on a clock. -/
structure Timeline (α : Type) where
  now : Nat
  timer : TimerState
  poller : Poller
  flights : List (Flight α)
  /-- The owner still holds the poller. -/
  held : Bool
  deriving DecidableEq, Repr

namespace Timeline

variable {α : Type}

/-- A poller that is about to start, at time zero. -/
def start (period : Nat) (order : DeliveryOrder) : Timeline α :=
  ⟨0, .ofPeriod period, .start order, [], true⟩

/-- Cancels the poller and stops its timer. -/
def cancel (timeline : Timeline α) : Timeline α :=
  { timeline with timer := .stopped, poller := (timeline.poller.step (α := α) .cancel).1 }

/-- What the owner does. -/
def control (timeline : Timeline α) : Control → Timeline α
  | .keep => timeline
  | .cancel => timeline.cancel
  | .drop => { timeline.cancel with held := false }

/-- The next poll, at a tick.  A source is asked for each poll by its number, from zero. -/
def issue (source : Nat → Poll α) (timeline : Timeline α) (time : Nat) : Timeline α :=
  let poll := source timeline.poller.issued
  let poller := (timeline.poller.step (α := α) .tick).1
  let flight : Flight α := ⟨time + poll.delay, poller.issued, poll.result, poll.panics⟩
  { timeline with poller, flights := flight.insert timeline.flights }

/-- Takes the results of polls that end, and says when each value was handed on. -/
def land (now : Nat) (poller : Poller) : List (Flight α) → Poller × List (Nat × α)
  | [] => (poller, [])
  | flight :: rest =>
    let (next, handed) := poller.step (.resolve flight.number flight.result flight.panics)
    let (last, later) := land now next rest
    (last, (handed.map (max now flight.due, ·)).toList ++ later)

/-- Takes the results of all polls that end up to a point. -/
def settle (timeline : Timeline α) (time : Nat) : Timeline α × List (Nat × α) :=
  let due := timeline.flights.takeWhile (·.due ≤ time)
  let flights := timeline.flights.dropWhile (·.due ≤ time)
  let (poller, handed) := land timeline.now timeline.poller due
  ({ timeline with now := time, poller, flights }, handed)

/-- The clock as polls that end during a step see it: a jump is over at once. -/
def seenFrom (timeline : Timeline α) : ClockStep → Timeline α
  | .pass _ => timeline
  | .jump milliseconds => { timeline with now := timeline.now + milliseconds }

/-- When polls are started as the clock moves. -/
def startsIn (timeline : Timeline α) (clock : ClockStep) : List Nat :=
  (timeline.timer.move timeline.now clock).1

/-- Moves the clock, and says which values were handed on and when. -/
def advance (source : Nat → Poll α) (timeline : Timeline α) (clock : ClockStep) :
    Timeline α × List (Nat × α) :=
  let timer := (timeline.timer.move timeline.now clock).2
  let issued := (timeline.startsIn clock).foldl (issue source) { timeline with timer }
  (issued.seenFrom clock).settle (timeline.now + clock.length)

/-- One step of a script: what the owner does, then the clock. -/
def step (source : Nat → Poll α) (timeline : Timeline α) (control : Control)
    (clock : ClockStep) : Timeline α × List (Nat × α) :=
  (timeline.control control).advance source clock

/-- What a script hands on, and when. -/
def run (source : Nat → Poll α) (timeline : Timeline α) :
    List (Control × ClockStep) → Timeline α × List (Nat × α)
  | [] => (timeline, [])
  | (control, clock) :: rest =>
    let (next, handed) := timeline.step source control clock
    let (last, later) := next.run source rest
    (last, handed ++ later)

/-- When a script starts polls. -/
def starts (source : Nat → Poll α) (timeline : Timeline α) :
    List (Control × ClockStep) → List Nat
  | [] => []
  | (control, clock) :: rest =>
    (timeline.control control).startsIn clock ++
      ((timeline.step source control clock).1).starts source rest

/-- How many polls have been started. -/
def polls (timeline : Timeline α) : Nat :=
  timeline.poller.issued

/-- Whether the poller was cancelled, for an owner who still holds it. -/
def isCancelled? (timeline : Timeline α) : Option Bool :=
  if timeline.held then some timeline.poller.isCancelled else none

/-- Whether the timer has stopped, for an owner who still holds the poller. -/
def isFinished? (timeline : Timeline α) : Option Bool :=
  if timeline.held then some timeline.timer.isStopped else none

end Timeline

end TimedRelease
