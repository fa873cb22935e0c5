import TimedRelease.Poller.Snapshot

/-!
# Pollers

A poller issues polls and takes their results, in whatever order they come.
-/

namespace TimedRelease

/-- A poller: how many polls it has issued, and the snapshot its polls share. -/
structure Poller where
  order : DeliveryOrder
  issued : Nat
  shared : SharedSnapshot
  deriving DecidableEq, Repr

/-- What happens to a poller. -/
inductive PollEvent (α : Type) where
  /-- The timer issues the next poll. -/
  | tick
  /-- The poll of this number ends, and the callback panics if it is called. -/
  | resolve (number : Nat) (result : PollResult α) (panics : Bool)
  /-- The poller is cancelled, or given up by its owner. -/
  | cancel
  deriving DecidableEq, Repr

namespace Poller

/-- A poller before its first poll. -/
def start (order : DeliveryOrder) : Poller :=
  ⟨order, 0, .empty⟩

/-- Whether the poller was cancelled. -/
def isCancelled (poller : Poller) : Bool :=
  poller.shared.snapshot.cancelled

/-- What an event makes of a poller, and the value it hands on, if any. -/
def step {α : Type} (poller : Poller) : PollEvent α → Poller × Option α
  | .tick => ({ poller with issued := poller.issued + 1 }, none)
  | .resolve number result panics =>
    let (shared, handed) := poller.shared.deliver poller.order number result panics
    ({ poller with shared }, handed)
  | .cancel => ({ poller with shared := poller.shared.cancel }, none)

/-- What a list of events makes of a poller, and the values it hands on. -/
def run {α : Type} (poller : Poller) : List (PollEvent α) → Poller × List α
  | [] => (poller, [])
  | event :: rest =>
    let (next, handed) := poller.step event
    let (last, later) := next.run rest
    (last, handed.toList ++ later)

end Poller

end TimedRelease
