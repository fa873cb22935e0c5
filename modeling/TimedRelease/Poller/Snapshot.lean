/-!
# Snapshots of a polled value

A poller keeps the text of the value it handed on last, and hands on a value only
when its text differs.  A poll that failed, or whose value has no text, leaves the
snapshot alone; after a cancellation nothing is handed on.  Polls share the snapshot
behind a lock, and a callback that panics while the lock is held poisons it.
-/

namespace TimedRelease

/-- The order in which results are handed on. -/
inductive DeliveryOrder where
  /-- As polls resolve: a slow poll may come after a newer one. -/
  | resolution
  /-- As polls were issued: a result older than one already seen is dropped. -/
  | issue
  deriving DecidableEq, Repr

/-- How a poll ended. -/
inductive PollResult (α : Type) where
  | failed
  /-- A value, with its text if it can be written as one. -/
  | resolved (value : α) (text : Option String)
  deriving DecidableEq, Repr

/-- What a poller remembers: the text of the value handed on last, whether it was
cancelled, and the greatest number of a poll that gave a value. -/
structure Snapshot where
  last : Option String
  cancelled : Bool
  latest : Option Nat
  deriving DecidableEq, Repr

namespace Snapshot

def empty : Snapshot := ⟨none, false, none⟩

def cancel (snapshot : Snapshot) : Snapshot :=
  { snapshot with cancelled := true }

/-- The result of this poll is older than one already seen, and the order minds it. -/
def isStale (order : DeliveryOrder) (snapshot : Snapshot) (number : Nat) : Bool :=
  match order with
  | .resolution => false
  | .issue => snapshot.latest.any (number < ·)

/-- Takes note of the number of a poll, if the order minds it. -/
def note (order : DeliveryOrder) (snapshot : Snapshot) (number : Nat) : Snapshot :=
  match order with
  | .resolution => snapshot
  | .issue => { snapshot with latest := some number }

/-- Hands on a value whose text differs from the last one. -/
def compare {α : Type} (snapshot : Snapshot) (value : α) (text : String) :
    Snapshot × Option α :=
  if snapshot.last = some text then (snapshot, none)
  else ({ snapshot with last := some text }, some value)

/-- Takes the result of a poll, and hands on its value if there is something new to it. -/
def deliver {α : Type} (order : DeliveryOrder) (snapshot : Snapshot) (number : Nat)
    (result : PollResult α) : Snapshot × Option α :=
  if snapshot.cancelled then (snapshot, none)
  else
    match result with
    | .failed => (snapshot, none)
    | .resolved value text =>
      if snapshot.isStale order number then (snapshot, none)
      else
        match text with
        | none => (snapshot.note order number, none)
        | some text => (snapshot.note order number).compare value text

@[simp] theorem last_compare {α : Type} (snapshot : Snapshot) (value : α) (text : String) :
    (snapshot.compare value text).1.last = some text := by
  unfold compare
  split <;> simp_all

@[simp] theorem cancelled_compare {α : Type} (snapshot : Snapshot) (value : α)
    (text : String) : (snapshot.compare value text).1.cancelled = snapshot.cancelled := by
  unfold compare
  split <;> rfl

theorem handed_compare {α : Type} (snapshot : Snapshot) (value : α) (text : String) :
    (snapshot.compare value text).2 =
      if snapshot.last = some text then none else some value := by
  unfold compare
  split <;> rfl

end Snapshot

/-- A snapshot behind its lock, and whether the lock was given back in a panic. -/
structure SharedSnapshot where
  behind : Snapshot
  poisoned : Bool
  deriving DecidableEq, Repr

namespace SharedSnapshot

def empty : SharedSnapshot := ⟨.empty, false⟩

/-- Takes the lock; a poisoned one reports the snapshot as it was left. -/
def lock (shared : SharedSnapshot) : Except Snapshot Snapshot :=
  if shared.poisoned then .error shared.behind else .ok shared.behind

/-- The snapshot, from a poisoned lock as well: it is consistent whenever a callback runs. -/
def snapshot (shared : SharedSnapshot) : Snapshot :=
  match shared.lock with
  | .ok snapshot => snapshot
  | .error left => left

/-- Gives the lock back with a snapshot behind it; a panic poisons it for good. -/
def giveBack (shared : SharedSnapshot) (snapshot : Snapshot) (panicked : Bool) : SharedSnapshot :=
  ⟨snapshot, shared.poisoned || panicked⟩

def cancel (shared : SharedSnapshot) : SharedSnapshot :=
  shared.giveBack shared.snapshot.cancel false

/-- Takes the result of a poll, and hands its value to a callback if there is something new to
it.  The callback runs under the lock, with the new snapshot in place, and may panic. -/
def deliver {α : Type} (order : DeliveryOrder) (shared : SharedSnapshot) (number : Nat)
    (result : PollResult α) (panics : Bool) : SharedSnapshot × Option α :=
  let (snapshot, handed) := shared.snapshot.deliver order number result
  (shared.giveBack snapshot (handed.isSome && panics), handed)

@[simp] theorem snapshot_mk (snapshot : Snapshot) (poisoned : Bool) :
    (SharedSnapshot.mk snapshot poisoned).snapshot = snapshot := by
  cases poisoned <;> rfl

@[simp] theorem snapshot_giveBack (shared : SharedSnapshot) (snapshot : Snapshot)
    (panicked : Bool) : (shared.giveBack snapshot panicked).snapshot = snapshot :=
  snapshot_mk snapshot _

end SharedSnapshot

end TimedRelease
