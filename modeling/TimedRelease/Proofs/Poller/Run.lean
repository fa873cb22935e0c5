import TimedRelease.Poller.Basic

/-!
# Runs of a poller

How a run falls apart into its events, what one event does to the snapshot, and
what no event changes.
-/

namespace TimedRelease

variable {α : Type}

/-- The poll ended with a value that has no text. -/
def PollResult.isUnwritten : PollResult α → Bool
  | .resolved _ none => true
  | _ => false

namespace PollEvent

/-- The poller is cancelled. -/
def isCancel : PollEvent α → Bool
  | .cancel => true
  | _ => false

/-- The value and the text of a poll that ends with something to compare. -/
def comparable? : PollEvent α → Option (α × String)
  | .resolve _ (.resolved value (some text)) _ => some (value, text)
  | _ => none

/-- The number of the poll that ends. -/
def number? : PollEvent α → Option Nat
  | .resolve number _ _ => some number
  | _ => none

/-- A poll ends with a value that has no text. -/
def isUnwritten : PollEvent α → Bool
  | .resolve _ result _ => result.isUnwritten
  | _ => false

end PollEvent

namespace Snapshot

@[simp] theorem cancelled_note (order : DeliveryOrder) (snapshot : Snapshot) (number : Nat) :
    (snapshot.note order number).cancelled = snapshot.cancelled := by
  cases order <;> rfl

/-- Taking a result cancels nothing. -/
theorem cancelled_deliver (order : DeliveryOrder) (snapshot : Snapshot) (number : Nat)
    (result : PollResult α) :
    (snapshot.deliver order number result).1.cancelled = snapshot.cancelled := by
  unfold deliver
  split
  · rfl
  · cases result with
    | failed => rfl
    | resolved value text =>
        simp only
        split
        · rfl
        · cases text with
          | none => exact snapshot.cancelled_note order number
          | some text => rw [cancelled_compare, cancelled_note]

end Snapshot

namespace Poller

@[simp] theorem run_nil (poller : Poller) :
    poller.run ([] : List (PollEvent α)) = (poller, []) := rfl

theorem run_cons (poller : Poller) (event : PollEvent α)
    (rest : List (PollEvent α)) :
    poller.run (event :: rest) =
      (((poller.step event).1.run rest).1,
        (poller.step event).2.toList ++ ((poller.step event).1.run rest).2) := rfl

theorem run_append (poller : Poller) (earlier later : List (PollEvent α)) :
    poller.run (earlier ++ later) =
      (((poller.run earlier).1.run later).1,
        (poller.run earlier).2 ++ ((poller.run earlier).1.run later).2) := by
  induction earlier generalizing poller with
  | nil => simp
  | cons event rest induction =>
      simp [run_cons, induction]

/-- Events that hand nothing on only set the stage for those that follow. -/
theorem run_append_of_silent {poller next : Poller} {earlier : List (PollEvent α)}
    (silent : poller.run earlier = (next, [])) (later : List (PollEvent α)) :
    poller.run (earlier ++ later) = next.run later := by
  rw [run_append, silent]
  rfl

theorem order_step (poller : Poller) (event : PollEvent α) :
    (poller.step event).1.order = poller.order := by
  cases event <;> rfl

/-- The snapshot after a poll ended is the delivered one, panic or not. -/
theorem snapshot_step_resolve (poller : Poller) (number : Nat)
    (result : PollResult α) (panics : Bool) :
    (poller.step (.resolve number result panics)).1.shared.snapshot =
      (poller.shared.snapshot.deliver poller.order number result).1 := by
  simp [step, SharedSnapshot.deliver]

theorem handed_step_resolve (poller : Poller) (number : Nat)
    (result : PollResult α) (panics : Bool) :
    (poller.step (.resolve number result panics)).2 =
      (poller.shared.snapshot.deliver poller.order number result).2 := rfl

theorem isCancelled_step_cancel (poller : Poller) :
    (poller.step (.cancel : PollEvent α)).1.isCancelled = true := by
  simp [step, isCancelled, SharedSnapshot.cancel, Snapshot.cancel]

theorem isCancelled_step (poller : Poller) (event : PollEvent α) :
    (poller.step event).1.isCancelled = (poller.isCancelled || event.isCancel) := by
  cases event with
  | tick => exact (Bool.or_false _).symm
  | resolve number result panics =>
      rw [isCancelled, snapshot_step_resolve, Snapshot.cancelled_deliver]
      exact (Bool.or_false _).symm
  | cancel =>
      rw [isCancelled_step_cancel]
      exact (Bool.or_true _).symm

theorem isCancelled_run (poller : Poller) (events : List (PollEvent α)) :
    (poller.run events).1.isCancelled =
      (poller.isCancelled || events.any PollEvent.isCancel) := by
  induction events generalizing poller with
  | nil => exact (Bool.or_false _).symm
  | cons event rest induction =>
      rw [run_cons, induction, isCancelled_step, List.any_cons, Bool.or_assoc]

/-- A cancelled poller stays cancelled and hands nothing on. -/
theorem step_of_cancelled {poller : Poller} (cancelled : poller.isCancelled = true)
    (event : PollEvent α) :
    (poller.step event).1.isCancelled = true ∧ (poller.step event).2 = none := by
  have behind : poller.shared.snapshot.cancelled = true := cancelled
  cases event with
  | tick => exact ⟨cancelled, rfl⟩
  | resolve number result panics =>
      rw [isCancelled, snapshot_step_resolve, handed_step_resolve]
      simp [Snapshot.deliver, behind]
  | cancel => exact ⟨isCancelled_step_cancel poller, rfl⟩

theorem run_of_cancelled {poller : Poller} (cancelled : poller.isCancelled = true)
    (events : List (PollEvent α)) :
    (poller.run events).1.isCancelled = true ∧ (poller.run events).2 = [] := by
  induction events generalizing poller with
  | nil => exact ⟨cancelled, rfl⟩
  | cons event rest induction =>
      obtain ⟨stays, nothing⟩ := step_of_cancelled cancelled event
      obtain ⟨restStays, restNothing⟩ := induction stays
      rw [run_cons, nothing, restNothing]
      exact ⟨restStays, rfl⟩

end Poller

end TimedRelease
