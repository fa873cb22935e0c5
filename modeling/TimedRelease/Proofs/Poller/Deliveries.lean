import TimedRelease.Proofs.Poller.Run

/-!
# What a poller hands on

The values that a run hands on are those of polls that succeeded.  They come from the
successes of the run, in the order in which these resolve, and the text in the snapshot
is always that of the one handed on last.
-/

namespace TimedRelease

variable {α : Type}

/-- A poll that succeeded: its number, its value and the text of it. -/
structure Success (α : Type) where
  number : Nat
  value : α
  text : String
  deriving DecidableEq, Repr

namespace PollEvent

/-- The success of the poll that ends, if it has a value with a text. -/
def success? : PollEvent α → Option (Success α)
  | .resolve number (.resolved value (some text)) _ => some ⟨number, value, text⟩
  | _ => none

theorem eq_resolve_of_success? {event : PollEvent α} {success : Success α}
    (succeeds : event.success? = some success) :
    ∃ panics, event =
      .resolve success.number (.resolved success.value (some success.text)) panics := by
  unfold success? at succeeds
  split at succeeds
  · rename_i number value text panics
    injection succeeds with same
    subst same
    exact ⟨panics, rfl⟩
  · contradiction

theorem number?_of_success? {event : PollEvent α} {success : Success α}
    (succeeds : event.success? = some success) : event.number? = some success.number := by
  obtain ⟨panics, same⟩ := eq_resolve_of_success? succeeds
  rw [same]
  rfl

end PollEvent

/-- The polls that succeed, in the order in which they resolve. -/
def successes (events : List (PollEvent α)) : List (Success α) :=
  events.filterMap PollEvent.success?

theorem successes_cons (event : PollEvent α) (rest : List (PollEvent α)) :
    successes (event :: rest) = event.success?.toList ++ successes rest := by
  rw [successes, List.filterMap_cons]
  cases event.success? <;> rfl

theorem numbers_successes_sublist (events : List (PollEvent α)) :
    ((successes events).map Success.number).Sublist
      (events.filterMap PollEvent.number?) := by
  induction events with
  | nil => exact .slnil
  | cons event rest induction =>
      rw [successes_cons, List.map_append]
      cases succeeds : event.success? with
      | some success =>
          rw [List.filterMap_cons_some (PollEvent.number?_of_success? succeeds)]
          exact induction.cons_cons success.number
      | none =>
          rw [List.filterMap_cons]
          cases event.number? with
          | none => exact induction
          | some number => exact induction.cons number

namespace Snapshot

@[simp] theorem last_note (order : DeliveryOrder) (snapshot : Snapshot) (number : Nat) :
    (snapshot.note order number).last = snapshot.last := by
  cases order <;> rfl

/-- A delivery either hands on a value, and then the text of it is the last one, or
leaves the last text as it is. -/
theorem last_deliver (order : DeliveryOrder) (snapshot : Snapshot) (number : Nat)
    (result : PollResult α) :
    ((snapshot.deliver order number result).2 = none ∧
      (snapshot.deliver order number result).1.last = snapshot.last) ∨
    ∃ value text, result = .resolved value (some text) ∧
      (snapshot.deliver order number result).2 = some value ∧
      (snapshot.deliver order number result).1.last = some text := by
  by_cases cancelled : snapshot.cancelled = true
  · exact .inl (by simp [deliver, cancelled])
  cases result with
  | failed => exact .inl (by simp [deliver, cancelled])
  | resolved value text =>
      by_cases stale : snapshot.isStale order number = true
      · exact .inl (by simp [deliver, cancelled, stale])
      cases text with
      | none => exact .inl (by simp [deliver, cancelled, stale])
      | some text =>
          by_cases same : snapshot.last = some text
          · exact .inl (by simp [deliver, cancelled, stale, handed_compare, same])
          · exact .inr ⟨value, text, rfl, by
              simp [deliver, cancelled, stale, handed_compare, same]⟩

end Snapshot

namespace Poller

/-- The successes whose values a run hands on. -/
def deliveries (poller : Poller) : List (PollEvent α) → List (Success α)
  | [] => []
  | event :: rest =>
    let (next, handed) := poller.step event
    (handed.bind fun _ => event.success?).toList ++ next.deliveries rest

theorem deliveries_cons (poller : Poller) (event : PollEvent α)
    (rest : List (PollEvent α)) :
    poller.deliveries (event :: rest) =
      ((poller.step event).2.bind fun _ => event.success?).toList ++
        (poller.step event).1.deliveries rest := rfl

/-- What one event hands on is the value of a success, whose text is then the last one;
an event that hands nothing on leaves the last text. -/
theorem delivery_step (poller : Poller) (event : PollEvent α) :
    ((poller.step event).2 = none ∧
      (poller.step event).1.shared.snapshot.last = poller.shared.snapshot.last) ∨
    ∃ success, event.success? = some success ∧
      (poller.step event).2 = some success.value ∧
      (poller.step event).1.shared.snapshot.last = some success.text := by
  cases event with
  | tick => exact .inl ⟨rfl, rfl⟩
  | resolve number result panics =>
      rw [handed_step_resolve, snapshot_step_resolve]
      rcases poller.shared.snapshot.last_deliver poller.order number result with
        kept | ⟨value, text, resolved, handed, last⟩
      · exact .inl kept
      · subst resolved
        exact .inr ⟨⟨number, value, text⟩, rfl, handed, last⟩
  | cancel => exact .inl ⟨rfl, by simp [step, SharedSnapshot.cancel, Snapshot.cancel]⟩

theorem values_deliveries (poller : Poller) (events : List (PollEvent α)) :
    (poller.deliveries events).map Success.value = (poller.run events).2 := by
  induction events generalizing poller with
  | nil => rfl
  | cons event rest induction =>
      rw [deliveries_cons, run_cons, List.map_append, induction]
      rcases poller.delivery_step event with ⟨nothing, -⟩ | ⟨success, succeeds, handed, -⟩
      · rw [nothing]
        rfl
      · rw [handed, Option.bind_some, succeeds]
        rfl

/-- The text in the snapshot is that of the value handed on last. -/
theorem last_run (poller : Poller) (events : List (PollEvent α)) :
    (poller.run events).1.shared.snapshot.last =
      ((poller.deliveries events).getLast?.map Success.text).or
        poller.shared.snapshot.last := by
  induction events generalizing poller with
  | nil => rfl
  | cons event rest induction =>
      rw [run_cons, induction, deliveries_cons]
      rcases poller.delivery_step event with ⟨nothing, kept⟩ | ⟨success, succeeds, handed, text⟩
      · rw [nothing, kept]
        rfl
      · rw [handed, text, Option.bind_some, succeeds]
        rw [Option.toList_some, List.getLast?_append, Option.map_or, Option.or_assoc]
        rfl

theorem deliveries_sublist (poller : Poller) (events : List (PollEvent α)) :
    (poller.deliveries events).Sublist (successes events) := by
  induction events generalizing poller with
  | nil => exact .slnil
  | cons event rest induction =>
      rw [deliveries_cons, successes_cons]
      apply List.Sublist.append _ (induction _)
      cases (poller.step event).2 with
      | none => exact List.nil_sublist _
      | some value => exact .refl _

end Poller

end TimedRelease
