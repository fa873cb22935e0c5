import TimedRelease.Proofs.Poller.Script

/-!
# The changes that a poller hands on

A poller that takes results as they resolve hands on exactly the values whose text
differs from the text before.  Failed polls, values without a text and callbacks
that panic have no part in the comparison.
-/

namespace TimedRelease

variable {α : Type}

/-- The values whose text differs from the text just before, which is the given one
for the first. -/
def changes (previous : Option String) : List (α × String) → List α
  | [] => []
  | (value, text) :: rest =>
    if previous = some text then changes (some text) rest
    else value :: changes (some text) rest

/-- What resolved before the first cancellation with something to compare, in order. -/
def resolvedInTime (events : List (PollEvent α)) : List (α × String) :=
  (events.takeWhile (!·.isCancel)).filterMap PollEvent.comparable?

theorem resolvedInTime_cons {event : PollEvent α} (goesOn : event.isCancel = false)
    (rest : List (PollEvent α)) :
    resolvedInTime (event :: rest) =
      event.comparable?.toList ++ resolvedInTime rest := by
  rw [resolvedInTime, List.takeWhile_cons_of_pos (by simp [goesOn]),
    List.filterMap_cons]
  cases event.comparable? <;> rfl

/-- The same event, with a callback that does not panic. -/
def PollEvent.calm : PollEvent α → PollEvent α
  | .tick => .tick
  | .resolve number result _ => .resolve number result false
  | .cancel => .cancel

theorem PollEvent.isCancel_calm (event : PollEvent α) :
    event.calm.isCancel = event.isCancel := by
  cases event <;> rfl

theorem PollEvent.comparable?_calm (event : PollEvent α) :
    event.calm.comparable? = event.comparable? := by
  cases event with
  | tick => rfl
  | resolve number result panics =>
      cases result with
      | failed => rfl
      | resolved value text => cases text <;> rfl
  | cancel => rfl

theorem resolvedInTime_calm (events : List (PollEvent α)) :
    resolvedInTime (events.map PollEvent.calm) = resolvedInTime events := by
  simp only [resolvedInTime, List.takeWhile_map, List.filterMap_map, Function.comp_def,
    PollEvent.isCancel_calm, PollEvent.comparable?_calm]

namespace Poller

theorem step_of_incomparable {poller : Poller} {event : PollEvent α}
    (resolution : poller.order = .resolution) (running : poller.isCancelled = false)
    (goesOn : event.isCancel = false) (incomparable : event.comparable? = none) :
    (poller.step event).1.isCancelled = false ∧
      (poller.step event).1.shared.snapshot.last = poller.shared.snapshot.last ∧
      (poller.step event).2 = none := by
  have behind : poller.shared.snapshot.cancelled = false := running
  cases event with
  | tick => exact ⟨running, rfl, rfl⟩
  | resolve number result panics =>
      rw [isCancelled, snapshot_step_resolve, handed_step_resolve]
      cases result with
      | failed => simp [Snapshot.deliver, behind]
      | resolved value text =>
          cases text with
          | none =>
              simp [Snapshot.deliver, Snapshot.isStale, Snapshot.note, resolution, behind]
          | some text => contradiction
  | cancel => contradiction

theorem step_of_comparable {poller : Poller} {event : PollEvent α} {value : α}
    {text : String} (resolution : poller.order = .resolution)
    (running : poller.isCancelled = false)
    (comparable : event.comparable? = some (value, text)) :
    (poller.step event).1.isCancelled = false ∧
      (poller.step event).1.shared.snapshot.last = some text ∧
      (poller.step event).2 =
        if poller.shared.snapshot.last = some text then none else some value := by
  have behind : poller.shared.snapshot.cancelled = false := running
  unfold PollEvent.comparable? at comparable
  split at comparable
  · injection comparable with same
    injection same with sameValue sameText
    subst sameValue sameText
    rw [isCancelled, snapshot_step_resolve, handed_step_resolve]
    simp [Snapshot.deliver, Snapshot.isStale, Snapshot.note, Snapshot.handed_compare,
      resolution, behind]
  · contradiction

/-- By induction on the events; the text in the snapshot is that of the last
comparable result, whether its value was handed on or not. -/
theorem handed_eq_changes {poller : Poller} (resolution : poller.order = .resolution)
    (running : poller.isCancelled = false) (events : List (PollEvent α)) :
    (poller.run events).2 =
      changes poller.shared.snapshot.last (resolvedInTime events) := by
  induction events generalizing poller with
  | nil => rfl
  | cons event rest induction =>
      cases cancels : event.isCancel with
      | true =>
          have stopped : event = .cancel := by
            cases event <;> first | rfl | contradiction
          subst stopped
          have nothing := (run_of_cancelled (isCancelled_step_cancel (α := α) poller) rest).2
          rw [run_cons, nothing]
          rfl
      | false =>
          have sameOrder : (poller.step event).1.order = .resolution := by
            rw [order_step, resolution]
          rw [run_cons, resolvedInTime_cons cancels]
          cases comparable : event.comparable? with
          | none =>
              obtain ⟨stillRunning, sameLast, nothing⟩ :=
                step_of_incomparable resolution running cancels comparable
              rw [nothing, induction sameOrder stillRunning, sameLast]
              rfl
          | some pair =>
              obtain ⟨value, text⟩ := pair
              obtain ⟨stillRunning, newLast, handed⟩ :=
                step_of_comparable resolution running comparable
              rw [handed, induction sameOrder stillRunning, newLast]
              by_cases same : poller.shared.snapshot.last = some text
              · simp [changes, same]
              · simp [changes, same]

/-- In the order in which polls resolve, the values handed on are the changes among
those resolved before a cancellation: for every order of events, whether callbacks
panic or not, and for every script of the clock. -/
theorem handed_on_are_changes :
    (∀ events : List (PollEvent α),
      ((start .resolution).run events).2 = changes none (resolvedInTime events)) ∧
    (∀ events : List (PollEvent α),
      ((start .resolution).run (events.map PollEvent.calm)).2 =
        ((start .resolution).run events).2) ∧
    (∀ (period : Nat) (source : Nat → Poll α) (script : List (Control × ClockStep)),
      ((Timeline.start period .resolution).run source script).2.map Prod.snd =
        changes none (resolvedInTime
          ((Timeline.start period .resolution).events source script))) := by
  have handed : ∀ events : List (PollEvent α),
      ((start .resolution).run events).2 = changes none (resolvedInTime events) := by
    intro events
    exact handed_eq_changes rfl rfl events
  refine ⟨handed, ?_, ?_⟩
  · intro events
    rw [handed, handed, resolvedInTime_calm]
  · intro period source script
    let opened : Timeline α := Timeline.start period .resolution
    have values : ((start .resolution).run (opened.events source script)).2 =
        (opened.run source script).2.map Prod.snd :=
      congrArg Prod.snd (Timeline.run_of_script source opened script)
    rw [← values]
    exact handed _

end Poller

end TimedRelease
