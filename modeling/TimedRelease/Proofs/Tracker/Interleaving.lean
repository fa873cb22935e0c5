import Mathlib.Logic.Function.Basic
import TimedRelease.Proofs.Tracker.Kinds

/-!
# Three pollers in any interleaving

The pollers of a tracker tick, resolve and are cancelled independently, and nothing
says in which order that happens.  Here all of it stands in one list; a run over the list
does to each poller what the events of its kind do, and sends of each kind what that
poller hands on.
-/

namespace TimedRelease

/-- What happens to the poller of one kind. -/
structure TrackerEvent where
  kind : NewsKind
  event : PollEvent kind.Value

/-- What happens to the poller of this kind, if it is the one concerned. -/
def TrackerEvent.of? (kind : NewsKind) (happening : TrackerEvent) :
    Option (PollEvent kind.Value) :=
  if same : happening.kind = kind then some (same ▸ happening.event) else none

@[simp] theorem TrackerEvent.of?_same {kind : NewsKind} (event : PollEvent kind.Value) :
    (TrackerEvent.mk kind event).of? kind = some event := by
  simp [of?]

theorem TrackerEvent.of?_other {kind other : NewsKind} (different : other ≠ kind)
    (event : PollEvent other.Value) : (TrackerEvent.mk other event).of? kind = none := by
  simp [of?, different]

/-- What happens to the poller of one kind in a run. -/
def eventsOf (kind : NewsKind) (happenings : List TrackerEvent) :
    List (PollEvent kind.Value) :=
  happenings.filterMap (TrackerEvent.of? kind)

theorem eventsOf_append (kind : NewsKind) (earlier later : List TrackerEvent) :
    eventsOf kind (earlier ++ later) = eventsOf kind earlier ++ eventsOf kind later :=
  List.filterMap_append

@[simp] theorem eventsOf_cons_same {kind : NewsKind} (event : PollEvent kind.Value)
    (rest : List TrackerEvent) : eventsOf kind (⟨kind, event⟩ :: rest) =
      event :: eventsOf kind rest := by
  simp [eventsOf]

theorem eventsOf_cons_other {kind other : NewsKind} (different : other ≠ kind)
    (event : PollEvent other.Value) (rest : List TrackerEvent) :
    eventsOf kind (⟨other, event⟩ :: rest) = eventsOf kind rest := by
  simp [eventsOf, TrackerEvent.of?_other different]

theorem eventsOf_map_same (kind : NewsKind) (events : List (PollEvent kind.Value)) :
    eventsOf kind (events.map (.mk kind)) = events := by
  induction events with
  | nil => rfl
  | cons event rest induction => rw [List.map_cons, eventsOf_cons_same, induction]

/-- Whatever is to happen to each of the pollers can be interleaved. -/
theorem exists_interleaving (events : (kind : NewsKind) → List (PollEvent kind.Value)) :
    ∃ happenings, ∀ kind, eventsOf kind happenings = events kind := by
  let tagged (kind : NewsKind) : List TrackerEvent := (events kind).map (.mk kind)
  have same (kind : NewsKind) : eventsOf kind (tagged kind) = events kind :=
    eventsOf_map_same kind (events kind)
  have other {kind other : NewsKind} (different : other ≠ kind) :
      eventsOf kind (tagged other) = [] := by
    simp [eventsOf, tagged, List.filterMap_map, TrackerEvent.of?_other different]
  refine ⟨tagged .accounts ++ tagged .gasPrice ++ tagged .chainHead, ?_⟩
  intro kind
  rw [eventsOf_append, eventsOf_append]
  cases kind <;> simp [same, other]

theorem eventsOf_uncancelled (kind : NewsKind) (happenings : List TrackerEvent) :
    eventsOf kind (happenings.filter (!·.event.isCancel)) =
      (eventsOf kind happenings).filter (!·.isCancel) := by
  induction happenings with
  | nil => rfl
  | cons happening rest induction =>
      obtain ⟨other, event⟩ := happening
      by_cases same : other = kind
      · subst same
        cases cancels : event.isCancel <;> simp [cancels, induction]
      · cases cancels : event.isCancel <;>
          simp [cancels, eventsOf_cons_other same, induction]

/-- The values of one kind among updates. -/
def valuesOf (kind : NewsKind) (updates : List WalletUpdate) : List kind.Value :=
  updates.filterMap (WalletUpdate.value? kind)

theorem eq_nil_of_valuesOf {updates : List WalletUpdate}
    (nothing : ∀ kind, valuesOf kind updates = []) : updates = [] := by
  cases updates with
  | nil => rfl
  | cons update rest =>
      cases update with
      | accounts accounts => cases nothing .accounts
      | gasPrice price => cases nothing .gasPrice
      | chainHead block => cases nothing .chainHead

/-- The pollers of a tracker. -/
structure TrackerPollers where
  poller : NewsKind → Poller

/-- The pollers of a tracker without its clock. -/
def WalletTracker.pollers (tracker : WalletTracker) : TrackerPollers :=
  ⟨fun kind => (tracker.timeline kind).poller⟩

namespace TrackerPollers

/-- What an event makes of the pollers, and the update that is sent, if any. -/
def step (pollers : TrackerPollers) (happening : TrackerEvent) :
    TrackerPollers × Option WalletUpdate :=
  let (next, handed) := (pollers.poller happening.kind).step happening.event
  (⟨Function.update pollers.poller happening.kind next⟩, handed.map happening.kind.update)

/-- What events make of the pollers, and the updates that are sent. -/
def run (pollers : TrackerPollers) : List TrackerEvent → TrackerPollers × List WalletUpdate
  | [] => (pollers, [])
  | happening :: rest =>
    let (next, sent) := pollers.step happening
    let (last, later) := next.run rest
    (last, sent.toList ++ later)

theorem run_cons (pollers : TrackerPollers) (happening : TrackerEvent)
    (rest : List TrackerEvent) :
    pollers.run (happening :: rest) =
      (((pollers.step happening).1.run rest).1,
        (pollers.step happening).2.toList ++ ((pollers.step happening).1.run rest).2) := rfl

theorem run_append (pollers : TrackerPollers) (earlier later : List TrackerEvent) :
    pollers.run (earlier ++ later) =
      (((pollers.run earlier).1.run later).1,
        (pollers.run earlier).2 ++ ((pollers.run earlier).1.run later).2) := by
  induction earlier generalizing pollers with
  | nil => rfl
  | cons happening rest induction =>
      rw [List.cons_append, run_cons, induction, run_cons, List.append_assoc]

/-- By induction on the events: those of other kinds leave the poller alone and send
nothing of its kind. -/
theorem run_of_kind (pollers : TrackerPollers) (happenings : List TrackerEvent)
    (kind : NewsKind) :
    (pollers.poller kind).run (eventsOf kind happenings) =
      ((pollers.run happenings).1.poller kind,
        valuesOf kind (pollers.run happenings).2) := by
  induction happenings generalizing pollers with
  | nil => rfl
  | cons happening rest induction =>
      obtain ⟨other, event⟩ := happening
      rw [run_cons]
      by_cases same : other = kind
      · subst same
        have next : (pollers.step ⟨other, event⟩).1.poller other =
            ((pollers.poller other).step event).1 := Function.update_self ..
        have sent : (pollers.step ⟨other, event⟩).2 =
            ((pollers.poller other).step event).2.map other.update := rfl
        rw [eventsOf_cons_same, Poller.run_cons, ← next, induction, sent]
        cases ((pollers.poller other).step event).2 <;> simp [valuesOf]
      · have next : (pollers.step ⟨other, event⟩).1.poller kind = pollers.poller kind :=
          Function.update_of_ne (Ne.symm same) ..
        have sent : (pollers.step ⟨other, event⟩).2 =
            ((pollers.poller other).step event).2.map other.update := rfl
        rw [eventsOf_cons_other same, ← next, induction, sent]
        cases ((pollers.poller other).step event).2 <;>
          simp [valuesOf, WalletUpdate.value?_update_of_ne same]

theorem poller_run (pollers : TrackerPollers) (happenings : List TrackerEvent)
    (kind : NewsKind) :
    (pollers.run happenings).1.poller kind =
      ((pollers.poller kind).run (eventsOf kind happenings)).1 := by
  rw [run_of_kind]

theorem valuesOf_run (pollers : TrackerPollers) (happenings : List TrackerEvent)
    (kind : NewsKind) :
    valuesOf kind (pollers.run happenings).2 =
      ((pollers.poller kind).run (eventsOf kind happenings)).2 := by
  rw [run_of_kind]

/-- Whatever the interleaving of the events of a script, it does to the pollers, and sends
of each kind, what the script does. -/
theorem run_of_script (source : WalletSource) (tracker : WalletTracker)
    (script : List (Control × ClockStep)) {kind : NewsKind}
    (ordered : InDueOrder (tracker.timeline kind).flights) {happenings : List TrackerEvent}
    (interleaved : eventsOf kind happenings =
      (tracker.timeline kind).events (source.polls kind) script) :
    (tracker.pollers.run happenings).1.poller kind =
        (tracker.run source script).1.pollers.poller kind ∧
      valuesOf kind (tracker.pollers.run happenings).2 =
        (WalletTracker.newsOf kind (tracker.run source script).2).map Prod.snd := by
  have ofScript := Timeline.run_of_script (source.polls kind) (tracker.timeline kind) script
  have state : (tracker.run source script).1.pollers.poller kind =
      ((tracker.timeline kind).run (source.polls kind) script).1.poller :=
    congrArg Timeline.poller (WalletTracker.timeline_run source tracker script kind)
  have opened : tracker.pollers.poller kind = (tracker.timeline kind).poller := rfl
  rw [poller_run, valuesOf_run, interleaved, opened, ofScript, state,
    WalletTracker.newsOf_run source ordered]
  exact ⟨rfl, rfl⟩

end TrackerPollers

end TimedRelease
