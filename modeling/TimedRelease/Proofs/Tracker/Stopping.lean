import TimedRelease.Proofs.Tracker.Interleaving

/-!
# Stopping for good

A cancelled poller never calls back again, and a stopped tracker sends nothing more of
any kind, whatever polls are on their way and however the cancellations of its pollers
fall among other events.  What came before is what comes without the cancellation.
-/

namespace TimedRelease

namespace TrackerPollers

theorem isCancelled_run_cancel (pollers : TrackerPollers) (kind : NewsKind)
    (earlier later : List TrackerEvent) :
    ((pollers.run (earlier ++ ⟨kind, .cancel⟩ :: later)).1.poller kind).isCancelled =
      true := by
  rw [poller_run, eventsOf_append, eventsOf_cons_same]
  exact Poller.isCancelled_run_cancel _ _ _

/-- The poller of one kind is cancelled; those of other kinds go on, or are cancelled
before it or after. -/
theorem cutOff_cancel (pollers : TrackerPollers) (kind : NewsKind)
    (earlier later : List TrackerEvent) :
    CutOff (fun happenings => valuesOf kind (pollers.run happenings).2) earlier
      (⟨kind, .cancel⟩ :: later) := by
  have alone := Poller.cutOff_cancel (pollers.poller kind) (eventsOf kind earlier)
    (eventsOf kind later)
  constructor
  · simp only [valuesOf_run, eventsOf_append, eventsOf_cons_same]
    exact alone.nothingMore
  · intro others
    simp only [valuesOf_run, eventsOf_append]
    exact alone.begins (eventsOf kind others)

/-- Pollers that are all cancelled send nothing. -/
theorem run_of_cancelled {pollers : TrackerPollers}
    (cancelled : ∀ kind, (pollers.poller kind).isCancelled = true)
    (happenings : List TrackerEvent) : (pollers.run happenings).2 = [] := by
  apply eq_nil_of_valuesOf
  intro kind
  have silent := (Poller.run_of_cancelled (cancelled kind) (eventsOf kind happenings)).2
  rwa [← valuesOf_run] at silent

/-- Once each of the three cancellations of a tracker has happened, nothing is sent. -/
theorem run_of_stopped (pollers : TrackerPollers) {earlier : List TrackerEvent}
    (stopped : ∀ kind, ⟨kind, .cancel⟩ ∈ earlier) (later : List TrackerEvent) :
    (pollers.run (earlier ++ later)).2 = (pollers.run earlier).2 := by
  have cancelled : ∀ kind, ((pollers.run earlier).1.poller kind).isCancelled = true := by
    intro kind
    obtain ⟨before, after, same⟩ := List.append_of_mem (stopped kind)
    rw [same]
    exact pollers.isCancelled_run_cancel kind before after
  rw [run_append, run_of_cancelled cancelled, List.append_nil]

/-- What is sent of a kind up to some point is how the run begins, as far as that kind
goes, that goes the same way without any cancellation. -/
theorem valuesOf_prefix_uncancelled (pollers : TrackerPollers) (kind : NewsKind)
    (earlier later : List TrackerEvent) :
    valuesOf kind (pollers.run earlier).2 <+:
      valuesOf kind (pollers.run (earlier.filter (!·.event.isCancel) ++ later)).2 := by
  rw [valuesOf_run, valuesOf_run, eventsOf_append, eventsOf_uncancelled, Poller.run_append]
  exact (Poller.run_prefix_uncancelled _ _).trans (List.prefix_append _ _)

end TrackerPollers

namespace WalletTracker

variable {source : WalletSource}

theorem run_append (tracker : WalletTracker) (earlier later : List (Control × ClockStep)) :
    tracker.run source (earlier ++ later) =
      (((tracker.run source earlier).1.run source later).1,
        (tracker.run source earlier).2 ++
          ((tracker.run source earlier).1.run source later).2) := by
  induction earlier generalizing tracker with
  | nil => rfl
  | cons entry rest induction =>
      rw [List.cons_append, run_cons, induction, run_cons, List.append_assoc]

/-- The owner stops or drops the tracker, with all of its pollers. -/
theorem isCancelled_run_control (tracker : WalletTracker) {control : Control}
    (ends : control ≠ .keep) (clock : ClockStep)
    (earlier later : List (Control × ClockStep)) (kind : NewsKind) :
    ((tracker.run source (earlier ++ (control, clock) :: later)).1.timeline
      kind).poller.isCancelled = true := by
  rw [timeline_run]
  exact Timeline.isCancelled_run_control _ ends clock earlier later

theorem step_of_stopped {tracker : WalletTracker} {control : Control}
    (cancelled : ∀ kind,
      ((tracker.timeline kind).control control).poller.isCancelled = true)
    (clock : ClockStep) :
    (∀ kind, ((tracker.step source control clock).1.timeline kind).poller.isCancelled =
      true) ∧ (tracker.step source control clock).2 = [] := by
  have silent (kind : NewsKind) :
      ((tracker.timeline kind).step (source.polls kind) control clock).1.poller.isCancelled =
        true ∧ ((tracker.timeline kind).step (source.polls kind) control clock).2 = [] :=
    Timeline.step_of_cancelled (cancelled kind) clock
  constructor
  · intro kind
    rw [timeline_step]
    exact (silent kind).1
  · have nothing : ∀ kind, tracker.newsIn source control clock kind = [] := by
      intro kind
      rw [newsIn, (silent kind).2, List.map_nil]
    rw [news_step, nothing, nothing, nothing]
    exact List.mergeSort_nil

theorem run_of_stopped {tracker : WalletTracker}
    (cancelled : ∀ kind, (tracker.timeline kind).poller.isCancelled = true)
    (script : List (Control × ClockStep)) : (tracker.run source script).2 = [] := by
  induction script generalizing tracker with
  | nil => rfl
  | cons entry rest induction =>
      obtain ⟨control, clock⟩ := entry
      have controlled (kind : NewsKind) :
          ((tracker.timeline kind).control control).poller.isCancelled = true := by
        cases control with
        | keep => exact cancelled kind
        | _ => exact Timeline.isCancelled_control _ nofun
      obtain ⟨stays, nothing⟩ := step_of_stopped controlled clock
      rw [run_cons, nothing, induction stays]
      rfl

/-- The owner stops or drops the tracker, and with it all of its pollers. -/
theorem cutOff_control (tracker : WalletTracker) {control : Control}
    (ends : control ≠ .keep) (clock : ClockStep)
    (earlier later : List (Control × ClockStep)) :
    CutOff (fun script => (tracker.run source script).2) earlier
      ((control, clock) :: later) := by
  apply CutOff.of_append
  · intro others
    rw [run_append]
  · have controlled (kind : NewsKind) := Timeline.isCancelled_control
      ((tracker.run source earlier).1.timeline kind) ends
    obtain ⟨stays, nothing⟩ := step_of_stopped controlled clock
    rw [run_cons, nothing, run_of_stopped stays]
    rfl

end WalletTracker

/-- A cancellation is final.  Of a poller, whatever its order of delivery: nothing is handed
on after it, the poller stays cancelled, and what was handed on before is how the run
begins that goes on without it; for all events and for all scripts of the clock.  Of a
tracker: the same holds of each kind from the cancellation of its poller on, in every
interleaving; when all three have happened nothing is sent, and what was sent by then is,
kind by kind, how the run begins without them; the events of a script, however they are
interleaved, do and send what the script does; and in every script nothing is sent once
the tracker is stopped or dropped. -/
theorem cancellation_is_final :
    (∀ {α : Type} (poller : Poller) (earlier later : List (PollEvent α)),
      CutOff (fun events => (poller.run events).2) earlier (.cancel :: later) ∧
        (poller.run (earlier ++ .cancel :: later)).1.isCancelled = true) ∧
    (∀ {α : Type} (source : Nat → Poll α) (timeline : Timeline α) (control : Control)
      (clock : ClockStep) (earlier later : List (Control × ClockStep)), control ≠ .keep →
      CutOff (fun script => (timeline.run source script).2) earlier
          ((control, clock) :: later) ∧
        (timeline.run source
          (earlier ++ (control, clock) :: later)).1.poller.isCancelled = true) ∧
    (∀ (pollers : TrackerPollers) (kind : NewsKind) (earlier later : List TrackerEvent),
      CutOff (fun happenings => valuesOf kind (pollers.run happenings).2) earlier
          (⟨kind, .cancel⟩ :: later) ∧
        ((pollers.run (earlier ++ ⟨kind, .cancel⟩ :: later)).1.poller kind).isCancelled =
          true) ∧
    (∀ (pollers : TrackerPollers) (earlier later : List TrackerEvent),
      (∀ kind, ⟨kind, .cancel⟩ ∈ earlier) →
      (pollers.run (earlier ++ later)).2 = (pollers.run earlier).2 ∧
        ∀ kind, valuesOf kind (pollers.run earlier).2 <+:
          valuesOf kind (pollers.run (earlier.filter (!·.event.isCancel) ++ later)).2) ∧
    (∀ (source : WalletSource) (tracker : WalletTracker)
      (script : List (Control × ClockStep)) (happenings : List TrackerEvent),
      (∀ kind, InDueOrder (tracker.timeline kind).flights) →
      (∀ kind, eventsOf kind happenings =
        (tracker.timeline kind).events (source.polls kind) script) →
      ∀ kind, (tracker.pollers.run happenings).1.poller kind =
          (tracker.run source script).1.pollers.poller kind ∧
        valuesOf kind (tracker.pollers.run happenings).2 =
          (WalletTracker.newsOf kind (tracker.run source script).2).map Prod.snd) ∧
    (∀ (source : WalletSource) (tracker : WalletTracker) (control : Control)
      (clock : ClockStep) (earlier later : List (Control × ClockStep)), control ≠ .keep →
      CutOff (fun script => (tracker.run source script).2) earlier
          ((control, clock) :: later) ∧
        ∀ kind, ((tracker.run source (earlier ++ (control, clock) :: later)).1.timeline
          kind).poller.isCancelled = true) := by
  refine ⟨?_, ?_, ?_, ?_, ?_, ?_⟩
  · intro α poller earlier later
    exact ⟨poller.cutOff_cancel earlier later, poller.isCancelled_run_cancel earlier later⟩
  · intro α source timeline control clock earlier later ends
    exact ⟨timeline.cutOff_control ends clock earlier later,
      timeline.isCancelled_run_control ends clock earlier later⟩
  · intro pollers kind earlier later
    exact ⟨pollers.cutOff_cancel kind earlier later,
      pollers.isCancelled_run_cancel kind earlier later⟩
  · intro pollers earlier later stopped
    exact ⟨pollers.run_of_stopped stopped later, fun kind =>
      pollers.valuesOf_prefix_uncancelled kind earlier later⟩
  · intro source tracker script happenings ordered interleaved kind
    exact TrackerPollers.run_of_script source tracker script (ordered kind)
      (interleaved kind)
  · intro source tracker control clock earlier later ends
    exact ⟨tracker.cutOff_control ends clock earlier later,
      tracker.isCancelled_run_control ends clock earlier later⟩

/-- A poller is cancelled with a slow poll on its way, and a tracker is stopped while a gas
price resolves between the cancellations of its pollers; only that price is sent. -/
theorem late_results_not_handed_on :
    let source : Nat → Poll Nat := fun number =>
      ⟨if number = 0 then 10 else 200, .resolved number (some "value"), false⟩
    let earlier : List (Control × ClockStep) := [(.keep, .pass 150)]
    let later : List (Control × ClockStep) := [(.keep, .jump 1000), (.drop, .pass 500)]
    let price (number : Nat) : TrackerEvent :=
      ⟨.gasPrice, .resolve number (.resolved (0 : Word256) (some "0x0")) false⟩
    let stop : List TrackerEvent :=
      [⟨.accounts, .cancel⟩, price 1, ⟨.gasPrice, .cancel⟩, ⟨.chainHead, .cancel⟩]
    let pollers : TrackerPollers := ⟨fun _ => .start .resolution⟩
    let wallet : WalletSource :=
      ⟨fun _ => ⟨10, .ok []⟩, fun _ => ⟨10, .ok 0⟩, fun number => ⟨10, .ok (.ofNat number)⟩⟩
    let tracker : WalletTracker := .start ⟨100, 100, 100⟩
    let script := earlier ++ (.cancel, .pass 500) :: later
    (Control.cancel ≠ .keep ∧ (∀ kind, ⟨kind, .cancel⟩ ∈ stop) ∧
      ∀ kind, InDueOrder (tracker.timeline kind).flights) ∧
    ((Timeline.start 100 .resolution).run source earlier).2 = [(10, 0)] ∧
    CutOff (fun script => ((Timeline.start 100 .resolution).run source script).2) earlier
      ((.cancel, .pass 500) :: later) ∧
    (pollers.run stop).2 = [.gasPrice 0] ∧
    (pollers.run (stop ++ [price 2])).2 = [.gasPrice 0] ∧
    (∃ happenings, (∀ kind, eventsOf kind happenings =
        (tracker.timeline kind).events (wallet.polls kind) script) ∧
      ∀ kind, valuesOf kind (tracker.pollers.run happenings).2 =
        (WalletTracker.newsOf kind (tracker.run wallet script).2).map Prod.snd) ∧
    CutOff (fun script => (tracker.run wallet script).2) earlier
      ((.cancel, .pass 500) :: later) := by
  intro source earlier later price stop pollers wallet tracker script
  have ends : Control.cancel ≠ .keep := nofun
  have stopped : ∀ kind, ⟨kind, .cancel⟩ ∈ stop := by
    intro kind
    cases kind <;> simp [stop]
  have ordered : ∀ kind, InDueOrder (tracker.timeline kind).flights := by
    intro kind
    cases kind <;> exact .nil
  obtain ⟨-, scripts, -, interleavings, agree, trackers⟩ := cancellation_is_final
  have sent : (pollers.run stop).2 = [.gasPrice 0] := rfl
  refine ⟨⟨ends, stopped, ordered⟩, rfl, ?_, sent, ?_, ?_, ?_⟩
  · exact (scripts source (Timeline.start 100 .resolution) .cancel (.pass 500) earlier later
      ends).1
  · rw [(interleavings pollers stop [price 2] stopped).1, sent]
  · obtain ⟨happenings, interleaved⟩ := exists_interleaving fun kind =>
      (tracker.timeline kind).events (wallet.polls kind) script
    refine ⟨happenings, interleaved, ?_⟩
    intro kind
    exact (agree wallet tracker script happenings ordered interleaved kind).2
  · exact (trackers wallet tracker .cancel (.pass 500) earlier later ends).1

end TimedRelease
