import TimedRelease.Proofs.Poller.Arrivals
import TimedRelease.Proofs.Poller.Incomparable
import TimedRelease.Proofs.Tracker.Interleaving
import TimedRelease.Proofs.Tracker.Texts

/-!
# The answers that are news

The news of a kind are the answers to the calls of that kind, in the order in which they
come, without those that are equal to the one just before.  Nothing else has a part in it:
neither the answers, delays and errors of the other kinds nor how often these are asked for.
-/

namespace TimedRelease

instance (kind : NewsKind) : DecidableEq kind.Value :=
  match kind with
  | .accounts => inferInstanceAs (DecidableEq (List Account))
  | .gasPrice => inferInstanceAs (DecidableEq Word256)
  | .chainHead => inferInstanceAs (DecidableEq UInt64)

/-- The period of the poller of a kind. -/
def PollPeriods.of (periods : PollPeriods) : NewsKind → Nat
  | .accounts => periods.accounts
  | .gasPrice => periods.gasPrice
  | .chainHead => periods.chainHead

namespace WalletSource

/-- The answers to the calls of a kind. -/
def calls (source : WalletSource) : (kind : NewsKind) → Nat → TimedAnswer kind.Value
  | .accounts => source.accounts
  | .gasPrice => source.gasPrice
  | .chainHead => source.chainHead

theorem polls_eq (source : WalletSource) (kind : NewsKind) (number : Nat) :
    source.polls kind number = (source.calls kind number).poll (write kind) := by
  cases kind <;> rfl

/-- When the calls of a kind are made as long as the tracker is kept. -/
def callTimes (source : WalletSource) (periods : PollPeriods) (kind : NewsKind)
    (script : List (Control × ClockStep)) : List Nat :=
  (Timeline.start (periods.of kind) .resolution).starts (source.polls kind) (whileKept script)

/-- The calls of a kind that are answered before the tracker is stopped or dropped, in the
order in which the answers come. -/
def answeredCalls (source : WalletSource) (periods : PollPeriods) (kind : NewsKind)
    (script : List (Control × ClockStep)) : List (Flight kind.Value) :=
  arrivals (elapsed (whileKept script))
    (departures (source.polls kind) 0 (source.callTimes periods kind script))

/-- The answers of a kind that are no errors, in the order in which they come. -/
def answersOf (source : WalletSource) (periods : PollPeriods) (kind : NewsKind)
    (script : List (Control × ClockStep)) : List kind.Value :=
  (source.answeredCalls periods kind script).filterMap fun call =>
    (source.calls kind (call.number - 1)).answer.toOption

theorem comparable_answeredCalls (source : WalletSource) (periods : PollPeriods)
    (kind : NewsKind) (script : List (Control × ClockStep)) :
    ((source.answeredCalls periods kind script).filterMap fun call => call.event.comparable?) =
      (source.answersOf periods kind script).map fun value => (value, textOf kind value) := by
  rw [answersOf, List.map_filterMap]
  apply List.filterMap_congr
  intro call answered
  have made : call ∈ departures (source.polls kind) 0 (source.callTimes periods kind script) :=
    List.mem_of_mem_filter ((perm_arrivals _ _).mem_iff.mp answered)
  have ended := result_of_mem_departures made
  rw [polls_eq, TimedAnswer.poll] at ended
  rw [Flight.event, ended]
  cases (source.calls kind (call.number - 1)).answer <;> rfl

end WalletSource

namespace WalletTracker

theorem timeline_start (periods : PollPeriods) (kind : NewsKind) :
    (start periods).timeline kind = Timeline.start (periods.of kind) .resolution := by
  cases kind <;> rfl

theorem poller_start (periods : PollPeriods) (kind : NewsKind) :
    (start periods).pollers.poller kind = .start .resolution :=
  congrArg Timeline.poller (timeline_start periods kind)

theorem newsOf_start (source : WalletSource) (periods : PollPeriods)
    (script : List (Control × ClockStep)) (kind : NewsKind) :
    newsOf kind ((start periods).run source script).2 =
      ((Timeline.start (periods.of kind) .resolution).run (source.polls kind) script).2 := by
  have ordered : InDueOrder ((start periods).timeline kind).flights := by
    rw [timeline_start]
    exact .nil
  rw [newsOf_run source ordered, timeline_start]

theorem values_newsOf_start (source : WalletSource) (periods : PollPeriods)
    (script : List (Control × ClockStep)) (kind : NewsKind) :
    (newsOf kind ((start periods).run source script).2).map Prod.snd =
      (source.answersOf periods kind script).destutter (· ≠ ·) := by
  rw [newsOf_start, Timeline.handed_start]
  have answered := source.comparable_answeredCalls periods kind script
  rw [WalletSource.answeredCalls, WalletSource.callTimes] at answered
  rw [answered, changes_eq_destutter (WalletSource.textOf_injective kind)]

theorem newsOf_start_congr {source other : WalletSource} {periods others : PollPeriods}
    {kind : NewsKind} (samePeriod : periods.of kind = others.of kind)
    (sameCalls : source.calls kind = other.calls kind) (script : List (Control × ClockStep)) :
    newsOf kind ((start periods).run source script).2 =
      newsOf kind ((start others).run other script).2 := by
  have samePolls : source.polls kind = other.polls kind := by
    funext number
    rw [WalletSource.polls_eq, WalletSource.polls_eq, sameCalls]
  rw [newsOf_start, newsOf_start, samePeriod, samePolls]

end WalletTracker

namespace PollEvent

variable {α : Type}

/-- The value of the poll that ends, if it has one. -/
def value? : PollEvent α → Option α
  | .resolve _ (.resolved value _) _ => some value
  | _ => none

end PollEvent

/-- The values of polls that end before a cancellation, in order. -/
def answersIn {α : Type} (events : List (PollEvent α)) : List α :=
  (inTime events).filterMap PollEvent.value?

/-- All values of a kind come with the text by which they are compared. -/
def Written (kind : NewsKind) (events : List (PollEvent kind.Value)) : Prop :=
  ∀ number value text panics, .resolve number (.resolved value text) panics ∈ events →
    text = some (WalletSource.textOf kind value)

theorem Written.resolvedInTime {kind : NewsKind} {events : List (PollEvent kind.Value)}
    (written : Written kind events) :
    resolvedInTime events =
      (answersIn events).map fun value => (value, WalletSource.textOf kind value) := by
  rw [TimedRelease.resolvedInTime, answersIn, List.map_filterMap]
  apply List.filterMap_congr
  intro event early
  have member : event ∈ events := (List.takeWhile_sublist _).subset early
  cases event with
  | tick => rfl
  | resolve number result panics =>
      cases result with
      | failed => rfl
      | resolved value text =>
          rw [written number value text panics member]
          rfl
  | cancel => rfl

theorem TrackerPollers.valuesOf_start (periods : PollPeriods) {happenings : List TrackerEvent}
    {kind : NewsKind} (written : Written kind (eventsOf kind happenings)) :
    valuesOf kind ((WalletTracker.start periods).pollers.run happenings).2 =
      (answersIn (eventsOf kind happenings)).destutter (· ≠ ·) := by
  rw [valuesOf_run, WalletTracker.poller_start, Poller.handed_eq_changes rfl rfl,
    written.resolvedInTime]
  exact changes_eq_destutter (WalletSource.textOf_injective kind) _

theorem written_events (source : WalletSource) (periods : PollPeriods)
    (script : List (Control × ClockStep)) (kind : NewsKind) :
    Written kind (((WalletTracker.start periods).timeline kind).events
      (source.polls kind) script) := by
  intro number value text panics member
  rw [WalletTracker.timeline_start] at member
  have ended := (Timeline.Numbered.start (periods.of kind) .resolution).result_of_mem_events member
  rw [WalletSource.polls_eq, TimedAnswer.poll] at ended
  cases answer : (source.calls kind (number - 1)).answer with
  | error reason => simp [answer] at ended
  | ok told =>
      simp only [answer, PollResult.resolved.injEq] at ended
      rw [ended.1, ended.2]
      rfl

/-- Whatever the periods, the answers, delays and errors of the wallet and the script: the news
of each kind are the answers of that kind up to the stop, in the order in which they come, less
those equal to the one before, and two of them in a row differ.  They are the same, dates
included, for all other periods and wallets that agree on that kind.  The same holds however
the three pollers interleave. -/
theorem news_are_distinct_answers :
    (∀ (source : WalletSource) (periods : PollPeriods) (script : List (Control × ClockStep))
      (kind : NewsKind),
      let news :=
        (WalletTracker.newsOf kind ((WalletTracker.start periods).run source script).2).map
          Prod.snd
      news = (source.answersOf periods kind script).destutter (· ≠ ·) ∧
        news.IsChain (· ≠ ·)) ∧
    (∀ (source other : WalletSource) (periods others : PollPeriods)
      (script : List (Control × ClockStep)) (kind : NewsKind),
      periods.of kind = others.of kind → source.calls kind = other.calls kind →
      WalletTracker.newsOf kind ((WalletTracker.start periods).run source script).2 =
        WalletTracker.newsOf kind ((WalletTracker.start others).run other script).2) ∧
    (∀ (periods : PollPeriods) (happenings : List TrackerEvent) (kind : NewsKind),
      Written kind (eventsOf kind happenings) →
      let sent :=
        valuesOf kind ((WalletTracker.start periods).pollers.run happenings).2
      sent = (answersIn (eventsOf kind happenings)).destutter (· ≠ ·) ∧
        sent.IsChain (· ≠ ·)) ∧
    (∀ (periods others : PollPeriods) (happenings otherwise : List TrackerEvent)
      (kind : NewsKind), eventsOf kind happenings = eventsOf kind otherwise →
      valuesOf kind ((WalletTracker.start periods).pollers.run happenings).2 =
        valuesOf kind ((WalletTracker.start others).pollers.run otherwise).2) := by
  refine ⟨?_, ?_, ?_, ?_⟩
  · intro source periods script kind news
    have distinct : news = (source.answersOf periods kind script).destutter (· ≠ ·) :=
      WalletTracker.values_newsOf_start source periods script kind
    refine ⟨distinct, ?_⟩
    rw [distinct]
    exact List.isChain_destutter _ _
  · intro source other periods others script kind samePeriod sameCalls
    exact WalletTracker.newsOf_start_congr samePeriod sameCalls script
  · intro periods happenings kind written sent
    have distinct : sent = (answersIn (eventsOf kind happenings)).destutter (· ≠ ·) :=
      TrackerPollers.valuesOf_start periods written
    refine ⟨distinct, ?_⟩
    rw [distinct]
    exact List.isChain_destutter _ _
  · intro periods others happenings otherwise kind same
    rw [TrackerPollers.valuesOf_run, TrackerPollers.valuesOf_run, same,
      WalletTracker.poller_start, WalletTracker.poller_start]

/-- A slow answer comes between two equal ones and a repeated one is left out, whatever the
chain does in the meantime. -/
theorem repeated_price_is_no_news :
    let low : Word256 := 0
    let high : Word256 := .largest
    let price (number : Nat) : TimedAnswer Word256 :=
      if number = 0 then ⟨250, .ok low⟩
      else if number = 4 then ⟨10, .error (.network "timeout")⟩
      else ⟨10, .ok high⟩
    let wallet (head : TimedAnswer UInt64) : WalletSource :=
      ⟨fun _ => ⟨10, .ok []⟩, price, fun _ => head⟩
    let script : List (Control × ClockStep) := [(.keep, .pass 450), (.drop, .pass 500)]
    let periods : PollPeriods := ⟨100, 100, 100⟩
    let others : PollPeriods := ⟨30, 100, 0⟩
    let asked : WalletTracker := .start periods
    (periods.of .gasPrice = others.of .gasPrice ∧
      (wallet ⟨700, .ok 2⟩).calls .gasPrice = (wallet ⟨10, .ok 1⟩).calls .gasPrice) ∧
    ((wallet ⟨10, .ok 1⟩).answersOf periods .gasPrice script).destutter (· ≠ ·) =
      [high, low, high] ∧
    WalletTracker.newsOf .gasPrice
        ((WalletTracker.start others).run (wallet ⟨700, .ok 2⟩) script).2 =
      [(110, high), (250, low), (310, high)] ∧
    ∃ happenings, Written .gasPrice (eventsOf .gasPrice happenings) ∧
      (answersIn (eventsOf .gasPrice happenings)).destutter (· ≠ ·) = [high, low, high] ∧
      valuesOf .gasPrice (asked.pollers.run (⟨.chainHead, .tick⟩ :: happenings)).2 =
        [high, low, high] := by
  intro low high price wallet script periods others asked
  obtain ⟨answers, alike, interleaved, alikeInterleaved⟩ := news_are_distinct_answers
  have samePeriod : periods.of .gasPrice = others.of .gasPrice := rfl
  have sameCalls :
      (wallet ⟨700, .ok 2⟩).calls .gasPrice = (wallet ⟨10, .ok 1⟩).calls .gasPrice := rfl
  have news : WalletTracker.newsOf .gasPrice
      ((WalletTracker.start periods).run (wallet ⟨10, .ok 1⟩) script).2 =
        [(110, high), (250, low), (310, high)] := by
    have handed : ((Timeline.start 100 .resolution).run
        (fun number => (price number).poll WalletSource.writePrice) script).2 =
          [(110, high), (250, low), (310, high)] := by
      decide +kernel
    rw [WalletTracker.newsOf_start]
    exact handed
  refine ⟨⟨samePeriod, sameCalls⟩, ?_, ?_, ?_⟩
  · rw [← (answers (wallet ⟨10, .ok 1⟩) periods script .gasPrice).1, news]
    rfl
  · rw [← alike (wallet ⟨10, .ok 1⟩) (wallet ⟨700, .ok 2⟩) periods others script .gasPrice
      samePeriod sameCalls.symm, news]
  · obtain ⟨happenings, events⟩ := exists_interleaving fun kind =>
      (asked.timeline kind).events ((wallet ⟨10, .ok 1⟩).polls kind) script
    have written : Written .gasPrice (eventsOf .gasPrice happenings) := by
      rw [events]
      exact written_events (wallet ⟨10, .ok 1⟩) periods script .gasPrice
    have ordered : InDueOrder (asked.timeline .gasPrice).flights := .nil
    have sent : valuesOf .gasPrice (asked.pollers.run happenings).2 = [high, low, high] := by
      rw [(TrackerPollers.run_of_script (wallet ⟨10, .ok 1⟩) asked script ordered
        (events .gasPrice)).2, news]
      rfl
    refine ⟨happenings, written, ?_, ?_⟩
    · rw [← (interleaved periods happenings .gasPrice written).1]
      exact sent
    · have different : NewsKind.chainHead ≠ .gasPrice := nofun
      have same : eventsOf .gasPrice (⟨.chainHead, .tick⟩ :: happenings) =
          eventsOf .gasPrice happenings := eventsOf_cons_other different .tick happenings
      rw [alikeInterleaved periods periods _ happenings .gasPrice same]
      exact sent

end TimedRelease
