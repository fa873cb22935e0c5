import Mathlib.Data.List.Nodup
import TimedRelease.Proofs.Poller.Deliveries
import TimedRelease.Proofs.Poller.Numbering

/-!
# Results in the order of their polls

A poller that minds the order in which polls were issued ends, however its polls
happen to resolve, with the text of the newest one that succeeded, and the values
that it hands on come from later and later polls.
-/

namespace TimedRelease

variable {α : Type}

/-- Polls end, each at most once and none with a value that has no text, and nobody
cancels. -/
structure Undisturbed (events : List (PollEvent α)) : Prop where
  uncancelled : ∀ event ∈ events, event.isCancel = false
  once : (events.filterMap PollEvent.number?).Nodup
  written : ∀ event ∈ events, event.isUnwritten = false

theorem Undisturbed.successes_distinct {events : List (PollEvent α)}
    (undisturbed : Undisturbed events) :
    ((successes events).map Success.number).Nodup :=
  undisturbed.once.sublist (numbers_successes_sublist events)

namespace Snapshot

/-- The snapshot holds the newest of the polls that have succeeded so far. -/
inductive Holds (seen : List (Success α)) : Snapshot → Prop where
  | nothing (none : seen = []) : Holds seen .empty
  | newest {newest : Success α} (among : newest ∈ seen)
      (last : ∀ other ∈ seen, other.number ≤ newest.number) :
      Holds seen ⟨some newest.text, false, some newest.number⟩

theorem Holds.perm {seen others : List (Success α)} {snapshot : Snapshot}
    (holds : snapshot.Holds seen) (same : seen.Perm others) : snapshot.Holds others := by
  cases holds with
  | nothing none =>
      rw [none] at same
      exact .nothing same.nil_eq.symm
  | newest among last =>
      refine .newest (same.mem_iff.mp among) ?_
      intro other member
      exact last other (same.mem_iff.mpr member)

/-- Of polls with numbers of their own only one is the newest. -/
theorem Holds.unique {seen : List (Success α)}
    (distinct : (seen.map Success.number).Nodup) {snapshot other : Snapshot}
    (holds : snapshot.Holds seen) (otherHolds : other.Holds seen) : snapshot = other := by
  cases holds with
  | nothing none =>
      cases otherHolds with
      | nothing _ => rfl
      | newest among _ =>
          rw [none] at among
          contradiction
  | @newest newest among last =>
      cases otherHolds with
      | nothing none =>
          rw [none] at among
          contradiction
      | @newest alsoNewest alsoAmong alsoLast =>
          have sameNumber : newest.number = alsoNewest.number :=
            Nat.le_antisymm (alsoLast newest among) (last alsoNewest alsoAmong)
          have same : newest = alsoNewest :=
            List.inj_on_of_nodup_map distinct among alsoAmong sameNumber
          rw [same]

/-- A success takes the place of those before it, or is dropped as older than one of
them. -/
theorem deliver_success {snapshot : Snapshot} (running : snapshot.cancelled = false)
    (success : Success α) :
    snapshot.deliver .issue success.number (.resolved success.value (some success.text)) =
      if snapshot.latest.any (success.number < ·) then (snapshot, none)
      else (⟨some success.text, false, some success.number⟩,
        if snapshot.last = some success.text then none else some success.value) := by
  obtain ⟨last, cancelled, latest⟩ := snapshot
  simp only at running
  subst running
  by_cases same : last = some success.text <;>
    simp [deliver, isStale, note, compare, same]

/-- One success more: the snapshot holds the newest with it, and hands it on only if none
of those before is newer. -/
theorem Holds.deliver {snapshot : Snapshot} {seen : List (Success α)}
    (holds : snapshot.Holds seen) (success : Success α) :
    let delivered := snapshot.deliver .issue success.number
      (.resolved success.value (some success.text))
    delivered.1.Holds (seen ++ [success]) ∧
      (delivered.2.isSome → ∀ other ∈ seen, other.number ≤ success.number) := by
  intro delivered
  cases holds with
  | nothing none =>
      have fresh : delivered =
          (⟨some success.text, false, some success.number⟩, some success.value) := rfl
      subst none
      rw [fresh]
      refine ⟨.newest (List.mem_singleton_self success) ?_, fun _ => nofun⟩
      intro other member
      exact Nat.le_of_eq (congrArg _ (List.mem_singleton.mp member))
  | @newest newest among last =>
      have outcome : delivered = _ := deliver_success rfl success
      by_cases older : success.number < newest.number
      · have dropped : delivered =
            (⟨some newest.text, false, some newest.number⟩, none) := by
          simpa [older] using outcome
        rw [dropped]
        refine ⟨.newest (List.mem_append_left _ among) ?_, nofun⟩
        intro other member
        rcases List.mem_append.mp member with before | latest
        · exact last other before
        · rw [List.mem_singleton.mp latest]
          exact Nat.le_of_lt older
      · have newer : ∀ other ∈ seen, other.number ≤ success.number := by
          intro other member
          exact Nat.le_trans (last other member) (Nat.le_of_not_lt older)
        have taken : delivered.1 = ⟨some success.text, false, some success.number⟩ := by
          simp [outcome, older]
        rw [taken]
        refine ⟨.newest (by simp) ?_, fun _ => newer⟩
        intro other member
        rcases List.mem_append.mp member with before | latest
        · exact newer other before
        · exact Nat.le_of_eq (congrArg _ (List.mem_singleton.mp latest))

end Snapshot

namespace Poller

theorem step_of_no_success (poller : Poller) {event : PollEvent α}
    (goesOn : event.isCancel = false) (written : event.isUnwritten = false)
    (fails : event.success? = none) :
    (poller.step event).1.shared.snapshot = poller.shared.snapshot ∧
      (poller.step event).2 = none := by
  cases event with
  | tick => exact ⟨rfl, rfl⟩
  | resolve number result panics =>
      rw [handed_step_resolve, snapshot_step_resolve]
      cases result with
      | failed => simp [Snapshot.deliver]
      | resolved value text => cases text <;> contradiction
  | cancel => contradiction

section IssueOrder

variable {poller : Poller} {seen : List (Success α)}

theorem holds_step (issue : poller.order = .issue)
    (holds : poller.shared.snapshot.Holds seen) {event : PollEvent α}
    (goesOn : event.isCancel = false) (written : event.isUnwritten = false) :
    (poller.step event).1.shared.snapshot.Holds (seen ++ event.success?.toList) ∧
      ∀ success ∈ (poller.step event).2.bind fun _ => event.success?,
        ∀ other ∈ seen, other.number ≤ success.number := by
  cases succeeds : event.success? with
  | none =>
      obtain ⟨kept, nothing⟩ := poller.step_of_no_success goesOn written succeeds
      rw [kept, nothing]
      exact ⟨by simpa using holds, nofun⟩
  | some success =>
      obtain ⟨panics, same⟩ := PollEvent.eq_resolve_of_success? succeeds
      subst same
      obtain ⟨next, newer⟩ := holds.deliver success
      rw [snapshot_step_resolve, handed_step_resolve, issue]
      refine ⟨next, ?_⟩
      intro delivered member
      obtain ⟨value, handed, same⟩ := Option.bind_eq_some_iff.mp member
      injection same with same
      subst same
      exact newer (by simp [handed])

theorem holds_run (issue : poller.order = .issue)
    (holds : poller.shared.snapshot.Holds seen) {events : List (PollEvent α)}
    (goesOn : ∀ event ∈ events, event.isCancel = false)
    (written : ∀ event ∈ events, event.isUnwritten = false) :
    (poller.run events).1.shared.snapshot.Holds (seen ++ successes events) := by
  induction events generalizing poller seen with
  | nil => simpa [successes] using holds
  | cons event rest induction =>
      obtain ⟨eventGoesOn, restGoesOn⟩ := List.forall_mem_cons.mp goesOn
      obtain ⟨eventWritten, restWritten⟩ := List.forall_mem_cons.mp written
      have sameOrder : (poller.step event).1.order = .issue := by
        rw [order_step, issue]
      have next := (holds_step issue holds eventGoesOn eventWritten).1
      rw [run_cons, successes_cons, ← List.append_assoc]
      exact induction sameOrder next restGoesOn restWritten

/-- By induction on the events: none of the successes that the snapshot has seen is newer
than one whose value is handed on later. -/
theorem deliveries_newer (issue : poller.order = .issue)
    (holds : poller.shared.snapshot.Holds seen) {events : List (PollEvent α)}
    (goesOn : ∀ event ∈ events, event.isCancel = false)
    (written : ∀ event ∈ events, event.isUnwritten = false) :
    (poller.deliveries events).Pairwise (·.number ≤ ·.number) ∧
      ∀ success ∈ poller.deliveries events,
        ∀ other ∈ seen, other.number ≤ success.number := by
  induction events generalizing poller seen with
  | nil => exact ⟨.nil, nofun⟩
  | cons event rest induction =>
      obtain ⟨eventGoesOn, restGoesOn⟩ := List.forall_mem_cons.mp goesOn
      obtain ⟨eventWritten, restWritten⟩ := List.forall_mem_cons.mp written
      have sameOrder : (poller.step event).1.order = .issue := by
        rw [order_step, issue]
      obtain ⟨next, newer⟩ := holds_step issue holds eventGoesOn eventWritten
      obtain ⟨restIncreasing, restNewer⟩ :=
        induction sameOrder next restGoesOn restWritten
      have restNewerThanSeen : ∀ success ∈ (poller.step event).1.deliveries rest,
          ∀ other ∈ seen, other.number ≤ success.number := by
        intro success member other among
        exact restNewer success member other (List.mem_append_left _ among)
      rw [deliveries_cons]
      cases delivered : (poller.step event).2.bind fun _ => event.success? with
      | none => exact ⟨restIncreasing, restNewerThanSeen⟩
      | some first =>
          obtain ⟨value, -, succeeds⟩ := Option.bind_eq_some_iff.mp delivered
          refine ⟨List.pairwise_cons.mpr ⟨?_, restIncreasing⟩, ?_⟩
          · intro success member
            exact restNewer success member first (by simp [succeeds])
          · intro success member
            rcases List.mem_cons.mp member with here | later
            · rw [here]
              exact newer first delivered
            · exact restNewerThanSeen success later

end IssueOrder

/-- What becomes of polls that all end undisturbed, in whatever order they resolve. -/
structure Settles (events : List (PollEvent α)) : Prop where
  /-- The values handed on are those of the deliveries. -/
  handed : ((start .issue).deliveries events).map Success.value =
    ((start .issue).run events).2
  /-- Each of them comes from a later poll than the one before. -/
  increasing : ((start .issue).deliveries events).Pairwise (·.number < ·.number)
  /-- In the end the snapshot and the value handed on last have the text of the newest
  success. -/
  newest : ∀ newest ∈ successes events,
    (∀ other ∈ successes events, other.number ≤ newest.number) →
      ((start .issue).run events).1.shared.snapshot =
        ⟨some newest.text, false, some newest.number⟩ ∧
      ((start .issue).deliveries events).getLast?.map Success.text = some newest.text

theorem holds_start (order : DeliveryOrder) :
    (start order).shared.snapshot.Holds ([] : List (Success α)) :=
  .nothing rfl

theorem holds_successes {events : List (PollEvent α)} (undisturbed : Undisturbed events) :
    ((start .issue).run events).1.shared.snapshot.Holds (successes events) :=
  holds_run rfl (holds_start .issue) undisturbed.uncancelled undisturbed.written

theorem Settles.of_undisturbed {events : List (PollEvent α)}
    (undisturbed : Undisturbed events) : Settles events := by
  have distinct := undisturbed.successes_distinct
  refine ⟨values_deliveries _ events, ?_, ?_⟩
  · have ordered := (deliveries_newer rfl (holds_start (α := α) .issue)
      undisturbed.uncancelled undisturbed.written).1
    have apart : ((start .issue).deliveries events).Pairwise (·.number ≠ ·.number) :=
      List.pairwise_map.mp (distinct.sublist ((deliveries_sublist _ events).map _))
    exact (ordered.and apart).imp fun ⟨bound, different⟩ => Nat.lt_of_le_of_ne bound different
  · intro newest among last
    have snapshot := (holds_successes undisturbed).unique distinct (.newest among last)
    refine ⟨snapshot, ?_⟩
    have text := last_run (start .issue) events
    rw [snapshot] at text
    simpa [start, SharedSnapshot.empty, Snapshot.empty] using text.symm

end Poller

namespace Timeline

variable {source : Nat → Poll α}

/-- As long as its owner keeps the poller, nobody cancels it. -/
theorem uncancelled_events (timeline : Timeline α) {script : List (Control × ClockStep)}
    (kept : ∀ entry ∈ script, entry.1 = .keep) :
    ∀ event ∈ timeline.events source script, event.isCancel = false := by
  induction script generalizing timeline with
  | nil => nofun
  | cons entry rest induction =>
      obtain ⟨control, clock⟩ := entry
      obtain ⟨keeps, restKept⟩ := List.forall_mem_cons.mp kept
      simp only at keeps
      subst keeps
      intro event member
      rcases List.mem_append.mp member with ofStep | ofRest
      · have ofClock : event ∈ timeline.clockEvents source clock := ofStep
        rcases List.mem_append.mp ofClock with tick | landing
        · obtain ⟨time, -, same⟩ := List.mem_map.mp tick
          rw [← same]
          rfl
        · obtain ⟨flight, -, same⟩ := List.mem_map.mp landing
          rw [← same]
          rfl
      · exact induction _ restKept event ofRest

/-- The polls of a poller that is kept end undisturbed if all values have a text. -/
theorem undisturbed_events (period : Nat) (order : DeliveryOrder)
    {script : List (Control × ClockStep)} (kept : ∀ entry ∈ script, entry.1 = .keep)
    (written : ∀ number, (source number).result.isUnwritten = false) :
    Undisturbed ((Timeline.start period order).events source script) := by
  have numbered : Numbered source (Timeline.start period order) := .start period order
  refine ⟨uncancelled_events _ kept, (numbered.numbers_events script).1, ?_⟩
  intro event member
  cases event with
  | resolve number result panics =>
      rw [PollEvent.isUnwritten, numbered.result_of_mem_events member]
      exact written (number - 1)
  | _ => rfl

end Timeline

namespace Poller

/-- In the order in which polls were issued the newest success prevails: for every order in
which polls resolve; any two orders of the same successes end with the same snapshot; and
all scripts of the clock that keep the poller are such runs. -/
theorem newest_success_prevails :
    (∀ events : List (PollEvent α), Undisturbed events → Settles events) ∧
    (∀ events others : List (PollEvent α), Undisturbed events → Undisturbed others →
      (successes events).Perm (successes others) →
      ((start .issue).run events).1.shared.snapshot =
        ((start .issue).run others).1.shared.snapshot) ∧
    (∀ (period : Nat) (source : Nat → Poll α) (script : List (Control × ClockStep)),
      (∀ entry ∈ script, entry.1 = .keep) →
      (∀ number, (source number).result.isUnwritten = false) →
      let opened : Timeline α := Timeline.start period .issue
      let events := opened.events source script
      Undisturbed events ∧
        (opened.run source script).1.poller = ((start .issue).run events).1 ∧
        (opened.run source script).2.map Prod.snd = ((start .issue).run events).2) := by
  refine ⟨fun events undisturbed => .of_undisturbed undisturbed, ?_, ?_⟩
  · intro events others undisturbed othersUndisturbed same
    have holds := (holds_successes undisturbed).perm same
    exact holds.unique othersUndisturbed.successes_distinct
      (holds_successes othersUndisturbed)
  · intro period source script kept written opened events
    have asEvents : (start .issue).run events =
        ((opened.run source script).1.poller, (opened.run source script).2.map Prod.snd) :=
      Timeline.run_of_script source opened script
    rw [asEvents]
    exact ⟨Timeline.undisturbed_events period .issue kept written, rfl, rfl⟩

/-- A slow first poll resolves last, after one that fails, and is dropped; had it come
first, the snapshot would be the same in the end. -/
theorem slow_poll_dropped :
    let slow : PollEvent Nat := .resolve 1 (.resolved 1 (some "1")) false
    let fast : PollEvent Nat := .resolve 2 (.resolved 2 (some "2")) true
    let broken : PollEvent Nat := .resolve 3 .failed false
    let events := [.tick, .tick, fast, .tick, broken, slow]
    let inOrder := [.tick, slow, .tick, fast, .tick, broken]
    let source : Nat → Poll Nat := fun number =>
      if number = 0 then ⟨250, .resolved 1 (some "1"), false⟩
      else ⟨10, .resolved 2 (some "2"), false⟩
    (Undisturbed events ∧ Undisturbed inOrder ∧ (successes events).Perm (successes inOrder) ∧
      ∀ number, (source number).result.isUnwritten = false) ∧
    Settles events ∧
    ((start .issue).run events).2 = [2] ∧ ((start .issue).run inOrder).2 = [1, 2] ∧
    ((start .issue).run events).1.shared.snapshot =
      ((start .issue).run inOrder).1.shared.snapshot ∧
    Undisturbed ((Timeline.start 100 .issue).events source [(.keep, .pass 280)]) := by
  intro slow fast broken events inOrder source
  have undisturbed : Undisturbed events := ⟨by decide, by decide, by decide⟩
  have inOrderUndisturbed : Undisturbed inOrder := ⟨by decide, by decide, by decide⟩
  have same : (successes events).Perm (successes inOrder) := by decide
  have written : ∀ number, (source number).result.isUnwritten = false := by
    intro number
    by_cases first : number = 0 <;> simp [source, first, PollResult.isUnwritten]
  obtain ⟨settles, converges, scripts⟩ := @newest_success_prevails Nat
  refine ⟨⟨undisturbed, inOrderUndisturbed, same, written⟩, settles events undisturbed,
    rfl, rfl, converges events inOrder undisturbed inOrderUndisturbed same, ?_⟩
  exact (scripts 100 source [(.keep, .pass 280)] (by decide) written).1

end Poller

end TimedRelease
