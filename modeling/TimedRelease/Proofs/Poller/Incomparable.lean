import TimedRelease.Proofs.Poller.Changes
import TimedRelease.Proofs.Poller.Deliveries

/-!
# Polls with nothing to compare

A poll that failed leaves no trace: it can be left out of a run and the same values are
handed on.  So can one whose value has no text, except that where the order of issue
counts it has been seen, and a result older than it is dropped from then on.
-/

namespace TimedRelease

variable {α : Type}

namespace PollEvent

/-- A poll ends in a failure of its source. -/
def isFailure : PollEvent α → Bool
  | .resolve _ .failed _ => true
  | _ => false

/-- A poll ends with nothing to compare. -/
def isIncomparable (event : PollEvent α) : Bool :=
  event.isFailure || event.isUnwritten

end PollEvent

/-- What happens before the first cancellation. -/
def inTime (events : List (PollEvent α)) : List (PollEvent α) :=
  events.takeWhile (!·.isCancel)

/-- A result of this number counts, after results with values of other numbers: where the
order of issue matters none of those is newer. -/
def DeliveryOrder.counts (order : DeliveryOrder) (seen : List Nat) (number : Nat) : Bool :=
  match order with
  | .resolution => true
  | .issue => seen.all (· ≤ number)

/-- The numbers of results with values, after one more result. -/
def PollResult.seenAfter (number : Nat) (seen : List Nat) : PollResult α → List Nat
  | .failed => seen
  | .resolved _ _ => number :: seen

/-- What a result gives to compare, if it counts. -/
def PollResult.compared (order : DeliveryOrder) (seen : List Nat) (number : Nat) :
    PollResult α → List (α × String)
  | .resolved value (some text) => if order.counts seen number then [(value, text)] else []
  | _ => []

/-- What resolves before the first cancellation and counts.  A value without a text is
seen as well, but there is nothing to compare. -/
def counted (order : DeliveryOrder) (seen : List Nat) :
    List (PollEvent α) → List (α × String)
  | [] => []
  | .tick :: rest => counted order seen rest
  | .cancel :: _ => []
  | .resolve number result _ :: rest =>
    result.compared order seen number ++ counted order (result.seenAfter number seen) rest

/-- Leaves out polls with nothing to compare, as many as one likes; ticks may go with them,
and whatever follows a cancellation.  Where the order of issue counts, a value without a
text stays if an older success resolves after it and before a cancellation. -/
inductive LeavesOut (order : DeliveryOrder) :
    List (PollEvent α) → List (PollEvent α) → Prop where
  | nil : LeavesOut order [] []
  | keep (event : PollEvent α) {rest left : List (PollEvent α)} :
      LeavesOut order rest left → LeavesOut order (event :: rest) (event :: left)
  | cancel {rest left : List (PollEvent α)} :
      left.Sublist rest → LeavesOut order (.cancel :: rest) (.cancel :: left)
  | tick {rest left : List (PollEvent α)} :
      LeavesOut order rest left → LeavesOut order (.tick :: rest) left
  | failure (number : Nat) (panics : Bool) {rest left : List (PollEvent α)} :
      LeavesOut order rest left → LeavesOut order (.resolve number .failed panics :: rest) left
  | unwritten (number : Nat) (value : α) (panics : Bool) {rest left : List (PollEvent α)}
      (newest : order = .issue → ∀ success ∈ successes (inTime rest), number ≤ success.number) :
      LeavesOut order rest left →
      LeavesOut order (.resolve number (.resolved value none) panics :: rest) left

namespace Snapshot

/-- The snapshot has noted the newest of the results that were seen, if the order of issue
counts. -/
def Notes (order : DeliveryOrder) (snapshot : Snapshot) (seen : List Nat) : Prop :=
  ∀ number, snapshot.isStale order number = !order.counts seen number

theorem notes_empty (order : DeliveryOrder) : Notes order .empty [] := by
  intro number
  cases order <;> rfl

theorem Notes.keep {order : DeliveryOrder} {snapshot next : Snapshot} {seen : List Nat}
    (notes : snapshot.Notes order seen) (sameLatest : next.latest = snapshot.latest) :
    next.Notes order seen := by
  intro number
  rw [← notes number]
  cases order with
  | resolution => rfl
  | issue => rw [isStale, isStale, sameLatest]

/-- A stale result changes nothing: a newer one was seen before it. -/
theorem Notes.stale {order : DeliveryOrder} {snapshot : Snapshot} {seen : List Nat}
    (notes : snapshot.Notes order seen) {number : Nat}
    (stale : snapshot.isStale order number = true) : snapshot.Notes order (number :: seen) := by
  cases order with
  | resolution => contradiction
  | issue =>
      obtain ⟨newer, among, bound⟩ : ∃ newer ∈ seen, number < newer := by
        have counts := notes number
        rw [stale] at counts
        simpa [DeliveryOrder.counts] using counts
      intro other
      rw [notes other]
      simp only [DeliveryOrder.counts, List.all_cons]
      by_cases older : number ≤ other
      · simp [older]
      · have notAll : seen.all (· ≤ other) = false := by
          rw [List.all_eq_false]
          exact ⟨newer, among, by simp; omega⟩
        simp [notAll]

/-- Of a result that is not stale the number is noted as the newest. -/
theorem Notes.note {order : DeliveryOrder} {snapshot : Snapshot} {seen : List Nat}
    (notes : snapshot.Notes order seen) {number : Nat}
    (fresh : snapshot.isStale order number = false) :
    (snapshot.note order number).Notes order (number :: seen) := by
  cases order with
  | resolution => exact fun _ => rfl
  | issue =>
      have newest : ∀ older ∈ seen, older ≤ number := by
        have counts := notes number
        rw [fresh] at counts
        simpa [DeliveryOrder.counts] using counts
      intro other
      by_cases older : number ≤ other
      · have all : seen.all (· ≤ other) = true := by
          rw [List.all_eq_true]
          intro earlier among
          simpa using Nat.le_trans (newest earlier among) older
        simp [DeliveryOrder.counts, Snapshot.note, isStale, older, all]
      · simpa [DeliveryOrder.counts, Snapshot.note, isStale, older] using
          Nat.lt_of_not_le older

theorem latest_compare (snapshot : Snapshot) (value : α) (text : String) :
    (snapshot.compare value text).1.latest = snapshot.latest := by
  unfold compare
  split <;> rfl

/-- What a snapshot that is not cancelled makes of one more result. -/
structure Takes (order : DeliveryOrder) (snapshot : Snapshot) (seen : List Nat) (number : Nat)
    (result : PollResult α) (delivered : Snapshot × Option α) : Prop where
  running : delivered.1.cancelled = false
  notes : delivered.1.Notes order (result.seenAfter number seen)
  /-- The value handed on, and what comes after it, are the changes among what is compared. -/
  changes : ∀ later, delivered.2.toList ++ changes delivered.1.last later =
    changes snapshot.last (result.compared order seen number ++ later)

theorem Notes.deliver {order : DeliveryOrder} {snapshot : Snapshot} {seen : List Nat}
    (notes : snapshot.Notes order seen) (running : snapshot.cancelled = false) (number : Nat)
    (result : PollResult α) :
    Takes order snapshot seen number result (snapshot.deliver order number result) := by
  have counts := notes number
  cases result with
  | failed =>
      have kept : snapshot.deliver order number (.failed : PollResult α) = (snapshot, none) := by
        simp [Snapshot.deliver]
      rw [kept]
      exact ⟨running, notes, fun _ => rfl⟩
  | resolved value text =>
      cases stale : snapshot.isStale order number with
      | true =>
          have dropped : snapshot.deliver order number (.resolved value text) =
              (snapshot, none) := by
            simp [Snapshot.deliver, stale]
          have old : order.counts seen number = false := by
            simpa [stale] using counts
          rw [dropped]
          refine ⟨running, notes.stale stale, ?_⟩
          cases text <;> simp [PollResult.compared, old]
      | false =>
          have new : order.counts seen number = true := by
            simpa [stale] using counts
          have noted := notes.note stale
          cases text with
          | none =>
              have seenOnly : snapshot.deliver order number (.resolved value none) =
                  (snapshot.note order number, none) := by
                simp [Snapshot.deliver, running, stale]
              rw [seenOnly]
              exact ⟨by simp [running], noted, by simp [PollResult.compared]⟩
          | some text =>
              have taken : snapshot.deliver order number (.resolved value (some text)) =
                  (snapshot.note order number).compare value text := by
                simp [Snapshot.deliver, running, stale]
              rw [taken]
              refine ⟨by simp [running], noted.keep (latest_compare _ value text), ?_⟩
              intro later
              by_cases same : snapshot.last = some text <;>
                simp [PollResult.compared, new, handed_compare, TimedRelease.changes, same]

end Snapshot

namespace Poller

/-- By induction on the events; the snapshot notes the newest result with a value, whether
it had a text or not, and keeps the text of the last one that counted. -/
theorem handed_eq_counted {poller : Poller} {order : DeliveryOrder} {seen : List Nat}
    (ordered : poller.order = order) (running : poller.isCancelled = false)
    (notes : poller.shared.snapshot.Notes order seen) (events : List (PollEvent α)) :
    (poller.run events).2 =
      changes poller.shared.snapshot.last (counted order seen events) := by
  induction events generalizing poller seen with
  | nil => rfl
  | cons event rest induction =>
      have sameOrder : (poller.step event).1.order = order := by
        rw [order_step, ordered]
      rw [run_cons]
      cases event with
      | tick => exact induction ordered running notes
      | cancel =>
          rw [(run_of_cancelled (isCancelled_step_cancel (α := α) poller) rest).2]
          rfl
      | resolve number result panics =>
          have takes := notes.deliver running number result
          have next := poller.snapshot_step_resolve number result panics
          rw [ordered] at next
          have later : ((poller.step (.resolve number result panics)).1.run rest).2 =
              changes (poller.step (.resolve number result panics)).1.shared.snapshot.last
                (counted order (result.seenAfter number seen) rest) := by
            apply induction sameOrder
            · rw [isCancelled, next]
              exact takes.running
            · rw [next]
              exact takes.notes
          rw [handed_step_resolve, ordered, later, next]
          exact takes.changes _

end Poller

theorem successes_inTime_cons {event : PollEvent α} (goesOn : event.isCancel = false)
    (rest : List (PollEvent α)) :
    successes (inTime (event :: rest)) = event.success?.toList ++ successes (inTime rest) := by
  rw [inTime, List.takeWhile_cons_of_pos (by simp [goesOn]), successes_cons]
  rfl

theorem DeliveryOrder.counts_cons (order : DeliveryOrder) (number : Nat) (seen : List Nat)
    (other : Nat) :
    order.counts (number :: seen) other =
      (order.counts [number] other && order.counts seen other) := by
  cases order <;> simp [counts]

/-- The same successes count, whichever of the two lists of numbers was seen. -/
def Alike (order : DeliveryOrder) (events : List (PollEvent α)) (seen others : List Nat) : Prop :=
  ∀ success ∈ successes (inTime events),
    order.counts seen success.number = order.counts others success.number

namespace Alike

variable {order : DeliveryOrder} {event : PollEvent α} {rest : List (PollEvent α)}
  {seen others : List Nat}

theorem tail (alike : Alike order (event :: rest) seen others)
    (goesOn : event.isCancel = false) : Alike order rest seen others := by
  intro success member
  apply alike success
  rw [successes_inTime_cons goesOn]
  exact List.mem_append_right _ member

theorem see (alike : Alike order rest seen others) (number : Nat) (result : PollResult α) :
    Alike order rest (result.seenAfter number seen) (result.seenAfter number others) := by
  intro success member
  cases result with
  | failed => exact alike success member
  | resolved value text =>
      rw [PollResult.seenAfter, PollResult.seenAfter, order.counts_cons number seen,
        order.counts_cons number others, alike success member]

theorem compared {number : Nat} {result : PollResult α} {panics : Bool}
    (alike : Alike order (.resolve number result panics :: rest) seen others) :
    result.compared order seen number = result.compared order others number := by
  cases result with
  | failed => rfl
  | resolved value text =>
      cases text with
      | none => rfl
      | some text =>
          have same := alike ⟨number, value, text⟩ (by
            rw [successes_inTime_cons rfl]
            exact List.mem_append_left _ (List.mem_singleton_self _))
          rw [PollResult.compared, PollResult.compared, same]

end Alike

/-- By induction on what is left out: a value without a text that is missed was no newer
than the successes still to come, so that the same of them count. -/
theorem LeavesOut.counted {order : DeliveryOrder} {events left : List (PollEvent α)}
    (leavesOut : LeavesOut order events left) {seen others : List Nat}
    (alike : Alike order events seen others) :
    counted order others left = counted order seen events := by
  induction leavesOut generalizing seen others with
  | nil => rfl
  | keep event left induction =>
      cases event with
      | tick => exact induction (alike.tail rfl)
      | cancel => rfl
      | resolve number result panics =>
          have later := induction ((alike.tail rfl).see number result)
          rw [TimedRelease.counted, TimedRelease.counted, later, alike.compared]
  | cancel left => rfl
  | tick left induction => exact induction (alike.tail rfl)
  | failure number panics left induction => exact induction (alike.tail rfl)
  | unwritten number value panics newest left induction =>
      apply induction
      intro success member
      have upToDate : order.counts [number] success.number = true := by
        cases order with
        | resolution => rfl
        | issue => simpa [DeliveryOrder.counts] using newest rfl success member
      rw [PollResult.seenAfter, order.counts_cons, upToDate, Bool.true_and]
      exact alike.tail rfl success member

/-- No value without a text is newer than a success that resolves after it, and before a
cancellation. -/
def NoneOvertakes (events : List (PollEvent α)) : Prop :=
  (inTime events).Pairwise fun earlier later => earlier.isUnwritten = true →
    ∀ number ∈ earlier.number?, ∀ success ∈ later.success?, number ≤ success.number

theorem NoneOvertakes.cons {event : PollEvent α} {rest : List (PollEvent α)}
    (noneOvertakes : NoneOvertakes (event :: rest)) (goesOn : event.isCancel = false) :
    (event.isUnwritten = true → ∀ number ∈ event.number?,
      ∀ success ∈ successes (inTime rest), number ≤ success.number) ∧ NoneOvertakes rest := by
  rw [NoneOvertakes, inTime, List.takeWhile_cons_of_pos (by simp [goesOn])] at noneOvertakes
  obtain ⟨first, others⟩ := List.pairwise_cons.mp noneOvertakes
  refine ⟨?_, others⟩
  intro unwritten number ofEvent success member
  obtain ⟨later, among, succeeds⟩ := List.mem_filterMap.mp member
  exact first later among unwritten number ofEvent success succeeds

namespace LeavesOut

theorem failures (order : DeliveryOrder) (events : List (PollEvent α)) :
    LeavesOut order events (events.filter (!·.isFailure)) := by
  induction events with
  | nil => exact .nil
  | cons event rest induction =>
      cases event with
      | resolve number result panics =>
          cases result with
          | failed => exact .failure number panics induction
          | resolved value text => exact .keep _ induction
      | _ => exact .keep _ induction

theorem incomparable {order : DeliveryOrder} {events : List (PollEvent α)}
    (noneOvertakes : order = .issue → NoneOvertakes events) :
    LeavesOut order events (events.filter (!·.isIncomparable)) := by
  induction events with
  | nil => exact .nil
  | cons event rest induction =>
      cases event with
      | tick => exact .keep _ (induction fun issue => ((noneOvertakes issue).cons rfl).2)
      | cancel => exact .cancel List.filter_sublist
      | resolve number result panics =>
          have left := induction fun issue => ((noneOvertakes issue).cons rfl).2
          cases result with
          | failed => exact .failure number panics left
          | resolved value text =>
              cases text with
              | none =>
                  exact .unwritten number value panics
                    (fun issue => ((noneOvertakes issue).cons rfl).1 rfl number rfl) left
              | some text => exact .keep _ left

end LeavesOut

namespace Poller

theorem handed_start_eq_counted (order : DeliveryOrder) (events : List (PollEvent α)) :
    ((start order).run events).2 = changes none (counted order [] events) :=
  handed_eq_counted rfl rfl (Snapshot.notes_empty order) events

theorem handed_of_leavesOut {order : DeliveryOrder} {events left : List (PollEvent α)}
    (leavesOut : LeavesOut order events left) :
    ((start order).run left).2 = ((start order).run events).2 := by
  have alike : Alike order events [] [] := fun _ _ => rfl
  have same := leavesOut.counted alike
  rw [handed_start_eq_counted, handed_start_eq_counted, same]

/-- Polls that end with nothing to compare leave no trace.  In either order the same values
are handed on without the polls that failed; and without those whose value has no text as
well, unless the order of issue counts and one of them is newer than a success that
resolves after it; and so for any part of them.  What is handed on are the changes among
the results that count: where the order of issue does, those that no result with a value
seen before is newer than, be it one with a text or without.  Every script of the clock is
such a run. -/
theorem incomparable_polls_leave_no_trace (order : DeliveryOrder) :
    (∀ events : List (PollEvent α),
      ((start order).run (events.filter (!·.isFailure))).2 = ((start order).run events).2) ∧
    (∀ events : List (PollEvent α), (order = .issue → NoneOvertakes events) →
      ((start order).run (events.filter (!·.isIncomparable))).2 =
        ((start order).run events).2) ∧
    (∀ events left : List (PollEvent α), LeavesOut order events left →
      ((start order).run left).2 = ((start order).run events).2) ∧
    (∀ events : List (PollEvent α),
      ((start order).run events).2 = changes none (counted order [] events)) ∧
    (∀ (period : Nat) (source : Nat → Poll α) (script : List (Control × ClockStep)),
      let opened : Timeline α := Timeline.start period order
      ((start order).run (opened.events source script)).2 =
        (opened.run source script).2.map Prod.snd) := by
  refine ⟨?_, ?_, ?_, handed_start_eq_counted order, ?_⟩
  · intro events
    exact handed_of_leavesOut (.failures order events)
  · intro events noneOvertakes
    exact handed_of_leavesOut (.incomparable noneOvertakes)
  · intro events left leavesOut
    exact handed_of_leavesOut leavesOut
  · intro period source script opened
    exact congrArg Prod.snd (Timeline.run_of_script source opened script)

/-- A value without a text resolves after a newer one with a text, and before one that is
newer still; it can be left out, as can the failure that comes with it. -/
theorem old_unwritten_value_left_out :
    let written (number : Nat) (text : String) : PollEvent Nat :=
      .resolve number (.resolved number (some text)) false
    let unwritten : PollEvent Nat := .resolve 1 (.resolved 1 none) false
    let broken : PollEvent Nat := .resolve 3 .failed true
    let events := [.tick, .tick, written 2 "2", .tick, unwritten, broken, .tick, written 4 "4"]
    let left := [.tick, .tick, written 2 "2", .tick, .tick, written 4 "4"]
    NoneOvertakes events ∧ LeavesOut .issue events left ∧
    events.filter (!·.isIncomparable) = left ∧
    ((start .issue).run left).2 = ((start .issue).run events).2 ∧
    ((start .issue).run events).2 = [2, 4] := by
  intro written unwritten broken events left
  have noneOvertakes : NoneOvertakes events := by
    unfold NoneOvertakes
    decide
  have leavesOut : LeavesOut .issue events left :=
    .incomparable fun _ => noneOvertakes
  obtain ⟨-, -, leftOut, -⟩ := @incomparable_polls_leave_no_trace Nat .issue
  exact ⟨noneOvertakes, leavesOut, rfl, leftOut events left leavesOut, rfl⟩

/-- A value without a text that is newer than a success still on its way: in the order of
issue it is seen, and the success is dropped, which is handed on without it. -/
theorem unwritten_value_supersedes_older :
    let source (number : Nat) : Poll Nat :=
      if number = 0 then ⟨150, .resolved 1 (some "1"), false⟩
      else ⟨10, .resolved 9 none, false⟩
    let events := (Timeline.start 100 .issue).events source [(.keep, .pass 160)]
    events = [.tick, .tick, .resolve 2 (.resolved 9 none) false,
      .resolve 1 (.resolved 1 (some "1")) false] ∧
    ((start .issue).run events).2 = [] ∧
    ((start .issue).run (events.filter (!·.isIncomparable))).2 = [1] ∧
    ¬∀ (order : DeliveryOrder) (events : List (PollEvent Nat)),
      ((start order).run (events.filter (!·.isIncomparable))).2 =
        ((start order).run events).2 := by
  intro source events
  have happened : events = [.tick, .tick, .resolve 2 (.resolved 9 none) false,
      .resolve 1 (.resolved 1 (some "1")) false] := by
    decide
  have withIt : ((start .issue).run events).2 = [] := by
    rw [happened]
    rfl
  have withoutIt : ((start .issue).run (events.filter (!·.isIncomparable))).2 = [1] := by
    rw [happened]
    rfl
  refine ⟨happened, withIt, withoutIt, ?_⟩
  intro invisible
  have same := invisible .issue events
  rw [withIt, withoutIt] at same
  contradiction

end Poller

end TimedRelease
