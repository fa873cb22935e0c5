import TimedRelease.Proofs.Poller.Numbering

/-!
# The dates of values

Polls on their way are kept in the order in which they are due.  The values that a step
of a script hands on are therefore dated in order.
-/

namespace TimedRelease

variable {α : Type}

/-- Each poll is due no later than those behind it. -/
def InDueOrder (flights : List (Flight α)) : Prop :=
  flights.Pairwise (·.due ≤ ·.due)

theorem InDueOrder.insert {flights : List (Flight α)} (ordered : InDueOrder flights)
    (flight : Flight α) : InDueOrder (flight.insert flights) :=
  Flight.pairwise_insert (fun _ _ bound => bound) ordered (fun _ _ bound => bound)
    (fun _ earlier => Nat.le_of_lt earlier)

namespace Timeline

variable {source : Nat → Poll α} {timeline : Timeline α}

theorem inDueOrder_issues (ordered : InDueOrder timeline.flights) (times : List Nat) :
    InDueOrder (times.foldl (issue source) timeline).flights := by
  induction times generalizing timeline with
  | nil => exact ordered
  | cons time rest induction => exact induction (ordered.insert _)

theorem inDueOrder_afterStarts (ordered : InDueOrder timeline.flights)
    (clock : ClockStep) : InDueOrder (timeline.afterStarts source clock).flights := by
  let timed := { timeline with timer := (timeline.timer.move timeline.now clock).2 }
  have same : InDueOrder timed.flights := ordered
  exact inDueOrder_issues same (timeline.startsIn clock)

theorem inDueOrder_control (ordered : InDueOrder timeline.flights) (control : Control) :
    InDueOrder (timeline.control control).flights := by
  cases control <;> exact ordered

theorem inDueOrder_dueIn (ordered : InDueOrder timeline.flights) (clock : ClockStep) :
    InDueOrder (timeline.dueIn source clock) :=
  (inDueOrder_afterStarts ordered clock).sublist (List.takeWhile_sublist _)

theorem inDueOrder_step (ordered : InDueOrder timeline.flights) (control : Control)
    (clock : ClockStep) : InDueOrder (timeline.step source control clock).1.flights := by
  have held := inDueOrder_control ordered control
  have started : InDueOrder ((timeline.control control).afterStarts source clock).flights :=
    inDueOrder_afterStarts held clock
  rw [flights_afterStarts] at started
  exact (List.pairwise_append.mp started).2.1

/-- A value is dated when its poll is due, or at the end of a jump. -/
theorem dates_land_sublist (now : Nat) (poller : Poller) (flights : List (Flight α)) :
    ((land now poller flights).2.map Prod.fst).Sublist
      (flights.map fun flight => max now flight.due) := by
  induction flights generalizing poller with
  | nil => exact .slnil
  | cons flight rest induction =>
      let next := (poller.step flight.event).1
      let handed := (poller.step flight.event).2
      have landed : (land now poller (flight :: rest)).2 =
          (handed.map (max now flight.due, ·)).toList ++ (land now next rest).2 := rfl
      rw [landed, List.map_append, List.map_cons]
      cases handed with
      | none => exact (induction next).cons _
      | some value => exact (induction next).cons_cons _

theorem dates_land (now : Nat) (poller : Poller) {flights : List (Flight α)}
    (ordered : InDueOrder flights) :
    (land now poller flights).2.Pairwise (·.1 ≤ ·.1) := by
  have dates : (flights.map fun flight => max now flight.due).Pairwise (· ≤ ·) := by
    apply List.pairwise_map.mpr
    apply ordered.imp
    intro first second bound
    omega
  exact List.pairwise_map.mp (dates.sublist (dates_land_sublist now poller flights))

theorem dates_step (ordered : InDueOrder timeline.flights) (control : Control)
    (clock : ClockStep) :
    (timeline.step source control clock).2.Pairwise (·.1 ≤ ·.1) := by
  have held := inDueOrder_control ordered control
  have due : InDueOrder ((timeline.control control).dueIn source clock) :=
    inDueOrder_dueIn held clock
  cases clock <;> exact dates_land _ _ due

end Timeline

end TimedRelease
