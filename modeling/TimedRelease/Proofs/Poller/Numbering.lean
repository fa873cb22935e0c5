import TimedRelease.Proofs.Poller.Script

/-!
# The numbers of polls

A timer numbers the polls that it starts, and no number is given twice.  In every
script a poll therefore ends at most once, and it ends as its source says for its
number.
-/

namespace TimedRelease

variable {α : Type}

theorem Flight.perm_insert (flight : Flight α) (flights : List (Flight α)) :
    (flight.insert flights).Perm (flight :: flights) := by
  induction flights with
  | nil => exact .refl _
  | cons first rest induction =>
      rw [Flight.insert]
      split
      · exact (induction.cons first).trans (.swap flight first rest)
      · exact .refl _

/-- A poll goes behind those that are due no later, and before all others. -/
theorem Flight.pairwise_insert {precedes : Flight α → Flight α → Prop}
    (inDueOrder : ∀ first second, precedes first second → first.due ≤ second.due)
    {flights : List (Flight α)} (ordered : flights.Pairwise precedes) {flight : Flight α}
    (behind : ∀ other ∈ flights, other.due ≤ flight.due → precedes other flight)
    (before : ∀ other, flight.due < other.due → precedes flight other) :
    (flight.insert flights).Pairwise precedes := by
  induction flights with
  | nil => exact List.pairwise_singleton _ _
  | cons first rest induction =>
      obtain ⟨firstPrecedes, restOrdered⟩ := List.pairwise_cons.mp ordered
      obtain ⟨behindFirst, behindRest⟩ := List.forall_mem_cons.mp behind
      rw [Flight.insert]
      split
      · rename_i due
        refine List.pairwise_cons.mpr ⟨?_, induction restOrdered behindRest⟩
        intro other member
        rcases List.mem_cons.mp ((flight.perm_insert rest).mem_iff.mp member) with new | old
        · rw [new]
          exact behindFirst due
        · exact firstPrecedes other old
      · rename_i notDue
        have earlier : flight.due < first.due := Nat.lt_of_not_le notDue
        refine List.pairwise_cons.mpr ⟨?_, ordered⟩
        intro other member
        apply before
        rcases List.mem_cons.mp member with next | later
        · rwa [next]
        · exact Nat.lt_of_lt_of_le earlier (inDueOrder first other (firstPrecedes other later))

namespace Timeline

variable {source : Nat → Poll α}

/-- The numbers of the polls on their way. -/
def numbers (timeline : Timeline α) : List Nat :=
  timeline.flights.map Flight.number

/-- The polls on their way have numbers of their own, all of them issued, and end as
the source says. -/
structure Numbered (source : Nat → Poll α) (timeline : Timeline α) : Prop where
  distinct : timeline.numbers.Nodup
  issued : ∀ number ∈ timeline.numbers, number ≤ timeline.poller.issued
  sourced : ∀ flight ∈ timeline.flights,
    flight.result = (source (flight.number - 1)).result

/-- Polls may have been started in between, all of them with later numbers. -/
structure Started (source : Nat → Poll α) (before after : Timeline α) : Prop where
  numbered : Numbered source after
  issued : before.poller.issued ≤ after.poller.issued
  later : ∀ number ∈ after.numbers,
    number ∈ before.numbers ∨ before.poller.issued < number

theorem Started.trans {first second third : Timeline α} (earlier : Started source first second)
    (later : Started source second third) : Started source first third := by
  refine ⟨later.numbered, Nat.le_trans earlier.issued later.issued, ?_⟩
  intro number member
  rcases later.later number member with old | new
  · exact earlier.later number old
  · exact .inr (Nat.lt_of_le_of_lt earlier.issued new)

theorem Numbered.start (period : Nat) (order : DeliveryOrder) :
    Numbered source (Timeline.start period order) :=
  ⟨.nil, nofun, nofun⟩

/-- Nothing is started as long as the polls on their way and their count stay. -/
theorem Numbered.keep {before after : Timeline α} (numbered : Numbered source before)
    (sameFlights : after.flights = before.flights)
    (sameIssued : after.poller.issued = before.poller.issued) :
    Started source before after := by
  have sameNumbers : after.numbers = before.numbers := congrArg (List.map Flight.number) sameFlights
  refine ⟨⟨?_, ?_, ?_⟩, Nat.le_of_eq sameIssued.symm, ?_⟩
  · rw [sameNumbers]
    exact numbered.distinct
  · rw [sameNumbers, sameIssued]
    exact numbered.issued
  · rw [sameFlights]
    exact numbered.sourced
  · intro number member
    rw [sameNumbers] at member
    exact .inl member

theorem Numbered.control {timeline : Timeline α} (numbered : Numbered source timeline)
    (control : Control) : Started source timeline (timeline.control control) := by
  cases control <;> exact numbered.keep rfl rfl

theorem Numbered.issue {timeline : Timeline α} (numbered : Numbered source timeline)
    (time : Nat) : Started source timeline (timeline.issue source time) := by
  let poll := source timeline.poller.issued
  let flight : Flight α :=
    ⟨time + poll.delay, timeline.poller.issued + 1, poll.result, poll.panics⟩
  have inserted : (timeline.issue source time).flights.Perm (flight :: timeline.flights) :=
    flight.perm_insert timeline.flights
  have numbers : (timeline.issue source time).numbers.Perm
      ((timeline.poller.issued + 1) :: timeline.numbers) :=
    inserted.map Flight.number
  have fresh : timeline.poller.issued + 1 ∉ timeline.numbers := by
    intro member
    exact Nat.not_succ_le_self _ (numbered.issued _ member)
  refine ⟨⟨?_, ?_, ?_⟩, Nat.le_succ _, ?_⟩
  · exact numbers.nodup_iff.mpr (List.nodup_cons.mpr ⟨fresh, numbered.distinct⟩)
  · intro number member
    rcases List.mem_cons.mp (numbers.mem_iff.mp member) with new | old
    · exact Nat.le_of_eq new
    · exact Nat.le_succ_of_le (numbered.issued number old)
  · intro other member
    rcases List.mem_cons.mp (inserted.mem_iff.mp member) with new | old
    · rw [new]
      rfl
    · exact numbered.sourced other old
  · intro number member
    rcases List.mem_cons.mp (numbers.mem_iff.mp member) with new | old
    · exact .inr (Nat.lt_of_lt_of_eq (Nat.lt_succ_self _) new.symm)
    · exact .inl old

theorem Numbered.issues {timeline : Timeline α} (numbered : Numbered source timeline)
    (times : List Nat) :
    Started source timeline (times.foldl (Timeline.issue source) timeline) := by
  induction times generalizing timeline with
  | nil => exact numbered.keep rfl rfl
  | cons time rest induction =>
      have first := numbered.issue time
      exact first.trans (induction first.numbered)

theorem Numbered.afterStarts {timeline : Timeline α} (numbered : Numbered source timeline)
    (clock : ClockStep) : Started source timeline (timeline.afterStarts source clock) := by
  let timed := { timeline with timer := (timeline.timer.move timeline.now clock).2 }
  have moved : Started source timeline timed := numbered.keep rfl rfl
  exact moved.trans (moved.numbered.issues (timeline.startsIn clock))

/-- The polls that are due as the clock moves. -/
def dueIn (source : Nat → Poll α) (timeline : Timeline α) (clock : ClockStep) :
    List (Flight α) :=
  (timeline.afterStarts source clock).flights.takeWhile
    (·.due ≤ timeline.now + clock.length)

theorem flights_afterStarts (timeline : Timeline α) (clock : ClockStep) :
    (timeline.afterStarts source clock).flights =
      timeline.dueIn source clock ++ (timeline.advance source clock).1.flights := by
  cases clock <;> exact List.takeWhile_append_dropWhile.symm

theorem numbers_afterStarts (timeline : Timeline α) (clock : ClockStep) :
    (timeline.afterStarts source clock).numbers =
      (timeline.dueIn source clock).map Flight.number ++
        (timeline.advance source clock).1.numbers := by
  rw [numbers, flights_afterStarts, List.map_append]
  rfl

theorem issued_land (now : Nat) (poller : Poller) (flights : List (Flight α)) :
    (land now poller flights).1.issued = poller.issued := by
  induction flights generalizing poller with
  | nil => rfl
  | cons flight rest induction =>
      let next := (poller.step (.resolve flight.number flight.result flight.panics)).1
      have landed : (land now poller (flight :: rest)).1 = (land now next rest).1 := rfl
      rw [landed, induction]
      rfl

theorem issued_advance (timeline : Timeline α) (clock : ClockStep) :
    (timeline.advance source clock).1.poller.issued =
      (timeline.afterStarts source clock).poller.issued := by
  cases clock <;> exact issued_land _ _ _

theorem Numbered.advance {timeline : Timeline α} (numbered : Numbered source timeline)
    (clock : ClockStep) : Started source timeline (timeline.advance source clock).1 := by
  have started := numbered.afterStarts clock
  have stillOnTheirWay : ∀ number ∈ (timeline.advance source clock).1.numbers,
      number ∈ (timeline.afterStarts source clock).numbers := by
    intro number member
    rw [numbers_afterStarts]
    exact List.mem_append_right _ member
  refine ⟨⟨?_, ?_, ?_⟩, ?_, ?_⟩
  · have distinct := started.numbered.distinct
    rw [numbers_afterStarts] at distinct
    exact (List.nodup_append.mp distinct).2.1
  · intro number member
    rw [issued_advance]
    exact started.numbered.issued number (stillOnTheirWay number member)
  · intro flight member
    apply started.numbered.sourced flight
    rw [flights_afterStarts]
    exact List.mem_append_right _ member
  · rw [issued_advance]
    exact started.issued
  · intro number member
    exact started.later number (stillOnTheirWay number member)

theorem numbers_control (control : Control) :
    (control.events : List (PollEvent α)).filterMap PollEvent.number? = [] := by
  cases control <;> rfl

theorem numbers_clockEvents (timeline : Timeline α) (clock : ClockStep) :
    (timeline.clockEvents source clock).filterMap PollEvent.number? =
      (timeline.dueIn source clock).map Flight.number := by
  have ticks : ((timeline.startsIn clock).map fun _ => (.tick : PollEvent α)).filterMap
      PollEvent.number? = [] := by
    simp [PollEvent.number?]
  have landings (flights : List (Flight α)) :
      (flights.map Flight.event).filterMap PollEvent.number? = flights.map Flight.number := by
    simp [List.filterMap_map, Function.comp_def, Flight.event, PollEvent.number?]
  rw [clockEvents, List.filterMap_append, ticks, landings]
  rfl

/-- By induction on the script: a poll that ends was on its way or is issued later, and
one that has ended is neither. -/
theorem Numbered.numbers_events {timeline : Timeline α}
    (numbered : Numbered source timeline) (script : List (Control × ClockStep)) :
    ((timeline.events source script).filterMap PollEvent.number?).Nodup ∧
      ∀ number ∈ (timeline.events source script).filterMap PollEvent.number?,
        number ∈ timeline.numbers ∨ timeline.poller.issued < number := by
  induction script generalizing timeline with
  | nil => exact ⟨.nil, nofun⟩
  | cons entry rest induction =>
      obtain ⟨control, clock⟩ := entry
      let held := timeline.control control
      have controlled : Started source timeline held := numbered.control control
      have started : Started source timeline (held.afterStarts source clock) :=
        controlled.trans (controlled.numbered.afterStarts clock)
      have advanced : Started source timeline (held.advance source clock).1 :=
        controlled.trans (controlled.numbered.advance clock)
      obtain ⟨restDistinct, restLater⟩ := induction advanced.numbered
      have ends : (timeline.events source ((control, clock) :: rest)).filterMap
          PollEvent.number? = (held.dueIn source clock).map Flight.number ++
            ((held.advance source clock).1.events source rest).filterMap PollEvent.number? := by
        rw [Timeline.events, List.filterMap_append, List.filterMap_append, numbers_control,
          numbers_clockEvents]
        rfl
      have dueStarted : ∀ number ∈ (held.dueIn source clock).map Flight.number,
          number ∈ (held.afterStarts source clock).numbers := by
        intro number due
        rw [numbers_afterStarts]
        exact List.mem_append_left _ due
      have distinct := started.numbered.distinct
      rw [numbers_afterStarts] at distinct
      obtain ⟨dueDistinct, -, apart⟩ := List.nodup_append.mp distinct
      rw [ends]
      refine ⟨List.nodup_append.mpr ⟨dueDistinct, restDistinct, ?_⟩, ?_⟩
      · intro number due other endsLater same
        subst same
        rcases restLater number endsLater with underWay | issuedLater
        · exact apart number due number underWay rfl
        · have bound := started.numbered.issued number (dueStarted number due)
          rw [issued_advance] at issuedLater
          exact Nat.not_lt.mpr bound issuedLater
      · intro number member
        rcases List.mem_append.mp member with due | endsLater
        · exact started.later number (dueStarted number due)
        · rcases restLater number endsLater with underWay | issuedLater
          · exact advanced.later number underWay
          · exact .inr (Nat.lt_of_le_of_lt advanced.issued issuedLater)

/-- A poll of a script ends as its source says for its number. -/
theorem Numbered.result_of_mem_events {timeline : Timeline α}
    (numbered : Numbered source timeline) {script : List (Control × ClockStep)}
    {number : Nat} {result : PollResult α} {panics : Bool}
    (member : .resolve number result panics ∈ timeline.events source script) :
    result = (source (number - 1)).result := by
  induction script generalizing timeline with
  | nil => contradiction
  | cons entry rest induction =>
      obtain ⟨control, clock⟩ := entry
      have controlled := (numbered.control control).numbered
      rw [Timeline.events, List.append_assoc] at member
      rcases List.mem_append.mp member with ofControl | member
      · cases control <;> simp [Control.events] at ofControl
      rcases List.mem_append.mp member with ofClock | ofRest
      · rcases List.mem_append.mp ofClock with tick | landing
        · simp at tick
        · obtain ⟨flight, due, same⟩ := List.mem_map.mp landing
          injection same with sameNumber sameResult
          rw [← sameNumber, ← sameResult]
          exact (controlled.afterStarts clock).numbered.sourced flight
            ((List.takeWhile_sublist _).subset due)
      · exact induction (controlled.advance clock).numbered ofRest

end Timeline

end TimedRelease
