import Mathlib.Data.List.Nodup
import Mathlib.Data.List.TakeWhile
import TimedRelease.Proofs.Poller.Cancellation
import TimedRelease.Proofs.Poller.Changes
import TimedRelease.Proofs.Poller.IssueOrder
import TimedRelease.Proofs.Poller.Numbering
import TimedRelease.Proofs.Poller.Ticks

/-!
# The order in which polls resolve

As long as a poller is kept, its polls resolve once they are due, each once, in the order
in which they are due; of polls that are due together the one that was started first
comes first.
-/

namespace TimedRelease

variable {α : Type}

namespace Flight

/-- The poll resolves before the other: it is due earlier, or at the same time and was
started earlier. -/
def Before (first second : Flight α) : Prop :=
  first.due < second.due ∨ first.due = second.due ∧ first.number < second.number

instance (first second : Flight α) : Decidable (first.Before second) :=
  inferInstanceAs (Decidable (_ ∨ _))

theorem Before.asymm {first second : Flight α} (before : first.Before second) :
    ¬second.Before first := by
  unfold Before at *
  omega

theorem not_before_trans {first second third : Flight α} (earlier : ¬second.Before first)
    (later : ¬third.Before second) : ¬third.Before first := by
  unfold Before at *
  omega

theorem eq_number_of_not_before {first second : Flight α} (notAfter : ¬second.Before first)
    (notBefore : ¬first.Before second) : first.number = second.number := by
  unfold Before at *
  omega

theorem Before.due_le {first second : Flight α} (before : first.Before second) :
    first.due ≤ second.due := by
  unfold Before at before
  omega

-- The new poll has the greatest number, so it also goes behind those due together with it.
theorem before_insert {flights : List (Flight α)} (ordered : flights.Pairwise Before)
    {flight : Flight α} (last : ∀ other ∈ flights, other.number < flight.number) :
    (flight.insert flights).Pairwise Before := by
  apply pairwise_insert (fun _ _ => Before.due_le) ordered
  · intro other member due
    have number := last other member
    unfold Before
    omega
  · intro other earlier
    exact .inl earlier

theorem lt_due_of_mem_dropWhile {flights : List (Flight α)} (ordered : flights.Pairwise Before)
    {time : Nat} {flight : Flight α} (member : flight ∈ flights.dropWhile (·.due ≤ time)) :
    time < flight.due := by
  induction flights with
  | nil => contradiction
  | cons first rest induction =>
      obtain ⟨firstBefore, restOrdered⟩ := List.pairwise_cons.mp ordered
      by_cases due : first.due ≤ time
      · rw [List.dropWhile_cons_of_pos (by simpa using due)] at member
        exact induction restOrdered member
      · rw [List.dropWhile_cons_of_neg (by simpa using due)] at member
        rcases List.mem_cons.mp member with here | later
        · rw [here]
          exact Nat.lt_of_not_le due
        · exact Nat.lt_of_lt_of_le (Nat.lt_of_not_le due) (firstBefore flight later).due_le

end Flight

/-- Of polls those that are due by a time, in the order in which they resolve. -/
def arrivals (time : Nat) (flights : List (Flight α)) : List (Flight α) :=
  (flights.filter (·.due ≤ time)).mergeSort fun first second => ¬second.Before first

theorem perm_arrivals (time : Nat) (flights : List (Flight α)) :
    (arrivals time flights).Perm (flights.filter (·.due ≤ time)) :=
  List.mergeSort_perm _ _

theorem pairwise_arrivals (time : Nat) (flights : List (Flight α)) :
    (arrivals time flights).Pairwise fun first second => ¬second.Before first := by
  let precedes (first second : Flight α) : Bool := ¬second.Before first
  have transitive : ∀ first second third, precedes first second = true →
      precedes second third = true → precedes first third = true := by
    intro first second third earlier later
    simp only [precedes, decide_eq_true_eq] at *
    exact Flight.not_before_trans earlier later
  have total : ∀ first second, (precedes first second || precedes second first) = true := by
    intro first second
    by_cases before : second.Before first
    · simp [precedes, before.asymm]
    · simp [precedes, before]
  have sorted : (arrivals time flights).Pairwise fun first second => precedes first second :=
    List.pairwise_mergeSort transitive total _
  exact sorted.imp fun before => by simpa [precedes] using before

theorem filter_due_perm {flights early late : List (Flight α)} {time : Nat}
    (same : flights.Perm (early ++ late)) (due : ∀ flight ∈ early, flight.due ≤ time)
    (notDue : ∀ flight ∈ late, time < flight.due) :
    (flights.filter (·.due ≤ time)).Perm early := by
  have all : early.filter (·.due ≤ time) = early := by
    apply List.filter_eq_self.mpr
    intro flight member
    simpa using due flight member
  have nothing : late.filter (·.due ≤ time) = [] := by
    apply List.filter_eq_nil_iff.mpr
    intro flight member
    simpa using notDue flight member
  have filtered := same.filter (·.due ≤ time)
  rwa [List.filter_append, all, nothing, List.append_nil] at filtered

/-- Polls in order, each with a number of its own, are arrivals if they are those that are
due by a time. -/
theorem eq_arrivals {flights early late : List (Flight α)} {time : Nat}
    (distinct : (flights.map Flight.number).Nodup) (same : flights.Perm (early ++ late))
    (ordered : early.Pairwise Flight.Before) (due : ∀ flight ∈ early, flight.due ≤ time)
    (notDue : ∀ flight ∈ late, time < flight.due) : early = arrivals time flights := by
  have arriving : (arrivals time flights).Perm early :=
    (perm_arrivals time flights).trans (filter_due_perm same due notDue)
  have distinctEarly : (early.map Flight.number).Nodup := by
    have numbers := (same.map Flight.number).nodup_iff.mp distinct
    rw [List.map_append] at numbers
    exact (List.nodup_append.mp numbers).1
  symm
  apply arriving.eq_of_pairwise _ (pairwise_arrivals time flights)
    (ordered.imp Flight.Before.asymm)
  intro first second firstArrives secondArrives notAfter notBefore
  exact List.inj_on_of_nodup_map distinctEarly (arriving.mem_iff.mp firstArrives)
    secondArrives (Flight.eq_number_of_not_before notAfter notBefore)

/-- The poll of a source that is started at a time after some others. -/
def departure (source : Nat → Poll α) (issued time : Nat) : Flight α :=
  ⟨time + (source issued).delay, issued + 1, (source issued).result, (source issued).panics⟩

/-- The polls of a source that are started at some times after some others. -/
def departures (source : Nat → Poll α) : Nat → List Nat → List (Flight α)
  | _, [] => []
  | issued, time :: rest => departure source issued time :: departures source (issued + 1) rest

/-- How far a script moves the clock. -/
def elapsed : List (Control × ClockStep) → Nat
  | [] => 0
  | (_, clock) :: rest => clock.length + elapsed rest

/-- What a script does before the owner ends the poller. -/
def whileKept (script : List (Control × ClockStep)) : List (Control × ClockStep) :=
  script.takeWhile (·.1 = .keep)

theorem kept_of_mem_whileKept {script : List (Control × ClockStep)} :
    ∀ entry ∈ whileKept script, entry.1 = .keep := by
  intro entry member
  simpa using List.mem_takeWhile_imp member

variable {source : Nat → Poll α}

theorem departures_append (issued : Nat) (earlier later : List Nat) :
    departures source issued (earlier ++ later) =
      departures source issued earlier ++ departures source (issued + earlier.length) later := by
  induction earlier generalizing issued with
  | nil => rfl
  | cons time rest induction =>
      simp [departures, induction, Nat.add_assoc, Nat.add_comm 1]

theorem number_of_mem_departures {issued : Nat} {times : List Nat} {flight : Flight α}
    (member : flight ∈ departures source issued times) :
    issued < flight.number ∧ flight.number ≤ issued + times.length := by
  induction times generalizing issued with
  | nil => contradiction
  | cons time rest induction =>
      rw [List.length_cons]
      rcases List.mem_cons.mp member with here | there
      · have same : flight.number = issued + 1 := congrArg Flight.number here
        omega
      · have bounds := induction there
        omega

theorem due_of_mem_departures {issued now : Nat} {times : List Nat} {flight : Flight α}
    (later : ∀ time ∈ times, now ≤ time) (member : flight ∈ departures source issued times) :
    now ≤ flight.due := by
  induction times generalizing issued with
  | nil => contradiction
  | cons time rest induction =>
      obtain ⟨first, others⟩ := List.forall_mem_cons.mp later
      rcases List.mem_cons.mp member with here | there
      · rw [here]
        exact Nat.le_trans first (Nat.le_add_right _ _)
      · exact induction others there

theorem result_of_mem_departures {issued : Nat} {times : List Nat} {flight : Flight α}
    (member : flight ∈ departures source issued times) :
    flight.result = (source (flight.number - 1)).result := by
  induction times generalizing issued with
  | nil => contradiction
  | cons time rest induction =>
      rcases List.mem_cons.mp member with here | there
      · rw [here]
        rfl
      · exact induction there

theorem nodup_departures (issued : Nat) (times : List Nat) :
    ((departures source issued times).map Flight.number).Nodup := by
  induction times generalizing issued with
  | nil => exact .nil
  | cons time rest induction =>
      refine List.nodup_cons.mpr ⟨?_, induction (issued + 1)⟩
      intro again
      obtain ⟨flight, member, same⟩ := List.mem_map.mp again
      exact Nat.ne_of_gt (number_of_mem_departures member).1 same

namespace Timeline

/-- The polls that end in a script, in order. -/
def landings (source : Nat → Poll α) (timeline : Timeline α) :
    List (Control × ClockStep) → List (Flight α)
  | [] => []
  | (control, clock) :: rest =>
    (timeline.control control).dueIn source clock ++
      (timeline.step source control clock).1.landings source rest

theorem comparable_clockEvents (timeline : Timeline α) (clock : ClockStep) :
    (timeline.clockEvents source clock).filterMap PollEvent.comparable? =
      (timeline.dueIn source clock).filterMap fun flight => flight.event.comparable? := by
  have ticks : ((timeline.startsIn clock).map fun _ => (.tick : PollEvent α)).filterMap
      PollEvent.comparable? = [] := by
    simp [PollEvent.comparable?]
  rw [clockEvents, List.filterMap_append, ticks, List.filterMap_map]
  rfl

/-- The polls on their way are in the order in which they will resolve, and neither one of
them nor a tick is overdue. -/
structure Underway (timeline : Timeline α) : Prop where
  ordered : timeline.flights.Pairwise Flight.Before
  issued : ∀ flight ∈ timeline.flights, flight.number ≤ timeline.poller.issued
  due : ∀ flight ∈ timeline.flights, timeline.now < flight.due
  ahead : timeline.timer.Ahead timeline.now

theorem Underway.start (period : Nat) (order : DeliveryOrder) :
    Underway (Timeline.start period order : Timeline α) := by
  refine ⟨.nil, nofun, nofun, ?_⟩
  simp only [Timeline.start, TimerState.ofPeriod]
  split <;> trivial

@[simp] theorem now_control (timeline : Timeline α) (control : Control) :
    (timeline.control control).now = timeline.now := by
  cases control <;> rfl

@[simp] theorem flights_control (timeline : Timeline α) (control : Control) :
    (timeline.control control).flights = timeline.flights := by
  cases control <;> rfl

@[simp] theorem issued_control (timeline : Timeline α) (control : Control) :
    (timeline.control control).poller.issued = timeline.poller.issued := by
  cases control <;> rfl

theorem perm_issue (source : Nat → Poll α) (timeline : Timeline α) (time : Nat) :
    (timeline.issue source time).flights.Perm
      (departure source timeline.poller.issued time :: timeline.flights) :=
  Flight.perm_insert _ _

theorem perm_issues (timeline : Timeline α) (times : List Nat) :
    (times.foldl (issue source) timeline).flights.Perm
        (timeline.flights ++ departures source timeline.poller.issued times) ∧
      (times.foldl (issue source) timeline).poller.issued =
        timeline.poller.issued + times.length := by
  induction times generalizing timeline with
  | nil => simp [departures]
  | cons time rest induction =>
      obtain ⟨same, issued⟩ := induction (timeline.issue source time)
      refine ⟨same.trans ?_, ?_⟩
      · have inserted := (timeline.perm_issue source time).append_right
          (departures source (timeline.poller.issued + 1) rest)
        exact inserted.trans List.perm_middle.symm
      · rw [List.foldl_cons, issued, List.length_cons]
        have next : (timeline.issue source time).poller.issued =
            timeline.poller.issued + 1 := rfl
        omega

theorem ordered_issues {timeline : Timeline α}
    (ordered : timeline.flights.Pairwise Flight.Before)
    (issued : ∀ flight ∈ timeline.flights, flight.number ≤ timeline.poller.issued)
    (times : List Nat) :
    (times.foldl (issue source) timeline).flights.Pairwise Flight.Before := by
  induction times generalizing timeline with
  | nil => exact ordered
  | cons time rest induction =>
      apply induction
      · apply Flight.before_insert ordered
        intro other member
        exact Nat.lt_succ_of_le (issued other member)
      · intro flight member
        rcases List.mem_cons.mp ((timeline.perm_issue source time).mem_iff.mp member) with new | old
        · exact Nat.le_of_eq (congrArg Flight.number new)
        · exact Nat.le_succ_of_le (issued flight old)

theorem perm_afterStarts (source : Nat → Poll α) (timeline : Timeline α)
    (clock : ClockStep) :
    (timeline.dueIn source clock ++ (timeline.advance source clock).1.flights).Perm
        (timeline.flights ++
          departures source timeline.poller.issued (timeline.startsIn clock)) ∧
      (timeline.advance source clock).1.poller.issued =
        timeline.poller.issued + (timeline.startsIn clock).length := by
  let timed := { timeline with timer := (timeline.timer.move timeline.now clock).2 }
  rw [← flights_afterStarts, issued_advance]
  exact timed.perm_issues (timeline.startsIn clock)

theorem due_of_mem_dueIn {timeline : Timeline α} {clock : ClockStep} {flight : Flight α}
    (member : flight ∈ timeline.dueIn source clock) :
    flight.due ≤ timeline.now + clock.length := by
  simpa using List.mem_takeWhile_imp member

theorem now_advance (timeline : Timeline α) (clock : ClockStep) :
    (timeline.advance source clock).1.now = timeline.now + clock.length := by
  cases clock <;> rfl

namespace Underway

variable {timeline : Timeline α}

theorem control (underway : Underway timeline) (control : Control) :
    Underway (timeline.control control) := by
  cases control with
  | keep => exact underway
  | cancel => exact ⟨underway.ordered, underway.issued, underway.due, trivial⟩
  | drop => exact ⟨underway.ordered, underway.issued, underway.due, trivial⟩

theorem ordered_afterStarts (source : Nat → Poll α) (underway : Underway timeline)
    (clock : ClockStep) :
    (timeline.dueIn source clock ++
      (timeline.advance source clock).1.flights).Pairwise Flight.Before := by
  let timed := { timeline with timer := (timeline.timer.move timeline.now clock).2 }
  have ordered : timed.flights.Pairwise Flight.Before := underway.ordered
  rw [← flights_afterStarts]
  exact ordered_issues ordered underway.issued (timeline.startsIn clock)

theorem number_afterStarts (underway : Underway timeline) (clock : ClockStep) :
    ∀ flight ∈ timeline.dueIn source clock ++ (timeline.advance source clock).1.flights,
      flight.number ≤ (timeline.advance source clock).1.poller.issued := by
  obtain ⟨same, issued⟩ := perm_afterStarts source timeline clock
  intro flight member
  rw [issued]
  rcases List.mem_append.mp (same.mem_iff.mp member) with old | new
  · exact Nat.le_add_right_of_le (underway.issued flight old)
  · exact (number_of_mem_departures new).2

theorem advance (underway : Underway timeline) (clock : ClockStep) :
    Underway (timeline.advance source clock).1 := by
  have ordered := underway.ordered_afterStarts source clock
  refine ⟨(List.pairwise_append.mp ordered).2.1, ?_, ?_, ?_⟩
  · intro flight member
    exact underway.number_afterStarts clock flight (List.mem_append_right _ member)
  · intro flight member
    rw [now_advance]
    rw [← flights_afterStarts] at ordered
    apply Flight.lt_due_of_mem_dropWhile ordered
    cases clock <;> exact member
  · rw [timer_advance, now_advance]
    exact TimerState.Ahead.move timeline.now clock

theorem step (underway : Underway timeline) (control : Control) (clock : ClockStep) :
    Underway (timeline.step source control clock).1 :=
  (underway.control control).advance clock

theorem run (underway : Underway timeline) (script : List (Control × ClockStep)) :
    Underway (timeline.run source script).1 := by
  induction script generalizing timeline with
  | nil => exact underway
  | cons entry rest induction => exact induction (underway.step entry.1 entry.2)

theorem le_of_mem_starts (underway : Underway timeline) {script : List (Control × ClockStep)} :
    ∀ time ∈ timeline.starts source script, timeline.now ≤ time := by
  induction script generalizing timeline with
  | nil => nofun
  | cons entry rest induction =>
      obtain ⟨control, clock⟩ := entry
      have held := underway.control control
      intro time member
      rcases List.mem_append.mp member with first | later
      · have bound := held.ahead.le_of_mem first
        rwa [now_control] at bound
      · have bound := induction (held.advance clock) time later
        rw [now_advance, now_control] at bound
        exact Nat.le_of_add_right_le bound

end Underway

theorem now_step (timeline : Timeline α) (control : Control) (clock : ClockStep) :
    (timeline.step source control clock).1.now = timeline.now + clock.length := by
  rw [step, now_advance, now_control]

theorem now_run (timeline : Timeline α) (script : List (Control × ClockStep)) :
    (timeline.run source script).1.now = timeline.now + elapsed script := by
  induction script generalizing timeline with
  | nil => rfl
  | cons entry rest induction =>
      obtain ⟨control, clock⟩ := entry
      rw [run, induction, now_step, elapsed, Nat.add_assoc]

theorem perm_landings (timeline : Timeline α) (script : List (Control × ClockStep)) :
    (timeline.landings source script ++ (timeline.run source script).1.flights).Perm
      (timeline.flights ++
        departures source timeline.poller.issued (timeline.starts source script)) := by
  induction script generalizing timeline with
  | nil => exact List.perm_append_comm
  | cons entry rest induction =>
      obtain ⟨control, clock⟩ := entry
      let held := timeline.control control
      let next := (held.advance source clock).1
      obtain ⟨same, issued⟩ := perm_afterStarts source held clock
      have starts : departures source held.poller.issued
          (held.startsIn clock ++ next.starts source rest) =
            departures source held.poller.issued (held.startsIn clock) ++
              departures source next.poller.issued (next.starts source rest) := by
        rw [departures_append, ← issued]
      have restLand := (induction next).append_left (held.dueIn source clock)
      have landed : ((held.dueIn source clock ++ next.landings source rest) ++
          (next.run source rest).1.flights).Perm
            (held.flights ++ departures source held.poller.issued
              (held.startsIn clock ++ next.starts source rest)) := by
        rw [starts, List.append_assoc, ← List.append_assoc held.flights]
        apply restLand.trans
        rw [← List.append_assoc]
        exact same.append_right _
      rwa [flights_control, issued_control] at landed

theorem due_of_mem_landings {timeline : Timeline α} {script : List (Control × ClockStep)}
    {flight : Flight α} (member : flight ∈ timeline.landings source script) :
    flight.due ≤ timeline.now + elapsed script := by
  induction script generalizing timeline with
  | nil => contradiction
  | cons entry rest induction =>
      obtain ⟨control, clock⟩ := entry
      rw [elapsed]
      rcases List.mem_append.mp member with first | later
      · have bound := due_of_mem_dueIn first
        rw [now_control] at bound
        omega
      · have bound := induction later
        rw [now_step] at bound
        omega

/-- By induction on the script: polls that are started later are due no earlier than the
step before ends, and have greater numbers. -/
theorem Underway.ordered_landings {timeline : Timeline α} (underway : Underway timeline)
    (script : List (Control × ClockStep)) :
    (timeline.landings source script ++
      (timeline.run source script).1.flights).Pairwise Flight.Before := by
  induction script generalizing timeline with
  | nil => exact underway.ordered
  | cons entry rest induction =>
      obtain ⟨control, clock⟩ := entry
      let next := (timeline.step source control clock).1
      have held := underway.control control
      have advanced : Underway next := held.advance clock
      have started := held.ordered_afterStarts source clock
      obtain ⟨dueOrdered, -, dueFirst⟩ := List.pairwise_append.mp started
      have ordered : ((timeline.control control).dueIn source clock ++
          (next.landings source rest ++ (next.run source rest).1.flights)).Pairwise
            Flight.Before := by
        refine List.pairwise_append.mpr ⟨dueOrdered, induction advanced, ?_⟩
        intro first due later member
        rcases List.mem_append.mp ((next.perm_landings rest).mem_iff.mp member) with
          underWay | startedLater
        · exact dueFirst first due later underWay
        · have firstDue := due_of_mem_dueIn due
          have laterDue := due_of_mem_departures advanced.le_of_mem_starts startedLater
          have nextNow : next.now = (timeline.control control).now + clock.length :=
            now_advance _ clock
          have firstNumber := held.number_afterStarts clock first (List.mem_append_left _ due)
          have laterNumber := (number_of_mem_departures startedLater).1
          have sameCount : next.poller.issued =
            ((timeline.control control).advance source clock).1.poller.issued := rfl
          unfold Flight.Before
          omega
      rwa [← List.append_assoc] at ordered

/-- The polls that end in a script are those that are due by its end, in order. -/
theorem landings_start (period : Nat) (order : DeliveryOrder)
    (script : List (Control × ClockStep)) :
    (Timeline.start period order).landings source script =
      arrivals (elapsed script)
        (departures source 0 ((Timeline.start period order).starts source script)) := by
  let opened : Timeline α := Timeline.start period order
  have underway : Underway opened := .start period order
  have opening : opened.now + elapsed script = elapsed script := Nat.zero_add _
  apply eq_arrivals (nodup_departures _ _) (opened.perm_landings script).symm
  · exact (List.pairwise_append.mp (underway.ordered_landings script)).1
  · intro flight member
    rw [← opening]
    exact due_of_mem_landings member
  · intro flight member
    have late := (underway.run script).due flight member
    rwa [now_run, opening] at late

theorem comparable_events (timeline : Timeline α) (script : List (Control × ClockStep)) :
    (timeline.events source script).filterMap PollEvent.comparable? =
      (timeline.landings source script).filterMap fun flight => flight.event.comparable? := by
  induction script generalizing timeline with
  | nil => rfl
  | cons entry rest induction =>
      obtain ⟨control, clock⟩ := entry
      have controlled : (control.events : List (PollEvent α)).filterMap
          PollEvent.comparable? = [] := by
        cases control <;> rfl
      rw [events, List.filterMap_append, List.filterMap_append, controlled,
        comparable_clockEvents, induction, List.nil_append, ← List.filterMap_append]
      rfl

theorem resolvedInTime_events (timeline : Timeline α) {script : List (Control × ClockStep)}
    (kept : ∀ entry ∈ script, entry.1 = .keep) :
    resolvedInTime (timeline.events source script) =
      (timeline.landings source script).filterMap fun flight => flight.event.comparable? := by
  have uncancelled : ∀ event ∈ timeline.events source script, event.isCancel = false :=
    timeline.uncancelled_events kept
  rw [resolvedInTime, List.takeWhile_eq_self_iff.mpr, comparable_events]
  intro event member
  simpa using uncancelled event member

/-- Nothing comes of what a script does once the owner has ended the poller. -/
theorem run_whileKept (timeline : Timeline α) (script : List (Control × ClockStep)) :
    (timeline.run source (whileKept script)).2 = (timeline.run source script).2 := by
  have parts : whileKept script ++ script.dropWhile (·.1 = .keep) = script :=
    List.takeWhile_append_dropWhile
  cases ending : script.dropWhile (·.1 = .keep) with
  | nil =>
      rw [ending, List.append_nil] at parts
      rw [parts]
  | cons entry later =>
      obtain ⟨control, clock⟩ := entry
      have ends : control ≠ .keep := by
        have first := List.head?_dropWhile_not (fun entry : Control × ClockStep =>
          decide (entry.1 = .keep)) script
        rw [ending] at first
        simpa using first
      rw [ending] at parts
      conv_rhs => rw [← parts]
      exact (timeline.cutOff_control ends clock (whileKept script) later).nothingMore.symm

/-- What a poller hands on are the changes among the values of the polls that are due
before its owner ends it, in the order in which they are due. -/
theorem handed_start (period : Nat) (script : List (Control × ClockStep)) :
    ((Timeline.start period .resolution).run source script).2.map Prod.snd =
      changes none ((arrivals (elapsed (whileKept script)) (departures source 0
        ((Timeline.start period .resolution).starts source (whileKept script)))).filterMap
          fun flight => flight.event.comparable?) := by
  let opened : Timeline α := Timeline.start period .resolution
  have values : (opened.poller.run (opened.events source (whileKept script))).2 =
      (opened.run source (whileKept script)).2.map Prod.snd :=
    congrArg Prod.snd (Timeline.run_of_script source opened (whileKept script))
  rw [← run_whileKept, ← values, Poller.handed_eq_changes rfl rfl,
    resolvedInTime_events _ kept_of_mem_whileKept, landings_start]
  rfl

end Timeline

end TimedRelease
