import TimedRelease.Proofs.Editor.Change

/-!
# The entries of the two modes

Every edit works on the entry of one mode, unless it switches the mode or takes over a
release from outside.  What it makes of that entry and what it gives back depend on the
entry alone, and the entry of the other mode stays as it is.  So the edits of one mode
do not notice in a run what is edited in the other, and neither has a say in the mode.
-/

namespace TimedRelease

/-- What is shown in a mode. -/
def Mode.Entry : Mode → Type
  | .time => TimeEntry
  | .block => BlockEntry

namespace Edit

/-- The mode whose entry an edit works on. -/
def entryMode? : Edit → Option Mode
  | .selectTime _ _ => some .time
  | .editEcho _ _ => some .time
  | .commitEcho _ => some .time
  | .toggleFineTune => some .time
  | .editBlock _ => some .block
  | .setFloor _ => some .block
  | .setMode _ => none
  | .applyExternal _ => none

/-- The edit works on the entry of this mode. -/
def worksOn (mode : Mode) (edit : Edit) : Bool :=
  edit.entryMode? == some mode

/-- The mode that an edit switches to. -/
def newMode? : Edit → Option Mode
  | .setMode mode => some mode
  | _ => none

/-- The edit takes over a release from outside. -/
def isExternal : Edit → Bool
  | .applyExternal _ => true
  | _ => false

end Edit

/-- What an edit gives back, as it reads: of a release only the condition, since its stamp
counts the releases of both modes. -/
inductive EditReport where
  | done
  | accepted (condition : Condition)
  | refused (error : EditError)
  | fineTune (isOpen : Bool)
  | applied (changed : Bool)
  deriving DecidableEq, Repr

/-- A result as it reads. -/
def EditResult.report : EditResult → EditReport
  | .done => .done
  | .accepted release => .accepted release.condition
  | .refused error => .refused error
  | .fineTune isOpen => .fineTune isOpen
  | .applied changed => .applied changed

namespace Editor

/-- The entry of a mode. -/
def entry (editor : Editor) : (mode : Mode) → mode.Entry
  | .time => editor.time
  | .block => editor.block

/-- What the edits of a mode give back in a run, one after the other. -/
def reports (editor : Editor) (mode : Mode) (edits : List Edit) : List EditReport :=
  ((edits.zip (editor.results edits)).filter fun (edit, _) => edit.worksOn mode).map
    fun (_, result) => result.report

/-- The last mode that edits switch to. -/
def lastMode? (edits : List Edit) : Option Mode :=
  (edits.filterMap Edit.newMode?).getLast?

/-! ## One edit -/

section

variable {mode : Mode} {editor other : Editor} {edit : Edit}

theorem entry_step_of_not_worksOn (editor : Editor) (inside : edit.isExternal = false)
    (elsewhere : edit.worksOn mode = false) :
    (editor.step edit).1.entry mode = editor.entry mode := by
  have change := change_step editor edit
  generalize (editor.step edit).1 = next at change ⊢
  generalize (editor.step edit).2 = result at change
  cases mode with
  | time =>
      cases change with
      | setMode | blockAccepted | blockRefused | blockUnread | setFloor => rfl
      | adopted | inEffect => cases inside
      | _ => cases elsewhere
  | block =>
      cases change with
      | blockAccepted | blockRefused | blockUnread | setFloor => cases elsewhere
      | adopted | inEffect => cases inside
      | _ => rfl

theorem mode_step (editor : Editor) (inside : edit.isExternal = false) :
    (editor.step edit).1.mode = edit.newMode?.getD editor.mode := by
  have change := change_step editor edit
  generalize (editor.step edit).1 = next at change ⊢
  generalize (editor.step edit).2 = result at change
  cases change with
  | adopted | inEffect => cases inside
  | _ => rfl

theorem step_selectTime_congr (same : editor.time = other.time) (now seconds : UInt64) :
    (editor.step (.selectTime now seconds)).1.time =
        (other.step (.selectTime now seconds)).1.time ∧
      (editor.step (.selectTime now seconds)).2.report =
        (other.step (.selectTime now seconds)).2.report := by
  by_cases past : seconds ≤ now
  · simp [step, selectTime_of_past _ past, showTime, same]
  · have later : now < seconds := UInt64.not_le.mp past
    simp [step, selectTime_of_later _ later, accept, showTime, same, nextRelease,
      EditResult.report]

theorem step_time_congr (same : editor.time = other.time) (works : edit.worksOn .time = true) :
    (editor.step edit).1.time = (other.step edit).1.time ∧
      (editor.step edit).2.report = (other.step edit).2.report := by
  cases edit with
  | selectTime now seconds => exact step_selectTime_congr same now seconds
  | editEcho now text => simp [step, editEcho, same]
  | commitEcho now =>
      cases read : readSeconds other.time.echo with
      | error fault => simp [step, commitEcho, same, read]
      | ok seconds =>
          simpa [step, commitEcho, same, read] using step_selectTime_congr same now seconds
  | toggleFineTune => simp [step, toggleFineTune, same]
  | _ => cases works

theorem step_block_congr (same : editor.block = other.block)
    (works : edit.worksOn .block = true) :
    (editor.step edit).1.block = (other.step edit).1.block ∧
      (editor.step edit).2.report = (other.step edit).2.report := by
  cases edit with
  | editBlock text =>
      cases read : readBlock? text with
      | none => simp [step, editBlock_of_unread _ read, showBlock, same]
      | some number =>
          by_cases below : number ≤ other.block.floor
          · have alsoBelow : number ≤ editor.block.floor := same ▸ below
            simp [step, editBlock_of_below _ read below, editBlock_of_below _ read alsoBelow,
              showBlock, same]
          · have above : other.block.floor < number := UInt64.not_le.mp below
            have alsoAbove : editor.block.floor < number := same ▸ above
            simp [step, editBlock_of_above _ read above, editBlock_of_above _ read alsoAbove,
              accept, showBlock, same, nextRelease, EditResult.report]
  | setFloor floor => simp [step, setFloor, same]
  | _ => cases works

/-- An edit makes the same of the same entry and gives back the same, whatever is shown in
the other mode. -/
theorem step_congr (same : editor.entry mode = other.entry mode)
    (works : edit.worksOn mode = true) :
    (editor.step edit).1.entry mode = (other.step edit).1.entry mode ∧
      (editor.step edit).2.report = (other.step edit).2.report := by
  cases mode with
  | time => exact step_time_congr same works
  | block => exact step_block_congr same works

end

/-! ## Runs -/

@[simp] theorem reports_nil (editor : Editor) (mode : Mode) : editor.reports mode [] = [] := rfl

theorem reports_cons (editor : Editor) (mode : Mode) (edit : Edit) (rest : List Edit) :
    editor.reports mode (edit :: rest) =
      if edit.worksOn mode then
        (editor.step edit).2.report :: (editor.step edit).1.reports mode rest
      else (editor.step edit).1.reports mode rest := by
  simp only [reports, results, List.zip_cons_cons, List.filter_cons]
  split <;> rfl

/-- A run comes to the same in a mode as the run of the edits of that mode alone. -/
theorem run_filter {mode : Mode} (editor : Editor) {other : Editor} {edits : List Edit}
    (inside : ∀ edit ∈ edits, edit.isExternal = false)
    (same : editor.entry mode = other.entry mode) :
    (editor.run edits).entry mode = (other.run (edits.filter (·.worksOn mode))).entry mode ∧
      editor.reports mode edits = other.reports mode (edits.filter (·.worksOn mode)) := by
  -- The two editors drift apart in all but the entry of this mode, so that they are two.
  induction edits generalizing editor other with
  | nil => exact ⟨same, rfl⟩
  | cons edit rest induction =>
      obtain ⟨editInside, restInside⟩ := List.forall_mem_cons.mp inside
      rw [run_cons, reports_cons]
      by_cases works : edit.worksOn mode = true
      · obtain ⟨entry, report⟩ := step_congr same works
        obtain ⟨entries, reports⟩ := induction _ restInside entry
        rw [List.filter_cons_of_pos works, run_cons, reports_cons, if_pos works, if_pos works]
        exact ⟨entries, by rw [report, reports]⟩
      · have elsewhere : edit.worksOn mode = false := Bool.eq_false_iff.mpr works
        have kept := editor.entry_step_of_not_worksOn editInside elsewhere
        rw [List.filter_cons_of_neg works, if_neg works]
        exact induction _ restInside (kept.trans same)

theorem run_congr_of_filter_eq (editor : Editor) {mode : Mode} {first second : List Edit}
    (firstInside : ∀ edit ∈ first, edit.isExternal = false)
    (secondInside : ∀ edit ∈ second, edit.isExternal = false)
    (same : first.filter (·.worksOn mode) = second.filter (·.worksOn mode)) :
    (editor.run first).entry mode = (editor.run second).entry mode ∧
      editor.reports mode first = editor.reports mode second := by
  have unchanged : editor.entry mode = editor.entry mode := rfl
  obtain ⟨firstEntry, firstReports⟩ := editor.run_filter firstInside unchanged
  obtain ⟨secondEntry, secondReports⟩ := editor.run_filter secondInside unchanged
  rw [firstEntry, secondEntry, firstReports, secondReports, same]
  exact ⟨rfl, rfl⟩

theorem mode_run (editor : Editor) {edits : List Edit}
    (inside : ∀ edit ∈ edits, edit.isExternal = false) :
    (editor.run edits).mode = (lastMode? edits).getD editor.mode := by
  induction edits generalizing editor with
  | nil => rfl
  | cons edit rest induction =>
      obtain ⟨editInside, restInside⟩ := List.forall_mem_cons.mp inside
      rw [run_cons, induction _ restInside, editor.mode_step editInside, lastMode?, lastMode?,
        List.filterMap_cons]
      cases edit.newMode? with
      | none => rfl
      | some mode =>
          rw [List.getLast?_cons]
          rfl

/-- The two modes do not interfere.  Of two runs without releases from outside, those with
the same edits of the time end with the same target, text, error mark and open field, and
each of these edits gives back the same; those with the same edits of the block end with
the same text, number and floor, and each of these gives back the same; and the mode is the
last one switched to. -/
theorem modes_do_not_interfere (editor : Editor) {first second : List Edit}
    (firstInside : ∀ edit ∈ first, edit.isExternal = false)
    (secondInside : ∀ edit ∈ second, edit.isExternal = false) :
    (first.filter (·.worksOn .time) = second.filter (·.worksOn .time) →
      (editor.run first).time = (editor.run second).time ∧
        editor.reports .time first = editor.reports .time second) ∧
    (first.filter (·.worksOn .block) = second.filter (·.worksOn .block) →
      (editor.run first).block = (editor.run second).block ∧
        editor.reports .block first = editor.reports .block second) ∧
    (editor.run first).mode = (lastMode? first).getD editor.mode := by
  refine ⟨?_, ?_, editor.mode_run firstInside⟩
  · intro sameTimes
    exact editor.run_congr_of_filter_eq firstInside secondInside sameTimes
  · intro sameBlocks
    exact editor.run_congr_of_filter_eq firstInside secondInside sameBlocks

/-- A time is refused and then typed anew while a block is accepted, and refused once the
floor has moved; done one mode after the other it comes to the same. -/
theorem mixed_edits_sorted_by_mode :
    let editor := start 1700000000 100 defaultDelay
    let times : List Edit := [.selectTime 1700000100 1700000050, .toggleFineTune,
      .editEcho 1700000200 "1800000000", .commitEcho 1700000300]
    let blocks : List Edit := [.editBlock "150", .setFloor 150, .editBlock "0x96"]
    let mixed : List Edit := [.setMode .block, .editBlock "150",
      .selectTime 1700000100 1700000050, .setFloor 150, .toggleFineTune,
      .editEcho 1700000200 "1800000000", .editBlock "0x96", .commitEcho 1700000300]
    (∀ edit ∈ mixed, edit.isExternal = false) ∧
      (∀ edit ∈ times ++ blocks, edit.isExternal = false) ∧
      (editor.run mixed).time = (editor.run (times ++ blocks)).time ∧
      editor.reports .time mixed = editor.reports .time (times ++ blocks) ∧
      (editor.run mixed).block = (editor.run (times ++ blocks)).block ∧
      editor.reports .block mixed = editor.reports .block (times ++ blocks) ∧
      (editor.run mixed).mode = .block := by
  intro editor times blocks mixed
  have mixedInside : ∀ edit ∈ mixed, edit.isExternal = false := by decide
  have sortedInside : ∀ edit ∈ times ++ blocks, edit.isExternal = false := by decide
  obtain ⟨time, block, mode⟩ := modes_do_not_interfere editor mixedInside sortedInside
  obtain ⟨sameTime, timeReports⟩ := time rfl
  obtain ⟨sameBlock, blockReports⟩ := block rfl
  exact ⟨mixedInside, sortedInside, sameTime, timeReports, sameBlock, blockReports, mode⟩

end Editor

end TimedRelease
