import TimedRelease.Proofs.Editor.Change

/-!
# What the summary announces

The summary speaks of what the active mode shows, and scheduling submits the
release in effect.  The two are kept apart: a switch of mode shows the values of
the other mode, and a refused edit is shown although it takes no effect.  The
entries of a run record what was shown last in each mode and whether it took
effect, which decides whether the summary speaks of the release in effect.
-/

namespace TimedRelease

/-- The mode in which a condition is shown. -/
def Condition.mode : Condition → Mode
  | .time _ => .time
  | .block _ => .block

/-- The condition lies ahead: a time later than the clock, or a block above the floor. -/
def Condition.isAhead (now floor : UInt64) : Condition → Bool
  | .time seconds => now < seconds
  | .block number => floor < number

/-- What an edit leaves in the display of a mode. -/
inductive Entry where
  /-- A condition that took effect. -/
  | effective (condition : Condition)
  /-- A condition that was refused. -/
  | refused (condition : Condition)
  /-- A block text that gives no number. -/
  | unread
  deriving DecidableEq, Repr

namespace Entry

/-- The mode whose display the entry stands in. -/
def mode : Entry → Mode
  | .effective condition => condition.mode
  | .refused condition => condition.mode
  | .unread => .block

/-- The condition that is shown. -/
def condition? : Entry → Option Condition
  | .effective condition => some condition
  | .refused condition => some condition
  | .unread => none

/-- The entry of an edit with its result; edits that show no condition have none. -/
def ofEdit? : Edit → EditResult → Option Entry
  | _, .accepted release => some (.effective release.condition)
  | _, .refused (.timeNotInFuture seconds _) => some (.refused (.time seconds))
  | _, .refused (.blockNotAboveFloor number _) => some (.refused (.block number))
  | .editBlock _, .refused (.invalidInput _) => some .unread
  | .applyExternal release, .applied true => some (.effective release.condition)
  | _, _ => none

/-- The last entry that stands in the display of a mode. -/
def last? (mode : Mode) (entries : List Entry) : Option Entry :=
  entries.reverse.find? (·.mode = mode)

theorem last?_append_singleton (mode : Mode) (entries : List Entry) (entry : Entry) :
    last? mode (entries ++ [entry]) =
      if entry.mode = mode then some entry else last? mode entries := by
  by_cases same : entry.mode = mode
  · simp [last?, same]
  · simp [last?, same]

end Entry

namespace Editor

/-- The condition shown in a mode, valid or not. -/
def shown? (editor : Editor) : Mode → Option Condition
  | .time => some (.time editor.time.target)
  | .block => editor.block.parsed.map .block

theorem shown?_showTime (editor : Editor) (seconds : UInt64) (mode : Mode) :
    (editor.showTime seconds).shown? mode =
      if Mode.time = mode then some (.time seconds) else editor.shown? mode := by
  cases mode <;> rfl

theorem shown?_showBlock (editor : Editor) {text : String} {number? : Option UInt64}
    (read : readBlock? text = number?) (mode : Mode) :
    (editor.showBlock text).shown? mode =
      if Mode.block = mode then number?.map .block else editor.shown? mode := by
  cases mode with
  | time => rfl
  | block => simp [showBlock, shown?, read]

theorem shown?_showCondition (editor : Editor) (condition : Condition) (mode : Mode) :
    (editor.showCondition condition).shown? mode =
      if condition.mode = mode then some condition else editor.shown? mode := by
  cases condition <;> cases mode <;> rfl

/-- The entries of a run, in order. -/
def entries (editor : Editor) : List Edit → List Entry
  | [] => []
  | edit :: rest =>
    (Entry.ofEdit? edit (editor.step edit).2).toList ++ (editor.step edit).1.entries rest

/-- The entries since the editor was opened, which shows its first condition. -/
def history (clock floor delay : UInt64) (edits : List Edit) : List Entry :=
  let opened := start clock floor delay
  .effective opened.current.condition :: opened.entries edits

/-- The entries account for what is shown, and for the release in effect as far
as it is the last entry of its mode. -/
structure Recorded (entries : List Entry) (editor : Editor) : Prop where
  shown : ∀ mode,
    editor.shown? mode = (Entry.last? mode entries).bind Entry.condition?
  inEffect : ∀ condition,
    Entry.last? editor.current.condition.mode entries = some (.effective condition) →
      condition = editor.current.condition

namespace Recorded

variable {entries : List Entry} {editor next : Editor}

theorem start (clock floor delay : UInt64) :
    Recorded [.effective (start clock floor delay).current.condition]
      (start clock floor delay) := by
  constructor
  · intro mode
    cases mode <;> rfl
  · intro condition last
    simpa [Entry.last?, Editor.start, Entry.mode, Condition.mode] using last.symm

theorem keep (recorded : Recorded entries editor)
    (sameShown : next.shown? = editor.shown?)
    (sameCurrent : next.current = editor.current) : Recorded (entries ++ []) next := by
  rw [List.append_nil]
  constructor
  · intro mode
    rw [sameShown]
    exact recorded.shown mode
  · rw [sameCurrent]
    exact recorded.inEffect

/-- What is shown after an entry: the entry in its mode, and the rest as before. -/
theorem shown_append (recorded : Recorded entries editor) {entry : Entry}
    (shown : ∀ mode, next.shown? mode =
      if entry.mode = mode then entry.condition? else editor.shown? mode)
    (mode : Mode) :
    next.shown? mode =
      (Entry.last? mode (entries ++ [entry])).bind Entry.condition? := by
  rw [shown mode, Entry.last?_append_singleton]
  split
  · rfl
  · exact recorded.shown mode

theorem effective (recorded : Recorded entries editor) {condition : Condition}
    (shown : ∀ mode, next.shown? mode =
      if condition.mode = mode then some condition else editor.shown? mode)
    (current : next.current.condition = condition) :
    Recorded (entries ++ [.effective condition]) next := by
  constructor
  · exact recorded.shown_append shown
  · intro other last
    rw [current, Entry.last?_append_singleton, if_pos (by rfl)] at last
    rw [current]
    injection last with same
    injection same with same
    exact same.symm

/-- An entry without effect hides what took effect before in its mode. -/
theorem ineffective (recorded : Recorded entries editor) {entry : Entry}
    (shown : ∀ mode, next.shown? mode =
      if entry.mode = mode then entry.condition? else editor.shown? mode)
    (current : next.current = editor.current)
    (refused : ∀ condition, entry ≠ .effective condition) :
    Recorded (entries ++ [entry]) next := by
  constructor
  · exact recorded.shown_append shown
  · intro condition last
    rw [current, Entry.last?_append_singleton] at last
    rw [current]
    split at last
    · injection last with same
      exact (refused condition same).elim
    · exact recorded.inEffect condition last

theorem change (recorded : Recorded entries editor) {edit : Edit}
    {result : EditResult} (change : Change editor edit result next) :
    Recorded (entries ++ (Entry.ofEdit? edit result).toList) next := by
  cases change with
  | setMode mode => exact recorded.keep rfl rfl
  | timeAccepted later =>
      exact recorded.effective (shown?_showTime editor _) rfl
  | timeRefused past =>
      exact recorded.ineffective (shown?_showTime editor _) rfl nofun
  | editEcho now text => exact recorded.keep rfl rfl
  | echoAccepted read later =>
      exact recorded.effective (shown?_showTime editor _) rfl
  | echoRefused read past =>
      exact recorded.ineffective (shown?_showTime editor _) rfl nofun
  | echoUnread unread => exact recorded.keep rfl rfl
  | toggleFineTune => exact recorded.keep rfl rfl
  | blockAccepted read above =>
      have shown := shown?_showBlock editor read
      exact recorded.effective shown rfl
  | blockRefused read below =>
      have shown := shown?_showBlock editor read
      exact recorded.ineffective shown rfl nofun
  | blockUnread unread =>
      have shown := shown?_showBlock editor unread
      exact recorded.ineffective shown rfl nofun
  | setFloor floor => exact recorded.keep rfl rfl
  | adopted other =>
      exact recorded.effective (shown?_showCondition editor _) rfl
  | inEffect => exact recorded.keep rfl rfl

/-- By induction on the edits, with the entries so far generalized. -/
theorem run (recorded : Recorded entries editor) (edits : List Edit) :
    Recorded (entries ++ editor.entries edits) (editor.run edits) := by
  induction edits generalizing entries editor with
  | nil => simpa [Editor.entries] using recorded
  | cons edit rest induction =>
      have stepped := recorded.change (change_step editor edit)
      have finished := induction stepped
      simpa [Editor.entries] using finished

/-- What a mode shows is its last entry, which took effect or was refused. -/
theorem last_of_shown (recorded : Recorded entries editor) {mode : Mode}
    {condition : Condition} (shown : editor.shown? mode = some condition) :
    Entry.last? mode entries = some (.effective condition) ∨
      Entry.last? mode entries = some (.refused condition) := by
  rw [recorded.shown] at shown
  obtain ⟨entry, isLast, same⟩ := Option.bind_eq_some_iff.mp shown
  cases entry with
  | effective other =>
      injection same with same
      rw [same] at isLast
      exact .inl isLast
  | refused other =>
      injection same with same
      rw [same] at isLast
      exact .inr isLast
  | unread => contradiction

end Recorded

theorem recorded_history (clock floor delay : UInt64) (edits : List Edit) :
    Recorded (history clock floor delay edits)
      ((start clock floor delay).run edits) :=
  (Recorded.start clock floor delay).run edits

/-- The summary announces what is shown in the active mode, if that lies ahead. -/
theorem announced?_eq (editor : Editor) (now : UInt64) :
    editor.announced? now =
      (editor.shown? editor.mode).filter (·.isAhead now editor.block.floor) := by
  cases mode : editor.mode with
  | time => simp [announced?, mode, shown?, Option.filter, Condition.isAhead]
  | block =>
      simp only [announced?, mode, shown?, BlockEntry.valid?]
      cases editor.block.parsed with
      | none => rfl
      | some number => by_cases above : editor.block.floor < number <;>
          simp [Option.filter, Condition.isAhead, above]

theorem shown?_of_announced {editor : Editor} {now : UInt64} {condition : Condition}
    (announced : editor.announced? now = some condition) :
    editor.shown? editor.mode = some condition := by
  rw [announced?_eq] at announced
  exact (Option.filter_eq_some_iff.mp announced).1

/-- A condition shown in a mode is one of that mode. -/
theorem mode_of_shown? {editor : Editor} {mode : Mode} {condition : Condition}
    (shown : editor.shown? mode = some condition) : condition.mode = mode := by
  cases mode with
  | time =>
      injection shown with same
      rw [← same]
      rfl
  | block =>
      obtain ⟨number, _, same⟩ := Option.map_eq_some_iff.mp shown
      rw [← same]
      rfl

/-- What the active mode shows is in effect exactly when it is its last entry that took
effect, in the mode of the release, or was refused although it is in effect. -/
theorem Recorded.eq_current_iff {entries : List Entry} {editor : Editor}
    {condition : Condition} (recorded : Recorded entries editor)
    (shown : editor.shown? editor.mode = some condition) :
    condition = editor.current.condition ↔
      editor.mode = editor.current.condition.mode ∧
        (Entry.last? editor.mode entries = some (.effective condition) ∨
          Entry.last? editor.mode entries = some (.refused editor.current.condition)) := by
  have entry := recorded.last_of_shown shown
  constructor
  · intro equality
    have mode := mode_of_shown? shown
    rw [equality] at mode entry ⊢
    exact ⟨mode.symm, entry⟩
  · rintro ⟨mode, effective | refused⟩
    · apply recorded.inEffect
      rw [← mode]
      exact effective
    · rcases entry with effective | announced
      · rw [effective] at refused
        cases refused
      · rw [announced] at refused
        injection refused with same
        injection same

/-- The sentence announces the last entry of the active mode.  It speaks of the release in
effect exactly when that release belongs to the mode and the entry took effect, or was
refused for the very condition in effect, which an earlier reading of the clock or an
earlier floor let pass. -/
theorem summary_announces_current_iff (clock floor delay : UInt64) (edits : List Edit)
    (now : UInt64) (sentence : String)
    (present : ((start clock floor delay).run edits).summary? now = some sentence) :
    let editor := (start clock floor delay).run edits
    let current := editor.current.condition
    let last := Entry.last? editor.mode (history clock floor delay edits)
    ∃ announced,
      editor.announced? now = some announced ∧ sentence = announcement announced ∧
        (last = some (.effective announced) ∨ last = some (.refused announced)) ∧
        (announced = current ↔
          editor.mode = current.mode ∧
            (last = some (.effective announced) ∨ last = some (.refused current))) := by
  intro editor current last
  obtain ⟨announced, isAnnounced, same⟩ := Option.map_eq_some_iff.mp present
  have recorded := recorded_history clock floor delay edits
  have shown := shown?_of_announced isAnnounced
  exact ⟨announced, isAnnounced, same.symm, recorded.last_of_shown shown,
    recorded.eq_current_iff shown⟩

/-- A block entered again under a higher floor is refused; once the floor is low again it is
announced, and is the one in effect.  After a switch of mode a time is announced that is not. -/
theorem summary_announces_until_switch :
    let edits := [.setMode .block, .editBlock "150", .setFloor 200, .editBlock "150",
      .setFloor 100]
    let editor := (start 1700000000 100 10800).run edits
    let switched := (start 1700000000 100 10800).run (edits ++ [.setMode .time])
    let numbered := "Your transaction will be propagated to the network at block #150."
    let dated := "Your transaction will be propagated to the network on " ++
      "Wed, Nov 15, 2023 1:13 AM UTC."
    (editor.summary? 1700000000 = some numbered ∧
      ∃ announced, numbered = announcement announced ∧
        announced = editor.current.condition) ∧
      switched.summary? 1700000000 = some dated ∧
        ∃ announced, dated = announcement announced ∧
          announced ≠ switched.current.condition := by
  intro edits editor switched numbered dated
  have present : editor.summary? 1700000000 = some numbered := by decide +kernel
  have presentThen : switched.summary? 1700000000 = some dated := by decide +kernel
  have mode : editor.mode = editor.current.condition.mode := by decide +kernel
  have refused : Entry.last? editor.mode (history 1700000000 100 10800 edits) =
      some (.refused editor.current.condition) := by decide +kernel
  have otherMode : switched.mode ≠ switched.current.condition.mode := by decide +kernel
  obtain ⟨announced, _, same, _, agrees⟩ :=
    summary_announces_current_iff 1700000000 100 10800 edits 1700000000 numbered present
  obtain ⟨announcedThen, _, sameThen, _, agreesThen⟩ :=
    summary_announces_current_iff 1700000000 100 10800 (edits ++ [.setMode .time])
      1700000000 dated presentThen
  refine ⟨⟨present, announced, same, ?_⟩, presentThen, announcedThen, sameThen, ?_⟩
  · exact agrees.mpr ⟨mode, .inr refused⟩
  · intro equality
    exact otherMode (agreesThen.mp equality).1

/-- After a switch of mode the summary announces the time shown there, while the
accepted block stays in effect. -/
theorem summary_announces_other_than_current :
    ¬ ∀ (clock floor delay : UInt64) (edits : List Edit) (now : UInt64)
        (announced : Condition), 0 < delay →
      ((start clock floor delay).run edits).announced? now = some announced →
        announced = ((start clock floor delay).run edits).current.condition := by
  intro always
  let edits : List Edit := [.setMode .block, .editBlock "150", .setMode .time]
  let editor := (start 1700000000 100 10800).run edits
  have announced : editor.announced? 1700000000 = some (.time 1700010800) := by
    decide +kernel
  have current : editor.current.condition = .block 150 := by decide +kernel
  have equality := always 1700000000 100 10800 edits 1700000000 (.time 1700010800)
    (by decide) announced
  rw [current] at equality
  contradiction

end Editor

end TimedRelease
