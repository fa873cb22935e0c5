import TimedRelease.Editor.Basic

/-!
# What an edit can do

`Change` says once what each edit does under which condition, and `change_step`
that a step of the editor is always one of its cases.  Laws about steps are
proved by cases on it, and laws about runs follow by induction on the edits.
-/

namespace TimedRelease

namespace Editor

/-- A block text is shown together with the number it was read as. -/
def showBlock (editor : Editor) (text : String) : Editor :=
  { editor with
    block := { editor.block with input := text, parsed := readBlock? text } }

/-- The release that the next accepted edit issues. -/
def nextRelease (editor : Editor) (condition : Condition) : Release :=
  ⟨.issued editor.issued, condition⟩

/-- The edit, its result, and the editor that it leaves.  A time is accepted when
it is later than the reading of the clock, a block when it lies above the floor. -/
inductive Change (editor : Editor) : Edit → EditResult → Editor → Prop where
  | setMode (mode : Mode) :
      Change editor (.setMode mode) .done (editor.setMode mode)
  | timeAccepted {now seconds : UInt64} (later : now < seconds) :
      Change editor (.selectTime now seconds)
        (.accepted (editor.nextRelease (.time seconds)))
        ((editor.showTime seconds).accept (.time seconds)).1
  | timeRefused {now seconds : UInt64} (past : seconds ≤ now) :
      Change editor (.selectTime now seconds)
        (.refused (.timeNotInFuture seconds now)) (editor.showTime seconds)
  | editEcho (now : UInt64) (text : String) :
      Change editor (.editEcho now text) .done (editor.editEcho now text)
  | echoAccepted {now seconds : UInt64}
      (read : readSeconds editor.time.echo = .ok seconds) (later : now < seconds) :
      Change editor (.commitEcho now)
        (.accepted (editor.nextRelease (.time seconds)))
        ((editor.showTime seconds).accept (.time seconds)).1
  | echoRefused {now seconds : UInt64}
      (read : readSeconds editor.time.echo = .ok seconds) (past : seconds ≤ now) :
      Change editor (.commitEcho now)
        (.refused (.timeNotInFuture seconds now)) (editor.showTime seconds)
  | echoUnread {now : UInt64} {fault : Text.IntegerFault}
      (unread : readSeconds editor.time.echo = .error fault) :
      Change editor (.commitEcho now)
        (.refused (.invalidInput editor.time.echo)) editor
  | toggleFineTune :
      Change editor .toggleFineTune
        (.fineTune editor.toggleFineTune.time.fineTune) editor.toggleFineTune
  | blockAccepted {text : String} {number : UInt64}
      (read : readBlock? text = some number) (above : editor.block.floor < number) :
      Change editor (.editBlock text)
        (.accepted (editor.nextRelease (.block number)))
        ((editor.showBlock text).accept (.block number)).1
  | blockRefused {text : String} {number : UInt64}
      (read : readBlock? text = some number) (below : number ≤ editor.block.floor) :
      Change editor (.editBlock text)
        (.refused (.blockNotAboveFloor number editor.block.floor)) (editor.showBlock text)
  | blockUnread {text : String} (unread : readBlock? text = none) :
      Change editor (.editBlock text)
        (.refused (.invalidInput text)) (editor.showBlock text)
  | setFloor (floor : UInt64) :
      Change editor (.setFloor floor) .done (editor.setFloor floor)
  | adopted {release : Release} (other : release ≠ editor.current) :
      Change editor (.applyExternal release) (.applied true)
        { editor.showCondition release.condition with
          current := release
          channel := editor.channel.replace release }
  | inEffect :
      Change editor (.applyExternal editor.current) (.applied false) editor

theorem selectTime_of_later (editor : Editor) {now seconds : UInt64}
    (later : now < seconds) :
    editor.selectTime now seconds =
      (((editor.showTime seconds).accept (.time seconds)).1,
        .ok (editor.nextRelease (.time seconds))) := by
  have notPast : ¬seconds ≤ now := UInt64.not_le.mpr later
  simp [selectTime, notPast, accept, nextRelease, showTime]

theorem selectTime_of_past (editor : Editor) {now seconds : UInt64}
    (past : seconds ≤ now) :
    editor.selectTime now seconds =
      (editor.showTime seconds, .error (.timeNotInFuture seconds now)) := by
  simp [selectTime, past]

theorem editBlock_of_above (editor : Editor) {text : String} {number : UInt64}
    (read : readBlock? text = some number) (above : editor.block.floor < number) :
    editor.editBlock text =
      (((editor.showBlock text).accept (.block number)).1,
        .ok (editor.nextRelease (.block number))) := by
  have notBelow : ¬number ≤ editor.block.floor := UInt64.not_le.mpr above
  simp [editBlock, read, notBelow, accept, nextRelease, showBlock]

theorem editBlock_of_below (editor : Editor) {text : String} {number : UInt64}
    (read : readBlock? text = some number) (below : number ≤ editor.block.floor) :
    editor.editBlock text =
      (editor.showBlock text,
        .error (.blockNotAboveFloor number editor.block.floor)) := by
  simp [editBlock, read, below, showBlock]

theorem editBlock_of_unread (editor : Editor) {text : String}
    (unread : readBlock? text = none) :
    editor.editBlock text = (editor.showBlock text, .error (.invalidInput text)) := by
  simp [editBlock, unread, showBlock]

/-- A step is one of the cases of `Change`. -/
theorem change_step (editor : Editor) (edit : Edit) :
    Change editor edit (editor.step edit).2 (editor.step edit).1 := by
  cases edit with
  | setMode mode => exact .setMode mode
  | selectTime now seconds =>
      by_cases past : seconds ≤ now
      · simpa [step, selectTime_of_past editor past] using
          Change.timeRefused past
      · have later : now < seconds := UInt64.not_le.mp past
        simpa [step, selectTime_of_later editor later] using
          Change.timeAccepted later
  | editEcho now text => exact .editEcho now text
  | commitEcho now =>
      cases read : readSeconds editor.time.echo with
      | error fault =>
          simpa [step, commitEcho, read] using Change.echoUnread read
      | ok seconds =>
          by_cases past : seconds ≤ now
          · simpa [step, commitEcho, read, selectTime_of_past editor past] using
              Change.echoRefused read past
          · have later : now < seconds := UInt64.not_le.mp past
            simpa [step, commitEcho, read, selectTime_of_later editor later] using
              Change.echoAccepted read later
  | toggleFineTune => exact .toggleFineTune
  | editBlock text =>
      cases read : readBlock? text with
      | none =>
          simpa [step, editBlock_of_unread editor read] using
            Change.blockUnread read
      | some number =>
          by_cases below : number ≤ editor.block.floor
          · simpa [step, editBlock_of_below editor read below] using
              Change.blockRefused read below
          · have above : editor.block.floor < number := UInt64.not_le.mp below
            simpa [step, editBlock_of_above editor read above] using
              Change.blockAccepted read above
  | setFloor floor => exact .setFloor floor
  | applyExternal release =>
      by_cases same : release = editor.current
      · subst release
        simpa [step, applyExternal] using Change.inEffect
      · simpa [step, applyExternal, same] using Change.adopted same

@[simp] theorem run_nil (editor : Editor) : editor.run [] = editor := rfl

@[simp] theorem run_cons (editor : Editor) (edit : Edit) (rest : List Edit) :
    editor.run (edit :: rest) = (editor.step edit).1.run rest := rfl

/-- What the edits of a run give back, one after the other. -/
def results (editor : Editor) : List Edit → List EditResult
  | [] => []
  | edit :: rest => (editor.step edit).2 :: (editor.step edit).1.results rest

end Editor

end TimedRelease
