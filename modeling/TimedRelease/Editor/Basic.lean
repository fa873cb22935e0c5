import TimedRelease.Editor.Release
import TimedRelease.Quantity.Basic

/-!
# Editing a release condition

The editor holds what is typed in each of its two modes, time and block, and the
release in effect.  An accepted edit issues a new release and publishes it; a
refused edit shows in the display and leaves the release in effect alone.  The
clock is read once per edit, and the reading is an argument.
-/

namespace TimedRelease

/-- Why an edit yields no condition. -/
inductive EditError where
  | timeNotInFuture (seconds now : UInt64)
  | blockNotAboveFloor (block floor : UInt64)
  | invalidInput (text : String)
  deriving DecidableEq, Repr

/-- The wording of a refused edit. -/
def EditError.message : EditError → String
  | .timeNotInFuture _ _ => "You need to select a future time."
  | .blockNotAboveFloor _ floor =>
    "Number needs to be greater than " ++ Text.groupedText floor.toNat
  | .invalidInput text => "Invalid input: " ++ text

/-- Which kind of condition is being edited. -/
inductive Mode where
  | time
  | block
  deriving DecidableEq, Repr

/-- What is shown for a time: the selected time, the seconds as typed, whether
they are marked as wrong, and whether the field for them is open. -/
structure TimeEntry where
  target : UInt64
  echo : String
  echoError : Bool
  fineTune : Bool
  deriving DecidableEq, Repr

/-- What is shown for a block: the text as typed, the number it was read as, and
the block that a condition has to lie above. -/
structure BlockEntry where
  input : String
  parsed : Option UInt64
  floor : UInt64
  deriving DecidableEq, Repr

/-- The block number shown, when it lies above the floor. -/
def BlockEntry.valid? (entry : BlockEntry) : Option UInt64 :=
  entry.parsed.filter (entry.floor < ·)

/-- The editor of a release condition. -/
structure Editor where
  mode : Mode
  time : TimeEntry
  block : BlockEntry
  current : Release
  channel : Channel
  /-- How many releases the editor has issued. -/
  issued : Nat
  deriving DecidableEq, Repr

namespace Editor

/-- The distance between now and the time first shown, unless another is configured. -/
def defaultDelay : UInt64 := 10800

/-- A time some seconds later, or the last time there is. -/
def later (now delay : UInt64) : UInt64 :=
  UInt64.ofNat (min (now.toNat + delay.toNat) (UInt64.size - 1))

/-- A number of seconds as typed. -/
def secondsText (seconds : UInt64) : String :=
  Text.decimalText seconds.toNat

/-- The editor as it is opened. -/
def start (now floor delay : UInt64) : Editor :=
  let target := later now delay
  let first : Release := ⟨.issued 0, .time target⟩
  { mode := .time
    time := ⟨target, secondsText target, false, false⟩
    block := ⟨"", none, floor⟩
    current := first
    channel := ⟨first, 0⟩
    issued := 1 }

/-- Issues a release of a condition and publishes it. -/
def accept (editor : Editor) (condition : Condition) : Editor × Release :=
  let release : Release := ⟨.issued editor.issued, condition⟩
  ({ editor with
      current := release
      channel := editor.channel.publish release
      issued := editor.issued + 1 }, release)

/-- The number of seconds that a text gives, blanks around it aside. -/
def readSeconds (text : String) : Except Text.IntegerFault UInt64 :=
  Text.readUInt64 (Text.trim text.toList)

/-- The block number that a text gives: a quantity, commas aside. -/
def readBlock? (text : String) : Option UInt64 :=
  let cleaned := (Text.trim text.toList).filter (· != ',')
  match Quantity.read? cleaned with
  | some word => if word.toNat < UInt64.size then some (UInt64.ofNat word.toNat) else none
  | none => none

/-- Switches the mode; each mode keeps what it shows. -/
def setMode (editor : Editor) (mode : Mode) : Editor :=
  { editor with mode }

/-- Shows a time as selected. -/
def showTime (editor : Editor) (seconds : UInt64) : Editor :=
  { editor with
    time := { editor.time with
      target := seconds
      echo := secondsText seconds
      echoError := false } }

/-- Selects a time; it is shown even when it is refused. -/
def selectTime (editor : Editor) (now seconds : UInt64) : Editor × Except EditError Release :=
  let shown := editor.showTime seconds
  if seconds ≤ now then (shown, .error (.timeNotInFuture seconds now))
  else
    let (accepted, release) := shown.accept (.time seconds)
    (accepted, .ok release)

/-- A text gives a time later than now. -/
def isFutureText (now : UInt64) (text : String) : Bool :=
  match readSeconds text with
  | .ok seconds => now < seconds
  | .error _ => false

/-- Edits the seconds as typed, without selecting them. -/
def editEcho (editor : Editor) (now : UInt64) (text : String) : Editor :=
  { editor with
    time := { editor.time with echo := text, echoError := !isFutureText now text } }

/-- Selects the seconds as typed. -/
def commitEcho (editor : Editor) (now : UInt64) : Editor × Except EditError Release :=
  match readSeconds editor.time.echo with
  | .ok seconds => editor.selectTime now seconds
  | .error _ => (editor, .error (.invalidInput editor.time.echo))

/-- Opens or closes the field for seconds. -/
def toggleFineTune (editor : Editor) : Editor :=
  { editor with time := { editor.time with fineTune := !editor.time.fineTune } }

/-- Edits the block number; what it was read as is shown even when it is refused. -/
def editBlock (editor : Editor) (text : String) : Editor × Except EditError Release :=
  let shown := { editor with
    block := { editor.block with input := text, parsed := readBlock? text } }
  match readBlock? text with
  | none => (shown, .error (.invalidInput text))
  | some number =>
    if number ≤ editor.block.floor then
      (shown, .error (.blockNotAboveFloor number editor.block.floor))
    else
      let (accepted, release) := shown.accept (.block number)
      (accepted, .ok release)

/-- Moves the block that a condition has to lie above. -/
def setFloor (editor : Editor) (floor : UInt64) : Editor :=
  { editor with block := { editor.block with floor } }

/-- Shows a condition as selected, in its own mode. -/
def showCondition (editor : Editor) : Condition → Editor
  | .time seconds => (editor.setMode .time).showTime seconds
  | .block number =>
    { editor with
      mode := .block
      block := { editor.block with input := Text.hexText number.toNat, parsed := some number } }

/-- Takes over a release from outside, unless it is the one in effect; nobody is told. -/
def applyExternal (editor : Editor) (release : Release) : Editor × Bool :=
  if release = editor.current then (editor, false)
  else
    ({ editor.showCondition release.condition with
        current := release
        channel := editor.channel.replace release }, true)

/-- What is wrong with what the mode shows, if anything. -/
def hint? (editor : Editor) (now : UInt64) : Option EditError :=
  match editor.mode with
  | .time =>
    if editor.time.target ≤ now then some (.timeNotInFuture editor.time.target now) else none
  | .block =>
    match editor.block.valid? with
    | some _ => none
    | none => some (.blockNotAboveFloor (editor.block.parsed.getD 0) editor.block.floor)

/-- The condition that the summary announces: what the mode shows, if it is valid. -/
def announced? (editor : Editor) (now : UInt64) : Option Condition :=
  match editor.mode with
  | .time => if now < editor.time.target then some (.time editor.time.target) else none
  | .block => editor.block.valid?.map .block

/-- The sentence that announces a condition. -/
def announcement : Condition → String
  | .time seconds =>
    "Your transaction will be propagated to the network on " ++ Calendar.timeText seconds ++ "."
  | .block number =>
    "Your transaction will be propagated to the network at block " ++
      Condition.blockText number ++ "."

/-- When the transaction will be released, in a sentence, if what the mode shows is valid. -/
def summary? (editor : Editor) (now : UInt64) : Option String :=
  (editor.announced? now).map announcement

end Editor

/-- An edit, with the reading of the clock where one is taken. -/
inductive Edit where
  | setMode (mode : Mode)
  | selectTime (now seconds : UInt64)
  | editEcho (now : UInt64) (text : String)
  | commitEcho (now : UInt64)
  | toggleFineTune
  | editBlock (text : String)
  | setFloor (floor : UInt64)
  | applyExternal (release : Release)
  deriving DecidableEq, Repr

/-- What an edit gives back. -/
inductive EditResult where
  | done
  | accepted (release : Release)
  | refused (error : EditError)
  | fineTune (isOpen : Bool)
  | applied (changed : Bool)
  deriving DecidableEq, Repr

namespace EditResult

/-- The result of an edit that yields a release or is refused. -/
def ofExcept : Except EditError Release → EditResult
  | .ok release => .accepted release
  | .error error => .refused error

@[simp] theorem ofExcept_ok (release : Release) :
    ofExcept (.ok release) = .accepted release := rfl

@[simp] theorem ofExcept_error (error : EditError) :
    ofExcept (.error error) = .refused error := rfl

end EditResult

namespace Editor

/-- Makes one edit. -/
def step (editor : Editor) : Edit → Editor × EditResult
  | .setMode mode => (editor.setMode mode, .done)
  | .selectTime now seconds =>
    let (next, result) := editor.selectTime now seconds
    (next, .ofExcept result)
  | .editEcho now text => (editor.editEcho now text, .done)
  | .commitEcho now =>
    let (next, result) := editor.commitEcho now
    (next, .ofExcept result)
  | .toggleFineTune => (editor.toggleFineTune, .fineTune editor.toggleFineTune.time.fineTune)
  | .editBlock text =>
    let (next, result) := editor.editBlock text
    (next, .ofExcept result)
  | .setFloor floor => (editor.setFloor floor, .done)
  | .applyExternal release =>
    let (next, changed) := editor.applyExternal release
    (next, .applied changed)

/-- The editor after a list of edits. -/
def run (editor : Editor) (edits : List Edit) : Editor :=
  edits.foldl (fun editor edit => (editor.step edit).1) editor

end Editor

end TimedRelease
