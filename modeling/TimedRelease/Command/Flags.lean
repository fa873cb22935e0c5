import TimedRelease.Command.Query
import TimedRelease.Draft.Basic
import TimedRelease.Editor.Basic

/-!
# Flags of commands

Flags set a release condition and the fields of a draft.  They go the way of
everything that is typed: through the editor and the draft.
-/

namespace TimedRelease

/-- The release condition as it is given.  Without either flag the condition stays
at the configured delay. -/
structure ConditionFlags where
  block : Option String
  time : Option UInt64
  deriving DecidableEq, Repr

/-- Edits the condition as the flags say; the clock is read for a time only. -/
def ConditionFlags.apply (flags : ConditionFlags) (editor : Editor) :
    Asking (Editor × Except EditError Unit) :=
  match flags.block, flags.time with
  | some block, _ =>
    let (next, result) := (editor.setMode .block).editBlock block
    .done (next, result.map fun _ => ())
  | none, some time =>
    .ask .clock fun now =>
      let (next, result) := editor.selectTime now time
      .done (next, result.map fun _ => ())
  | none, none => .done (editor, .ok ())

/-- The fields of a draft as they are given. -/
structure DraftFlags where
  sender : Option String
  recipient : Option String
  value : Option String
  gasLimit : Option String
  gasPrice : Option String
  data : Option String
  deriving DecidableEq, Repr

namespace DraftFlags

/-- What is given for a field. -/
def text? (flags : DraftFlags) : DraftField → Option String
  | .sender => flags.sender
  | .recipient => flags.recipient
  | .value => flags.value
  | .gasLimit => flags.gasLimit
  | .gasPrice => flags.gasPrice
  | .data => flags.data

/-- The fields in the order in which they are filled. -/
def order : List DraftField :=
  [.sender, .recipient, .value, .gasLimit, .gasPrice, .data]

/-- Fills fields of a draft, and says what is doubtful about each. -/
def applyFields [Digest.Hash] (flags : DraftFlags) (draft : Draft) :
    List DraftField → Draft × List (DraftField × FieldHint)
  | [] => (draft, [])
  | field :: rest =>
    match flags.text? field with
    | none => flags.applyFields draft rest
    | some text =>
      let (filled, hint) := draft.setField field text
      let (last, hints) := flags.applyFields filled rest
      (last, (hint.map fun hint => (field, hint)).toList ++ hints)

/-- Fills a draft as the flags say, and says what is doubtful about it. -/
def apply [Digest.Hash] (flags : DraftFlags) (draft : Draft) :
    Draft × List (DraftField × FieldHint) :=
  flags.applyFields draft order

/-- The line that warns of a hint. -/
def hintLine (hint : DraftField × FieldHint) : String :=
  hint.1.name ++ ": " ++ hint.2.message

end DraftFlags

end TimedRelease
