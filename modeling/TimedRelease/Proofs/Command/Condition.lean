import TimedRelease.Proofs.Command.Told
import TimedRelease.Proofs.Editor.Gate
import TimedRelease.Proofs.Session.Pasting

/-!
# The condition of a command

A command opens its session at the height of the chain and at the time, and edits the
condition as its flags say.  What comes of that is told by the flags, the configured
delay, the height and the readings of the clock: one condition is chosen or one error
rejects the flags.  Submitting then makes one call under the chosen condition, or none.
-/

namespace TimedRelease

open Dialogue (Yields)

/-! ## What the flags choose -/

/-- The number that the text of a block flag gives: a quantity, commas aside. -/
def BlockText (text : String) (number : UInt64) : Prop :=
  Quantity.Denotes (Text.lowerCase ((Text.trim text.toList).filter (· != ','))) number.toNat

theorem readBlock?_eq_some_iff_blockText {text : String} {number : UInt64} :
    Editor.readBlock? text = some number ↔ BlockText text number :=
  Editor.readBlock?_eq_some_iff

/-- The condition that flags choose, given the configured delay, the height of the chain and
the readings of the clock: a block above that height, a time later than the reading that is
taken for it, or else the delay after the first reading, as far as there are times. -/
inductive Chosen (flags : ConditionFlags) (delay floor : UInt64) :
    List UInt64 → Condition → Prop where
  | block {text : String} {number : UInt64} {readings : List UInt64}
      (given : flags.block = some text) (denoted : BlockText text number)
      (above : floor < number) : Chosen flags delay floor readings (.block number)
  | time {opened now seconds : UInt64} {rest : List UInt64} (noBlock : flags.block = none)
      (given : flags.time = some seconds) (later : now < seconds) :
      Chosen flags delay floor (opened :: now :: rest) (.time seconds)
  | delayed {opened seconds : UInt64} {rest : List UInt64} (noBlock : flags.block = none)
      (noTime : flags.time = none)
      (sum : seconds.toNat = min (opened.toNat + delay.toNat) (UInt64.size - 1)) :
      Chosen flags delay floor (opened :: rest) (.time seconds)

/-- Why flags are rejected. -/
inductive Rejected (flags : ConditionFlags) (floor : UInt64) :
    List UInt64 → EditError → Prop where
  | unread {text : String} {readings : List UInt64} (given : flags.block = some text)
      (nothing : ∀ number, ¬BlockText text number) :
      Rejected flags floor readings (.invalidInput text)
  | low {text : String} {number : UInt64} {readings : List UInt64}
      (given : flags.block = some text) (denoted : BlockText text number)
      (low : number ≤ floor) :
      Rejected flags floor readings (.blockNotAboveFloor number floor)
  | past {opened now seconds : UInt64} {rest : List UInt64} (noBlock : flags.block = none)
      (given : flags.time = some seconds) (past : seconds ≤ now) :
      Rejected flags floor (opened :: now :: rest) (.timeNotInFuture seconds now)

theorem Editor.toNat_later (now delay : UInt64) :
    (later now delay).toNat = min (now.toNat + delay.toNat) (UInt64.size - 1) := by
  have fits : min (now.toNat + delay.toNat) (UInt64.size - 1) < UInt64.size := by
    rw [UInt64.size]
    omega
  rw [later, UInt64.toNat_ofNat_of_lt' fits]

/-- What the flags come to, as soon as there are readings enough. -/
def ConditionFlags.verdict? (flags : ConditionFlags) (delay floor : UInt64)
    (readings : List UInt64) : Option (Except EditError Condition) :=
  match flags.block, flags.time, readings with
  | some text, _, _ =>
    some <| match Editor.readBlock? text with
      | none => .error (.invalidInput text)
      | some number =>
        if floor < number then .ok (.block number)
        else .error (.blockNotAboveFloor number floor)
  | none, some seconds, _ :: now :: _ =>
    some (if now < seconds then .ok (.time seconds) else .error (.timeNotInFuture seconds now))
  | none, none, opened :: _ => some (.ok (.time (Editor.later opened delay)))
  | _, _, _ => none

section

variable {flags : ConditionFlags} {delay floor : UInt64} {readings : List UInt64}
variable {condition : Condition} {error : EditError}

theorem Chosen.append (chosen : Chosen flags delay floor readings condition)
    (more : List UInt64) : Chosen flags delay floor (readings ++ more) condition := by
  cases chosen with
  | block given denoted above => exact .block given denoted above
  | time noBlock given later => exact .time noBlock given later
  | delayed noBlock noTime sum => exact .delayed noBlock noTime sum

theorem Chosen.verdict (chosen : Chosen flags delay floor readings condition) :
    flags.verdict? delay floor readings = some (.ok condition) := by
  cases chosen with
  | block given denoted above =>
      simp only [ConditionFlags.verdict?, given, readBlock?_eq_some_iff_blockText.mpr denoted,
        if_pos above]
  | time noBlock given later =>
      simp only [ConditionFlags.verdict?, noBlock, given, if_pos later]
  | delayed noBlock noTime sum =>
      have last := UInt64.toNat_inj.mp (sum.trans (Editor.toNat_later _ delay).symm)
      simp only [ConditionFlags.verdict?, noBlock, noTime, last]

theorem Rejected.verdict (rejected : Rejected flags floor readings error) (delay : UInt64) :
    flags.verdict? delay floor readings = some (.error error) := by
  cases rejected with
  | @unread text _ given nothing =>
      have unread : Editor.readBlock? text = none := by
        apply Option.eq_none_iff_forall_ne_some.mpr
        intro number read
        exact nothing number (readBlock?_eq_some_iff_blockText.mp read)
      simp only [ConditionFlags.verdict?, given, unread]
  | low given denoted low =>
      simp only [ConditionFlags.verdict?, given, readBlock?_eq_some_iff_blockText.mpr denoted,
        if_neg (UInt64.not_lt.mpr low)]
  | past noBlock given past =>
      simp only [ConditionFlags.verdict?, noBlock, given, if_neg (UInt64.not_lt.mpr past)]

theorem Chosen.unique {other : Condition} (first : Chosen flags delay floor readings condition)
    (second : Chosen flags delay floor readings other) : condition = other :=
  Except.ok.inj (Option.some.inj (first.verdict.symm.trans second.verdict))

theorem Rejected.unique {other : EditError} (first : Rejected flags floor readings error)
    (second : Rejected flags floor readings other) : error = other :=
  Except.error.inj (Option.some.inj ((first.verdict 0).symm.trans (second.verdict 0)))

theorem Rejected.not_chosen (rejected : Rejected flags floor readings error) :
    ¬Chosen flags delay floor readings condition := by
  intro chosen
  cases chosen.verdict.symm.trans (rejected.verdict delay)

end

/-- What is announced, if anything, is the condition in effect. -/
def Editor.AnnouncesCurrent (editor : Editor) : Prop :=
  ∀ now condition, editor.announced? now = some condition →
    condition = editor.current.condition

namespace Editor

theorem announcesCurrent_start (opened floor delay : UInt64) :
    (start opened floor delay).AnnouncesCurrent := by
  intro now condition announced
  have shown : (start opened floor delay).announced? now =
      if now < later opened delay then some (.time (later opened delay)) else none := rfl
  rw [shown, Option.ite_none_right_eq_some] at announced
  exact (Option.some.inj announced.2).symm

theorem announcesCurrent_selectTime (editor : Editor) {now seconds : UInt64}
    (mode : editor.mode = .time) (later : now < seconds) :
    (editor.selectTime now seconds).1.AnnouncesCurrent := by
  intro now condition announced
  rw [selectTime_of_later editor later] at announced ⊢
  simp only [announced?, accept, showTime, mode, Option.ite_none_right_eq_some] at announced
  exact (Option.some.inj announced.2).symm

theorem announcesCurrent_editBlock (editor : Editor) {text : String} {number : UInt64}
    (mode : editor.mode = .block) (read : readBlock? text = some number)
    (above : editor.block.floor < number) :
    (editor.editBlock text).1.AnnouncesCurrent := by
  intro now condition announced
  rw [editBlock_of_above editor read above] at announced ⊢
  simp [announced?, accept, showBlock, mode, BlockEntry.valid?, read, above] at announced
  rw [← announced]
  rfl

end Editor

/-! ## Opening a session and applying the flags -/

section

variable {exchanges : List (Exchange Query Query.Answer)}

theorem Context.yields_openSession [Digest.Hash] {context : Context} {session : Session}
    (yields : Yields context.openSession exchanges session) :
    ∃ (heights : List UInt64) (opened : UInt64),
      Told.of exchanges = { readings := [opened], heights } ∧
        session = .start (.start opened (heights.headD 0) context.config.delaySeconds)
          context.account.isSome := by
  obtain ⟨first, floor, later, rfl, heads, opens⟩ := Dialogue.yields_bind_iff.mp yields
  obtain ⟨opened, rest, rfl, ends⟩ := Dialogue.yields_ask_iff.mp opens
  obtain ⟨rfl, rfl⟩ := Dialogue.yields_done_iff.mp ends
  rw [Told.of_append]
  cases account : context.account with
  | none =>
      simp only [chainHead, account] at heads
      obtain ⟨rfl, rfl⟩ := Dialogue.yields_done_iff.mp heads
      exact ⟨[], opened, rfl, rfl⟩
  | some node =>
      simp only [chainHead, account] at heads
      obtain ⟨(answer : Except AccountError UInt64), rest, rfl, told⟩ :=
        Dialogue.yields_ask_iff.mp heads
      obtain ⟨rfl, rfl⟩ := Dialogue.yields_done_iff.mp told
      cases answer with
      | ok height => exact ⟨[height], opened, rfl, rfl⟩
      | error error => exact ⟨[], opened, rfl, rfl⟩

/-- An editor as it is opened, edited as the flags say: the readings taken for that, and
what comes of it. -/
inductive Edited (flags : ConditionFlags) (delay floor opened : UInt64) :
    List UInt64 → Editor → Except EditError Unit → Prop where
  | chosen {taken : List UInt64} {editor : Editor}
      (chosen : Chosen flags delay floor (opened :: taken) editor.current.condition)
      (shown : editor.AnnouncesCurrent) : Edited flags delay floor opened taken editor (.ok ())
  | rejected {taken : List UInt64} {editor : Editor} {error : EditError}
      (rejected : Rejected flags floor (opened :: taken) error) :
      Edited flags delay floor opened taken editor (.error error)

theorem Edited.block {flags : ConditionFlags} {opened floor delay : UInt64} {text : String}
    (given : flags.block = some text) {next : Editor} {result : Except EditError Release}
    (edits : ((Editor.start opened floor delay).setMode .block).editBlock text =
      (next, result)) :
    Edited flags delay floor opened [] next (result.map fun _ => ()) := by
  let editor := (Editor.start opened floor delay).setMode .block
  cases read : Editor.readBlock? text with
  | none =>
      rw [Editor.editBlock_of_unread _ read] at edits
      cases edits
      apply Edited.rejected
      apply Rejected.unread given
      intro number denoted
      rw [readBlock?_eq_some_iff_blockText.mpr denoted] at read
      contradiction
  | some number =>
      have denoted := readBlock?_eq_some_iff_blockText.mp read
      by_cases below : number ≤ floor
      · rw [Editor.editBlock_of_below editor read below] at edits
        cases edits
        exact .rejected (.low given denoted below)
      · have above : floor < number := UInt64.not_le.mp below
        have shown := editor.announcesCurrent_editBlock rfl read above
        rw [Editor.editBlock_of_above editor read above] at edits shown
        cases edits
        exact .chosen (.block given denoted above) shown

theorem Edited.time {flags : ConditionFlags} {opened floor delay now seconds : UInt64}
    (noBlock : flags.block = none) (given : flags.time = some seconds) {next : Editor}
    {result : Except EditError Release}
    (edits : (Editor.start opened floor delay).selectTime now seconds = (next, result)) :
    Edited flags delay floor opened [now] next (result.map fun _ => ()) := by
  let editor := Editor.start opened floor delay
  by_cases past : seconds ≤ now
  · rw [Editor.selectTime_of_past editor past] at edits
    cases edits
    exact .rejected (.past noBlock given past)
  · have ahead : now < seconds := UInt64.not_le.mp past
    have shown := editor.announcesCurrent_selectTime rfl ahead
    rw [Editor.selectTime_of_later editor ahead] at edits shown
    cases edits
    exact .chosen (.time noBlock given ahead) shown

theorem Edited.of_yields {flags : ConditionFlags} {opened floor delay : UInt64}
    {next : Editor} {result : Except EditError Unit}
    (yields : Yields (flags.apply (.start opened floor delay)) exchanges (next, result)) :
    ∃ taken, Told.of exchanges = { readings := taken } ∧
      Edited flags delay floor opened taken next result := by
  cases block : flags.block with
  | some text =>
      simp only [ConditionFlags.apply, block] at yields
      obtain ⟨rfl, same⟩ := Dialogue.yields_done_iff.mp yields
      cases same
      exact ⟨[], rfl, .block block rfl⟩
  | none =>
      cases time : flags.time with
      | some seconds =>
          simp only [ConditionFlags.apply, block, time] at yields
          obtain ⟨now, later, rfl, ends⟩ := Dialogue.yields_ask_iff.mp yields
          obtain ⟨rfl, same⟩ := Dialogue.yields_done_iff.mp ends
          cases same
          exact ⟨[now], rfl, .time block time rfl⟩
      | none =>
          simp only [ConditionFlags.apply, block, time] at yields
          obtain ⟨rfl, same⟩ := Dialogue.yields_done_iff.mp yields
          cases same
          refine ⟨[], rfl, ?_⟩
          apply Edited.chosen
          · exact .delayed block time (Editor.toNat_later opened delay)
          · exact Editor.announcesCurrent_start opened floor delay

/-- The flags of a command applied to a session: rejected, or chosen and perhaps
announced. -/
inductive Applied (session : Session) (flags : ConditionFlags) (delay floor opened : UInt64) :
    Told → Except CommandError Session → Prop where
  | rejected {taken : List UInt64} {error : EditError}
      (rejected : Rejected flags floor (opened :: taken) error) :
      Applied session flags delay floor opened { readings := taken }
        (.error (.refusedEdit error))
  | chosen {taken : List UInt64} {now : UInt64} {editor : Editor} {lines : List String}
      (chosen : Chosen flags delay floor (opened :: taken) editor.current.condition)
      (announced : lines = [] ∨ lines = [Editor.announcement editor.current.condition]) :
      Applied session flags delay floor opened { readings := taken ++ [now], lines }
        (.ok { session with editor })

theorem Session.yields_announce {session : Session}
    (shown : session.editor.AnnouncesCurrent) {result : Except CommandError Session}
    (yields : Yields session.announce exchanges result) :
    ∃ (now : UInt64) (lines : List String),
      Told.of exchanges = { readings := [now], lines } ∧ result = .ok session ∧
        (lines = [] ∨ lines = [Editor.announcement session.editor.current.condition]) := by
  obtain ⟨now, later, rfl, goesOn⟩ := Dialogue.yields_ask_iff.mp yields
  cases announced : session.editor.announced? now with
  | none =>
      simp only [Editor.summary?, announced, Option.map_none] at goesOn
      obtain ⟨rfl, rfl⟩ := Dialogue.yields_done_iff.mp goesOn
      exact ⟨now, [], rfl, rfl, .inl rfl⟩
  | some condition =>
      simp only [Editor.summary?, announced, Option.map_some] at goesOn
      obtain ⟨_, rest, rfl, ends⟩ := Dialogue.yields_ask_iff.mp goesOn
      obtain ⟨rfl, rfl⟩ := Dialogue.yields_done_iff.mp ends
      rw [shown now condition announced]
      exact ⟨now, [_], rfl, rfl, .inr rfl⟩

theorem Applied.of_yields {session : Session} {flags : ConditionFlags}
    {opened floor delay : UInt64} {result : Except CommandError Session}
    (opens : session.editor = .start opened floor delay)
    (yields : Yields (session.applyCondition flags) exchanges result) :
    Applied session flags delay floor opened (Told.of exchanges) result := by
  obtain ⟨first, ⟨editor, verdict⟩, later, rfl, edits, goesOn⟩ :=
    Dialogue.yields_bind_iff.mp yields
  rw [opens] at edits
  obtain ⟨taken, read, edited⟩ := Edited.of_yields edits
  rw [Told.of_append, read]
  cases edited with
  | rejected rejected =>
      obtain ⟨_, rest, rfl, ends⟩ := Dialogue.yields_ask_iff.mp goesOn
      obtain ⟨rfl, rfl⟩ := Dialogue.yields_done_iff.mp ends
      simp only [Told.of, Told.ofExchange, Told.append_eq, Told.append, List.append_nil]
      exact .rejected rejected
  | chosen chosen shown =>
      obtain ⟨now, lines, told, rfl, announced⟩ := Session.yields_announce shown goesOn
      rw [told]
      exact .chosen chosen announced

/-! ## Submitting -/

/-- What a command comes to with an outcome. -/
def ScheduleOutcome.verdict (outcome : ScheduleOutcome) : Except CommandError Unit :=
  if outcome.isScheduled then .ok () else .error (.unscheduled outcome)

theorem Session.yields_submit {session : Session} {raw : RawTransaction}
    (stored : session.raw = raw.text) (answer : Except SchedulingError String) :
    Yields session.submit
      [⟨.call (.schedule session.editor.current.condition raw), answer⟩,
        ⟨.print (ScheduleOutcome.ofAnswer answer).display, ()⟩]
      (ScheduleOutcome.ofAnswer answer).verdict := by
  simp only [submit, schedule, stored, RawTransaction.parse_text]
  exact .ask (.ask (.done _))

/-- A submission: refused without a call, or a call whose outcome is printed. -/
inductive Submitted (session : Session) : Told → Except CommandError Unit → Prop where
  | refused {error : CommandError}
      (invalid : Payload.isRawTransaction session.raw.toList = false) :
      Submitted session {} (.error error)
  | answered {raw : RawTransaction} (stored : raw.text = session.raw)
      (answer : Except SchedulingError String) :
      Submitted session
        { handovers := [⟨session.editor.current.condition, raw, answer⟩]
          lines := [(ScheduleOutcome.ofAnswer answer).display] }
        (ScheduleOutcome.ofAnswer answer).verdict

theorem Submitted.of_yields {session : Session} (bare : session.Bare)
    {result : Except CommandError Unit} (yields : Yields session.submit exchanges result) :
    Submitted session (Told.of exchanges) result := by
  obtain ⟨first, verdict, later, rfl, calls, goesOn⟩ := Dialogue.yields_bind_iff.mp yields
  obtain ⟨made, rfl, attempted⟩ := Asking.yields_calls_iff.mp calls
  cases (Session.yields_schedule_iff bare).mp attempted with
  | refused invalid =>
      obtain ⟨rfl, rfl⟩ := Dialogue.yields_done_iff.mp goesOn
      exact .refused invalid
  | scheduled valid id =>
      obtain ⟨_, rest, rfl, ends⟩ := Dialogue.yields_ask_iff.mp goesOn
      obtain ⟨rfl, rfl⟩ := Dialogue.yields_done_iff.mp ends
      exact .answered rfl (.ok id)
  | failed valid error =>
      obtain ⟨_, rest, rfl, ends⟩ := Dialogue.yields_ask_iff.mp goesOn
      obtain ⟨rfl, rfl⟩ := Dialogue.yields_done_iff.mp ends
      exact .answered rfl (.error error)

theorem Submitted.of_yields_paste {session : Session} {raw : String}
    {result : Except CommandError Unit}
    (yields : Yields (session.pasteAndSubmit raw) exchanges result) :
    Submitted (session.paste raw).1 (Told.of exchanges) result := by
  cases valid : (session.paste raw).2 with
  | true =>
      rw [Session.pasteAndSubmit_of_valid valid] at yields
      exact .of_yields (session.bare_paste raw) yields
  | false =>
      obtain ⟨error, -, refused⟩ := Session.pasteAndSubmit_of_invalid valid
      rw [refused] at yields
      obtain ⟨rfl, rfl⟩ := Dialogue.yields_done_iff.mp yields
      apply Submitted.refused
      rw [Session.raw_paste, ← session.valid_paste_eq raw, valid]

/-- Scheduling a signed transaction: the flags are rejected, or it is handed over once,
under the condition that they choose. -/
inductive Released (flags : ConditionFlags) (delay floor opened : UInt64)
    (raw : RawTransaction) : Told → Prop where
  | rejected {taken : List UInt64} {error : EditError}
      (rejected : Rejected flags floor (opened :: taken) error) :
      Released flags delay floor opened raw { readings := taken }
  | handed {taken : List UInt64} {condition : Condition}
      (answer : Except SchedulingError String) (lines : List String)
      (chosen : Chosen flags delay floor (opened :: taken) condition) :
      Released flags delay floor opened raw
        { readings := taken, handovers := [⟨condition, raw, answer⟩], lines }

theorem Released.of_yields {session : Session} {flags : ConditionFlags}
    {opened floor delay : UInt64} {raw : RawTransaction} {result : Except CommandError Unit}
    (opens : session.editor = .start opened floor delay) (stored : session.raw = raw.text)
    (yields : Yields ((session.applyCondition flags).andThen Session.submit) exchanges result) :
    Released flags delay floor opened raw (.of exchanges) := by
  obtain ⟨applying, verdict, submitting, rfl, applies, ends⟩ := Dialogue.yields_bind_iff.mp yields
  have applied := Applied.of_yields opens applies
  rw [Told.of_append]
  generalize Told.of applying = edited at applied
  cases applied with
  | rejected rejected =>
      obtain ⟨rfl, rfl⟩ := Dialogue.yields_done_iff.mp ends
      simp only [Told.of, Told.append_eq, Told.append, List.append_nil]
      exact .rejected rejected
  | @chosen taken now editor lines chosen announced =>
      -- What a raw transaction is stored as is read back as that one.
      have bare : Session.Bare { session with editor } := by
        rw [Session.Bare, stored, raw.trimmed_text]
      have submitted := Submitted.of_yields bare ends
      generalize Told.of submitting = sent at submitted
      cases submitted with
      | refused invalid =>
          rw [stored, raw.isRaw] at invalid
          contradiction
      | answered same answer =>
          obtain rfl := RawTransaction.eq_of_text (same.trans stored)
          simp only [Told.append_eq, Told.append, List.append_nil, List.nil_append]
          exact .handed answer _ (chosen.append [now])

end

end TimedRelease
