import TimedRelease.Proofs.Editor.Publication
import TimedRelease.Proofs.Quantity.Grammar
import TimedRelease.Proofs.Text.Numerals

/-!
# What is let through

An edit that asks for a release reads a condition, or reads nothing.  It is accepted
exactly when it reads a time later than the clock or a block above the floor, both as
they are at that edit; a refusal names what was read and the bound, or the text.  No
subscriber is told of anything else.
-/

namespace TimedRelease

/-- The reading of the clock that an edit takes. -/
def Edit.clock? : Edit → Option UInt64
  | .selectTime now _ => some now
  | .commitEcho now => some now
  | _ => none

namespace Editor

/-- The text that an edit reads, if it reads one. -/
def source? (editor : Editor) : Edit → Option String
  | .commitEcho _ => some editor.time.echo
  | .editBlock text => some text
  | _ => none

/-- What an edit reads: the seconds it is given, the seconds in the field as a trimmed
numeral of 64 bits, or a block number of 64 bits as a typed quantity, commas aside. -/
inductive Reads (editor : Editor) : Edit → Condition → Prop where
  | selected (now seconds : UInt64) :
      Reads editor (.selectTime now seconds) (.time seconds)
  | committed {now seconds : UInt64}
      (denoted : Text.IntegerText 10 Text.isDecimalDigit
        (Text.trim editor.time.echo.toList) seconds.toNat) :
      Reads editor (.commitEcho now) (.time seconds)
  | typed {text : String} {number : UInt64}
      (denoted : Quantity.Denotes
        (Text.lowerCase ((Text.trim text.toList).filter (· != ','))) number.toNat) :
      Reads editor (.editBlock text) (.block number)

/-- The condition lies ahead at an edit: later than the clock, or above the floor. -/
inductive Ahead (editor : Editor) (edit : Edit) : Condition → Prop where
  | time {now seconds : UInt64} (clock : edit.clock? = some now) (later : now < seconds) :
      Ahead editor edit (.time seconds)
  | block {number : UInt64} (above : editor.block.floor < number) :
      Ahead editor edit (.block number)

/-- What an edit that asks for a release gives back. -/
inductive Verdict (editor : Editor) (edit : Edit) : EditResult → Prop where
  | accepted {condition : Condition} (reads : Reads editor edit condition)
      (ahead : Ahead editor edit condition) :
      Verdict editor edit (.accepted (editor.nextRelease condition))
  | past {now seconds : UInt64} (reads : Reads editor edit (.time seconds))
      (clock : edit.clock? = some now) (past : seconds ≤ now) :
      Verdict editor edit (.refused (.timeNotInFuture seconds now))
  | low {number : UInt64} (reads : Reads editor edit (.block number))
      (low : number ≤ editor.block.floor) :
      Verdict editor edit (.refused (.blockNotAboveFloor number editor.block.floor))
  | unread {text : String} (source : editor.source? edit = some text)
      (nothing : ∀ condition, ¬Reads editor edit condition) :
      Verdict editor edit (.refused (.invalidInput text))

/-! ## Reading -/

theorem readSeconds_eq_ok_iff {text : String} {seconds : UInt64} :
    readSeconds text = .ok seconds ↔
      Text.IntegerText 10 Text.isDecimalDigit (Text.trim text.toList) seconds.toNat :=
  Text.readUInt64_eq_ok_iff

theorem readBlock?_eq_some_iff_read? {text : String} {number : UInt64} :
    readBlock? text = some number ↔
      ∃ word, Quantity.read? ((Text.trim text.toList).filter (· != ',')) = some word ∧
        word.toNat = number.toNat := by
  simp only [readBlock?]
  cases given : Quantity.read? ((Text.trim text.toList).filter (· != ',')) with
  | none => simp
  | some word =>
      by_cases fits : word.toNat < UInt64.size
      · simp only [fits, if_true, Option.some.injEq, exists_eq_left']
        constructor
        · rintro rfl
          rw [UInt64.toNat_ofNat_of_lt' fits]
        · intro same
          rw [same, UInt64.ofNat_toNat]
      · simp only [fits, if_false, Option.some.injEq, exists_eq_left', false_iff, reduceCtorEq]
        intro same
        exact fits (same ▸ number.toNat_lt_size)

theorem readBlock?_eq_some_iff {text : String} {number : UInt64} :
    readBlock? text = some number ↔
      Quantity.Denotes (Text.lowerCase ((Text.trim text.toList).filter (· != ',')))
        number.toNat := by
  rw [readBlock?_eq_some_iff_read?]
  constructor
  · rintro ⟨word, given, same⟩
    rw [← same]
    exact Quantity.readLowered?_eq_some_iff.mp given
  · intro denoted
    have fits : number.toNat < Word256.size := by
      have small := number.toNat_lt
      have larger : 2 ^ 64 < Word256.size := by decide
      omega
    let word : Word256 := ⟨number.toNat, fits⟩
    have given : Quantity.readLowered?
        (Text.lowerCase ((Text.trim text.toList).filter (· != ','))) = some word :=
      Quantity.readLowered?_eq_some_iff.mpr denoted
    exact ⟨word, given, rfl⟩

/-! ## Verdicts -/

theorem Verdict.of_change {editor next : Editor} {edit : Edit} {result : EditResult}
    (change : Change editor edit result next) (asks : edit.asks = true) :
    Verdict editor edit result := by
  cases change with
  | timeAccepted later => exact .accepted (.selected _ _) (.time rfl later)
  | timeRefused past => exact .past (.selected _ _) rfl past
  | echoAccepted read later =>
      exact .accepted (.committed (readSeconds_eq_ok_iff.mp read)) (.time rfl later)
  | echoRefused read past =>
      exact .past (.committed (readSeconds_eq_ok_iff.mp read)) rfl past
  | echoUnread unread =>
      apply Verdict.unread rfl
      rintro condition ⟨⟩
      case committed seconds denoted =>
        rw [readSeconds_eq_ok_iff.mpr denoted] at unread
        contradiction
  | blockAccepted read above =>
      exact .accepted (.typed (readBlock?_eq_some_iff.mp read)) (.block above)
  | blockRefused read below => exact .low (.typed (readBlock?_eq_some_iff.mp read)) below
  | blockUnread unread =>
      apply Verdict.unread rfl
      rintro condition ⟨⟩
      case typed number denoted =>
        rw [readBlock?_eq_some_iff.mpr denoted] at unread
        contradiction
  | setMode mode => contradiction
  | editEcho now text => contradiction
  | toggleFineTune => contradiction
  | setFloor floor => contradiction
  | adopted other => contradiction
  | inEffect => contradiction

theorem Verdict.step {editor : Editor} {edit : Edit} {result : EditResult}
    (verdict : Verdict editor edit result) : (editor.step edit).2 = result := by
  cases verdict with
  | accepted reads ahead =>
      cases reads with
      | selected now seconds =>
          cases ahead with
          | time clock later =>
              cases clock
              simp [Editor.step, selectTime_of_later editor later]
      | committed denoted =>
          have read := readSeconds_eq_ok_iff.mpr denoted
          cases ahead with
          | time clock later =>
              cases clock
              simp [Editor.step, commitEcho, read, selectTime_of_later editor later]
      | typed denoted =>
          have read := readBlock?_eq_some_iff.mpr denoted
          cases ahead with
          | block above => simp [Editor.step, editBlock_of_above editor read above]
  | past reads clock past =>
      cases reads with
      | selected now seconds =>
          cases clock
          simp [Editor.step, selectTime_of_past editor past]
      | committed denoted =>
          have read := readSeconds_eq_ok_iff.mpr denoted
          cases clock
          simp [Editor.step, commitEcho, read, selectTime_of_past editor past]
  | low reads low =>
      cases reads with
      | typed denoted =>
          have read := readBlock?_eq_some_iff.mpr denoted
          simp [Editor.step, editBlock_of_below editor read low]
  | unread source nothing =>
      cases edit with
      | commitEcho now =>
          injection source with source
          subst source
          cases read : readSeconds editor.time.echo with
          | ok seconds => exact (nothing _ (.committed (readSeconds_eq_ok_iff.mp read))).elim
          | error fault => simp [Editor.step, commitEcho, read]
      | editBlock text =>
          injection source with source
          subst source
          cases read : readBlock? text with
          | some number => exact (nothing _ (.typed (readBlock?_eq_some_iff.mp read))).elim
          | none => simp [Editor.step, editBlock_of_unread editor read]
      | _ => contradiction

/-- An edit that asks for a release gives back its verdict, and nothing else is one. -/
theorem step_iff_verdict (editor : Editor) {edit : Edit} (asks : edit.asks = true)
    (result : EditResult) : (editor.step edit).2 = result ↔ Verdict editor edit result := by
  constructor
  · rintro rfl
    exact .of_change (change_step editor edit) asks
  · exact Verdict.step

theorem step_eq_accepted_iff {editor : Editor} {edit : Edit} {release : Release} :
    (editor.step edit).2 = .accepted release ↔
      ∃ condition, Reads editor edit condition ∧ Ahead editor edit condition ∧
        release = editor.nextRelease condition := by
  constructor
  · intro accepted
    have published := Publication.of_change (change_step editor edit)
    have asks := (published.accepted release accepted).1
    cases (step_iff_verdict editor asks _).mp accepted with
    | accepted reads ahead => exact ⟨_, reads, ahead, rfl⟩
  · rintro ⟨condition, reads, ahead, rfl⟩
    exact (Verdict.accepted reads ahead).step

/-! ## What subscribers are told -/

/-- The edit tells subscribers of a release: it has read its condition, which lies ahead,
and the release is in the channel. -/
structure Tells (editor : Editor) (edit : Edit) (release : Release) : Prop where
  accepted : (editor.step edit).2 = .accepted release
  inChannel : (editor.step edit).1.channel.value = release
  reads : Reads editor edit release.condition
  ahead : Ahead editor edit release.condition

theorem Tells.of_accepted {editor : Editor} {edit : Edit} {release : Release}
    (accepted : (editor.step edit).2 = .accepted release) : Tells editor edit release := by
  have published := Publication.of_change (change_step editor edit)
  obtain ⟨-, -, inChannel⟩ := published.accepted release accepted
  obtain ⟨condition, reads, ahead, rfl⟩ := step_eq_accepted_iff.mp accepted
  exact ⟨accepted, inChannel, reads, ahead⟩

theorem exists_tells_of_isNotified {editor : Editor} {edit : Edit}
    (told : editor.channel.subscribe.isNotified (editor.step edit).1.channel = true) :
    ∃ release, Tells editor edit release := by
  have published := Publication.of_change (change_step editor edit)
  cases same : (editor.step edit).2 with
  | accepted release => exact ⟨release, .of_accepted same⟩
  | _ => simp [Receiver.isNotified, Channel.subscribe, published.told, same,
      EditResult.isAccepted] at told

/-- An edit that is not accepted leaves the channel alone, or takes over a release from
outside without telling anybody. -/
theorem channel_of_not_accepted {editor : Editor} {edit : Edit}
    (refused : (editor.step edit).2.isAccepted = false) :
    (editor.step edit).1.channel.version = editor.channel.version ∧
      ((editor.step edit).1.channel.value = editor.channel.value ∨
        edit = .applyExternal (editor.step edit).1.channel.value) := by
  have change := change_step editor edit
  have told := (Publication.of_change change).told
  rw [refused] at told
  refine ⟨by simpa using told, ?_⟩
  generalize (editor.step edit).1 = next at change
  generalize (editor.step edit).2 = result at change refused
  cases change with
  | timeAccepted later => contradiction
  | echoAccepted read later => contradiction
  | blockAccepted read above => contradiction
  | adopted other => exact .inr rfl
  | _ => exact .inl rfl

theorem run_concat (editor : Editor) (edits : List Edit) (edit : Edit) :
    editor.run (edits ++ [edit]) = ((editor.run edits).step edit).1 := by
  simp [run]

/-- A subscriber who has been told finds in the channel what it was last told of, unless a
release from outside has taken its place since. -/
theorem exists_last_tells {noted : Editor} {later : List Edit}
    (told : noted.channel.subscribe.isNotified (noted.run later).channel = true) :
    ∃ before edit after release, later = before ++ edit :: after ∧
      Tells (noted.run before) edit release ∧
        ((noted.run later).channel.value = release ∨
          .applyExternal (noted.run later).channel.value ∈ after) := by
  -- From the end of the run: its last edit tells, or whatever told stands before it.
  induction later using List.reverseRecOn with
  | nil => simp [Receiver.isNotified, Channel.subscribe] at told
  | append_singleton before edit induction =>
      rw [run_concat] at told ⊢
      cases accepted : ((noted.run before).step edit).2.isAccepted with
      | true =>
          obtain ⟨release, given⟩ : ∃ release,
              ((noted.run before).step edit).2 = .accepted release := by
            cases result : ((noted.run before).step edit).2 <;>
              simp_all [EditResult.isAccepted]
          have tells := Tells.of_accepted given
          exact ⟨before, edit, [], release, rfl, tells, .inl tells.inChannel⟩
      | false =>
          obtain ⟨sameVersion, value⟩ := channel_of_not_accepted accepted
          have toldBefore :
              noted.channel.subscribe.isNotified (noted.run before).channel = true := by
            rw [← told, Receiver.isNotified, Receiver.isNotified, sameVersion]
          obtain ⟨first, teller, after, release, rfl, tells, holds⟩ := induction toldBefore
          refine ⟨first, teller, after ++ [edit], release, by simp, tells, ?_⟩
          rcases value with same | external
          · rw [same]
            rcases holds with here | replaced
            · exact .inl here
            · exact .inr (List.mem_append_left _ replaced)
          · refine .inr (List.mem_append_right _ ?_)
            rw [← external]
            exact List.mem_singleton_self edit

/-- At every point of a run an edit that asks for a release is accepted, or refused with
what it read and the bound or with its text, as its verdict says.  Subscribers are told
only of conditions that are read and lie ahead at the edit that publishes them: whoever
looks after every edit finds that condition in the channel, and whoever looks later finds
the last of them, unless a release from outside has silently taken its place. -/
theorem gate_of_run (clock floor delay : UInt64) (earlier later : List Edit) :
    let noted := (start clock floor delay).run earlier
    (∀ edit result, edit.asks = true →
      ((noted.step edit).2 = result ↔ Verdict noted edit result)) ∧
    (∀ edit, noted.channel.subscribe.isNotified (noted.step edit).1.channel = true →
      ∃ release, Tells noted edit release) ∧
    (noted.channel.subscribe.isNotified (noted.run later).channel = true →
      ∃ before edit after release, later = before ++ edit :: after ∧
        Tells (noted.run before) edit release ∧
          ((noted.run later).channel.value = release ∨
            .applyExternal (noted.run later).channel.value ∈ after)) := by
  intro noted
  refine ⟨?_, ?_, exists_last_tells⟩
  · intro edit result asks
    exact step_iff_verdict noted asks result
  · intro edit told
    exact exists_tells_of_isNotified told

/-- A block at the floor is refused and the next one is told of, but a reader who comes
late finds a time in the past that was taken over from outside. -/
theorem late_reader_finds_external :
    let noted := (start 1000 100 60).run [.setFloor 149]
    let external : Release := ⟨.supplied 0, .time 7⟩
    let later : List Edit := [.editBlock "0x96", .applyExternal external]
    Verdict noted (.editBlock "0x95") (.refused (.blockNotAboveFloor 149 149)) ∧
      (∃ release, Tells noted (.editBlock "0x96") release) ∧
      (noted.run later).channel.value = external ∧
      ∃ before edit after release, later = before ++ edit :: after ∧
        Tells (noted.run before) edit release ∧
          (external = release ∨ .applyExternal external ∈ after) := by
  intro noted external later
  obtain ⟨verdicts, tells, late⟩ := gate_of_run 1000 100 60 [.setFloor 149] later
  have refused : (noted.step (.editBlock "0x95")).2 =
      .refused (.blockNotAboveFloor 149 149) := by decide
  exact ⟨(verdicts _ _ rfl).mp refused, tells (.editBlock "0x96") (by decide), by decide,
    late (by decide)⟩

end Editor

end TimedRelease
