import TimedRelease.Proofs.Editor.Announcement
import TimedRelease.Proofs.Editor.Gate

/-!
# Seconds as typed

While seconds are typed they are marked as wrong unless they lie in the future, and once
they are committed they are read again and held against the clock as it is then.  The
two agree at one time, and what was wrong before is wrong later.  Nothing in between
that leaves the field for seconds alone has a say in it.
-/

namespace TimedRelease

/-- The edit leaves the seconds as typed and their mark alone. -/
def Edit.sparesEcho : Edit → Bool
  | .setMode _ => true
  | .toggleFineTune => true
  | .editBlock _ => true
  | .setFloor _ => true
  | .applyExternal release => release.condition.mode == .block
  | _ => false

namespace Editor

/-- The text is a 64-bit number in base ten, blanks around it aside. -/
def SecondsText (text : String) (seconds : UInt64) : Prop :=
  Text.IntegerText 10 Text.isDecimalDigit (Text.trim text.toList) seconds.toNat

variable {editor : Editor} {text : String} {now : UInt64}

theorem readSeconds_eq_ok_iff_secondsText {seconds : UInt64} :
    readSeconds text = .ok seconds ↔ SecondsText text seconds :=
  readSeconds_eq_ok_iff

/-! ## The check -/

theorem isFutureText_iff :
    isFutureText now text = true ↔ ∃ seconds, SecondsText text seconds ∧ now < seconds := by
  simp only [isFutureText, ← readSeconds_eq_ok_iff_secondsText]
  cases readSeconds text with
  | ok seconds => simp
  | error fault => simp

/-- What lies in the future lay there before. -/
theorem isFutureText_of_le {earlier : UInt64} (order : earlier ≤ now)
    (future : isFutureText now text = true) : isFutureText earlier text = true := by
  obtain ⟨seconds, denoted, later⟩ := isFutureText_iff.mp future
  exact isFutureText_iff.mpr ⟨seconds, denoted, UInt64.lt_of_le_of_lt order later⟩

/-! ## What comes in between -/

theorem echo_step_of_spares (editor : Editor) {edit : Edit} (spares : edit.sparesEcho = true) :
    (editor.step edit).1.time.echo = editor.time.echo ∧
      (editor.step edit).1.time.echoError = editor.time.echoError := by
  have change := change_step editor edit
  generalize (editor.step edit).1 = next at change ⊢
  generalize (editor.step edit).2 = result at change
  cases change with
  | timeAccepted | timeRefused | editEcho | echoAccepted | echoRefused | echoUnread =>
      contradiction
  | @adopted release other =>
      cases shown : release.condition with
      | time seconds => simp [Edit.sparesEcho, shown, Condition.mode] at spares
      | block number => exact ⟨rfl, rfl⟩
  | _ => exact ⟨rfl, rfl⟩

theorem echo_run_of_spares (editor : Editor) {edits : List Edit}
    (spares : ∀ edit ∈ edits, edit.sparesEcho = true) :
    (editor.run edits).time.echo = editor.time.echo ∧
      (editor.run edits).time.echoError = editor.time.echoError := by
  induction edits generalizing editor with
  | nil => exact ⟨rfl, rfl⟩
  | cons edit rest induction =>
      obtain ⟨sparesFirst, sparesRest⟩ := List.forall_mem_cons.mp spares
      obtain ⟨echo, mark⟩ := editor.echo_step_of_spares sparesFirst
      obtain ⟨echoes, marks⟩ := induction (editor.step edit).1 sparesRest
      exact ⟨echoes.trans echo, marks.trans mark⟩

/-! ## The commit -/

theorem accepted_commitEcho_iff {release : Release} :
    (editor.step (.commitEcho now)).2 = .accepted release ↔
      ∃ seconds, SecondsText editor.time.echo seconds ∧ now < seconds ∧
        release = editor.nextRelease (.time seconds) := by
  rw [step_eq_accepted_iff]
  constructor
  · rintro ⟨condition, reads, ahead, rfl⟩
    cases reads with
    | committed denoted =>
        cases ahead with
        | time clock later =>
            cases clock
            exact ⟨_, denoted, later, rfl⟩
  · rintro ⟨seconds, denoted, later, rfl⟩
    exact ⟨_, .committed denoted, .time rfl later, rfl⟩

/-- A commit is accepted as the check would judge the text at that time. -/
theorem exists_accepted_commitEcho_iff :
    (∃ release, (editor.step (.commitEcho now)).2 = .accepted release) ↔
      isFutureText now editor.time.echo = true := by
  rw [isFutureText_iff]
  constructor
  · rintro ⟨release, accepted⟩
    obtain ⟨seconds, denoted, later, -⟩ := accepted_commitEcho_iff.mp accepted
    exact ⟨seconds, denoted, later⟩
  · rintro ⟨seconds, denoted, later⟩
    exact ⟨_, accepted_commitEcho_iff.mpr ⟨seconds, denoted, later, rfl⟩⟩

theorem exists_refused_commitEcho (past : isFutureText now editor.time.echo = false) :
    ∃ error, (editor.step (.commitEcho now)).2 = .refused error := by
  cases result : (editor.commitEcho now).2 with
  | error error => exact ⟨error, by simp [step, result]⟩
  | ok release =>
      have accepted : (editor.step (.commitEcho now)).2 = .accepted release := by
        simp [step, result]
      rw [exists_accepted_commitEcho_iff.mp ⟨release, accepted⟩] at past
      contradiction

theorem step_commitEcho_of_later {seconds : UInt64}
    (denoted : SecondsText editor.time.echo seconds) (later : now < seconds) :
    editor.step (.commitEcho now) =
      (((editor.showTime seconds).accept (.time seconds)).1,
        .accepted (editor.nextRelease (.time seconds))) := by
  have read := readSeconds_eq_ok_iff_secondsText.mpr denoted
  simp [step, commitEcho, read, selectTime_of_later editor later]

theorem step_commitEcho_of_unread
    (unread : ∀ seconds, ¬SecondsText editor.time.echo seconds) :
    editor.step (.commitEcho now) =
      (editor, .refused (.invalidInput editor.time.echo)) := by
  cases read : readSeconds editor.time.echo with
  | ok seconds => exact (unread seconds (readSeconds_eq_ok_iff_secondsText.mp read)).elim
  | error fault => simp [step, commitEcho, read]

/-- Seconds are typed, and committed after edits that leave them alone.  The commit is
accepted exactly when the text is a number later than the clock: at the time of typing
exactly when it was not marked as wrong, and later only then.  An accepted number is
selected, in effect, and shown as it is written; a text that is no number is refused as
it was typed, and changes nothing. -/
theorem commit_agrees_with_check (editor : Editor) (text : String)
    (checked committed : UInt64) {between : List Edit}
    (spares : ∀ edit ∈ between, edit.sparesEcho = true) :
    let before := (editor.editEcho checked text).run between
    let after := (before.step (.commitEcho committed)).1
    let result := (before.step (.commitEcho committed)).2
    ((∃ release, result = .accepted release) ↔
        ∃ seconds, SecondsText text seconds ∧ committed < seconds) ∧
      (checked = committed →
        ((∃ release, result = .accepted release) ↔ before.time.echoError = false)) ∧
      (checked ≤ committed → before.time.echoError = true →
        ∃ error, result = .refused error) ∧
      (∀ release, result = .accepted release →
        ∃ seconds, SecondsText text seconds ∧ committed < seconds ∧
          release.condition = .time seconds ∧ after.current = release ∧
          after.time.target = seconds ∧ after.time.echo = secondsText seconds) ∧
      ((∀ seconds, ¬SecondsText text seconds) →
        result = .refused (.invalidInput text) ∧ after = before) := by
  intro before after result
  obtain ⟨echo, mark⟩ : before.time.echo = text ∧
      before.time.echoError = !isFutureText checked text :=
    echo_run_of_spares (editor.editEcho checked text) spares
  have accepted : (∃ release, result = .accepted release) ↔
      isFutureText committed text = true := by
    rw [← echo]
    exact exists_accepted_commitEcho_iff
  refine ⟨accepted.trans isFutureText_iff, ?_, ?_, ?_, ?_⟩
  · rintro rfl
    rw [accepted, mark, Bool.not_eq_false']
  · intro order wrong
    apply exists_refused_commitEcho
    rw [echo]
    apply Bool.eq_false_iff.mpr
    intro future
    rw [mark, isFutureText_of_le order future] at wrong
    contradiction
  · intro release taken
    obtain ⟨seconds, denoted, later, rfl⟩ := accepted_commitEcho_iff.mp taken
    have shown : after = ((before.showTime seconds).accept (.time seconds)).1 :=
      congrArg Prod.fst (step_commitEcho_of_later denoted later)
    rw [echo] at denoted
    exact ⟨seconds, denoted, later, rfl, by rw [shown]; rfl, by rw [shown]; rfl,
      by rw [shown]; rfl⟩
  · intro unread
    rw [← echo] at unread ⊢
    have refused : before.step (.commitEcho committed) =
        (before, .refused (.invalidInput before.time.echo)) :=
      step_commitEcho_of_unread unread
    exact ⟨congrArg Prod.snd refused, congrArg Prod.fst refused⟩

/-- A number behind a plus sign is accepted, one that was not later than the clock is
refused, and so is a word. -/
theorem typed_seconds_committed :
    let editor := start 1700000000 100 defaultDelay
    let between : List Edit := [.setMode .block, .editBlock "150", .toggleFineTune, .setFloor 200]
    let signed := (editor.editEcho 1700000000 " +1700000060 ").run between
    let stale := (editor.editEcho 1700000000 "1700000000").run between
    let word := (editor.editEcho 1700000000 " soon").run between
    (∀ edit ∈ between, edit.sparesEcho = true) ∧
      signed.time.echoError = false ∧
      (∃ release, (signed.step (.commitEcho 1700000000)).2 = .accepted release ∧
        ∃ seconds, SecondsText " +1700000060 " seconds ∧ release.condition = .time seconds) ∧
      stale.time.echoError = true ∧
      (∃ error, (stale.step (.commitEcho 1700000030)).2 = .refused error) ∧
      (∀ seconds, ¬SecondsText " soon" seconds) ∧
      (word.step (.commitEcho 1700000030)).2 = .refused (.invalidInput " soon") := by
  intro editor between signed stale word
  have spares : ∀ edit ∈ between, edit.sparesEcho = true := by decide
  have clear : signed.time.echoError = false := by decide
  have wrong : stale.time.echoError = true := by decide
  have nothing : ∀ seconds, ¬SecondsText " soon" seconds := by
    intro seconds denoted
    have read := readSeconds_eq_ok_iff_secondsText.mpr denoted
    contradiction
  obtain ⟨-, judged, -, taken, -⟩ :=
    commit_agrees_with_check editor " +1700000060 " 1700000000 1700000000 spares
  obtain ⟨release, accepted⟩ := (judged rfl).mpr clear
  obtain ⟨seconds, denoted, -, same, -⟩ := taken release accepted
  obtain ⟨-, -, refused, -, -⟩ :=
    commit_agrees_with_check editor "1700000000" 1700000000 1700000030 spares
  obtain ⟨-, -, -, -, unread⟩ :=
    commit_agrees_with_check editor " soon" 1700000000 1700000030 spares
  exact ⟨spares, clear, ⟨release, accepted, seconds, denoted, same⟩, wrong,
    refused (by decide) wrong, nothing, (unread nothing).1⟩

end Editor

end TimedRelease
