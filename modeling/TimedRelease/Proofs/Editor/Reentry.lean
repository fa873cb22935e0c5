import TimedRelease.Proofs.Editor.Announcement
import TimedRelease.Proofs.Editor.Gate
import TimedRelease.Proofs.Quantity.Literals

/-!
# Entering what is shown

The number beside the block text is always the one that the text gives, also where a
release from outside has put both there.  What the active mode shows can therefore be
entered again: it is accepted exactly when it lies ahead, which is when the summary
announces it and no hint is given.
-/

namespace TimedRelease

namespace Editor

/-- The edit that selects again what the active mode shows. -/
def resubmission (editor : Editor) (now : UInt64) : Edit :=
  match editor.mode with
  | .time => .selectTime now editor.time.target
  | .block => .editBlock editor.block.input

/-- The edit that commits the text which the active mode shows. -/
def commitment (editor : Editor) (now : UInt64) : Edit :=
  match editor.mode with
  | .time => .commitEcho now
  | .block => .editBlock editor.block.input

/-- The number beside the block text is the one that the text gives. -/
def ShowsReading (editor : Editor) : Prop :=
  editor.block.parsed = readBlock? editor.block.input

/-! ## Texts of numbers -/

theorem readSeconds_secondsText (seconds : UInt64) :
    readSeconds (secondsText seconds) = .ok seconds := by
  apply readSeconds_eq_ok_iff.mpr
  rw [secondsText, Text.decimalText, String.toList_ofList,
    (Text.isWord_decimal seconds.toNat).trim_eq]
  exact Text.integerText_decimal seconds.toNat

theorem readBlock?_hexText (number : UInt64) :
    readBlock? (Text.hexText number.toNat) = some number := by
  apply readBlock?_eq_some_iff.mpr
  have kept : (Text.hexText number.toNat).toList.filter (· != ',') =
      (Text.hexText number.toNat).toList := by
    apply List.filter_eq_self.mpr
    intro c member
    apply bne_iff_ne.mpr
    rintro rfl
    exact Text.comma_not_mem_hexText number.toNat member
  rw [(Text.isWord_hexText number.toNat).trim_eq, kept]
  exact Quantity.denotes_hexText number.toNat

/-! ## The number beside the block text -/

variable {editor next : Editor}

namespace ShowsReading

theorem start (clock floor delay : UInt64) : (start clock floor delay).ShowsReading := by
  change none = readBlock? ""
  decide

theorem showBlock (editor : Editor) (text : String) :
    (editor.showBlock text).ShowsReading := rfl

theorem showCondition (shows : editor.ShowsReading) (condition : Condition) :
    (editor.showCondition condition).ShowsReading := by
  cases condition with
  | time seconds => exact shows
  | block number => exact (readBlock?_hexText number).symm

theorem change {edit : Edit} {result : EditResult} (shows : editor.ShowsReading)
    (change : Change editor edit result next) : next.ShowsReading := by
  cases change with
  | blockAccepted | blockRefused | blockUnread => exact showBlock editor _
  | @adopted release other => exact shows.showCondition release.condition
  | _ => exact shows

theorem run (shows : editor.ShowsReading) (edits : List Edit) :
    (editor.run edits).ShowsReading := by
  induction edits generalizing editor with
  | nil => exact shows
  | cons edit rest induction => exact induction (shows.change (change_step editor edit))

end ShowsReading

/-! ## What is accepted -/

variable {edit : Edit} {condition : Condition} {release : Release} {now : UInt64}

theorem ahead_iff_isAhead (clock : condition.mode = .time → edit.clock? = some now) :
    Ahead editor edit condition ↔ condition.isAhead now editor.block.floor = true := by
  cases condition with
  | time seconds =>
      rw [Condition.isAhead, decide_eq_true_iff]
      constructor
      · intro ahead
        cases ahead with
        | time given later =>
            rw [clock rfl] at given
            injection given with same
            rwa [same]
      · exact .time (clock rfl)
  | block number =>
      rw [Condition.isAhead, decide_eq_true_iff]
      constructor
      · rintro ⟨⟩
        assumption
      · exact .block

theorem isNone_hint? (editor : Editor) (now : UInt64) :
    (editor.hint? now).isNone = (editor.announced? now).isSome := by
  cases mode : editor.mode with
  | time =>
      by_cases past : editor.time.target ≤ now
      · simp [hint?, announced?, mode, past, UInt64.not_lt.mpr past]
      · simp [hint?, announced?, mode, past, UInt64.not_le.mp past]
  | block =>
      cases valid : editor.block.valid? with
      | none => simp [hint?, announced?, mode, valid]
      | some number => simp [hint?, announced?, mode, valid]

theorem reads_resubmission_iff (shows : editor.ShowsReading) :
    Reads editor (editor.resubmission now) condition ↔
      editor.shown? editor.mode = some condition := by
  cases mode : editor.mode with
  | time =>
      simp only [resubmission, mode, shown?, Option.some.injEq]
      constructor
      · rintro ⟨⟩
        rfl
      · rintro rfl
        exact .selected _ _
  | block =>
      simp only [resubmission, mode, shown?, Option.map_eq_some_iff]
      constructor
      · rintro ⟨⟩
        case typed number denoted =>
          exact ⟨number, shows.trans (readBlock?_eq_some_iff.mpr denoted), rfl⟩
      · rintro ⟨number, parsed, rfl⟩
        exact .typed (readBlock?_eq_some_iff.mp (shows.symm.trans parsed))

/-- The texts of a release from outside are read as that release. -/
theorem reads_commitment_iff (shows : editor.ShowsReading)
    (echoes : editor.mode = .time → editor.time.echo = secondsText editor.time.target) :
    Reads editor (editor.commitment now) condition ↔
      editor.shown? editor.mode = some condition := by
  cases mode : editor.mode with
  | time =>
      have read : readSeconds editor.time.echo = .ok editor.time.target := by
        rw [echoes mode, readSeconds_secondsText]
      simp only [commitment, mode, shown?, Option.some.injEq]
      constructor
      · rintro ⟨⟩
        case committed seconds denoted =>
          have same := read.symm.trans (readSeconds_eq_ok_iff.mpr denoted)
          injection same with same
          rw [same]
      · rintro rfl
        exact .committed (readSeconds_eq_ok_iff.mp read)
  | block =>
      have same : editor.commitment now = editor.resubmission now := by
        simp only [commitment, resubmission, mode]
      rw [same, reads_resubmission_iff shows, mode]

theorem clock?_resubmission (mode : editor.mode = .time) :
    (editor.resubmission now).clock? = some now := by
  rw [resubmission, mode]
  rfl

theorem clock?_commitment (mode : editor.mode = .time) :
    (editor.commitment now).clock? = some now := by
  rw [commitment, mode]
  rfl

/-- An edit that reads what is shown is accepted with what is announced. -/
theorem accepted_iff_announced
    (reads : ∀ {condition}, Reads editor edit condition ↔
      editor.shown? editor.mode = some condition)
    (clock : editor.mode = .time → edit.clock? = some now) :
    (editor.step edit).2 = .accepted release ↔
      ∃ condition, editor.announced? now = some condition ∧
        release = editor.nextRelease condition := by
  rw [step_eq_accepted_iff]
  apply exists_congr
  intro condition
  rw [reads, announced?_eq, Option.filter_eq_some_iff, and_assoc]
  apply and_congr_right
  intro shown
  rw [ahead_iff_isAhead fun time => clock ((mode_of_shown? shown).symm.trans time)]

/-- At every point of a run and at every time the editor gives either a summary or a hint,
and it gives a summary exactly when what the active mode shows, entered again, would be
accepted; the summary then announces the condition that this would put into effect. -/
theorem summary_iff_resubmission (clock floor delay : UInt64) (edits : List Edit)
    (now : UInt64) :
    let editor := (start clock floor delay).run edits
    let result := (editor.step (editor.resubmission now)).2
    (editor.summary? now).isSome = (editor.hint? now).isNone ∧
      ((editor.summary? now).isSome = true ↔ ∃ release, result = .accepted release) ∧
      ∀ release, result = .accepted release →
        editor.summary? now = some (announcement release.condition) := by
  intro editor result
  have shows : editor.ShowsReading := (ShowsReading.start clock floor delay).run edits
  have accepted {release : Release} : result = .accepted release ↔
      ∃ condition, editor.announced? now = some condition ∧
        release = editor.nextRelease condition :=
    accepted_iff_announced (reads_resubmission_iff shows) clock?_resubmission
  refine ⟨?_, ?_, ?_⟩
  · rw [summary?, Option.isSome_map, isNone_hint?]
  · rw [summary?, Option.isSome_map, Option.isSome_iff_exists]
    constructor
    · rintro ⟨condition, announced⟩
      exact ⟨_, accepted.mpr ⟨condition, announced, rfl⟩⟩
    · rintro ⟨release, taken⟩
      obtain ⟨condition, announced, -⟩ := accepted.mp taken
      exact ⟨condition, announced⟩
  · intro release taken
    obtain ⟨condition, announced, rfl⟩ := accepted.mp taken
    rw [summary?, announced]
    rfl

/-- A block from outside is announced until the floor reaches it. -/
theorem external_block_resubmitted :
    let external : Release := ⟨.supplied 0, .block 500⟩
    let editor := (start 1700000000 100 10800).run [.applyExternal external]
    let overtaken := (start 1700000000 100 10800).run [.applyExternal external, .setFloor 500]
    (editor.step (editor.resubmission 1700000001)).2 = .accepted ⟨.issued 1, .block 500⟩ ∧
      editor.summary? 1700000001 = some (announcement (.block 500)) ∧
      overtaken.hint? 1700000001 = some (.blockNotAboveFloor 500 500) ∧
      overtaken.summary? 1700000001 = none := by
  intro external editor overtaken
  have taken : (editor.step (editor.resubmission 1700000001)).2 =
      .accepted ⟨.issued 1, .block 500⟩ := by decide +kernel
  have hint : overtaken.hint? 1700000001 = some (.blockNotAboveFloor 500 500) := by
    decide +kernel
  obtain ⟨-, -, announces⟩ :=
    summary_iff_resubmission 1700000000 100 10800 [.applyExternal external] 1700000001
  obtain ⟨either, -, -⟩ := summary_iff_resubmission 1700000000 100 10800
    [.applyExternal external, .setFloor 500] 1700000001
  have silent : (overtaken.summary? 1700000001).isSome = false := by
    rw [either, hint]
    rfl
  exact ⟨taken, announces _ taken, hint, Option.isNone_iff_eq_none.mp (by simpa using silent)⟩

/-- The editor shows the condition of a release from outside, as a text and as a number. -/
structure Seeded (editor next : Editor) (condition : Condition) : Prop where
  mode : next.mode = condition.mode
  shown : next.shown? condition.mode = some condition
  echoes : condition.mode = .time → next.time.echo = secondsText next.time.target
  floor : next.block.floor = editor.block.floor

theorem Seeded.of_other (other : release ≠ editor.current) :
    Seeded editor (editor.step (.applyExternal release)).1 release.condition := by
  simp only [step, applyExternal, if_neg other]
  cases release.condition with
  | time seconds => exact ⟨rfl, rfl, fun _ => rfl, rfl⟩
  | block number =>
      refine ⟨rfl, rfl, ?_, rfl⟩
      intro isTime
      contradiction

/-- At every point of a run the number beside the block text is the one that the text gives,
and it stays so when a release from outside is taken over.  Its mode is then active, and
committing what is shown there is accepted exactly when the condition lies ahead, and
puts an equal condition into effect. -/
theorem external_release_recommitted (clock floor delay : UInt64) (edits : List Edit) :
    let editor := (start clock floor delay).run edits
    editor.block.parsed = readBlock? editor.block.input ∧
      ∀ release, release ≠ editor.current →
        let next := (editor.step (.applyExternal release)).1
        next.block.parsed = readBlock? next.block.input ∧
          next.mode = release.condition.mode ∧
          ∀ now,
            ((∃ issued, (next.step (next.commitment now)).2 = .accepted issued) ↔
              release.condition.isAhead now editor.block.floor = true) ∧
            ∀ issued, (next.step (next.commitment now)).2 = .accepted issued →
              issued.condition = release.condition := by
  intro editor
  have shows : editor.ShowsReading := (ShowsReading.start clock floor delay).run edits
  refine ⟨shows, ?_⟩
  intro release other next
  have seeded : Seeded editor next release.condition := .of_other other
  have nextShows : next.ShowsReading := shows.change (change_step editor _)
  refine ⟨nextShows, seeded.mode, ?_⟩
  intro now
  have announced : next.announced? now =
      if release.condition.isAhead now editor.block.floor then some release.condition
      else none := by
    rw [announced?_eq, seeded.mode, seeded.shown, seeded.floor, Option.filter_some]
  have echoes : next.mode = .time → next.time.echo = secondsText next.time.target := by
    rw [seeded.mode]
    exact seeded.echoes
  have accepted {issued : Release} : (next.step (next.commitment now)).2 = .accepted issued ↔
      ∃ condition, next.announced? now = some condition ∧
        issued = next.nextRelease condition :=
    accepted_iff_announced (reads_commitment_iff nextShows echoes) clock?_commitment
  simp only [accepted, announced, Option.ite_none_right_eq_some, Option.some.injEq]
  constructor
  · constructor
    · rintro ⟨issued, condition, ⟨ahead, -⟩, -⟩
      exact ahead
    · intro ahead
      exact ⟨_, release.condition, ⟨ahead, rfl⟩, rfl⟩
  · rintro issued ⟨condition, ⟨-, rfl⟩, rfl⟩
    rfl

/-- A block from outside is shown in base sixteen and committed, and a time that has passed
is shown and refused. -/
theorem external_block_recommitted :
    let editor := (start 1700000000 100 10800).run [.setFloor 499]
    let block : Release := ⟨.supplied 0, .block 500⟩
    let time : Release := ⟨.supplied 1, .time 1700000000⟩
    let withBlock := (editor.step (.applyExternal block)).1
    let withTime := (editor.step (.applyExternal time)).1
    block ≠ editor.current ∧ time ≠ editor.current ∧
      withBlock.block.input = "0x1f4" ∧ withBlock.mode = .block ∧
      (∃ issued, (withBlock.step (withBlock.commitment 1700000000)).2 = .accepted issued ∧
        issued.condition = .block 500) ∧
      withTime.time.echo = "1700000000" ∧ withTime.mode = .time ∧
      ¬∃ issued, (withTime.step (withTime.commitment 1700000000)).2 = .accepted issued := by
  intro editor block time withBlock withTime
  have otherBlock : block ≠ editor.current := by decide
  have otherTime : time ≠ editor.current := by decide
  obtain ⟨-, adopts⟩ := external_release_recommitted 1700000000 100 10800 [.setFloor 499]
  obtain ⟨-, blockMode, blockCommits⟩ := adopts block otherBlock
  obtain ⟨-, timeMode, timeCommits⟩ := adopts time otherTime
  obtain ⟨accepted, yields⟩ := blockCommits 1700000000
  obtain ⟨issued, taken⟩ := accepted.mpr (by decide)
  refine ⟨otherBlock, otherTime, by decide, blockMode, ⟨issued, taken, yields issued taken⟩,
    by decide, timeMode, ?_⟩
  rw [(timeCommits 1700000000).1]
  decide

end Editor

end TimedRelease
