import TimedRelease.Proofs.Editor.Change

/-!
# Who is told of a release

The editor and its channel hold the same release at every point of a run.
Subscribers are told by accepted edits alone: taking over a release from outside
replaces the one in the channel silently, and every other edit leaves it there.
-/

namespace TimedRelease

/-- The edits that ask for a release. -/
def Edit.asks : Edit → Bool
  | .selectTime _ _ => true
  | .commitEcho _ => true
  | .editBlock _ => true
  | _ => false

/-- The edit was accepted and gave back a release. -/
def EditResult.isAccepted : EditResult → Bool
  | .accepted _ => true
  | _ => false

namespace Editor

/-- What one edit does to the release in effect, to the channel and to those who
have subscribed to it. -/
structure Publication (editor : Editor) (edit : Edit) (result : EditResult)
    (next : Editor) : Prop where
  /-- The edit tells subscribers once when it is accepted, and otherwise not at all. -/
  told : next.channel.version =
    editor.channel.version + if result.isAccepted then 1 else 0
  /-- The release that an accepted edit gives back is the one in effect. -/
  accepted : ∀ release, result = .accepted release →
    edit.asks = true ∧ next.current = release ∧ next.channel.value = release
  /-- A release from outside is taken over unless it is the very one in effect. -/
  adopted : ∀ release, edit = .applyExternal release → release ≠ editor.current →
    result = .applied true ∧ next.current = release ∧ next.channel.value = release
  /-- The release in effect is not taken over again. -/
  inEffect : edit = .applyExternal editor.current →
    result = .applied false ∧ next = editor
  /-- Every other edit leaves the release in effect and in the channel. -/
  kept : result.isAccepted = false → (∀ release, edit ≠ .applyExternal release) →
    next.current = editor.current ∧ next.channel.value = editor.channel.value

namespace Publication

variable {editor next : Editor} {edit : Edit} {result : EditResult}

theorem of_accept {shown : Editor} {condition : Condition} (asks : edit.asks = true)
    (sameChannel : shown.channel = editor.channel)
    (sameIssued : shown.issued = editor.issued) :
    Publication editor edit (.accepted (editor.nextRelease condition))
      (shown.accept condition).1 := by
  constructor
  · simp [accept, Channel.publish, EditResult.isAccepted, sameChannel]
  · intro release same
    injection same with same
    subst same
    simp [asks, accept, Channel.publish, nextRelease, sameIssued]
  · intro release external
    subst external
    contradiction
  · intro external
    subst external
    contradiction
  · intro refused
    contradiction

/-- An edit that leaves the release alone and is neither accepted nor from outside. -/
theorem of_display (notAccepted : result.isAccepted = false)
    (notExternal : ∀ release, edit ≠ .applyExternal release)
    (sameCurrent : next.current = editor.current)
    (sameChannel : next.channel = editor.channel) :
    Publication editor edit result next := by
  constructor
  · simp [notAccepted, sameChannel]
  · intro release same
    subst same
    contradiction
  · intro release external
    exact (notExternal release external).elim
  · intro external
    exact (notExternal _ external).elim
  · intro _ _
    exact ⟨sameCurrent, by rw [sameChannel]⟩

theorem of_adopted {release : Release} (other : release ≠ editor.current) :
    Publication editor (.applyExternal release) (.applied true)
      { editor.showCondition release.condition with
        current := release
        channel := editor.channel.replace release } := by
  constructor
  · rfl
  · intro accepted same
    contradiction
  · intro external same _
    injection same with same
    exact ⟨rfl, same, same⟩
  · intro same
    injection same with same
    contradiction
  · intro _ notExternal
    exact (notExternal release rfl).elim

theorem of_inEffect :
    Publication editor (.applyExternal editor.current) (.applied false) editor := by
  constructor
  · rfl
  · intro accepted same
    contradiction
  · intro external same other
    injection same with same
    exact (other same.symm).elim
  · intro _
    exact ⟨rfl, rfl⟩
  · intro _ notExternal
    exact (notExternal _ rfl).elim

theorem of_change (change : Change editor edit result next) :
    Publication editor edit result next := by
  cases change with
  | timeAccepted later => exact of_accept rfl rfl rfl
  | echoAccepted read later => exact of_accept rfl rfl rfl
  | blockAccepted read above => exact of_accept rfl rfl rfl
  | adopted other => exact of_adopted other
  | inEffect => exact of_inEffect
  | _ => exact of_display rfl nofun rfl rfl

end Publication

/-- A step keeps the channel at the release in effect. -/
theorem channel_value_of_change {editor next : Editor} {edit : Edit}
    {result : EditResult} (change : Change editor edit result next)
    (agrees : editor.channel.value = editor.current) :
    next.channel.value = next.current := by
  cases change with
  | timeAccepted later => rfl
  | echoAccepted read later => rfl
  | blockAccepted read above => rfl
  | adopted other => rfl
  | _ => exact agrees

theorem channel_value_run {editor : Editor}
    (agrees : editor.channel.value = editor.current) (edits : List Edit) :
    (editor.run edits).channel.value = (editor.run edits).current := by
  induction edits generalizing editor with
  | nil => exact agrees
  | cons edit rest induction =>
      exact induction (channel_value_of_change (change_step editor edit) agrees)

/-- Over a run, subscribers are told as often as edits are accepted. -/
theorem version_run (editor : Editor) (edits : List Edit) :
    (editor.run edits).channel.version =
      editor.channel.version + (editor.results edits).countP EditResult.isAccepted := by
  induction edits generalizing editor with
  | nil => simp [results]
  | cons edit rest induction =>
      have told := (Publication.of_change (change_step editor edit)).told
      rw [run_cons, induction, told, results, List.countP_cons]
      omega

/-- Who has subscribed, or taken note, at some point is told of a later point by
the edits accepted in between. -/
theorem isNotified_run (editor : Editor) (edits : List Edit) :
    editor.channel.subscribe.isNotified (editor.run edits).channel = true ↔
      ∃ result ∈ editor.results edits, result.isAccepted = true := by
  rw [← List.countP_pos_iff]
  simp only [Receiver.isNotified, Channel.subscribe, version_run, bne_iff_ne]
  omega

/-- At every point of a run the editor and the channel hold one release; a
subscriber since an earlier point has been told exactly of the edits accepted since
then; and the next edit publishes as `Publication` says. -/
theorem publication_of_run (clock floor delay : UInt64) (earlier later : List Edit)
    (edit : Edit) :
    let noted := (start clock floor delay).run earlier
    let editor := noted.run later
    editor.channel.value = editor.current ∧
      (noted.channel.subscribe.isNotified editor.channel = true ↔
        ∃ result ∈ noted.results later, result.isAccepted = true) ∧
      Publication editor edit (editor.step edit).2 (editor.step edit).1 := by
  intro noted editor
  have opened : (start clock floor delay).channel.value =
      (start clock floor delay).current := rfl
  refine ⟨?_, isNotified_run noted later, ?_⟩
  · exact channel_value_run (channel_value_run opened earlier) later
  · exact Publication.of_change (change_step editor edit)

end Editor

end TimedRelease
