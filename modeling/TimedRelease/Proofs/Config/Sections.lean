import TimedRelease.Config.Reader

/-!
# Reading sections

A section is read field by field, and what every field keeps the section keeps, whether it
is a table or an array.  In a document whose integers have 64 bits and a sign the timeout of
the scheduler is such an integer, so the section can be written as a table again.
-/

namespace TimedRelease

namespace Toml.Value

variable {least greatest : Int}

theorem within_of_mem_items {items : List Value}
    (within : itemsWithin least greatest items = true) :
    ∀ item ∈ items, item.within least greatest = true := by
  induction items with
  | nil => nofun
  | cons first rest induction =>
      obtain ⟨firstWithin, restWithin⟩ := Bool.and_eq_true_iff.mp within
      exact List.forall_mem_cons.mpr ⟨firstWithin, induction restWithin⟩

theorem within_of_mem_members {members : List (String × Value)}
    (within : membersWithin least greatest members = true) :
    ∀ member ∈ members, member.2.within least greatest = true := by
  induction members with
  | nil => nofun
  | cons first rest induction =>
      obtain ⟨firstWithin, restWithin⟩ := Bool.and_eq_true_iff.mp within
      exact List.forall_mem_cons.mpr ⟨firstWithin, induction restWithin⟩

theorem isKept_of_mem_members? {value : Value} (kept : value.isKept = true)
    {members : List (String × Value)} (found : value.members? = some members) :
    ∀ member ∈ members, member.2.isKept = true := by
  cases value with
  | table inside =>
      injection found with same
      rw [← same]
      exact within_of_mem_members kept
  | datetime value =>
      injection found with same
      rw [← same]
      exact List.forall_mem_singleton.mpr rfl
  | _ => contradiction

end Toml.Value

namespace Config

variable {σ α : Type}

/-- Every field keeps what holds of the fields known before, as long as the integers of its
value have 64 bits and a sign. -/
def Keep (fields : List (FieldReader σ)) (holds : σ → Prop) : Prop :=
  ∀ field ∈ fields, ∀ known value next, value.isKept = true → holds known →
    field.2 known value = .ok next → holds next

variable {fields : List (FieldReader σ)} {holds : σ → Prop}

theorem Keep.readMembers (keep : Keep fields holds) {members : List (String × Toml.Value)}
    (kept : ∀ member ∈ members, member.2.isKept = true) {known last : σ} (start : holds known)
    (read : readMembers fields known members = .ok last) : holds last := by
  induction members generalizing known with
  | nil =>
      injection read with same
      exact same ▸ start
  | cons member rest induction =>
      obtain ⟨firstKept, restKept⟩ := List.forall_mem_cons.mp kept
      rw [Config.readMembers] at read
      split at read
      · rename_i reader found
        split at read
        · contradiction
        · rename_i next readFirst
          obtain ⟨before, after, parts, -⟩ := List.lookup_eq_some_iff.mp found
          have field : (member.1, reader) ∈ fields := by simp [parts]
          exact induction restKept (keep _ field _ _ _ firstKept start readFirst) read
      · split at read
        · exact induction restKept start read
        · contradiction

theorem Keep.readItems (keep : Keep fields holds) {items : List Toml.Value}
    (kept : ∀ item ∈ items, item.isKept = true) {known last : σ} (start : holds known)
    (read : readItems fields known items = .ok last) : holds last := by
  induction fields generalizing known items with
  | nil =>
      injection read with same
      exact same ▸ start
  | cons field fields induction =>
      obtain ⟨keepFirst, keepRest⟩ := List.forall_mem_cons.mp keep
      cases items with
      | nil =>
          injection read with same
          exact same ▸ start
      | cons item items =>
          obtain ⟨firstKept, restKept⟩ := List.forall_mem_cons.mp kept
          rw [Config.readItems] at read
          split at read
          · contradiction
          · rename_i next readFirst
            exact induction keepRest restKept (keepFirst _ _ _ firstKept start readFirst) read

/-- What all fields keep, and the end of the section makes something of, holds of what is
read. -/
theorem Keep.readSection (keep : Keep fields holds) {finish : σ → Reading α}
    {result : α} (makes : α → Prop) {value : Toml.Value} {known : σ} (start : holds known)
    (ends : ∀ last, holds last → finish last = .ok result → makes result)
    (kept : value.isKept = true)
    (read : readSection fields known finish value = .ok result) : makes result := by
  unfold Config.readSection at read
  split at read
  · rename_i items
    split at read
    · contradiction
    · rename_i last readFields
      have holdsLast := keep.readItems (Toml.Value.within_of_mem_items kept) start readFields
      cases finished : finish last with
      | error error =>
          rw [finished] at read
          contradiction
      | ok final =>
          rw [finished] at read
          injection read with same
          exact ends last holdsLast (same ▸ finished)
  · split at read
    · contradiction
    · rename_i members found
      split at read
      · contradiction
      · rename_i last readFields
        have inside := Toml.Value.isKept_of_mem_members? kept found
        exact ends last (keep.readMembers inside start readFields) read

theorem exists_of_map_eq_ok {β : Type} {reading : Reading α} {f : α → β} {result : β}
    (read : reading.map f = .ok result) : ∃ value, reading = .ok value ∧ f value = result := by
  cases reading with
  | error error => contradiction
  | ok value =>
      injection read with same
      exact ⟨value, rfl, same⟩

/-! ## The timeout -/

/-- The seconds can be written as an integer of 64 bits with a sign. -/
def Writable (seconds : UInt64) : Prop :=
  seconds.toNat < Nat.pow 2 63

theorem writable_of_readUInt64 {value : Toml.Value} {n : UInt64} (kept : value.isKept = true)
    (read : readUInt64 value = .ok n) : Writable n := by
  cases value with
  | integer whole =>
      simp only [Toml.Value.isKept, Toml.Value.within, Bool.and_eq_true, decide_eq_true_eq]
        at kept
      simp only [readUInt64, Toml.Value.integer?] at read
      split at read
      · rename_i bounds
        injection read with same
        rw [← same, Writable, UInt64.toNat_ofNat_of_lt' bounds.2]
        have power : Nat.pow 2 63 = 0x8000000000000000 := rfl
        omega
      · contradiction
  | _ => contradiction

theorem keep_schedulerFields :
    Keep schedulerFields fun known => Writable known.timeoutSeconds := by
  intro field member known value next kept writable read
  simp only [schedulerFields, List.mem_cons, List.not_mem_nil, or_false] at member
  rcases member with rfl | rfl | rfl
  · obtain ⟨text, -, same⟩ := exists_of_map_eq_ok read
    rwa [← same]
  · obtain ⟨text, -, same⟩ := exists_of_map_eq_ok read
    rwa [← same]
  · obtain ⟨seconds, readSeconds, same⟩ := exists_of_map_eq_ok read
    rw [← same]
    exact writable_of_readUInt64 kept readSeconds

theorem writable_of_readScheduler {value : Toml.Value} {scheduler : SchedulerSection}
    (kept : value.isKept = true) (read : readScheduler value = .ok scheduler) :
    Writable scheduler.timeoutSeconds := by
  have start : Writable ({} : SchedulerFields).timeoutSeconds := by
    rw [Writable]
    decide
  refine keep_schedulerFields.readSection (fun scheduler => Writable scheduler.timeoutSeconds)
    start ?_ kept read
  intro known writable finished
  obtain ⟨endpoint, -, same⟩ := exists_of_map_eq_ok finished
  rwa [← same]

theorem keep_sections :
    Keep sections fun known =>
      ∀ scheduler, known.scheduler = some scheduler → Writable scheduler.timeoutSeconds := by
  intro field member known value next kept writable read
  simp only [sections, List.mem_cons, List.not_mem_nil, or_false] at member
  rcases member with rfl | rfl | rfl | rfl
  · obtain ⟨scheduler, readScheduler, same⟩ := exists_of_map_eq_ok read
    intro other known
    rw [← same] at known
    injection known with sameScheduler
    rw [← sameScheduler]
    exact writable_of_readScheduler kept readScheduler
  all_goals
    obtain ⟨value, -, same⟩ := exists_of_map_eq_ok read
    rwa [← same]

theorem writable_of_ofToml {document : Toml.Value} {config : Config}
    (kept : document.isKept = true) (read : ofToml document = .ok config) :
    Writable config.scheduler.timeoutSeconds := by
  have start : ∀ scheduler, ({} : Sections).scheduler = some scheduler →
      Writable scheduler.timeoutSeconds := by
    intro scheduler given
    contradiction
  refine keep_sections.readSection (fun config => Writable config.scheduler.timeoutSeconds)
    start ?_ kept read
  intro known writable finished
  obtain ⟨scheduler, there, same⟩ := exists_of_map_eq_ok finished
  rw [← same]
  apply writable
  cases given : known.scheduler with
  | none =>
      rw [given] at there
      contradiction
  | some other =>
      rw [given] at there
      injection there with sameScheduler
      rw [sameScheduler]

end Config

namespace SchedulerSection

/-- A table holds what a section says, each under its name, and nothing else. -/
def IsTold (scheduler : SchedulerSection) (table : Toml.Value) : Prop :=
  ∃ members, table = .table members ∧ members.Perm
    [("implementation", .string scheduler.implementation),
      ("endpoint", .string scheduler.endpoint),
      ("timeout_seconds", .integer scheduler.timeoutSeconds.toNat)]

theorem exists_table_iff (scheduler : SchedulerSection) :
    (∃ table, scheduler.table = .ok table ∧ scheduler.IsTold table) ↔
      Config.Writable scheduler.timeoutSeconds := by
  unfold SchedulerSection.table
  constructor
  · rintro ⟨table, written, -⟩
    split at written
    · assumption
    · contradiction
  · intro writable
    exact ⟨_, if_pos writable, _, rfl, .swap _ _ _⟩

end SchedulerSection

end TimedRelease
