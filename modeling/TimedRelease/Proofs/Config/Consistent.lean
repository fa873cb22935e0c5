import TimedRelease.Config.Reader

/-!
# Consistent configurations

The checks find fault with a configuration exactly if it breaks one of the rules that the
parts of the program rely on, and the fault they report is a rule that it breaks.
-/

namespace TimedRelease

/-- The implementation in use has a name, and a table. -/
structure AccountSection.Consistent (account : AccountSection) : Prop where
  named : account.primary ≠ ""
  listed : ∃ table, account.primaryTable? = some table

namespace Config

/-- A configuration keeps all rules. -/
structure Consistent (config : Config) : Prop where
  implementation : config.scheduler.implementation ≠ ""
  account : ∀ account, config.account = some account → account.Consistent
  intervals : ∀ entry ∈ config.polling.named, entry.2 ≠ 0
  delay : config.delaySeconds ≠ 0

/-- A configuration breaks the rule that an error speaks of. -/
inductive Breaks (config : Config) : ConfigError → Prop where
  | implementation (empty : config.scheduler.implementation = "") :
      Breaks config .noImplementation
  | primary {account : AccountSection} (given : config.account = some account)
      (empty : account.primary = "") : Breaks config .noPrimary
  | table {account : AccountSection} (given : config.account = some account)
      (absent : account.primaryTable? = none) : Breaks config (.unknownPrimary account.primary)
  | interval {field : String} (zero : (field, 0) ∈ config.polling.named) :
      Breaks config (.zeroInterval field)
  | delay (zero : config.delaySeconds = 0) : Breaks config .zeroDelay

variable {config : Config} {error : ConfigError}

theorem Breaks.not_consistent (breaks : config.Breaks error) : ¬config.Consistent := by
  intro consistent
  cases breaks with
  | implementation empty => exact consistent.implementation empty
  | primary given empty => exact (consistent.account _ given).named empty
  | table given absent =>
      obtain ⟨table, found⟩ := (consistent.account _ given).listed
      rw [absent] at found
      contradiction
  | interval zero => exact consistent.intervals _ zero rfl
  | delay zero => exact consistent.delay zero

theorem breaks_of_accountFault? {account : AccountSection}
    (given : config.account = some account) (fault : accountFault? account = some error) :
    config.Breaks error := by
  unfold accountFault? at fault
  split at fault
  · rename_i empty
    injection fault with same
    subst same
    exact .primary given empty
  · split at fault
    · rename_i absent
      injection fault with same
      subst same
      exact .table given (Option.isNone_iff_eq_none.mp absent)
    · contradiction

theorem consistent_of_accountFault? {account : AccountSection}
    (faultless : accountFault? account = none) : account.Consistent := by
  unfold accountFault? at faultless
  split at faultless
  · contradiction
  · rename_i named
    split at faultless
    · contradiction
    · rename_i listed
      exact ⟨named, Option.ne_none_iff_exists'.mp (by simpa using listed)⟩

theorem breaks_of_intervalFault? (fault : intervalFault? config.polling = some error) :
    config.Breaks error := by
  unfold intervalFault? at fault
  obtain ⟨⟨field, interval⟩, found, same⟩ := Option.map_eq_some_iff.mp fault
  have zero : interval = 0 := by simpa using List.find?_some found
  rw [← same]
  rw [zero] at found
  exact .interval (List.mem_of_find?_eq_some found)

/-- The fault that the checks report is a rule that is broken. -/
theorem breaks_of_fault? (fault : config.fault? = some error) : config.Breaks error := by
  unfold fault? at fault
  split at fault
  · rename_i empty
    injection fault with same
    subst same
    exact .implementation empty
  · split at fault
    · rename_i accountFault
      injection fault with same
      subst same
      obtain ⟨account, given, found⟩ := Option.bind_eq_some_iff.mp accountFault
      exact breaks_of_accountFault? given found
    · split at fault
      · rename_i intervalFault
        injection fault with same
        subst same
        exact breaks_of_intervalFault? intervalFault
      · split at fault
        · rename_i zero
          injection fault with same
          subst same
          exact .delay zero
        · contradiction

theorem consistent_of_fault? (faultless : config.fault? = none) : config.Consistent := by
  unfold fault? at faultless
  split at faultless
  · contradiction
  · rename_i implementation
    split at faultless
    · contradiction
    · rename_i noAccountFault
      split at faultless
      · contradiction
      · rename_i noIntervalFault
        split at faultless
        · contradiction
        · rename_i delay
          refine ⟨implementation, ?_, ?_, delay⟩
          · intro account given
            rw [given] at noAccountFault
            exact consistent_of_accountFault? noAccountFault
          · intro entry member
            have noZero := List.find?_eq_none.mp (Option.map_eq_none_iff.mp noIntervalFault)
            simpa using noZero entry member

theorem checked_eq_ok_iff {other : Config} :
    config.checked = .ok other ↔ other = config ∧ config.Consistent := by
  unfold checked
  split
  · rename_i fault found
    have broken := (breaks_of_fault? found).not_consistent
    simp [broken]
  · rename_i faultless
    have consistent := consistent_of_fault? faultless
    simp [consistent, eq_comm]

theorem exists_breaks_of_not_consistent (inconsistent : ¬config.Consistent) :
    ∃ error, config.checked = .error error ∧ config.Breaks error := by
  cases fault : config.fault? with
  | none => exact absurd (consistent_of_fault? fault) inconsistent
  | some error => exact ⟨error, by rw [checked, fault], breaks_of_fault? fault⟩

end Config

/-- The text says that a check failed. -/
def SaysValidation (text : String) : Prop :=
  ∃ reason, text = "Validation error: " ++ reason

theorem SaysValidation.append {text : String} (start : SaysValidation text) (more : String) :
    SaysValidation (text ++ more) := by
  obtain ⟨reason, same⟩ := start
  exact ⟨reason ++ more, by rw [same, String.append_assoc]⟩

namespace Config

variable {config : Config} {error : ConfigError} {environment : Environment} {text : String}

theorem Breaks.saysValidation (breaks : config.Breaks error) : SaysValidation error.message := by
  cases breaks with
  | implementation empty =>
      have start : SaysValidation
          "Validation error: Scheduler implementation cannot be empty" :=
        ⟨"Scheduler implementation cannot be empty", by simp⟩
      exact start
  | primary given empty =>
      have start : SaysValidation
          "Validation error: Account primary implementation cannot be empty" :=
        ⟨"Account primary implementation cannot be empty", by simp⟩
      exact start
  | @table account given absent =>
      have start : SaysValidation "Validation error: Primary account '" :=
        ⟨"Primary account '", by simp⟩
      exact (start.append account.primary).append _
  | @interval field zero =>
      have start : SaysValidation "Validation error: Polling " := ⟨"Polling ", by simp⟩
      exact (start.append field).append _
  | delay zero =>
      have start : SaysValidation
          "Validation error: Condition default_delay_seconds must be greater than 0" :=
        ⟨"Condition default_delay_seconds must be greater than 0", by simp⟩
      exact start

/-- A text is refused by a check if it is too large or refers to a variable that is not set. -/
theorem saysValidation_of_resolve (refused : resolve environment text = .error error) :
    SaysValidation error.message := by
  unfold resolve at refused
  split at refused
  · injection refused with same
    rw [← same]
    have start : SaysValidation "Validation error: Configuration file too large: " :=
      ⟨"Configuration file too large: ", by simp⟩
    exact (((start.append _).append _).append _).append _
  · cases substituted : substitute environment [] (Token.ofText text.toList) with
    | ok resolved =>
        rw [substituted] at refused
        contradiction
    | error reference =>
        rw [substituted] at refused
        injection refused with same
        rw [← same]
        have start : SaysValidation "Validation error: Environment variable '" :=
          ⟨"Environment variable '", by simp⟩
        exact (start.append _).append _

/-- A text is accepted if it reads as a configuration that keeps all rules. -/
theorem ofText_eq_ok_iff :
    ofText environment text = .ok config ↔
      ∃ resolved document, resolve environment text = .ok resolved ∧
        Toml.Value.ofText? resolved = some document ∧ ofToml document = .ok config ∧
        config.Consistent := by
  constructor
  · intro accepted
    unfold ofText at accepted
    split at accepted
    · contradiction
    · rename_i resolved resolves
      unfold ofResolved at accepted
      split at accepted
      · contradiction
      · rename_i document reads
        split at accepted
        · contradiction
        · rename_i unchecked sections
          obtain ⟨same, consistent⟩ := checked_eq_ok_iff.mp accepted
          rw [← same] at sections consistent
          exact ⟨resolved, document, resolves, reads, sections, consistent⟩
  · rintro ⟨resolved, document, resolves, reads, sections, consistent⟩
    simp only [ofText, ofResolved, resolves, reads, sections]
    exact checked_eq_ok_iff.mpr ⟨rfl, consistent⟩

/-- A text that reads as a configuration is refused for a rule that this breaks. -/
theorem ofText_of_not_consistent {resolved : List Char} {document : Toml.Value}
    (resolves : resolve environment text = .ok resolved)
    (reads : Toml.Value.ofText? resolved = some document)
    (sections : ofToml document = .ok config) (inconsistent : ¬config.Consistent) :
    ∃ error, ofText environment text = .error error ∧ config.Breaks error ∧
      SaysValidation error.message := by
  obtain ⟨error, refused, breaks⟩ := exists_breaks_of_not_consistent inconsistent
  refine ⟨error, ?_, breaks, breaks.saysValidation⟩
  simp only [ofText, ofResolved, resolves, reads, sections, refused]

end Config

end TimedRelease
