import TimedRelease.Proofs.Command.Condition
import TimedRelease.Proofs.Config.Consistent
import TimedRelease.Proofs.Config.Sections
import TimedRelease.Proofs.Service.NodeTables
import TimedRelease.Proofs.Tracker.Answers

/-!
# What an accepted configuration is good for

The parts of the program rely on a configuration without asking: timers on periods that are
not zero, the release condition on a delay that leads into the future, and the account and
the scheduler on their tables.  A configuration that was accepted gives all of it.
-/

namespace TimedRelease

/-! ## Timers -/

namespace WalletTracker

/-- With periods that are not zero every timer runs until its poller is cancelled. -/
theorem isStopped_run {periods : PollPeriods} {kind : NewsKind} (positive : 0 < periods.of kind)
    (source : WalletSource) (script : List (Control × ClockStep)) :
    (((start periods).run source script).1.timeline kind).timer.isStopped =
      (((start periods).run source script).1.timeline kind).poller.isCancelled := by
  have runs : (Timeline.start (periods.of kind) .resolution : Timeline kind.Value).timer.isStopped =
      false := by
    rw [Timeline.start, TimerState.ofPeriod, dif_pos positive]
    rfl
  rw [timeline_run, timeline_start]
  exact Timeline.isStopped_run runs script

end WalletTracker

theorem Config.Consistent.positive {config : Config} (consistent : config.Consistent)
    (kind : NewsKind) : 0 < config.polling.periods.of kind := by
  have positive {interval : UInt64} (notZero : interval ≠ 0) : 0 < interval.toNat :=
    Nat.pos_of_ne_zero fun zero => notZero (UInt64.toNat_inj.mp zero)
  have intervals := consistent.intervals
  simp only [PollingSection.named, List.forall_mem_cons] at intervals
  cases kind with
  | accounts => exact positive intervals.1
  | gasPrice => exact positive intervals.2.1
  | chainHead => exact positive intervals.2.2.1

/-! ## The first condition -/

theorem Editor.lt_later {now delay : UInt64} (room : now.toNat < UInt64.size - 1)
    (positive : delay ≠ 0) : now < later now delay := by
  have ahead : 0 < delay.toNat :=
    Nat.pos_of_ne_zero fun zero => positive (UInt64.toNat_inj.mp zero)
  rw [UInt64.lt_iff_toNat_lt, toNat_later]
  omega

/-! ## The account -/

theorem AccountSection.Consistent.ofTables_ne_missingTable {account : AccountSection}
    (consistent : account.Consistent) :
    NodeAccount.ofTables account.primary account.implementations ≠
      .error (NodeAccount.missingTable account.primary) := by
  obtain ⟨table, found⟩ := consistent.listed
  intro failed
  have absent := NodeAccount.ofTables_eq_missingTable_iff.mp failed
  rw [AccountSection.primaryTable?, absent] at found
  contradiction

namespace Config

theorem eq_ok_of_toOption {α : Type} {reading : Reading α} {value : α}
    (found : reading.toOption = some value) : reading = .ok value := by
  cases reading with
  | error error => contradiction
  | ok other =>
      injection found with same
      rw [same]

theorem exists_error_of_toOption {α : Type} {reading : Reading α}
    (nothing : reading.toOption = none) : ∃ error, reading = .error error := by
  cases reading with
  | error error => exact ⟨error, rfl⟩
  | ok value => contradiction

/-- The document that a text stands for has only integers of 64 bits with a sign. -/
def KeepsIntegers (environment : Environment) (text : String) : Prop :=
  ∀ resolved document, resolve environment text = .ok resolved →
    Toml.Value.ofText? resolved = some document → document.isKept = true

/-- Whatever text is accepted, in whatever environment: no period of a poller is zero, and in
every script the timer of each kind runs until its poller is cancelled; the release condition
starts later than the clock unless this shows the last time there is; the account has a table
and is not refused for want of one; and the scheduler is told its implementation, endpoint and
timeout and nothing else, if the integers of the text have 64 bits and a sign, or if just the
timeout does.  A text that reads as a configuration which breaks a rule is refused by the check
of a rule that it breaks, and so is a text that is too large or refers to a variable that is
not set. -/
theorem accepted_is_usable :
    (∀ (environment : Environment) (text : String) (config : Config),
      ofText environment text = .ok config →
      (∀ kind, 0 < config.polling.periods.of kind) ∧
      (∀ (source : WalletSource) (script : List (Control × ClockStep)) (kind : NewsKind),
        let tracker := ((WalletTracker.start config.polling.periods).run source script).1
        (tracker.timeline kind).timer.isStopped =
          (tracker.timeline kind).poller.isCancelled) ∧
      (∀ now floor : UInt64, now.toNat < UInt64.size - 1 →
        ∃ seconds, now < seconds ∧
          (Editor.start now floor config.delaySeconds).current.condition = .time seconds) ∧
      (∀ account, config.account = some account →
        (∃ table, account.primaryTable? = some table) ∧
          NodeAccount.ofTables account.primary account.implementations ≠
            .error (NodeAccount.missingTable account.primary)) ∧
      (KeepsIntegers environment text →
        ∃ table, config.scheduler.table = .ok table ∧ config.scheduler.IsTold table) ∧
      ((∃ table, config.scheduler.table = .ok table ∧ config.scheduler.IsTold table) ↔
        Writable config.scheduler.timeoutSeconds)) ∧
    (∀ (environment : Environment) (text : String) (resolved : List Char)
      (document : Toml.Value) (config : Config), resolve environment text = .ok resolved →
      Toml.Value.ofText? resolved = some document → ofToml document = .ok config →
      ¬config.Consistent →
      ∃ error, ofText environment text = .error error ∧ config.Breaks error ∧
        SaysValidation error.message) ∧
    (∀ (environment : Environment) (text : String) (error : ConfigError),
      resolve environment text = .error error →
      ofText environment text = .error error ∧ SaysValidation error.message) := by
  refine ⟨?_, ?_, ?_⟩
  · intro environment text config accepted
    obtain ⟨resolved, document, resolves, reads, sections, consistent⟩ :=
      ofText_eq_ok_iff.mp accepted
    refine ⟨consistent.positive, ?_, ?_, ?_, ?_, config.scheduler.exists_table_iff⟩
    · intro source script kind
      exact WalletTracker.isStopped_run (consistent.positive kind) source script
    · intro now floor room
      exact ⟨_, Editor.lt_later room consistent.delay, rfl⟩
    · intro account given
      have accountConsistent := consistent.account account given
      exact ⟨accountConsistent.listed, accountConsistent.ofTables_ne_missingTable⟩
    · intro keeps
      have kept := keeps resolved document resolves reads
      exact config.scheduler.exists_table_iff.mpr (writable_of_ofToml kept sections)
  · intro environment text resolved document config resolves reads sections inconsistent
    exact ofText_of_not_consistent resolves reads sections inconsistent
  · intro environment text error refused
    refine ⟨?_, saysValidation_of_resolve refused⟩
    rw [ofText, refused]

/-- A text with a reference is accepted, one with an interval of zero is not, and neither is one
with a reference to a variable that is not set. -/
theorem node_text_is_usable :
    let unset : Environment := fun _ => none
    let text := "scheduler.endpoint = \"http://s\"\n[account]\nprimary = \"node\"\n" ++
      "implementations.node.rpc_url = \"$\x7bURL:-http://n\x7d\"\n"
    let idle := "scheduler.endpoint = \"http://s\"\npolling.chain_head_interval_ms = 0\n"
    let unnamed := "scheduler.endpoint = \"$\x7bURL\x7d\"\n"
    (∃ config account, ofText unset text = .ok config ∧ config.account = some account ∧
      KeepsIntegers unset text ∧ (1700000000 : UInt64).toNat < UInt64.size - 1 ∧
      0 < config.polling.periods.of .chainHead ∧
      (∃ seconds, 1700000000 < seconds ∧
        (Editor.start 1700000000 100 config.delaySeconds).current.condition = .time seconds) ∧
      (∃ table, account.primaryTable? = some table) ∧
      ∃ table, config.scheduler.table = .ok table ∧ config.scheduler.IsTold table) ∧
    (∃ (config : Config) (error : ConfigError), config.polling.chainHead = 0 ∧
      ofText unset idle = .error error ∧ config.Breaks error ∧ SaysValidation error.message) ∧
    ∃ error, resolve unset unnamed = .error error ∧ ofText unset unnamed = .error error ∧
      SaysValidation error.message := by
  intro unset text idle unnamed
  obtain ⟨usable, refused, unread⟩ := accepted_is_usable
  refine ⟨?_, ?_, ?_⟩
  · have known : ((ofText unset text).toOption.bind Config.account).isSome = true := by
      decide +kernel
    have kept : ((resolve unset text).toOption.bind Toml.Value.ofText?).all
        Toml.Value.isKept = true := by
      decide +kernel
    have keeps : KeepsIntegers unset text := by
      intro resolved document resolves reads
      simpa [resolves, reads, Except.toOption] using kept
    have room : (1700000000 : UInt64).toNat < UInt64.size - 1 := by decide
    obtain ⟨account, found⟩ := Option.isSome_iff_exists.mp known
    obtain ⟨config, reading, given⟩ := Option.bind_eq_some_iff.mp found
    have accepted := eq_ok_of_toOption reading
    obtain ⟨positive, -, starts, listed, told, -⟩ := usable unset text config accepted
    exact ⟨config, account, accepted, given, keeps, room, positive .chainHead,
      starts 1700000000 100 room, (listed account given).1, told keeps⟩
  · have zero : (((resolve unset idle).toOption.bind Toml.Value.ofText?).bind
        fun document => (ofToml document).toOption).map (·.polling.chainHead) = some 0 := by
      decide +kernel
    obtain ⟨config, found, idles⟩ := Option.map_eq_some_iff.mp zero
    obtain ⟨document, there, sections⟩ := Option.bind_eq_some_iff.mp found
    obtain ⟨resolved, resolves, reads⟩ := Option.bind_eq_some_iff.mp there
    have inconsistent : ¬config.Consistent := by
      intro consistent
      have positive := consistent.positive .chainHead
      rw [PollPeriods.of, PollingSection.periods, idles] at positive
      contradiction
    obtain ⟨error, rejected⟩ := refused unset idle resolved document config
      (eq_ok_of_toOption resolves) reads (eq_ok_of_toOption sections) inconsistent
    exact ⟨config, error, idles, rejected⟩
  · have unresolved : (resolve unset unnamed).toOption = none := by
      decide +kernel
    obtain ⟨error, refusal⟩ := exists_error_of_toOption unresolved
    exact ⟨error, refusal, unread unset unnamed error refusal⟩

end Config

end TimedRelease
