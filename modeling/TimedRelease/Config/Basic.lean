import TimedRelease.Tracker
import TimedRelease.Toml.Value

/-!
# Configurations

A configuration names a scheduler, perhaps a wallet with its signer, how often
the wallet is polled, and how far ahead a release time is set at first.  What an
implementation needs beyond that is checked against its own schema.
-/

namespace TimedRelease

/-- The remote scheduler. -/
structure SchedulerSection where
  implementation : String
  endpoint : String
  timeoutSeconds : UInt64
  deriving DecidableEq, Repr

/-- The wallet and signer: the name of the one in use, and tables for those there are. -/
structure AccountSection where
  primary : String
  implementations : List (String × Toml.Value)
  deriving Repr

/-- How often the wallet is polled, in milliseconds. -/
structure PollingSection where
  accounts : UInt64
  gasPrice : UInt64
  chainHead : UInt64
  deriving DecidableEq, Repr

/-- A configuration. -/
structure Config where
  scheduler : SchedulerSection
  account : Option AccountSection
  polling : PollingSection
  /-- How far ahead of now a release time is set at first, in seconds. -/
  delaySeconds : UInt64
  deriving Repr

/-- Why there is no configuration. -/
inductive ConfigError where
  /-- The file cannot be read. -/
  | unreadable (path reason : String)
  | tooLarge (bytes : Nat)
  | unsetVariable (name : String)
  /-- The text is no TOML document. -/
  | malformed
  | missingField (name : String)
  /-- A value is of another kind than its field. -/
  | mistyped
  /-- The table of the scheduler cannot be written. -/
  | unwritable
  | noImplementation
  | noPrimary
  | unknownPrimary (name : String)
  | zeroInterval (field : String)
  | zeroDelay
  deriving DecidableEq, Repr

namespace Config

/-- The most bytes a configuration may have. -/
def greatestSize : Nat := 1048576

end Config

/-- The wording of a configuration error. -/
def ConfigError.message : ConfigError → String
  | .unreadable path reason =>
    "IO error: Unable to read config file at " ++ path ++ ": " ++ reason
  | .malformed => "Configuration error: not a TOML document"
  | .missingField name => "Configuration error: missing field `" ++ name ++ "`"
  | .mistyped => "Configuration error: invalid type"
  | .unwritable =>
    "Configuration error: Failed to serialize scheduler config: number out of range"
  | .tooLarge bytes =>
    "Validation error: Configuration file too large: " ++ Text.decimalText bytes ++
      " bytes (max: " ++ Text.decimalText Config.greatestSize ++ " bytes)"
  | .unsetVariable name =>
    "Validation error: Environment variable '" ++ name ++ "' not found"
  | .noImplementation => "Validation error: Scheduler implementation cannot be empty"
  | .noPrimary => "Validation error: Account primary implementation cannot be empty"
  | .unknownPrimary name =>
    "Validation error: Primary account '" ++ name ++ "' not found in implementations"
  | .zeroInterval field => "Validation error: Polling " ++ field ++ " must be greater than 0"
  | .zeroDelay => "Validation error: Condition default_delay_seconds must be greater than 0"

namespace SchedulerSection

/-- The implementation unless another is named. -/
def defaultImplementation : String := "http"

/-- How long an answer is waited for unless another time is given. -/
def defaultTimeout : UInt64 := 30

/-- The section as the table handed to its implementation.  Numbers in a table
have a sign, so not every timeout can be written. -/
def table (scheduler : SchedulerSection) : Except ConfigError Toml.Value :=
  if scheduler.timeoutSeconds.toNat < Nat.pow 2 63 then
    .ok (.table [
      ("endpoint", .string scheduler.endpoint),
      ("implementation", .string scheduler.implementation),
      ("timeout_seconds", .integer scheduler.timeoutSeconds.toNat)])
  else .error .unwritable

end SchedulerSection

namespace AccountSection

/-- The table of the implementation in use. -/
def primaryTable? (account : AccountSection) : Option Toml.Value :=
  Toml.Value.find? account.primary account.implementations

/-- The address of the node of the implementation in use, if it has one. -/
def nodeUrl? (account : AccountSection) : Option String :=
  account.primaryTable?.bind fun table =>
    (table.member? "rpc_url").bind Toml.Value.string?

end AccountSection

namespace PollingSection

/-- The intervals unless others are given. -/
instance : Inhabited PollingSection := ⟨⟨5000, 2500, 5000⟩⟩

/-- The intervals with the names of their fields. -/
def named (polling : PollingSection) : List (String × UInt64) :=
  [("accounts_interval_ms", polling.accounts),
    ("gas_price_interval_ms", polling.gasPrice),
    ("chain_head_interval_ms", polling.chainHead)]

/-- The intervals as periods of pollers. -/
def periods (polling : PollingSection) : PollPeriods :=
  ⟨polling.accounts.toNat, polling.gasPrice.toNat, polling.chainHead.toNat⟩

end PollingSection

namespace Config

/-- What is wrong with the section of the account. -/
def accountFault? (account : AccountSection) : Option ConfigError :=
  if account.primary = "" then some .noPrimary
  else if account.primaryTable?.isNone then some (.unknownPrimary account.primary)
  else none

/-- The first interval that is zero. -/
def intervalFault? (polling : PollingSection) : Option ConfigError :=
  (polling.named.find? (·.2 == 0)).map fun (field, _) => .zeroInterval field

/-- What is wrong with a configuration, in the order of its sections. -/
def fault? (config : Config) : Option ConfigError :=
  if config.scheduler.implementation = "" then some .noImplementation
  else
    match config.account.bind accountFault? with
    | some fault => some fault
    | none =>
      match intervalFault? config.polling with
      | some fault => some fault
      | none => if config.delaySeconds = 0 then some .zeroDelay else none

/-- The address of the node that the configured account talks to. -/
def nodeUrl? (config : Config) : Option String :=
  config.account.bind AccountSection.nodeUrl?

/-- A configuration in JSON, with what was left out filled in. -/
def json (config : Config) : Json.Value :=
  .object [
    ("scheduler", .object [
      ("implementation", .string config.scheduler.implementation),
      ("endpoint", .string config.scheduler.endpoint),
      ("timeout_seconds", .natural config.scheduler.timeoutSeconds.toNat)]),
    ("account", Json.Value.optional (fun (account : AccountSection) => .object [
      ("primary", .string account.primary),
      ("implementations", .object (Toml.Value.membersJson account.implementations))])
      config.account),
    ("polling", .object (config.polling.named.map fun (name, interval) =>
      (name, .natural interval.toNat))),
    ("condition", .object [("default_delay_seconds", .natural config.delaySeconds.toNat)])]

end Config

end TimedRelease
