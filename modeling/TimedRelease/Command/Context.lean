import TimedRelease.Config.Basic
import TimedRelease.Service.HttpScheduler
import TimedRelease.Service.NodeAccount

/-!
# Contexts of commands

A command runs with a configuration and the services it names.  If one of them
cannot be built no command runs at all.
-/

namespace TimedRelease

/-- A configuration and the services it names. -/
structure Context where
  config : Config
  account : Option NodeAccount
  scheduler : HttpScheduler

/-- Why there are no services for a configuration. -/
inductive ContextError where
  | account (error : AccountError)
  | config (error : ConfigError)
  | scheduler (error : SchedulingError)
  deriving DecidableEq, Repr

/-- The wording of why there are no services. -/
def ContextError.message : ContextError → String
  | .account error => error.message
  | .config error => error.message
  | .scheduler error => error.message

namespace Context

/-- The account of a configuration, if it has a section for one. -/
def accountOf (config : Config) : Except ContextError (Option NodeAccount) :=
  match config.account with
  | none => .ok none
  | some account =>
    match NodeAccount.ofTables account.primary account.implementations with
    | .error error => .error (.account error)
    | .ok node => .ok (some node)

/-- The scheduler of a configuration. -/
def schedulerOf (config : Config) : Except ContextError HttpScheduler :=
  match config.scheduler.table with
  | .error error => .error (.config error)
  | .ok table =>
    match HttpScheduler.ofTable config.scheduler.implementation table with
    | .error error => .error (.scheduler error)
    | .ok scheduler => .ok scheduler

/-- The services of a configuration, the account before the scheduler. -/
def ofConfig (config : Config) : Except ContextError Context :=
  match accountOf config with
  | .error error => .error error
  | .ok account =>
    match schedulerOf config with
    | .error error => .error error
    | .ok scheduler => .ok ⟨config, account, scheduler⟩

end Context

end TimedRelease
