import TimedRelease.Condition
import TimedRelease.Dialogue
import TimedRelease.Json.Value
import TimedRelease.Number.Word256
import TimedRelease.Payload

/-!
# Calls to signer and scheduler

The two things that are left to others: signing a transaction, and taking a
signed transaction until its condition is met.
-/

namespace TimedRelease

/-!
## Transactions on their way to a signer and back

The canonical transaction is what a signer is handed; a missing recipient
creates a contract.  A signed transaction is what comes back: the raw text and,
if the signer chooses to send it, its own account of the transaction.
-/

/-- The transaction handed to a signer. -/
structure CanonicalTransaction where
  sender : String
  recipient : Option String
  value : Word256
  gasPrice : Word256
  gas : Word256
  data : Option String
  deriving DecidableEq

/-- The answer of a signer. -/
structure SignedTransaction where
  raw : RawTransaction
  echo : Option Json.Value

/-! ## What can go wrong -/

/-- Why a wallet or signer gave no answer. -/
inductive AccountError where
  /-- The signer refused or failed to sign. -/
  | signingFailed (reason : String)
  /-- The wallet could not be reached or its answer not be read. -/
  | network (reason : String)
  /-- The configuration of the account is wrong. -/
  | invalidConfig (reason : String)
  /-- The account itself failed. -/
  | implementation (reason : String)
  deriving DecidableEq, Repr

/-- The wording of an account error. -/
def AccountError.message : AccountError → String
  | .signingFailed reason => "Signing failed: " ++ reason
  | .network reason => "Network error: " ++ reason
  | .invalidConfig reason => "Invalid configuration: " ++ reason
  | .implementation reason => "Implementation error: " ++ reason

/-- Why a scheduler took no transaction. -/
inductive SchedulingError where
  /-- The scheduler could not be reached or its answer not be read. -/
  | network (reason : String)
  /-- The answer is none to a remote call. -/
  | invalidResponse (reason : String)
  /-- The scheduler refused. -/
  | refused (reason : String)
  /-- The configuration of the scheduler is wrong. -/
  | invalidConfig (reason : String)
  deriving DecidableEq, Repr

/-- The wording of a scheduling error; a refusal speaks for itself. -/
def SchedulingError.message : SchedulingError → String
  | .network reason => "Network error: " ++ reason
  | .invalidResponse reason => "Invalid response: " ++ reason
  | .refused reason => reason
  | .invalidConfig reason => "Invalid configuration: " ++ reason

/-! ## Calls -/

/-- A call to the signer or the scheduler. -/
inductive Call where
  | sign (transaction : CanonicalTransaction)
  | schedule (condition : Condition) (raw : RawTransaction)
  deriving DecidableEq

/-- What a call gives back: a signed transaction, or the identifier of what was scheduled. -/
def Call.Answer : Call → Type
  | .sign _ => Except AccountError SignedTransaction
  | .schedule _ _ => Except SchedulingError String

/-- A computation that makes calls. -/
abbrev Calling (α : Type) : Type := Dialogue Call Call.Answer α

/-- The outcome of a scheduling attempt. -/
inductive ScheduleOutcome where
  /-- The scheduler took the transaction under this identifier. -/
  | scheduled (id : String)
  /-- The attempt failed with this message. -/
  | failed (message : String)
  deriving DecidableEq, Repr

namespace ScheduleOutcome

/-- The transaction was taken. -/
def isScheduled : ScheduleOutcome → Bool
  | .scheduled _ => true
  | .failed _ => false

/-- The outcome in words. -/
def display : ScheduleOutcome → String
  | .scheduled id => "Transaction Scheduled. Id: " ++ id
  | .failed message => "Scheduling failed: " ++ message

end ScheduleOutcome

/-- The outcome of a scheduling call; a failure carries its wording. -/
def ScheduleOutcome.ofAnswer : Except SchedulingError String → ScheduleOutcome
  | .ok id => .scheduled id
  | .error error => .failed error.message

end TimedRelease
