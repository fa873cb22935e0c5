import TimedRelease.Command.Basic

/-!
# Commands on the network

What a command asks of wallet, signer and scheduler is posted to the services of
its context.  What is left then is the clock, the printing, and the network.
-/

namespace TimedRelease

/-- What a program asks of the world. -/
inductive Action where
  | clock
  | print (line : String)
  | warn (line : String)
  | post (post : Http.Post)
  deriving DecidableEq

/-- What is answered. -/
def Action.Answer : Action → Type
  | .clock => UInt64
  | .print _ => Unit
  | .warn _ => Unit
  | .post _ => Http.Reply

/-- A computation that asks as programs do. -/
abbrev Acting (α : Type) : Type := Dialogue Action Action.Answer α

/-- The services of a context as they are between calls. -/
structure Services where
  account : Option NodeAccount
  scheduler : HttpScheduler
  deriving DecidableEq, Repr

namespace Services

/-- Does the posts of a computation. -/
def posts {α : Type} (posting : Http.Posting α) : Acting α :=
  posting.answeredBy fun made => Dialogue.question (.post made)

/-- Why nothing is learned from an account that is not there. -/
def noAccount : AccountError := .implementation "no account"

/-- Asks the account. -/
def askAccount {α : Type} (services : Services)
    (ask : NodeAccount → Http.Posting (NodeAccount × Except AccountError α)) :
    Acting (Except AccountError α × Services) :=
  match services.account with
  | none => .done (.error noAccount, services)
  | some node =>
    (posts (ask node)).bind fun (next, answer) =>
      .done (answer, { services with account := some next })

/-- Asks the scheduler to take a transaction. -/
def askScheduler (services : Services) (condition : Condition) (raw : RawTransaction) :
    Acting (Except SchedulingError String × Services) :=
  (posts (services.scheduler.submit condition raw)).bind fun (next, answer) =>
    .done (answer, { services with scheduler := next })

/-- Answers what a command asks for. -/
def answer : (query : Query) → StateT Services (Dialogue Action Action.Answer) query.Answer
  | .clock => fun services => .ask .clock fun now => .done (now, services)
  | .chainHead => fun services => services.askAccount NodeAccount.blockNumber
  | .accounts => fun services => services.askAccount NodeAccount.accounts
  | .gasPrice => fun services => services.askAccount NodeAccount.gasPrice
  | .call (.sign transaction) => fun services =>
    services.askAccount fun node => node.sign transaction
  | .call (.schedule condition raw) => fun services => services.askScheduler condition raw
  | .print line => fun services => .ask (.print line) fun _ => .done ((), services)
  | .warn line => fun services => .ask (.warn line) fun _ => .done ((), services)

end Services

namespace Context

/-- The services before any call. -/
def services (context : Context) : Services :=
  ⟨context.account, context.scheduler⟩

/-- Runs a command on the network. -/
def perform [Digest.Hash] (context : Context) (command : Command) :
    Acting (Except CommandError Ending × Services) :=
  (context.run command).answeredBy Services.answer context.services

end Context

end TimedRelease
