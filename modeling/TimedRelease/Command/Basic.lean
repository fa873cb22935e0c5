import TimedRelease.Command.Context
import TimedRelease.Command.Flags
import TimedRelease.Draft.Basic
import TimedRelease.Session

/-!
# Commands

What the program does at the command line: it schedules a signed transaction,
composes one and has it signed, prints a request for a signature, or follows the
wallet.
-/

namespace TimedRelease

/-- A command with its flags. -/
inductive Command where
  /-- Schedules a transaction that is signed already. -/
  | schedule (raw : String) (condition : ConditionFlags)
  /-- Composes a transaction, has it signed, and perhaps schedules it. -/
  | compose (draft : DraftFlags) (condition : ConditionFlags) (thenSchedule : Bool)
  /-- Prints a shell command that asks a node for the signature. -/
  | signRequest (draft : DraftFlags) (nodeUrl : Option String)
  /-- Follows accounts, gas price and height of the chain. -/
  | watch
  deriving DecidableEq, Repr

/-- Why a command fails. -/
inductive CommandError where
  | noAccount
  | noNodeUrl
  | refusedEdit (error : EditError)
  | invalidPayload (error : PayloadError)
  | draft (error : DraftError)
  | session (error : SessionError)
  /-- Scheduling came to this. -/
  | unscheduled (outcome : ScheduleOutcome)
  deriving DecidableEq, Repr

/-- The wording of a failure. -/
def CommandError.message : CommandError → String
  | .noAccount => "This command needs an [account] section in the configuration"
  | .noNodeUrl => "No node URL given and no account rpc_url configured"
  | .refusedEdit error => error.message
  | .invalidPayload error => error.message
  | .draft error => error.message
  | .session error => error.message
  | .unscheduled outcome => outcome.display

/-- How a command goes on when it has not failed. -/
inductive Ending where
  | done
  /-- It follows the wallet, from this session on. -/
  | watching (session : Session)

/-- A command that may fail. -/
abbrev Running (α : Type) : Type := Asking (Except CommandError α)

/-! ## Steps of commands -/

namespace Session

/-- Takes over news of the wallet, if there is any. -/
def takeOver [Digest.Hash] {α : Type} (session : Session) (news : α → WalletUpdate) :
    Except AccountError α → Session
  | .ok value => session.applyUpdate (news value)
  | .error _ => session

/-- Offers accounts and gas prices of the wallet in the draft. -/
def primeDraft [Digest.Hash] (session : Session) : Asking Session :=
  .ask .accounts fun accounts =>
    .ask .gasPrice fun price =>
      .done ((session.takeOver .accounts accounts).takeOver .gasPrice price)

/-- Prints what the condition announces, if anything. -/
def announce (session : Session) : Running Session :=
  .ask .clock fun now =>
    match session.editor.summary? now with
    | some line => .ask (.print line) fun _ => .done (.ok session)
    | none => .done (.ok session)

/-- Edits the condition as the flags say, and announces it. -/
def applyCondition (session : Session) (flags : ConditionFlags) : Running Session :=
  (flags.apply session.editor).bind fun
    | (editor, .ok ()) => announce { session with editor }
    | (_, .error error) =>
      .ask (.warn error.message) fun _ => .done (.error (.refusedEdit error))

/-- Submits the raw transaction, and prints what comes of it. -/
def submit (session : Session) : Running Unit :=
  (Asking.calls session.schedule).bind fun
    | .error error => .done (.error (.session error))
    | .ok outcome =>
      .ask (.print outcome.display) fun _ =>
        .done (if outcome.isScheduled then .ok () else .error (.unscheduled outcome))

/-- Pastes a raw transaction and submits it; a text that is not valid is refused with what
is wrong with it, if anything. -/
def pasteAndSubmit (session : Session) (raw : String) : Running Unit :=
  let (pasted, isValid) := session.paste raw
  if isValid then pasted.submit
  else
    match pasted.rawError? with
    | some error => .done (.error (.invalidPayload error))
    | none => pasted.submit

/-- Fills the draft, warns of what is doubtful about it, and has it signed. -/
def signDraft [Digest.Hash] (session : Session) (flags : DraftFlags) :
    Running (Session × SignedTransaction) :=
  let (draft, hints) := flags.apply session.draft
  (Asking.warnAll (hints.map DraftFlags.hintLine)).bind fun _ =>
    (Asking.calls { session with draft }.compose).bind fun
      | (_, .error error) => .done (.error (.session error))
      | (session, .ok signed) => .done (.ok (session, signed))

end Session

/-- The shell command for a draft, if the draft can be signed. -/
def Draft.shellCommand (draft : Draft) (nodeUrl : String) : Except CommandError String :=
  match draft.validate with
  | .error error => .error (.draft error)
  | .ok () => .ok (draft.curlCommand nodeUrl)

/-! ## Commands -/

namespace Context

/-- The height of the chain, or zero if nobody can tell. -/
def chainHead (context : Context) : Asking UInt64 :=
  match context.account with
  | none => .done 0
  | some _ => .ask .chainHead fun answer => .done (answer.toOption.getD 0)

/-- Opens a session at the height of the chain and at the time. -/
def openSession [Digest.Hash] (context : Context) : Asking Session :=
  context.chainHead.bind fun floor =>
    .ask .clock fun now =>
      .done (.start (.start now floor context.config.delaySeconds) context.account.isSome)

/-- Schedules a signed transaction. -/
def schedule [Digest.Hash] (context : Context) (raw : String) (flags : ConditionFlags) :
    Running Unit :=
  context.openSession.bind fun session =>
    (session.applyCondition flags).andThen fun session => session.pasteAndSubmit raw

/-- Composes a transaction, has it signed, and perhaps schedules it. -/
def compose [Digest.Hash] (context : Context) (draft : DraftFlags) (condition : ConditionFlags)
    (thenSchedule : Bool) : Running Unit :=
  if context.account.isNone then .done (.error .noAccount)
  else
    context.openSession.bind fun session =>
      session.primeDraft.bind fun session =>
        (session.signDraft draft).andThen fun (session, signed) =>
          .ask (.print signed.raw.text) fun _ =>
            if thenSchedule then (session.applyCondition condition).andThen Session.submit
            else .done (.ok ())

/-- Prints a shell command that asks a node for the signature; the node is the
given one or that of the account. -/
def signRequest [Digest.Hash] (context : Context) (flags : DraftFlags)
    (nodeUrl : Option String) : Running Unit :=
  match nodeUrl <|> context.config.nodeUrl? with
  | none => .done (.error .noNodeUrl)
  | some url =>
    let (draft, hints) := flags.apply .start
    (Asking.warnAll (hints.map DraftFlags.hintLine)).bind fun _ =>
      match draft.shellCommand url with
      | .error error => .done (.error error)
      | .ok line => .ask (.print line) fun _ => .done (.ok ())

/-- Opens the session from which the wallet is followed. -/
def watch [Digest.Hash] (context : Context) : Running Session :=
  if context.account.isNone then .done (.error .noAccount)
  else
    context.openSession.bind fun session =>
      .done (.ok { session with editor := session.editor.setMode .block })

/-- A command that is done once it has not failed. -/
def ending (running : Running Unit) : Running Ending :=
  running.andThen fun () => .done (.ok .done)

/-- Runs a command. -/
def run [Digest.Hash] (context : Context) : Command → Running Ending
  | .schedule raw condition => ending (context.schedule raw condition)
  | .compose draft condition thenSchedule =>
    ending (context.compose draft condition thenSchedule)
  | .signRequest draft nodeUrl => ending (context.signRequest draft nodeUrl)
  | .watch => context.watch.andThen fun session => .done (.ok (.watching session))

end Context

/-! ## Following the wallet -/

/-- The line that reports news of the wallet. -/
def WalletUpdate.line [Digest.Hash] : WalletUpdate → String
  | .accounts [] => "No accounts available"
  | .accounts offered =>
    "Accounts: " ++ String.intercalate ", " (offered.map Account.address)
  | .gasPrice price => "Gas price: " ++ price.decimal ++ " wei"
  | .chainHead block => "Chain head: " ++ Condition.blockText block

/-- Takes over news of the wallet, and reports it. -/
def Session.follow [Digest.Hash] (session : Session) (news : WalletUpdate) : Session × String :=
  (session.applyUpdate news, news.line)

end TimedRelease
