import TimedRelease.Draft.Basic
import TimedRelease.Editor.Basic
import TimedRelease.Tracker

/-!
# Scheduling sessions

A session joins a condition being edited, a draft, and a raw transaction that was
pasted or signed.  News from the wallet goes to the draft and to the floor of
block numbers.  Scheduling submits the raw transaction under the condition in
effect and leaves the session as it is, so that it can be repeated.
-/

namespace TimedRelease

/-- Why a session neither composes nor schedules. -/
inductive SessionError where
  | noSigner
  | draft (error : DraftError)
  | invalidPayload (error : PayloadError)
  deriving DecidableEq, Repr

/-- The wording of a session error. -/
def SessionError.message : SessionError → String
  | .noSigner => "No signer configured"
  | .draft error => error.message
  | .invalidPayload error => "Invalid payload: " ++ error.message

/-- A scheduling session.  The raw text is what was pasted, valid or not. -/
structure Session where
  editor : Editor
  draft : Draft
  raw : String
  hasSigner : Bool
  deriving DecidableEq

namespace Session

/-- A session with a new draft and no raw transaction. -/
def start [Digest.Hash] (editor : Editor) (hasSigner : Bool) : Session :=
  ⟨editor, .start, "", hasSigner⟩

/-- Takes over news from the wallet. -/
def applyUpdate [Digest.Hash] (session : Session) : WalletUpdate → Session
  | .accounts accounts => { session with draft := session.draft.applyAccounts accounts }
  | .gasPrice price => { session with draft := session.draft.applyGasPrice price }
  | .chainHead block => { session with editor := session.editor.setFloor block }

/-- Pastes a raw transaction, without the blanks around it; valid or not, it is kept. -/
def paste (session : Session) (text : String) : Session × Bool :=
  let pasted := Text.trimmed text
  ({ session with raw := pasted }, Payload.isRawTransaction pasted.toList)

/-- What is wrong with the raw transaction, if anything. -/
def rawError? (session : Session) : Option PayloadError :=
  RawTransaction.error? session.raw

/-- Takes over a signed transaction as the raw transaction; a failure changes nothing. -/
def adopt (session : Session) :
    Except DraftError SignedTransaction → Session × Except SessionError SignedTransaction
  | .ok signed => ({ session with raw := signed.raw.text }, .ok signed)
  | .error error => (session, .error (.draft error))

/-- Has the draft signed and takes over the result as the raw transaction. -/
def compose (session : Session) :
    Calling (Session × Except SessionError SignedTransaction) :=
  if session.hasSigner then session.draft.submit.bind fun answer => .done (session.adopt answer)
  else .done (session, .error .noSigner)

/-- Submits the raw transaction under the condition in effect. -/
def schedule (session : Session) : Calling (Except SessionError ScheduleOutcome) :=
  match RawTransaction.parse session.raw with
  | .error error => .done (.error (.invalidPayload error))
  | .ok raw =>
    .ask (.schedule session.editor.current.condition raw) fun answer =>
      .done (.ok (.ofAnswer answer))

end Session

/-- What is done in a session. -/
inductive SessionStep where
  | edit (edit : Edit)
  | draft (edit : DraftEdit)
  | update (update : WalletUpdate)
  | paste (text : String)
  | compose
  | schedule
  deriving DecidableEq

namespace Session

/-- The session after a step. -/
def step [Digest.Hash] (session : Session) : SessionStep → Calling Session
  | .edit edit => .done { session with editor := (session.editor.step edit).1 }
  | .draft edit => .done { session with draft := session.draft.step edit }
  | .update update => .done (session.applyUpdate update)
  | .paste text => .done (session.paste text).1
  | .compose => session.compose.bind fun (next, _) => .done next
  | .schedule => session.schedule.bind fun _ => .done session

/-- The session after a list of steps. -/
def run [Digest.Hash] (session : Session) : List SessionStep → Calling Session
  | [] => .done session
  | first :: rest => (session.step first).bind fun next => next.run rest

end Session

end TimedRelease
