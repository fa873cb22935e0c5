import TimedRelease.Address
import TimedRelease.Call

/-!
# What commands ask for

A command asks for the time and for what wallet, signer and scheduler have to
say, and has lines printed.  What it prints and what it warns of go separate ways.
-/

namespace TimedRelease

/-- What a command asks for. -/
inductive Query where
  /-- The time, in seconds since 1970. -/
  | clock
  /-- The height of the chain. -/
  | chainHead
  /-- The accounts of the wallet. -/
  | accounts
  /-- The gas price of the network. -/
  | gasPrice
  /-- A call to signer or scheduler. -/
  | call (call : Call)
  /-- A line of the result. -/
  | print (line : String)
  /-- A line of warning. -/
  | warn (line : String)
  deriving DecidableEq

/-- What is answered. -/
def Query.Answer : Query → Type
  | .clock => UInt64
  | .chainHead => Except AccountError UInt64
  | .accounts => Except AccountError (List Account)
  | .gasPrice => Except AccountError Word256
  | .call made => made.Answer
  | .print _ => Unit
  | .warn _ => Unit

/-- A computation that asks as commands do. -/
abbrev Asking (α : Type) : Type := Dialogue Query Query.Answer α

namespace Asking

/-- Makes the calls of a computation. -/
def calls {α : Type} (calling : Calling α) : Asking α :=
  calling.answeredBy fun made => Dialogue.question (.call made)

/-- Has warnings printed, one after the other. -/
def warnAll : List String → Asking Unit
  | [] => .done ()
  | line :: rest => .ask (.warn line) fun _ => warnAll rest

end Asking

end TimedRelease
