import TimedRelease.Json.Printer

/-!
# Remote calls

The envelopes of remote procedure calls.  An answer that carries an error has
failed, whatever else it carries.
-/

namespace TimedRelease

namespace Rpc

/-- The version of the protocol that calls are made in. -/
def version : String := "2.0"

/-- The procedure that schedules a transaction. -/
def scheduleMethod : String := "scheduleTransaction"

/-- The procedure that signs a transaction and does not broadcast it. -/
def signMethod : String := "eth_signTransaction"

/-- A call. -/
structure Request (Params : Type) where
  version : String
  id : UInt64
  method : String
  params : Params
  deriving DecidableEq

/-- A call in the current version. -/
def Request.make {Params : Type} (id : UInt64) (method : String) (params : Params) :
    Request Params :=
  ⟨Rpc.version, id, method, params⟩

/-- The error object of a failed call. -/
structure Failure where
  code : Option Int
  message : String
  data : Option Json.Value

/-- The wording of a failed call. -/
def Failure.display (failure : Failure) : String :=
  match failure.code with
  | some code =>
    failure.message ++ " (code " ++ String.ofList (Json.renderInteger code) ++ ")"
  | none => failure.message

/-- The answer to a call. -/
structure Response where
  version : Option String
  id : Option Json.Value
  result : Option Json.Value
  failure : Option Failure

/-- What an answer comes to, an error counting before a result; nothing if it
carries neither. -/
def Response.outcome? (response : Response) : Option (Except Failure Json.Value) :=
  match response.failure, response.result with
  | some failure, _ => some (.error failure)
  | none, some result => some (.ok result)
  | none, none => none

end Rpc

end TimedRelease
