import TimedRelease.Http
import TimedRelease.Service.Implementation
import TimedRelease.Wire.Codec

/-!
# Schedulers over HTTP

A scheduler takes a signed transaction by a remote call with two parameters, the
condition and the raw transaction.  The calls of one scheduler are numbered from
one, whatever comes of them.  What an answer means depends on its body alone; the
status only shows in the wording.
-/

namespace TimedRelease

/-- A remote scheduler. -/
structure HttpScheduler where
  rpcUrl : String
  timeoutSeconds : UInt64
  /-- The number of the next call. -/
  nextId : UInt64
  deriving DecidableEq, Repr

namespace HttpScheduler

/-- Where the calls of an endpoint are posted. -/
def rpcUrlOf (endpoint : String) : String :=
  String.ofList (endpoint.toList.reverse.dropWhile (· = '/')).reverse ++ "/rpc"

/-- The scheduler of an endpoint, before its first call. -/
def make (endpoint : String) (timeoutSeconds : UInt64) : HttpScheduler :=
  ⟨rpcUrlOf endpoint, timeoutSeconds, 1⟩

/-! ## Calls -/

/-- The parameters of a call as JSON. -/
def encodeParams : Condition × RawTransaction → Json.Value
  | (condition, raw) => .array [condition.encode, raw.encode]

/-- Reads the parameters of a call. -/
def decodeParams : Json.Value → Wire.Reading (Condition × RawTransaction) :=
  Wire.pair Condition.decode RawTransaction.decode

/-- The next call. -/
def request (scheduler : HttpScheduler) (condition : Condition) (raw : RawTransaction) :
    Rpc.Request (Condition × RawTransaction) :=
  .make scheduler.nextId Rpc.scheduleMethod (condition, raw)

/-- The next call as it is posted. -/
def post (scheduler : HttpScheduler) (condition : Condition) (raw : RawTransaction) :
    Http.Post :=
  ⟨scheduler.rpcUrl, ((scheduler.request condition raw).encode encodeParams).text⟩

/-! ## Answers -/

/-- The identifier in an answer: a text itself, anything else as JSON text. -/
def identifier (response : Rpc.Response) : Except SchedulingError String :=
  match response.outcome? with
  | some (.error failure) => .error (.refused failure.display)
  | some (.ok (.string id)) => .ok id
  | some (.ok .null) => .error (.invalidResponse "Response has neither result nor error")
  | some (.ok other) => .ok other.text
  | none => .error (.invalidResponse "Response has neither result nor error")

/-- The wording of a body that is no answer to a call. -/
def undecodable (status : Nat) (error : Wire.WireError) : String :=
  "HTTP " ++ Http.statusText status ++ " with non JSON-RPC body: " ++
    error.message?.getD "unexpected content"

/-- What comes of a call. -/
def classify : Http.Reply → Except SchedulingError String
  | .unreachable reason => .error (.network ("Failed to reach scheduler: " ++ reason))
  | .broken _ reason => .error (.network ("Failed to read response: " ++ reason))
  | .complete status body =>
    match Wire.readText Rpc.Response.decode body with
    | .error error => .error (.invalidResponse (undecodable status error))
    | .ok response => identifier response

/-- Makes a call. -/
def submit (scheduler : HttpScheduler) (condition : Condition) (raw : RawTransaction) :
    Http.Posting (HttpScheduler × Except SchedulingError String) :=
  .ask (scheduler.post condition raw) fun reply =>
    .done ({ scheduler with nextId := scheduler.nextId + 1 }, classify reply)

/-- Makes calls one after the other. -/
def submitAll (scheduler : HttpScheduler) :
    List (Condition × RawTransaction) →
      Http.Posting (HttpScheduler × List (Except SchedulingError String))
  | [] => .done (scheduler, [])
  | (condition, raw) :: rest =>
    (scheduler.submit condition raw).bind fun (next, answer) =>
      (next.submitAll rest).bind fun (last, answers) => .done (last, answer :: answers)

/-! ## Configuration -/

/-- The schema of the table of a scheduler. -/
def schema : Schema where
  required := [⟨"endpoint", .string, some Schema.webAddress⟩]
  optional := [.plain "timeout_seconds" (.integer (some 1) (some 300))]

/-- How long an answer is waited for unless the table says otherwise. -/
def defaultTimeout : UInt64 := 30

/-- The timeout in a table. -/
def timeoutOf (table : Toml.Value) : UInt64 :=
  match (table.member? "timeout_seconds").bind Toml.Value.integer? with
  | some seconds => UInt64.ofInt seconds
  | none => defaultTimeout

/-- Builds a scheduler from a table. -/
def build (table : Toml.Value) : Except SchedulingError HttpScheduler :=
  match Implementation.fits .invalidConfig schema table with
  | .error error => .error error
  | .ok () =>
    match (table.member? "endpoint").bind Toml.Value.string? with
    | some endpoint => .ok (make endpoint (timeoutOf table))
    | none => .error (.invalidConfig "endpoint is required")

/-- The implementation of a scheduler over HTTP. -/
def implementation : Implementation SchedulingError HttpScheduler :=
  ⟨"http", schema, build⟩

/-- The implementations of schedulers. -/
def implementations : List (Implementation SchedulingError HttpScheduler) :=
  [implementation]

/-- The scheduler of an implementation and its table. -/
def ofTable (name : String) (table : Toml.Value) : Except SchedulingError HttpScheduler :=
  match Implementation.named? name implementations with
  | some chosen => chosen.load .invalidConfig table
  | none => .error (.invalidConfig ("Unknown scheduling implementation '" ++ name ++ "'"))

end HttpScheduler

end TimedRelease
