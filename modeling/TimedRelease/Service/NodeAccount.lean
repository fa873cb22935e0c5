import TimedRelease.Http
import TimedRelease.Service.Implementation
import TimedRelease.Url
import TimedRelease.Wire.Codec

/-!
# Accounts of a node

A node of the chain is wallet and signer at once: it knows its accounts, the gas
price and the height of the chain, and signs for the accounts it has unlocked.
It is asked by remote calls, numbered from zero.
-/

namespace TimedRelease

/-- A node of the chain. -/
structure NodeAccount where
  rpcUrl : String
  /-- The number of the next call. -/
  nextId : UInt64
  deriving DecidableEq, Repr

/-- Why a call to a node has no result. -/
inductive NodeFault where
  /-- No answer arrived, or not the whole of it. -/
  | transport (reason : String)
  /-- The node did not carry out the request. -/
  | status (code : Nat) (body : String)
  /-- The answer is not of the kind that was asked for. -/
  | undecodable
  /-- The node answered with an error. -/
  | refused (code : Int) (message : String) (data : Option Json.Value)

/-- The wording of a fault. -/
def NodeFault.message : NodeFault → String
  | .transport reason => reason
  | .status code body => "HTTP error " ++ Text.decimalText code ++ " with body: " ++ body
  | .undecodable => "deserialization error: unexpected content"
  | .refused code message data =>
    "server returned an error response: error code " ++
      String.ofList (Json.renderInteger code) ++ ": " ++ message ++
      data.elim "" fun data => ", data: " ++ data.text

namespace NodeAccount

/-! ## Calls -/

/-- A call as JSON; a call without parameters has no member for them. -/
def encodeRequest (id : UInt64) (method : String) (params : Option Json.Value) : Json.Value :=
  .object
    (("method", .string method) ::
      (params.map fun params => ("params", params)).toList ++
      [("id", .natural id.toNat), ("jsonrpc", .string Rpc.version)])

/-- The result in an answer. -/
def resultOf (response : Rpc.Response) : Except NodeFault Json.Value :=
  match response.outcome? with
  | some (.ok result) => .ok result
  | some (.error ⟨some code, message, data⟩) => .error (.refused code message data)
  | some (.error ⟨none, _, _⟩) => .error .undecodable
  | none => .error .undecodable

/-- The result of a call. -/
def classify : Http.Reply → Except NodeFault Json.Value
  | .unreachable reason => .error (.transport reason)
  | .broken _ reason => .error (.transport reason)
  | .complete status body =>
    if Http.isSuccess status then
      match Wire.readText Rpc.Response.decode body with
      | .error _ => .error .undecodable
      | .ok response => resultOf response
    else .error (.status status body)

/-- The result of a call, read as a value of some kind. -/
def readResult {α : Type} (decode : Json.Value → Wire.Reading α) (reply : Http.Reply) :
    Except NodeFault α :=
  match classify reply with
  | .error fault => .error fault
  | .ok result =>
    match decode result with
    | .ok value => .ok value
    | .error _ => .error .undecodable

/-- Makes a call and reads its result. -/
def ask {α : Type} (node : NodeAccount) (method : String) (params : Option Json.Value)
    (decode : Json.Value → Wire.Reading α) :
    Http.Posting (NodeAccount × Except NodeFault α) :=
  .ask ⟨node.rpcUrl, (encodeRequest node.nextId method params).text⟩ fun reply =>
    .done ({ node with nextId := node.nextId + 1 }, readResult decode reply)

/-! ## Results -/

/-- Reads an account. -/
def decodeAccount : Json.Value → Wire.Reading Account
  | .string text =>
    match Account.ofText? text.toList with
    | some account => .ok account
    | none => .error .malformed
  | _ => .error .malformed

/-- Reads accounts. -/
def decodeAccounts : Json.Value → Wire.Reading (List Account)
  | .array items => items.mapM decodeAccount
  | _ => .error .malformed

/-- Reads a number below a bound: a word in hexadecimal, or a JSON number. -/
def decodeBelow (bound : Nat) (value : Json.Value) : Wire.Reading Nat :=
  let number := match value with
    | .string _ => (Word256.decode value).map Word256.toNat
    | value => (Wire.uint64 value).map UInt64.toNat
  match number with
  | .error error => .error error
  | .ok n => if n < bound then .ok n else .error .malformed

/-- Reads a gas price, which has 128 bits. -/
def decodeGasPrice (value : Json.Value) : Wire.Reading Word256 :=
  (decodeBelow (Nat.pow 2 128) value).map Word256.saturating

/-- Reads a block number. -/
def decodeBlockNumber (value : Json.Value) : Wire.Reading UInt64 :=
  (decodeBelow UInt64.size value).map UInt64.ofNat

/-! ## Wallet and signer -/

/-- The answer to a call for something, its fault as one of the network. -/
def reported {α : Type} (what : String) :
    NodeAccount × Except NodeFault α → NodeAccount × Except AccountError α
  | (node, result) =>
    (node, result.mapError fun fault =>
      .network ("Failed to get " ++ what ++ ": " ++ fault.message))

/-- Asks for the accounts. -/
def accounts (node : NodeAccount) : Http.Posting (NodeAccount × Except AccountError (List Account)) :=
  (node.ask "eth_accounts" none decodeAccounts).bind fun answer =>
    .done (reported "accounts" answer)

/-- Asks for the gas price of the network. -/
def gasPrice (node : NodeAccount) : Http.Posting (NodeAccount × Except AccountError Word256) :=
  (node.ask "eth_gasPrice" none decodeGasPrice).bind fun answer =>
    .done (reported "gas price" answer)

/-- Asks for the height of the chain. -/
def blockNumber (node : NodeAccount) : Http.Posting (NodeAccount × Except AccountError UInt64) :=
  (node.ask "eth_blockNumber" none decodeBlockNumber).bind fun answer =>
    .done (reported "block number" answer)

/-- Has a transaction signed, and not broadcast. -/
def sign (node : NodeAccount) (transaction : CanonicalTransaction) :
    Http.Posting (NodeAccount × Except AccountError SignedTransaction) :=
  (node.ask Rpc.signMethod (some (.array [transaction.encode])) SignedTransaction.decode).bind
    fun (next, result) =>
      .done (next, result.mapError fun fault => .signingFailed fault.message)

/-! ## Configuration -/

/-- The account of a node at an address, before its first call. -/
def make (rpcUrl : String) : Except AccountError NodeAccount :=
  match Url.fault? rpcUrl with
  | some fault =>
    .error (.invalidConfig ("Invalid RPC URL " ++ rpcUrl ++ ": " ++ fault.message))
  | none => .ok ⟨rpcUrl, 0⟩

/-- The schema of the table of a node. -/
def schema : Schema where
  required := [⟨"rpc_url", .string, some Schema.webAddress⟩]
  optional := []

/-- Builds the account of a node from a table. -/
def build (table : Toml.Value) : Except AccountError NodeAccount :=
  match Implementation.fits .invalidConfig schema table with
  | .error error => .error error
  | .ok () =>
    match (table.member? "rpc_url").bind Toml.Value.string? with
    | some rpcUrl => make rpcUrl
    | none => .error (.invalidConfig "rpc_url is required")

/-- The implementation of an account by a node. -/
def implementation : Implementation AccountError NodeAccount :=
  ⟨"node", schema, build⟩

/-- The implementations of accounts. -/
def implementations : List (Implementation AccountError NodeAccount) :=
  [implementation]

/-- The account of the implementation in use, given the tables there are. -/
def ofTables (primary : String) (tables : List (String × Toml.Value)) :
    Except AccountError NodeAccount :=
  match Toml.Value.find? primary tables with
  | none =>
    .error (.invalidConfig
      ("Primary account implementation '" ++ primary ++ "' has no configuration table"))
  | some table =>
    match Implementation.named? primary implementations with
    | some chosen => chosen.load .invalidConfig table
    | none => .error (.invalidConfig ("Unknown account implementation '" ++ primary ++ "'"))

end NodeAccount

end TimedRelease
