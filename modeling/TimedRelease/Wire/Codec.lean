import TimedRelease.Address
import TimedRelease.Call
import TimedRelease.Json.Printer
import TimedRelease.Json.Reader
import TimedRelease.Rpc
import TimedRelease.Wire.Record

/-!
# Wire forms

How each kind of value is written as JSON and read back.  Amounts are
hexadecimal quantities; a condition is an object with one member, `time` or
`block`; the outcome of a scheduling call names its case in the member `status`.
-/

namespace TimedRelease

open Json (Value)
open Wire

/-- Reads a text that holds one value of a kind and nothing more. -/
def Wire.readText {α : Type} (decode : Value → Reading α) (text : String) : Reading α :=
  match Json.readLeading text.toList with
  | none => .error .malformed
  | some (value, rest) => do
    let read ← decode value
    if (Json.skipSpace rest).isEmpty then return read else .error .malformed

/-! ## Conditions -/

namespace Condition

/-- A condition as JSON. -/
def encode : Condition → Value
  | .time seconds => .object [("time", .natural seconds.toNat)]
  | .block number => .object [("block", .string (Text.hexText number.toNat))]

/-- A block number as it may be given: in hexadecimal or as a number. -/
inductive GivenBlock where
  | text (text : String)
  | number (number : UInt64)

/-- Reads a block number as given. -/
def givenBlock : Value → Reading GivenBlock
  | .string text => .ok (.text text)
  | value => (uint64 value).map .number

/-- The number of a block as given. -/
def GivenBlock.resolve : GivenBlock → Reading UInt64
  | .number given => .ok given
  | .text given =>
    match Text.readHexUInt64 (Text.withoutHexMark given.toList) with
    | .ok read => .ok read
    | .error fault => .error (.blockNumber given fault)

/-- Reads a condition: exactly one of its two fields is given. -/
def decode (value : Value) : Reading Condition := do
  match ← partsOnly ["time", "block"] value with
  | [timePart, blockPart] =>
    let givenTime ← timePart.defaulted uint64
    let givenNumber ← blockPart.defaulted givenBlock
    match givenTime, givenNumber with
    | some seconds, none => return .time seconds
    | none, some given => return .block (← given.resolve)
    | some _, some _ => .error .bothReleases
    | none, none => .error .noRelease
  | _ => .error .malformed

end Condition

/-! ## Words and payloads -/

/-- A word as JSON. -/
def Word256.encode (word : Word256) : Value :=
  .string word.hex

/-- Reads a word in hexadecimal: the mark may be missing, underscores are passed
over, and no digits at all are zero. -/
def Word256.decode : Value → Reading Word256
  | .string text =>
    let digits := (Text.withoutHexMark text.toList).filter (· != '_')
    if digits.all Text.isHexDigit then
      match Word256.ofNat? (Text.valueOf 16 digits) with
      | some word => .ok word
      | none => .error .malformed
    else .error .malformed
  | _ => .error .malformed

/-- A raw transaction as JSON. -/
def RawTransaction.encode (raw : RawTransaction) : Value :=
  .string raw.text

/-- Reads a raw transaction. -/
def RawTransaction.decode : Value → Reading RawTransaction
  | .string text =>
    match RawTransaction.parse text with
    | .ok raw => .ok raw
    | .error error => .error (.payload error)
  | _ => .error .malformed

/-! ## Transactions -/

namespace CanonicalTransaction

/-- The fields of a canonical transaction. -/
def fields : List String := ["from", "to", "value", "gasPrice", "gas", "data"]

/-- A canonical transaction as JSON. -/
def encode (transaction : CanonicalTransaction) : Value :=
  .object [
    ("from", .string transaction.sender),
    ("to", .optional .string transaction.recipient),
    ("value", transaction.value.encode),
    ("gasPrice", transaction.gasPrice.encode),
    ("gas", transaction.gas.encode),
    ("data", .optional .string transaction.data)]

/-- Reads a canonical transaction. -/
def decode (value : Value) : Reading CanonicalTransaction := do
  match ← parts fields value with
  | [sender, recipient, value, gasPrice, gas, data] =>
    return {
      sender := ← sender.required string
      recipient := ← recipient.optional string
      value := ← value.required Word256.decode
      gasPrice := ← gasPrice.required Word256.decode
      gas := ← gas.required Word256.decode
      data := ← data.optional string }
  | _ => .error .malformed

end CanonicalTransaction

namespace SignedTransaction

/-- A signed transaction as JSON. -/
def encode (signed : SignedTransaction) : Value :=
  match signed.echo with
  | none => .object [("raw", signed.raw.encode)]
  | some echo => .object [("raw", signed.raw.encode), ("tx", echo)]

/-- The signer's own account of a transaction, inside so many arrays and objects;
`null` is none. -/
def decodeEcho (level : Nat) (value : Value) : Reading (Option Value) :=
  match value with
  | .null => .ok none
  | value => (anyValue level value).map some

/-- What has been read of a signed transaction. -/
structure Progress where
  raw : Option RawTransaction
  echo : Option (Option Value)

/-- Takes in one member; members are read in the order of the text. -/
def Progress.take (level : Nat) (progress : Progress) : String × Value → Reading Progress
  | ("raw", value) =>
    match progress.raw with
    | some _ => .error .malformed
    | none => do return { progress with raw := some (← RawTransaction.decode value) }
  | ("tx", value) =>
    match progress.echo with
    | some _ => .error .malformed
    | none => do return { progress with echo := some (← decodeEcho level value) }
  | _ => .ok progress

/-- Reads a signed transaction inside so many arrays and objects. -/
def decodeInside (level : Nat) : Value → Reading SignedTransaction
  | .object members => do
    let progress ← members.foldlM (Progress.take (level + 1)) ⟨none, none⟩
    match progress.raw with
    | some raw => return ⟨raw, progress.echo.getD none⟩
    | none => .error .malformed
  | .array [raw] => do return ⟨← RawTransaction.decode raw, none⟩
  | .array [raw, echo] => do
    let raw ← RawTransaction.decode raw
    return ⟨raw, ← decodeEcho (level + 1) echo⟩
  | .array (raw :: _ :: _ :: _) => do
    let _ ← RawTransaction.decode raw
    .error .malformed
  | _ => .error .malformed

/-- Reads a signed transaction that stands for itself. -/
def decode : Value → Reading SignedTransaction :=
  decodeInside 0

end SignedTransaction

/-! ## Addresses -/

namespace AddressWarning

/-- The name of a warning. -/
def name : AddressWarning → String
  | .contractCreation => "contract-creation"
  | .malformed => "malformed"
  | .badChecksum => "bad-checksum"

/-- A warning as JSON. -/
def encode (warning : AddressWarning) : Value :=
  .string warning.name

/-- The warning of a name. -/
def ofName (name : String) : Reading AddressWarning :=
  match name with
  | "contract-creation" => .ok .contractCreation
  | "malformed" => .ok .malformed
  | "bad-checksum" => .ok .badChecksum
  | _ => .error .malformed

/-- Reads a warning: its name, or an object with its name as the only member. -/
def decode : Value → Reading AddressWarning
  | .string name => ofName name
  | .object [(name, .null)] => ofName name
  | _ => .error .malformed

end AddressWarning

namespace AddressCheck

/-- A classified address as JSON. -/
def encode (check : AddressCheck) : Value :=
  .object [("value", .string check.value), ("warning", .optional AddressWarning.encode check.warning)]

/-- Reads a classified address. -/
def decode (value : Value) : Reading AddressCheck := do
  match ← parts ["value", "warning"] value with
  | [value, warning] =>
    return ⟨← value.required string, ← warning.optional AddressWarning.decode⟩
  | _ => .error .malformed

end AddressCheck

/-! ## Remote calls -/

namespace Rpc

/-- A call as JSON. -/
def Request.encode {Params : Type} (encodeParams : Params → Value) (request : Request Params) :
    Value :=
  .object [
    ("jsonrpc", .string request.version),
    ("id", .natural request.id.toNat),
    ("method", .string request.method),
    ("params", encodeParams request.params)]

/-- Reads a call. -/
def Request.decode {Params : Type} (decodeParams : Value → Reading Params) (value : Value) :
    Reading (Request Params) := do
  match ← parts ["jsonrpc", "id", "method", "params"] value with
  | [version, id, method, params] =>
    return {
      version := ← version.required string
      id := ← id.required uint64
      method := ← method.required string
      params := ← params.required decodeParams }
  | _ => .error .malformed

/-- The error object of a failed call as JSON. -/
def Failure.encode (failure : Failure) : Value :=
  .object
    ((match failure.code with
      | some code => [("code", .number (.integer code))]
      | none => []) ++
      ("message", .string failure.message) ::
      (match failure.data with
      | some data => [("data", data)]
      | none => []))

/-- Reads the error object of a failed call inside so many arrays and objects. -/
def Failure.decode (level : Nat) (value : Value) : Reading Failure := do
  match ← parts ["code", "message", "data"] value with
  | [code, message, data] =>
    return {
      code := ← code.defaulted int64
      message := ← message.required string
      data := ← data.defaulted (anyValue (level + 1)) }
  | _ => .error .malformed

/-- An answer as JSON. -/
def Response.encode (response : Response) : Value :=
  .object [
    ("jsonrpc", .optional .string response.version),
    ("id", .optional (fun value => value) response.id),
    ("result", .optional (fun value => value) response.result),
    ("error", .optional Failure.encode response.failure)]

/-- Reads an answer. -/
def Response.decode (value : Value) : Reading Response := do
  match ← parts ["jsonrpc", "id", "result", "error"] value with
  | [version, id, result, failure] =>
    return {
      version := ← version.defaulted string
      id := ← id.defaulted (anyValue 1)
      result := ← result.defaulted (anyValue 1)
      failure := ← failure.defaulted (Failure.decode 1) }
  | _ => .error .malformed

end Rpc

namespace ScheduleOutcome

/-- An outcome as JSON. -/
def encode : ScheduleOutcome → Value
  | .scheduled id => .object [("status", .string "scheduled"), ("id", .string id)]
  | .failed message => .object [("status", .string "failed"), ("message", .string message)]

/-- Reads the content of the case with this name. -/
def decodeCase (status : String) (content : Value) : Reading ScheduleOutcome := do
  let only (name : String) : Reading String := do
    match ← parts [name] content with
    | [part] => part.required string
    | _ => .error .malformed
  match status with
  | "scheduled" => return .scheduled (← only "id")
  | "failed" => return .failed (← only "message")
  | _ => .error .malformed

/-- Reads an outcome: the name of its case is the member `status`, wherever it
stands, or the first item of an array. -/
def decode : Value → Reading ScheduleOutcome
  | .object members => do
    let others := members.filter fun (name, _) => name != "status"
    match ← partNamed members "status" with
    | .given (.string status) =>
      let _ ← others.mapM fun (_, value) => anyValue 1 value
      decodeCase status (.object others)
    | _ => .error .malformed
  | .array (.string status :: items) => decodeCase status (.array items)
  | _ => .error .malformed

end ScheduleOutcome

end TimedRelease
