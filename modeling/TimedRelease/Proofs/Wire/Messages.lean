import TimedRelease.Draft.Basic
import TimedRelease.Proofs.Payload.RawText
import TimedRelease.Proofs.Wire.Values
import TimedRelease.Service.HttpScheduler

/-!
# Messages read back

What is written of a message is read back as that message.  Each reader is shown to
undo its writer on values; that the text of a value is read as that value carries this
over to texts, and calls take it from their parameters.
-/

namespace TimedRelease

open Json (Value)
open Wire

namespace Wire

/-- The text of a value is read as that value is. -/
theorem readText_text {α : Type} (decode : Value → Reading α) {value : Value}
    (exact : value.isExact = true) : readText decode value.text = decode value := by
  have nothingLeft : (Json.skipSpace []).isEmpty = true := rfl
  simp only [readText, Value.text, String.toList_ofList, Json.readLeading_render exact,
    nothingLeft]
  cases decode value <;> rfl

/-- What is written has a text of its own, and is read as the value it was written of. -/
structure ReadBack {α : Type} (decode : Value → Reading α) (written : Value) (value : α) :
    Prop where
  exact : written.isExact = true
  same : decode written = .ok value

theorem ReadBack.text {α : Type} {decode : Value → Reading α} {written : Value} {value : α}
    (back : ReadBack decode written value) : readText decode written.text = .ok value := by
  rw [readText_text decode back.exact, back.same]

section

variable {α : Type} {decode : Value → Reading α}

theorem Part.defaulted_given {value : Value} {read : α} (present : value ≠ .null)
    (reads : decode value = .ok read) :
    (Part.given value).defaulted decode = .ok (some read) := by
  cases value <;> simp_all [Part.defaulted, Except.map]

theorem Part.optional_given {encode : α → Value} (present : ∀ value, encode value ≠ .null)
    (reads : ∀ value, decode (encode value) = .ok value) (value : Option α) :
    (Part.given (.optional encode value)).optional decode = .ok value := by
  cases value with
  | none => rfl
  | some value =>
      have notNull := present value
      have read := reads value
      cases written : encode value <;> simp_all [Value.optional, Part.optional, Except.map]

theorem Part.optional_string (text : Option String) :
    (Part.given (.optional .string text)).optional string = .ok text := by
  have present : ∀ text, Value.string text ≠ .null := by simp
  have reads : ∀ text, string (.string text) = .ok text := fun _ => rfl
  exact optional_given present reads text

theorem isExact_optional_string (text : Option String) :
    (Value.optional .string text).isExact = true := by
  cases text <;> rfl

theorem uint64_natural (n : UInt64) : uint64 (.natural n.toNat) = .ok n := by
  have number : (Value.natural n.toNat).uint64? = some n := by
    have fits := n.toNat_lt
    simp [Value.natural, Value.uint64?, UInt64.size]
    omega
  rw [uint64, number]

theorem isExact_natural (n : UInt64) : (Value.natural n.toNat).isExact = true := by
  have fits := n.toNat_lt
  simp [Value.natural, Value.isExact, Json.Number.isInteger]
  omega

end

end Wire

/-! ## Conditions -/

namespace Condition

theorem readHexUInt64_hexadecimal (number : UInt64) :
    Text.readHexUInt64 (Text.hexadecimal number.toNat) = .ok number :=
  Text.readHexUInt64_eq_ok_iff.mpr (Text.integerText_hexadecimal number.toNat)

theorem resolve_hexText (number : UInt64) :
    GivenBlock.resolve (.text (Text.hexText number.toNat)) = .ok number := by
  have read := readHexUInt64_hexadecimal number
  simp [GivenBlock.resolve, Text.hexText, Text.withoutHexMark, read]

theorem decode_encode (condition : Condition) : decode condition.encode = .ok condition := by
  cases condition with
  | time seconds =>
      have found : partsOnly ["time", "block"] (encode (.time seconds)) =
          .ok [.given (.natural seconds.toNat), .unnamed] := rfl
      have read := Part.defaulted_given (by simp [Value.natural]) (uint64_natural seconds)
      rw [decode, found]
      simp only [bind, Except.bind, read]
      rfl
  | block number =>
      have found : partsOnly ["time", "block"] (encode (.block number)) =
          .ok [.unnamed, .given (.string (Text.hexText number.toNat))] := rfl
      have read := resolve_hexText number
      rw [decode, found]
      simp only [bind, Except.bind, Part.defaulted, givenBlock, Except.map, read]
      rfl

theorem readBack (condition : Condition) : ReadBack decode condition.encode condition := by
  refine ⟨?_, decode_encode condition⟩
  cases condition with
  | time seconds =>
      have exact := isExact_natural seconds
      simp [encode, Value.isExact, Value.isExactMembers, exact]
  | block number => rfl

end Condition

/-! ## Words and payloads -/

theorem Word256.decode_encode (word : Word256) : decode word.encode = .ok word := by
  have digits : ∀ c ∈ Text.hexadecimal word.toNat, Text.isHexDigit c = true := by
    intro c member
    exact Text.isHexDigit_of_mem_hexadecimal member
  have kept : (Text.hexadecimal word.toNat).filter (· != '_') =
      Text.hexadecimal word.toNat := by
    apply List.filter_eq_self.mpr
    intro c member
    apply bne_iff_ne.mpr
    rintro rfl
    have digit := digits '_' member
    contradiction
  simp [encode, decode, hex, Text.hexText, Text.withoutHexMark, kept,
    List.all_eq_true.mpr digits]

theorem RawTransaction.readBack (raw : RawTransaction) : ReadBack decode raw.encode raw := by
  refine ⟨rfl, ?_⟩
  rw [encode, decode, parse_text]

/-! ## Transactions -/

theorem CanonicalTransaction.readBack (transaction : CanonicalTransaction) :
    ReadBack decode transaction.encode transaction := by
  constructor
  · simp [encode, Value.isExact, Value.isExactMembers, Word256.encode,
      isExact_optional_string]
  · have found : parts fields transaction.encode =
        .ok [.given (.string transaction.sender),
          .given (.optional .string transaction.recipient),
          .given transaction.value.encode, .given transaction.gasPrice.encode,
          .given transaction.gas.encode, .given (.optional .string transaction.data)] := rfl
    rw [decode, found]
    simp only [bind, Except.bind, Part.required, string, Word256.decode_encode,
      Part.optional_string]
    rfl

namespace SignedTransaction

/-- What the signer sent along, if anything, is kept as it stands. -/
def EchoKept (level : Nat) (signed : SignedTransaction) : Prop :=
  ∀ echo, signed.echo = some echo → echo ≠ .null ∧ Kept level echo

theorem decodeEcho_of_kept {level : Nat} {echo : Value} (present : echo ≠ .null)
    (kept : Kept level echo) : decodeEcho level echo = .ok (some echo) := by
  have read := kept.anyValue
  cases echo <;> simp_all [decodeEcho, Except.map]

theorem readBack {level : Nat} {signed : SignedTransaction}
    (kept : signed.EchoKept (level + 1)) :
    ReadBack (decodeInside level) signed.encode signed := by
  obtain ⟨raw, echo⟩ := signed
  have rawRead := raw.readBack.same
  have rawExact := raw.readBack.exact
  cases echo with
  | none =>
      constructor
      · simp [encode, Value.isExact, Value.isExactMembers, rawExact]
      · simp [encode, decodeInside, Progress.take, rawRead, bind, Except.bind, pure,
          Except.pure]
  | some echo =>
      obtain ⟨present, echoKept⟩ := kept echo rfl
      have echoRead := decodeEcho_of_kept present echoKept
      constructor
      · simp [encode, Value.isExact, Value.isExactMembers, rawExact, echoKept.exact]
      · simp [encode, decodeInside, Progress.take, rawRead, echoRead, bind, Except.bind,
          pure, Except.pure]

end SignedTransaction

/-! ## Outcomes and addresses -/

theorem ScheduleOutcome.readBack (outcome : ScheduleOutcome) :
    ReadBack decode outcome.encode outcome := by
  cases outcome with
  | scheduled id => exact ⟨rfl, rfl⟩
  | failed message => exact ⟨rfl, rfl⟩

theorem AddressCheck.readBack (check : AddressCheck) :
    ReadBack decode check.encode check := by
  obtain ⟨value, warning⟩ := check
  cases warning with
  | none => exact ⟨rfl, rfl⟩
  | some warning => cases warning <;> exact ⟨rfl, rfl⟩

/-! ## Calls -/

theorem Rpc.Request.readBack {Params : Type} {encodeParams : Params → Value}
    {decodeParams : Value → Reading Params} {request : Rpc.Request Params}
    (params : ReadBack decodeParams (encodeParams request.params) request.params) :
    ReadBack (decode decodeParams) (request.encode encodeParams) request := by
  constructor
  · have number := isExact_natural request.id
    simp [encode, Value.isExact, Value.isExactMembers, number, params.exact]
  · have found : parts ["jsonrpc", "id", "method", "params"] (request.encode encodeParams) =
        .ok [.given (.string request.version), .given (.natural request.id.toNat),
          .given (.string request.method), .given (encodeParams request.params)] := rfl
    rw [decode, found]
    simp only [bind, Except.bind, Part.required, string, uint64_natural, params.same]
    rfl

theorem Wire.ReadBack.single {α : Type} {decode : Value → Reading α} {written : Value}
    {value : α} (back : ReadBack decode written value) :
    ReadBack (single decode) (.array [written]) value := by
  constructor
  · simp [Value.isExact, Value.isExactItems, back.exact]
  · exact back.same

theorem Wire.ReadBack.pair {α β : Type} {decodeFirst : Value → Reading α}
    {decodeSecond : Value → Reading β} {first second : Value} {left : α} {right : β}
    (leftBack : ReadBack decodeFirst first left) (rightBack : ReadBack decodeSecond second right) :
    ReadBack (pair decodeFirst decodeSecond) (.array [first, second]) (left, right) := by
  constructor
  · simp [Value.isExact, Value.isExactItems, leftBack.exact, rightBack.exact]
  · simp only [Wire.pair, leftBack.same, rightBack.same]
    rfl

/-! ## Kinds of messages -/

/-- The kinds of messages that stand for themselves or are the parameters of a call. -/
inductive Wire.Kind where
  | condition
  | rawTransaction
  | canonicalTransaction
  | signedTransaction
  | outcome
  | addressCheck
  deriving DecidableEq, Repr

namespace Wire.Kind

/-- The messages of a kind. -/
def Message : Kind → Type
  | condition => Condition
  | rawTransaction => RawTransaction
  | canonicalTransaction => CanonicalTransaction
  | signedTransaction => SignedTransaction
  | outcome => ScheduleOutcome
  | addressCheck => AddressCheck

/-- A message as JSON. -/
def encode : (kind : Kind) → kind.Message → Value
  | condition => Condition.encode
  | rawTransaction => RawTransaction.encode
  | canonicalTransaction => CanonicalTransaction.encode
  | signedTransaction => SignedTransaction.encode
  | outcome => ScheduleOutcome.encode
  | addressCheck => AddressCheck.encode

/-- Reads a message inside so many arrays and objects. -/
def decode (level : Nat) : (kind : Kind) → Value → Reading kind.Message
  | condition => Condition.decode
  | rawTransaction => RawTransaction.decode
  | canonicalTransaction => CanonicalTransaction.decode
  | signedTransaction => SignedTransaction.decodeInside level
  | outcome => ScheduleOutcome.decode
  | addressCheck => AddressCheck.decode

/-- What is asked of a message inside so many arrays and objects: of a signed transaction
that what was sent along with it is kept, and of the others nothing. -/
def Fits (level : Nat) : (kind : Kind) → kind.Message → Prop
  | signedTransaction, signed => signed.EchoKept (level + 1)
  | _, _ => True

theorem readBack {level : Nat} {kind : Kind} {message : kind.Message}
    (fits : kind.Fits level message) :
    ReadBack (kind.decode level) (kind.encode message) message := by
  cases kind with
  | condition => exact Condition.readBack message
  | rawTransaction => exact RawTransaction.readBack message
  | canonicalTransaction => exact CanonicalTransaction.readBack message
  | signedTransaction => exact SignedTransaction.readBack fits
  | outcome => exact ScheduleOutcome.readBack message
  | addressCheck => exact AddressCheck.readBack message

/-- Every message that fits is read back from its text, by itself, as the parameter of a
call, and in the lists of one and of two parameters that calls are made with. -/
theorem messages_read_back (kind : Kind) :
    (∀ message : kind.Message, kind.Fits 0 message →
      readText (kind.decode 0) (kind.encode message).text = .ok message) ∧
    (∀ request : Rpc.Request kind.Message, kind.Fits 1 request.params →
      readText (Rpc.Request.decode (kind.decode 1)) (request.encode kind.encode).text =
        .ok request) ∧
    (∀ request : Rpc.Request kind.Message, kind.Fits 2 request.params →
      readText (Rpc.Request.decode (single (kind.decode 2)))
          (request.encode fun message => .array [kind.encode message]).text =
        .ok request) ∧
    ∀ (other : Kind) (request : Rpc.Request (kind.Message × other.Message)),
      kind.Fits 2 request.params.1 → other.Fits 2 request.params.2 →
      readText (Rpc.Request.decode (pair (kind.decode 2) (other.decode 2)))
          (request.encode fun (message, another) =>
            .array [kind.encode message, other.encode another]).text =
        .ok request := by
  refine ⟨?_, ?_, ?_, ?_⟩
  · intro message fits
    exact (readBack fits).text
  · intro request fits
    exact (Rpc.Request.readBack (readBack fits)).text
  · intro request fits
    apply ReadBack.text
    apply Rpc.Request.readBack
    exact (readBack fits).single
  · intro other request fits otherFits
    apply ReadBack.text
    apply Rpc.Request.readBack
    exact (readBack fits).pair (readBack otherFits)

/-- A signer's own account with the least and the greatest number and with every kind of
escape is read back, with the transaction alone and inside a call. -/
theorem signed_account_read_back :
    let echo : Value := .object
      [("hash\u0001", .string "\"\\/\u0007\n\u2028é"),
        ("values", .array [.number (.integer (-9223372036854775808)),
          .number (.integer 18446744073709551615), .null, .object []])]
    let signed : SignedTransaction := ⟨⟨"0x0xF86c", by decide⟩, some echo⟩
    let request : Rpc.Request SignedTransaction := .make 18446744073709551615 "relay" signed
    signed.EchoKept 2 ∧
      readText SignedTransaction.decode signed.encode.text = .ok signed ∧
      readText (Rpc.Request.decode (SignedTransaction.decodeInside 1))
          (request.encode SignedTransaction.encode).text = .ok request := by
  intro echo signed request
  have kept (level : Nat) (shallow : level ≤ 2) : signed.EchoKept level := by
    rintro other same
    injection same with same
    subst same
    refine ⟨by simp [echo], by decide, by decide +kernel, ?_⟩
    have depth : echo.depth = 3 := by decide
    rw [depth, nestingLimit]
    omega
  have back := messages_read_back .signedTransaction
  exact ⟨kept 2 (by omega), back.1 signed (kept 1 (by omega)),
    back.2.1 request (kept 2 (by omega))⟩

end Wire.Kind

end TimedRelease
