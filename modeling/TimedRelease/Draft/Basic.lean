import TimedRelease.Address
import TimedRelease.Call
import TimedRelease.Draft.GasPrice
import TimedRelease.Wire.Codec

/-!
# Composing a transaction

A draft holds what is typed for a transaction, together with the accounts and
gas prices its wallet offers.  Fields take any text; a hint says what is doubtful
about it, and only what cannot be signed at all makes the draft fail.
-/

namespace TimedRelease

/-- A field of a draft. -/
inductive DraftField where
  | sender
  | recipient
  | value
  | gasLimit
  | gasPrice
  | data
  deriving DecidableEq, Repr

/-- The name of a field for display. -/
def DraftField.name : DraftField → String
  | .sender => "Sender"
  | .recipient => "Recipient"
  | .value => "Value"
  | .gasLimit => "GasLimit"
  | .gasPrice => "GasPrice"
  | .data => "Data"

/-- What is doubtful about the text of a field. -/
inductive FieldHint where
  | address (warning : AddressWarning)
  | quantity (text : String)
  | data (error : PayloadError)
  deriving DecidableEq, Repr

/-- The wording of a hint. -/
def FieldHint.message : FieldHint → String
  | .address warning => warning.message
  | .quantity text => "Unable to parse '" ++ text ++ "', using 0"
  | .data error => error.message

/-- Why a draft is not signed. -/
inductive DraftError where
  | missingSender
  | invalidSender (text : String)
  | invalidRecipient (text : String)
  | invalidData (error : PayloadError)
  | signingFailed (error : AccountError)
  deriving DecidableEq, Repr

/-- The wording of a draft error. -/
def DraftError.message : DraftError → String
  | .missingSender => "Sender is required"
  | .invalidSender text => "Invalid sender: " ++ text
  | .invalidRecipient text => "Invalid recipient: " ++ text
  | .invalidData error => "Invalid data: " ++ error.message
  | .signingFailed error => "Signing failed: " ++ error.message

/-- An account offered as sender: its address and a short form of it. -/
structure AccountOption where
  address : String
  label : String
  deriving DecidableEq, Repr

/-- The option of an account. -/
def AccountOption.ofAccount [Digest.Hash] (account : Account) : AccountOption :=
  ⟨account.address, Address.labelText account.address⟩

/-- A transaction being composed. -/
structure Draft where
  sender : AddressCheck
  recipient : AddressCheck
  value : Quantity
  gasLimit : Quantity
  gasPrice : Quantity
  data : String
  accounts : List AccountOption
  options : List GasPriceOption
  deriving DecidableEq, Repr

namespace Draft

/-- The gas limit of a new draft, as typed. -/
def initialGasLimit : String := "21k"

/-- A new draft. -/
def start [Digest.Hash] : Draft where
  sender := Address.classify ""
  recipient := Address.classify ""
  value := Quantity.parse ""
  gasLimit := Quantity.parse initialGasLimit
  gasPrice := Quantity.parse "0"
  data := ""
  accounts := []
  options := GasPriceOption.upTo GasPriceOption.initialHighest

/-- The refusal of the attached data, if it is refused. -/
def dataError? (draft : Draft) : Option PayloadError :=
  Payload.dataError? draft.data

/-- Chooses a typed gas price, which becomes an option if none has its value. -/
def chooseGasPrice (draft : Draft) (text : String) : Draft :=
  let price := Quantity.parse text
  let options :=
    if draft.options.any (fun option => option.value == price.value) then draft.options
    else draft.options ++ [⟨price.value, text⟩]
  { draft with options, gasPrice := price }

/-- Puts text into a field. -/
def fill [Digest.Hash] (draft : Draft) (field : DraftField) (text : String) : Draft :=
  match field with
  | .sender => { draft with sender := Address.classify text }
  | .recipient => { draft with recipient := Address.classify text }
  | .value => { draft with value := Quantity.parse text }
  | .gasLimit => { draft with gasLimit := Quantity.parse text }
  | .gasPrice => draft.chooseGasPrice text
  | .data => { draft with data := text }

/-- The hint about a quantity: blank text needs none. -/
def quantityHint? (quantity : Quantity) : Option FieldHint :=
  if quantity.isValid || (Text.trim quantity.text.toList).isEmpty then none
  else some (.quantity quantity.text)

/-- The hint about what a field holds. -/
def hint? (draft : Draft) : DraftField → Option FieldHint
  | .sender => draft.sender.warning.map .address
  | .recipient => draft.recipient.warning.map .address
  | .value => quantityHint? draft.value
  | .gasLimit => quantityHint? draft.gasLimit
  | .gasPrice => quantityHint? draft.gasPrice
  | .data => draft.dataError?.map .data

/-- Puts text into a field and says what is doubtful about it. -/
def setField [Digest.Hash] (draft : Draft) (field : DraftField) (text : String) :
    Draft × Option FieldHint :=
  let filled := draft.fill field text
  (filled, filled.hint? field)

/-- Offers the accounts of a wallet and selects the first, or none. -/
def applyAccounts [Digest.Hash] (draft : Draft) (accounts : List Account) : Draft :=
  let offered := accounts.map AccountOption.ofAccount
  let first := (offered.head?.map AccountOption.address).getD ""
  { draft with accounts := offered, sender := Address.classify first }

/-- Offers the gas prices around a price of the network, and selects the middle
one unless a price was chosen before. -/
def applyGasPrice (draft : Draft) (price : Word256) : Draft :=
  let options := GasPriceOption.around (price.toNat / Denomination.gwei.multiplier)
  let offered := { draft with options }
  if draft.gasPrice.isZero then
    match GasPriceOption.middle? options with
    | some middle => { offered with gasPrice := Quantity.ofWord middle.value }
    | none => offered
  else offered

/-- A text, unless it is empty. -/
def nonEmpty (text : String) : Option String :=
  if text.isEmpty then none else some text

/-- The transaction that a signer is handed. -/
def canonical (draft : Draft) : CanonicalTransaction where
  sender := draft.sender.value
  recipient := nonEmpty draft.recipient.value
  value := draft.value.value
  gasPrice := draft.gasPrice.value
  gas := draft.gasLimit.value
  data := nonEmpty draft.data

/-- The first thing that keeps the draft from being signed, in the order sender,
recipient, data.  A wrong checksum or a missing recipient does not. -/
def validate (draft : Draft) : Except DraftError Unit :=
  if draft.sender.isEmpty then .error .missingSender
  else if draft.sender.warning = some .malformed then .error (.invalidSender draft.sender.value)
  else if draft.recipient.warning.any (·.isBlocking) then
    .error (.invalidRecipient draft.recipient.value)
  else
    match draft.dataError? with
    | some error => .error (.invalidData error)
    | none => .ok ()

end Draft

/-- A change to a draft: an edit of a field, a choice, or news from the wallet. -/
inductive DraftEdit where
  | setField (field : DraftField) (text : String)
  | chooseGasPrice (text : String)
  | applyGasPrice (price : Word256)
  | applyAccounts (accounts : List Account)
  deriving DecidableEq

namespace Draft

/-- Makes one change. -/
def step [Digest.Hash] (draft : Draft) : DraftEdit → Draft
  | .setField field text => draft.fill field text
  | .chooseGasPrice text => draft.chooseGasPrice text
  | .applyGasPrice price => draft.applyGasPrice price
  | .applyAccounts accounts => draft.applyAccounts accounts

/-- The draft after a list of changes. -/
def run [Digest.Hash] (draft : Draft) (edits : List DraftEdit) : Draft :=
  edits.foldl step draft

/-! ## Having a draft signed -/

/-- The answer of a signer, its failure as one of the draft. -/
def signedBy : Except AccountError SignedTransaction → Except DraftError SignedTransaction
  | .ok signed => .ok signed
  | .error error => .error (.signingFailed error)

/-- Has the draft signed. -/
def submit (draft : Draft) : Calling (Except DraftError SignedTransaction) :=
  match draft.validate with
  | .error error => .done (.error error)
  | .ok () => .ask (.sign draft.canonical) fun answer => .done (signedBy answer)

/-!
## Asking for a signature

The signing request of a draft, and a shell command that sends it to a node.
-/

/-- The parameters of a signing request: the transaction alone. -/
def encodeParams (transaction : CanonicalTransaction) : Json.Value :=
  .array [transaction.encode]

/-- The request to sign the draft. -/
def signRequest (draft : Draft) : Rpc.Request CanonicalTransaction :=
  .make 1 Rpc.signMethod draft.canonical

/-- The request to sign the draft, as JSON text. -/
def signRequestText (draft : Draft) : String :=
  (draft.signRequest.encode encodeParams).text

/-- The part of the shell command in front of the request. -/
def commandStart (nodeUrl : String) : String :=
  "curl " ++ nodeUrl ++ " -X POST -HContent-Type:application/json --data "

/-- A shell command that sends the signing request to a node; the request stands
between single quotes. -/
def curlCommand (draft : Draft) (nodeUrl : String) : String :=
  commandStart nodeUrl ++ "'" ++ draft.signRequestText ++ "'"

end Draft

end TimedRelease
