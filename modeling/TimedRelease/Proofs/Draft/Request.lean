import TimedRelease.Proofs.Draft.Fields
import TimedRelease.Proofs.Json.Texts
import TimedRelease.Proofs.Shell.Words
import TimedRelease.Proofs.Wire.Messages

/-!
# The request between single quotes

The request for a signature is handed to a shell between single quotes.  A draft that
validates has no apostrophe in its fields, so that the quotes end where the request
does, and the shell takes the request as it is.
-/

namespace TimedRelease

open Json.Value (FreeOfApostrophes freeOfApostrophes_append freeOfApostrophes_cons)

/-! ## Apostrophes in a draft -/

theorem Address.apostrophe_not_mem {address : List Char}
    (formed : isWellFormed address = true) : '\'' ∉ address := by
  unfold isWellFormed at formed
  split at formed
  case h_1 digits =>
    simp only [Bool.and_eq_true, List.all_eq_true] at formed
    have free := Json.apostrophe_not_mem_of_isHexDigit formed.2
    simp [free]
  case h_2 => contradiction

theorem Payload.apostrophe_not_mem {data : List Char} (isData : isData data = true) :
    '\'' ∉ data := by
  unfold Payload.isData at isData
  split at isData
  case h_1 => simp
  case h_2 digits =>
    simp only [Bool.and_eq_true, List.all_eq_true] at isData
    have free := Json.apostrophe_not_mem_of_isHexDigit isData.2
    simp [free]
  case h_3 => contradiction

theorem Text.apostrophe_not_mem_hexText (n : Nat) : '\'' ∉ (hexText n).toList := by
  have digits : '\'' ∉ hexadecimal n := by
    apply Json.apostrophe_not_mem_of_isHexDigit
    intro c member
    exact isHexDigit_of_mem_hexadecimal member
  simp [hexText, digits]

theorem texts_optional_string {text : Option String} (free : ∀ given ∈ text, '\'' ∉ given.toList) :
    FreeOfApostrophes (Json.Value.texts (.optional .string text)) := by
  cases text with
  | none => simp [Json.Value.optional, Json.Value.texts, FreeOfApostrophes]
  | some given => simpa [Json.Value.optional, Json.Value.texts, FreeOfApostrophes] using free

theorem CanonicalTransaction.texts_encode {transaction : CanonicalTransaction}
    (sender : '\'' ∉ transaction.sender.toList)
    (recipient : ∀ text ∈ transaction.recipient, '\'' ∉ text.toList)
    (data : ∀ text ∈ transaction.data, '\'' ∉ text.toList) :
    FreeOfApostrophes transaction.encode.texts := by
  have recipientFree := texts_optional_string recipient
  have dataFree := texts_optional_string data
  have amount (word : Word256) : '\'' ∉ word.hex.toList := Text.apostrophe_not_mem_hexText _
  simp [encode, Word256.encode, Json.Value.texts, Json.Value.textsOfMembers,
    freeOfApostrophes_cons, freeOfApostrophes_append, sender, recipientFree, dataFree, amount]

namespace Draft

theorem mem_nonEmpty {text given : String} (member : given ∈ nonEmpty text) : given = text := by
  rw [nonEmpty] at member
  split at member <;> simp_all

theorem Signable.texts_signRequest {draft : Draft} (signable : draft.Signable) :
    FreeOfApostrophes (draft.signRequest.encode encodeParams).texts := by
  have sender := Address.apostrophe_not_mem signable.sender
  have recipient : '\'' ∉ draft.recipient.value.toList := by
    rcases signable.recipient with empty | formed
    · simp [empty]
    · exact Address.apostrophe_not_mem formed
  have data := Payload.apostrophe_not_mem signable.data
  have transaction : FreeOfApostrophes draft.canonical.encode.texts := by
    apply CanonicalTransaction.texts_encode sender
    · intro text member
      rwa [mem_nonEmpty member]
    · intro text member
      rwa [mem_nonEmpty member]
  simp [signRequest, Rpc.Request.make, Rpc.version, Rpc.signMethod, Rpc.Request.encode,
    encodeParams, Json.Value.natural, Json.Value.texts, Json.Value.textsOfItems,
    Json.Value.textsOfMembers, freeOfApostrophes_cons, transaction]

theorem readBack_signRequest (draft : Draft) :
    Wire.ReadBack (Rpc.Request.decode (Wire.single CanonicalTransaction.decode))
      (draft.signRequest.encode encodeParams) draft.signRequest :=
  Rpc.Request.readBack draft.canonical.readBack.single

/-! ## The line for a shell -/

/-- The line sends the request to sign a draft to a node, as the single-quoted argument
that ends it. -/
structure Sends (draft : Draft) (nodeUrl line body : String) : Prop where
  laidOut : line =
    "curl " ++ nodeUrl ++ " -X POST -HContent-Type:application/json --data " ++
      "'" ++ body ++ "'"
  unquoted : '\'' ∉ body.toList
  request : Wire.readText (Rpc.Request.decode (Wire.single CanonicalTransaction.decode)) body =
    .ok ⟨"2.0", 1, "eth_signTransaction", draft.canonical⟩
  /-- The shell adds the request, just as it stands, to the words before it. -/
  argument : ∀ words,
    Shell.words? ("curl " ++ nodeUrl ++ " -X POST -HContent-Type:application/json --data ") =
        some words →
      Shell.words? line = some (words ++ [body])
  /-- These are all the words when the shell takes the address of the node as it is. -/
  words : Shell.isPlainWord nodeUrl = true →
    Shell.words? line =
      some ["curl", nodeUrl, "-X", "POST", "-HContent-Type:application/json", "--data", body]

theorem words?_commandStart {nodeUrl : String} (plain : Shell.isPlainWord nodeUrl = true) :
    Shell.words? (commandStart nodeUrl) =
      some ["curl", nodeUrl, "-X", "POST", "-HContent-Type:application/json", "--data"] := by
  have all : ∀ word ∈ ["curl", nodeUrl, "-X", "POST", "-HContent-Type:application/json",
      "--data"], Shell.isPlainWord word = true := by
    simp only [List.forall_mem_cons, plain]
    decide
  have taken := Shell.foldlM_take_words all []
  have line : (commandStart nodeUrl).toList =
      ["curl", nodeUrl, "-X", "POST", "-HContent-Type:application/json", "--data"].flatMap
        fun word => word.toList ++ [' '] := by
    simp [commandStart]
  rw [Shell.words?, line, taken]
  rfl

theorem words?_curlCommand {draft : Draft} (free : '\'' ∉ draft.signRequestText.toList)
    {nodeUrl : String} {words : List String}
    (read : Shell.words? (commandStart nodeUrl) = some words) :
    Shell.words? (draft.curlCommand nodeUrl) = some (words ++ [draft.signRequestText]) := by
  have blank : commandStart nodeUrl =
      ("curl " ++ nodeUrl ++ " -X POST -HContent-Type:application/json --data") ++ " " := by
    simp only [commandStart, String.append_assoc]
    rfl
  rw [curlCommand, blank]
  rw [blank] at read
  exact Shell.words?_append_quoted free read

theorem Signable.sends {draft : Draft} (signable : draft.Signable) (nodeUrl : String) :
    draft.Sends nodeUrl (draft.curlCommand nodeUrl) draft.signRequestText := by
  have exact := draft.readBack_signRequest.exact
  have free : '\'' ∉ draft.signRequestText.toList := by
    rw [signRequestText, Json.Value.text, String.toList_ofList]
    exact Json.Value.apostrophe_not_mem_render exact signable.texts_signRequest
  constructor
  · rfl
  · exact free
  · exact draft.readBack_signRequest.text
  · intro words read
    exact words?_curlCommand free read
  · intro plain
    exact words?_curlCommand free (words?_commandStart plain)

end Draft

end TimedRelease
