import TimedRelease.Text.Blank
import TimedRelease.Text.Numeral

/-!
# Hexadecimal payloads

A raw transaction is signed elsewhere and only relayed, so all that is asked of
it is that it be hexadecimal.  The data attached to a transaction may be absent;
otherwise it is marked with `0x` and made of whole bytes.
-/

namespace TimedRelease

/-- Why a payload is refused. -/
inductive PayloadError where
  /-- The raw transaction is empty or not hexadecimal; the text is shortened. -/
  | rawTransaction (shown : String)
  /-- The attached data is not made of whole bytes in hexadecimal. -/
  | data (text : String)
  deriving DecidableEq, Repr

/-- The wording of a refusal. -/
def PayloadError.message : PayloadError → String
  | .rawTransaction shown => "This does not look like a valid raw transaction: " ++ shown
  | .data text => "This does not look like valid data: " ++ text

namespace Payload

/-- Any number of marks `0x`, then at least one hexadecimal digit and nothing else. -/
def isRawTransaction : List Char → Bool
  | [] => false
  | '0' :: 'x' :: rest => isRawTransaction rest
  | c :: rest => (c :: rest).all Text.isHexDigit

/-- Nothing, or the mark `0x` and an even number of hexadecimal digits. -/
def isData : List Char → Bool
  | [] => true
  | '0' :: 'x' :: digits => digits.length % 2 == 0 && digits.all Text.isHexDigit
  | _ => false

/-- How many characters of a refused text are shown. -/
def shownLength : Nat := 18

/-- The start of a text, and two dots when there is more of it. -/
def shorten (text : List Char) : List Char :=
  if shownLength < text.length then text.take shownLength ++ ['.', '.'] else text

/-- The refusal of attached data, if it is refused. -/
def dataError? (text : String) : Option PayloadError :=
  if isData text.toList then none else some (.data text)

end Payload

/-- A signed transaction in hexadecimal, ready to be relayed. -/
structure RawTransaction where
  text : String
  isRaw : Payload.isRawTransaction text.toList = true
  deriving DecidableEq

namespace RawTransaction

/-- Reads a raw transaction, blanks around it aside. -/
def parse (text : String) : Except PayloadError RawTransaction :=
  let trimmed := Text.trimmed text
  if isRaw : Payload.isRawTransaction trimmed.toList = true then .ok ⟨trimmed, isRaw⟩
  else .error (.rawTransaction (String.ofList (Payload.shorten trimmed.toList)))

/-- The refusal of a text, if it is refused. -/
def error? (text : String) : Option PayloadError :=
  match parse text with
  | .ok _ => none
  | .error fault => some fault

end RawTransaction

end TimedRelease
