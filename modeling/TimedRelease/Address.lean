import TimedRelease.Digest.Keccak
import TimedRelease.Text.LowerCase
import TimedRelease.Text.Numeral

/-!
# Addresses

An address is typed or pasted, so it is classified and not refused: whoever asks
decides which warnings matter.  The letters of an address carry a checksum in
their case: letter `i` is a capital when digit `i` of the hash is above seven.
-/

namespace TimedRelease

/-- What is worth a warning about a typed address. -/
inductive AddressWarning where
  /-- No address was given; as a recipient this creates a contract. -/
  | contractCreation
  /-- The text is not `0x` and forty hexadecimal digits. -/
  | malformed
  /-- The letters are in mixed case and do not agree with the checksum. -/
  | badChecksum
  deriving DecidableEq, Repr

namespace AddressWarning

/-- The address cannot be used. -/
def isBlocking : AddressWarning → Bool
  | .malformed => true
  | _ => false

/-- The wording of a warning. -/
def message : AddressWarning → String
  | .contractCreation => "You didn't specify recipient - this will create a contract"
  | .malformed => "This does not look like Ethereum address."
  | .badChecksum => "The address does not contain a valid checksum."

end AddressWarning

/-- An address as given, with its warning if there is one. -/
structure AddressCheck where
  value : String
  warning : Option AddressWarning
  deriving DecidableEq, Repr

namespace AddressCheck

/-- No address was given. -/
def isEmpty (check : AddressCheck) : Bool :=
  check.value.isEmpty

/-- There is no warning. -/
def isOk (check : AddressCheck) : Bool :=
  check.warning.isNone

end AddressCheck

namespace Address

/-- The number of digits of an address. -/
def digitCount : Nat := 40

/-- The mark `0x` and forty hexadecimal digits. -/
def isWellFormed : List Char → Bool
  | '0' :: 'x' :: digits => digits.length == digitCount && digits.all Text.isHexDigit
  | _ => false

/-- The digits of a byte string in base sixteen. -/
def nibbles (bytes : List UInt8) : List Nat :=
  bytes.flatMap fun byte => [byte.toNat / 16, byte.toNat % 16]

/-- The digits of the hash of a text. -/
def hashNibbles [Digest.Hash] (text : List Char) : List Nat :=
  nibbles (Digest.Hash.digest (String.ofList text).toUTF8.toList).toList

/-- A letter in the case that the digit of the hash asks for. -/
def caseFor (c : Char) (nibble : Nat) : Char :=
  if 7 < nibble then c.toUpper else c

/-- The checksum form of small letters without their mark. -/
def checksumDigits [Digest.Hash] (lowered : List Char) : List Char :=
  ((lowered.take digitCount).zip (hashNibbles lowered)).map fun (c, nibble) => caseFor c nibble

/-- The checksum form of an address, with or without its mark. -/
def checksummed [Digest.Hash] (address : List Char) : List Char :=
  '0' :: 'x' :: checksumDigits (Text.lowerCase (Text.withoutHexMark address))

/-- The warning about an address, the first that applies. -/
def warning? [Digest.Hash] (address : List Char) : Option AddressWarning :=
  if address.isEmpty then some .contractCreation
  else if !isWellFormed address then some .malformed
  else if Text.lowerCase address ≠ address ∧ address ≠ checksummed address then
    some .badChecksum
  else none

/-- Classifies an address. -/
def classify [Digest.Hash] (address : String) : AddressCheck :=
  ⟨address, warning? address.toList⟩

/-- The checksum form of an address, as a string. -/
def checksumText [Digest.Hash] (address : String) : String :=
  String.ofList (checksummed address.toList)

/-- The characters that make up the first bytes of a text, when they end on a boundary. -/
def takeBytes? : List Char → Nat → Option (List Char)
  | _, 0 => some []
  | [], _ + 1 => none
  | c :: rest, bytes =>
    if c.utf8Size ≤ bytes then (takeBytes? rest (bytes - c.utf8Size)).map (c :: ·) else none

/-- What follows the first bytes of a text, when they end on a boundary. -/
def dropBytes? : List Char → Nat → Option (List Char)
  | text, 0 => some text
  | [], _ + 1 => none
  | c :: rest, bytes =>
    if c.utf8Size ≤ bytes then dropBytes? rest (bytes - c.utf8Size) else none

/-- The bytes of an address shown before the dots of its label. -/
def headBytes : Nat := 12

/-- The bytes of an address passed over before the part shown after the dots. -/
def tailStart : Nat := 32

/-- The short form of an address in a list of choices: its start, three dots and
its end.  A text too short for that is its own label. -/
def label (address : List Char) : List Char :=
  match takeBytes? address headBytes, dropBytes? address tailStart with
  | some head, some (c :: tail) => head ++ '.' :: '.' :: '.' :: c :: tail
  | _, _ => address

/-- The short form of an address, as a string. -/
def labelText (address : String) : String :=
  String.ofList (label address.toList)

end Address

/-- An account of a wallet: twenty bytes. -/
structure Account where
  bytes : Vector UInt8 20
  deriving DecidableEq

namespace Account

/-- The forty hexadecimal digits of an account in small letters. -/
def digits (account : Account) : List Char :=
  Digest.hexBytes account.bytes.toList

/-- The address of an account in its checksum form. -/
def address [Digest.Hash] (account : Account) : String :=
  String.ofList (Address.checksummed account.digits)

/-- The value of two hexadecimal digits. -/
def byteOf (high low : Char) : UInt8 :=
  UInt8.ofNat (16 * Text.digitValue high + Text.digitValue low)

/-- The bytes that pairs of hexadecimal digits stand for. -/
def bytesOf : List Char → List UInt8
  | high :: low :: rest => byteOf high low :: bytesOf rest
  | _ => []

/-- The account of forty hexadecimal digits, with or without their mark. -/
def ofText? (text : List Char) : Option Account :=
  let digits := Text.withoutHexMark text
  let bytes := bytesOf digits
  if digits.length = Address.digitCount ∧ digits.all Text.isHexDigit then
    if whole : bytes.toArray.size = 20 then some ⟨⟨bytes.toArray, whole⟩⟩ else none
  else none

end Account

end TimedRelease
