/-!
# Numerals

Natural numbers written in base ten and base sixteen, and read back.  Reading
below a bound reports the first fault met from the left: an empty text, a
character that is no digit, or a value that reaches the bound.
-/

namespace TimedRelease.Text

/-- The digits `0` to `9`. -/
def isDecimalDigit (c : Char) : Bool :=
  c.isDigit

/-- The digits of base sixteen, in either case. -/
def isHexDigit (c : Char) : Bool :=
  c.isDigit || ('a' ≤ c && c ≤ 'f') || ('A' ≤ c && c ≤ 'F')

/-- What a digit of base sixteen stands for. -/
def digitValue (c : Char) : Nat :=
  if c.isDigit then c.toNat - '0'.toNat
  else if 'a' ≤ c && c ≤ 'f' then c.toNat - 'a'.toNat + 10
  else c.toNat - 'A'.toNat + 10

/-- The number that digits of the given base denote. -/
def valueOf (base : Nat) (digits : List Char) : Nat :=
  digits.foldl (fun total c => total * base + digitValue c) 0

/-- A non-empty run of decimal digits. -/
def isDecimalNumeral (text : List Char) : Bool :=
  !text.isEmpty && text.all isDecimalDigit

/-- A non-empty run of hexadecimal digits. -/
def isHexNumeral (text : List Char) : Bool :=
  !text.isEmpty && text.all isHexDigit

/-- The number a non-empty run of decimal digits denotes. -/
def readDecimal? (text : List Char) : Option Nat :=
  if isDecimalNumeral text then some (valueOf 10 text) else none

/-- The number a non-empty run of hexadecimal digits denotes. -/
def readHex? (text : List Char) : Option Nat :=
  if isHexNumeral text then some (valueOf 16 text) else none

/-- A number in base ten, without leading zeros. -/
def decimal (n : Nat) : List Char :=
  Nat.toDigits 10 n

/-- A number in base sixteen, in small letters and without leading zeros. -/
def hexadecimal (n : Nat) : List Char :=
  Nat.toDigits 16 n

/-- A number in base ten, as a string. -/
def decimalText (n : Nat) : String :=
  String.ofList (decimal n)

/-- A number in base sixteen behind the mark `0x`. -/
def hexText (n : Nat) : String :=
  String.ofList ('0' :: 'x' :: hexadecimal n)

/-- Text without one leading `0x` or `0X`. -/
def withoutHexMark : List Char → List Char
  | '0' :: 'x' :: rest => rest
  | '0' :: 'X' :: rest => rest
  | text => text

/-- Digits in groups of three from the right, a comma between groups. -/
def grouped : List Char → List Char
  | [] => []
  | c :: rest =>
    if !rest.isEmpty && rest.length % 3 == 0 then c :: ',' :: grouped rest
    else c :: grouped rest

/-- A numeral in groups of three; any other text as it is. -/
def withCommas (text : List Char) : List Char :=
  if isDecimalNumeral text then grouped text else text

/-- A number in base ten in groups of three. -/
def groupedText (n : Nat) : String :=
  String.ofList (grouped (decimal n))

/-- Why a text is no integer below the bound. -/
inductive IntegerFault where
  | empty
  | invalidDigit
  | tooLarge
  deriving DecidableEq, Repr

/-- The wording of a fault. -/
def IntegerFault.message : IntegerFault → String
  | .empty => "cannot parse integer from empty string"
  | .invalidDigit => "invalid digit found in string"
  | .tooLarge => "number too large to fit in target type"

/-- Continues a number with further digits, staying below the bound. -/
def continueBelow (base bound : Nat) (isDigit : Char → Bool) (total : Nat) :
    List Char → Except IntegerFault Nat
  | [] => .ok total
  | c :: rest =>
    if isDigit c then
      let next := total * base + digitValue c
      if next < bound then continueBelow base bound isDigit next rest
      else .error .tooLarge
    else .error .invalidDigit

/-- Reads an integer below the bound; one plus sign may stand before it. -/
def readBelow (base bound : Nat) (isDigit : Char → Bool) :
    List Char → Except IntegerFault Nat
  | [] => .error .empty
  | ['+'] => .error .invalidDigit
  | '+' :: rest => continueBelow base bound isDigit 0 rest
  | text => continueBelow base bound isDigit 0 text

/-- Reads a 64-bit number in base ten. -/
def readUInt64 (text : List Char) : Except IntegerFault UInt64 :=
  (readBelow 10 UInt64.size isDecimalDigit text).map UInt64.ofNat

/-- Reads a 64-bit number in base sixteen. -/
def readHexUInt64 (text : List Char) : Except IntegerFault UInt64 :=
  (readBelow 16 UInt64.size isHexDigit text).map UInt64.ofNat

end TimedRelease.Text
