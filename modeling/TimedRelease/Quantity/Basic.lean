import TimedRelease.Text.Blank
import TimedRelease.Quantity.Denomination

/-!
# Typed quantities

Amounts, gas limits and gas prices are typed in a loose grammar: a hexadecimal
literal, a decimal with shorthand letters for zeros, or a magnitude followed by
the name of a unit.  Reading never fails: text outside the grammar counts as
zero and the quantity says that it is not valid.
-/

namespace TimedRelease

/-- A quantity as typed, with the amount it was read as. -/
structure Quantity where
  text : String
  amount? : Option Word256
  deriving DecidableEq, Repr

namespace Quantity

/-- The zeros that a shorthand letter stands for; any other character is itself. -/
def expandLetter (c : Char) : List Char :=
  if c = 'k' then List.replicate 3 '0'
  else if c = 'm' then List.replicate 6 '0'
  else if c = 'g' then List.replicate 9 '0'
  else [c]

/-- Replaces each shorthand letter by its zeros. -/
def expandShorthand (numeral : List Char) : List Char :=
  numeral.flatMap expandLetter

/-- The amount of a text already in small letters. -/
def readLowered? : List Char → Option Word256
  | '0' :: 'x' :: digits => (Text.readHex? digits).bind Word256.ofNat?
  | text =>
    match Text.words text with
    | [] => none
    | [numeral] => (Text.readDecimal? (expandShorthand numeral)).bind Word256.ofNat?
    | magnitude :: unit :: _ =>
      (Denomination.ofName? (String.ofList unit)).bind
        fun unit => unit.toWei? (expandShorthand magnitude)

/-- The amount of a text, when the grammar has one. -/
def read? (text : List Char) : Option Word256 :=
  readLowered? (Text.lowerCase text)

/-- Reads a quantity and keeps its text. -/
def parse (text : String) : Quantity :=
  ⟨text, read? text.toList⟩

/-- The quantity of a known amount, written in base ten. -/
def ofWord (value : Word256) : Quantity :=
  ⟨value.decimal, some value⟩

/-- The amount, or zero when the text has none. -/
def value (quantity : Quantity) : Word256 :=
  quantity.amount?.getD 0

/-- The text is in the grammar. -/
def isValid (quantity : Quantity) : Bool :=
  quantity.amount?.isSome

/-- The amount is zero. -/
def isZero (quantity : Quantity) : Bool :=
  quantity.value == 0

/-- The amount as a hexadecimal quantity. -/
def hex (quantity : Quantity) : String :=
  quantity.value.hex

/-- The quantity of an empty field. -/
instance : Inhabited Quantity := ⟨parse ""⟩

@[simp] theorem text_parse (text : String) : (parse text).text = text := rfl

@[simp] theorem amount?_parse (text : String) : (parse text).amount? = read? text.toList := rfl

@[simp] theorem value_ofWord (value : Word256) : (ofWord value).value = value := rfl

@[simp] theorem isValid_ofWord (value : Word256) : (ofWord value).isValid = true := rfl

theorem value_of_not_isValid {quantity : Quantity} (invalid : quantity.isValid = false) :
    quantity.value = 0 := by
  rcases quantity with ⟨text, _ | amount⟩
  · rfl
  · simp [isValid] at invalid

end Quantity

end TimedRelease
