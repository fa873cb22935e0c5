import TimedRelease.Toml.Value

/-!
# Plain TOML values

Values without quotes or brackets: truth values, numbers, dates and times.  The
digits of a number may be divided by single underscores.
-/

namespace TimedRelease.Toml.Scalar

/-- A character of a value without quotes or brackets. -/
def isScalarChar (c : Char) : Bool :=
  c.isAlphanum || c = '_' || c = '+' || c = '-' || c = '.' || c = ':'

/-- Digits with the underscores between them taken out. -/
def undivided? (isDigit : Char → Bool) : List Char → Option (List Char)
  | [] => none
  | [c] => if isDigit c then some [c] else none
  | c :: '_' :: rest =>
    if isDigit c then (undivided? isDigit rest).map (c :: ·) else none
  | c :: rest => if isDigit c then (undivided? isDigit rest).map (c :: ·) else none

/-- A digit of base eight. -/
def isOctalDigit (c : Char) : Bool := '0' ≤ c && c ≤ '7'

/-- A digit of base two. -/
def isBinaryDigit (c : Char) : Bool := c = '0' || c = '1'

/-- A number in a base marked at its start. -/
def based? (base : Nat) (isDigit : Char → Bool) (text : List Char) : Option Value :=
  (undivided? isDigit text).map fun digits => .integer (Text.valueOf base digits)

/-- The digits of a whole decimal number: no digit follows a leading zero. -/
def whole? (text : List Char) : Option (List Char) :=
  match undivided? Text.isDecimalDigit text with
  | some ('0' :: _ :: _) => none
  | found => found

/-- Splits a sign off a number. -/
def splitSign : List Char → Bool × List Char
  | '-' :: rest => (true, rest)
  | '+' :: rest => (false, rest)
  | text => (false, text)

/-- The text before the first mark, and the text after it if there is a mark. -/
def splitAt (isMark : Char → Bool) (text : List Char) : List Char × Option (List Char) :=
  match text.dropWhile (fun c => !isMark c) with
  | [] => (text, none)
  | _ :: rest => (text.takeWhile (fun c => !isMark c), some rest)

/-- The power of ten behind the letter `e`. -/
def power? (text : List Char) : Option Int :=
  let (negative, digits) := splitSign text
  (undivided? Text.isDecimalDigit digits).map fun digits =>
    if negative then -(Text.valueOf 10 digits : Int) else Text.valueOf 10 digits

/-- A decimal power beyond which there are only infinities, and its opposite only zeros. -/
def greatestPower : Int := 400

/-- The double nearest to `digits * 10 ^ power`, unless it lies beyond every double. -/
def double? (negative : Bool) (digits : List Char) (power : Int) : Option Double :=
  let value := Text.valueOf 10 digits
  let size : Int := (Text.decimal value).length + power
  if value = 0 ∨ size < -greatestPower then
    some (.finite ⟨negative, 0, Binary64.leastExponent⟩)
  else if greatestPower < size then none
  else (Binary64.ofDecimal? negative value power).map .finite

/-- A decimal number with a fraction or a power of ten. -/
def fractional? (negative : Bool) (text : List Char) : Option Double := do
  let (mantissa, power) := splitAt (fun c => c = 'e' || c = 'E') text
  let (whole, fraction) := splitAt (· = '.') mantissa
  let whole ← whole? whole
  let fraction ← match fraction with
    | none => some []
    | some digits => undivided? Text.isDecimalDigit digits
  let power ← match power with
    | none => some 0
    | some text => power? text
  double? negative (whole ++ fraction) (power - fraction.length)

/-- A decimal number behind its sign. -/
def decimal? (negative : Bool) (text : List Char) : Option Value :=
  match whole? text with
  | some digits =>
    let value : Int := Text.valueOf 10 digits
    some (.integer (if negative then -value else value))
  | none => (fractional? negative text).map .float

/-- A number behind its sign. -/
def signed? (negative : Bool) : List Char → Option Value
  | ['i', 'n', 'f'] => some (.float (.infinite negative))
  | ['n', 'a', 'n'] => some (.float .nan)
  | text => decimal? negative text

/-- A number. -/
def number? : List Char → Option Value
  | '0' :: 'x' :: rest => based? 16 Text.isHexDigit rest
  | '0' :: 'o' :: rest => based? 8 isOctalDigit rest
  | '0' :: 'b' :: rest => based? 2 isBinaryDigit rest
  | text =>
    let (negative, rest) := splitSign text
    signed? negative rest

/-- A value without quotes or brackets. -/
def ofText? (text : List Char) : Option Value :=
  if text = "true".toList then some (.boolean true)
  else if text = "false".toList then some (.boolean false)
  else
    match Datetime.ofText? text with
    | some value => some (.datetime value)
    | none => number? text

/-- The text goes on with a blank and the time that belongs to a date. -/
def timeFollows : List Char → Bool
  | ' ' :: c :: _ => Text.isDecimalDigit c
  | _ => false

/-- Splits off a value without quotes or brackets; a blank may divide a date from its time. -/
def split (text : List Char) : List Char × List Char :=
  let first := text.takeWhile isScalarChar
  let rest := text.dropWhile isScalarChar
  match Datetime.readDate? first, timeFollows rest with
  | some (_, []), true =>
    let more := rest.drop 1
    (first ++ ' ' :: more.takeWhile isScalarChar, more.dropWhile isScalarChar)
  | _, _ => (first, rest)

/-- Reads a value without quotes or brackets. -/
def read? (text : List Char) : Option (Value × List Char) :=
  let (scalar, rest) := split text
  (ofText? scalar).map (·, rest)

end TimedRelease.Toml.Scalar
