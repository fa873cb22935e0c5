import TimedRelease.Json.Value

/-!
# Reading JSON text

A text is read from the left as one value and what is left after it.  A number
literal is read into 64 bits where it is an integer that fits, and otherwise
into a double: its leading digits, as many as 64 bits hold, scaled by a power of
ten in double arithmetic.
-/

namespace TimedRelease.Json

/-- The blanks between the parts of a text. -/
def isSpace (c : Char) : Bool :=
  c = ' ' || c = '\t' || c = '\n' || c = '\r'

/-- What is left after leading blanks. -/
def skipSpace (text : List Char) : List Char :=
  text.dropWhile isSpace

/-! ## Numbers -/

/-- A number literal: its sign, the digits before the point, those after it, and
the power of ten behind the letter `e`. -/
structure Literal where
  negative : Bool
  whole : List Char
  fraction : Option (List Char)
  power : Option Int
  deriving DecidableEq, Repr

/-- Leading digits with as many taken in as 64 bits hold, and how many were left out. -/
def significand (total : Nat) : List Char → Nat × List Char
  | [] => (total, [])
  | c :: rest =>
    let next := total * 10 + Text.digitValue c
    if next < UInt64.size then significand next rest else (total, c :: rest)

/-- The largest power of ten that is taken as written. -/
def greatestPower : Int := 2147483647

/-- The double that a literal stands for, unless it lies beyond every double. -/
def Literal.double? (literal : Literal) : Option Binary64 :=
  let (whole, wholeLeft) := significand 0 literal.whole
  let fraction := literal.fraction.getD []
  let (digits, fractionTaken) :=
    if wholeLeft.isEmpty || !fraction.isEmpty then
      let (digits, fractionLeft) := significand whole fraction
      (digits, fraction.length - fractionLeft.length)
    else (whole, 0)
  let start : Int := (wholeLeft.length : Int) - fractionTaken
  let scaled (power : Int) : Option Binary64 :=
    (Binary64.ofRatio? literal.negative digits 1).bind (Binary64.scale? · power)
  match literal.power with
  | none => scaled start
  | some power =>
    if greatestPower < power then
      if digits = 0 then some ⟨literal.negative, 0, Binary64.leastExponent⟩ else none
    else if power < -greatestPower then some ⟨literal.negative, 0, Binary64.leastExponent⟩
    else scaled (start + power)

/-- The number that a literal stands for, unless it lies beyond every double. -/
def Literal.number? (literal : Literal) : Option Number :=
  let magnitude := Text.valueOf 10 literal.whole
  let plain := literal.fraction.isNone && literal.power.isNone
  if plain && !literal.negative && magnitude < UInt64.size then some (.integer magnitude)
  else if plain && literal.negative && magnitude != 0 && magnitude ≤ Nat.pow 2 63 then
    some (.integer (-(magnitude : Int)))
  else literal.double?.map .double

/-- Splits off a run of decimal digits. -/
def spanDigits (text : List Char) : List Char × List Char :=
  (text.takeWhile Text.isDecimalDigit, text.dropWhile Text.isDecimalDigit)

/-- Reads the digits before the point: no digit may follow a leading zero. -/
def scanWhole (text : List Char) : Option (List Char × List Char) :=
  match spanDigits text with
  | ([], _) => none
  | ('0' :: _ :: _, _) => none
  | found => some found

/-- Reads a point and the digits after it, if there is a point. -/
def scanFraction : List Char → Option (Option (List Char) × List Char)
  | '.' :: rest =>
    match spanDigits rest with
    | ([], _) => none
    | (digits, rest) => some (some digits, rest)
  | text => some (none, text)

/-- Splits off a sign. -/
def scanSign : List Char → Bool × List Char
  | '-' :: rest => (true, rest)
  | '+' :: rest => (false, rest)
  | text => (false, text)

/-- Reads the letter `e` and the power behind it, if there is one. -/
def scanPower : List Char → Option (Option Int × List Char)
  | c :: rest =>
    if c = 'e' || c = 'E' then
      let (negative, rest) := scanSign rest
      match spanDigits rest with
      | ([], _) => none
      | (digits, rest) =>
        let value : Int := Text.valueOf 10 digits
        some (some (if negative then -value else value), rest)
    else some (none, c :: rest)
  | [] => some (none, [])

/-- Reads a number literal after its sign. -/
def scanMagnitude (negative : Bool) (text : List Char) : Option (Literal × List Char) :=
  match scanWhole text with
  | none => none
  | some (whole, rest) =>
    match scanFraction rest with
    | none => none
    | some (fraction, rest) =>
      match scanPower rest with
      | none => none
      | some (power, rest) => some (⟨negative, whole, fraction, power⟩, rest)

/-- Reads a number literal. -/
def scanLiteral : List Char → Option (Literal × List Char)
  | '-' :: rest => scanMagnitude true rest
  | text => scanMagnitude false text

/-! ## Strings -/

/-- Reads four hexadecimal digits. -/
def scanUnit : List Char → Option (Nat × List Char)
  | a :: b :: c :: d :: rest =>
    if [a, b, c, d].all Text.isHexDigit then some (Text.valueOf 16 [a, b, c, d], rest) else none
  | _ => none

/-- What an escape with a single letter stands for. -/
def simpleEscape? (c : Char) : Option Char :=
  if c = '"' || c = '\\' || c = '/' then some c
  else if c = 'b' then some (Char.ofNat 8)
  else if c = 'f' then some (Char.ofNat 12)
  else if c = 'n' then some '\n'
  else if c = 'r' then some '\r'
  else if c = 't' then some '\t'
  else none

/-- A leading surrogate. -/
def isLeading (code : Nat) : Bool := 0xD800 ≤ code && code < 0xDC00

/-- A trailing surrogate. -/
def isTrailing (code : Nat) : Bool := 0xDC00 ≤ code && code < 0xE000

/-- The character that two surrogates stand for. -/
def joinSurrogates (leading trailing : Nat) : Char :=
  Char.ofNat (0x10000 + (leading - 0xD800) * 0x400 + (trailing - 0xDC00))

/-- The code of a trailing surrogate escape that stands next. -/
def trailingNext? : List Char → Option Nat
  | '\\' :: 'u' :: rest =>
    match scanUnit rest with
    | some (code, _) => if isTrailing code then some code else none
    | none => none
  | _ => none

/-- One step through a string after its opening quote. -/
inductive StringStep where
  /-- The closing quote, and what follows it. -/
  | close (rest : List Char)
  /-- A character. -/
  | char (c : Char) (rest : List Char)
  /-- Half of a surrogate pair. -/
  | lone (rest : List Char)
  /-- Neither. -/
  | fault

/-- Takes one step through a string. -/
def stringStep : List Char → StringStep
  | [] => .fault
  | '"' :: rest => .close rest
  | '\\' :: 'u' :: rest =>
    match scanUnit rest with
    | none => .fault
    | some (code, after) =>
      if isLeading code then
        match trailingNext? after with
        | some trailing => .char (joinSurrogates code trailing) (after.drop 6)
        | none => .lone after
      else if isTrailing code then .lone after
      else .char (Char.ofNat code) after
  | '\\' :: c :: rest =>
    match simpleEscape? c with
    | some meant => .char meant rest
    | none => .fault
  | ['\\'] => .fault
  | c :: rest => if c.toNat < 0x20 then .fault else .char c rest

/-- Reads a string after its opening quote, the characters read so far last
first, or `none` among them once half of a surrogate pair was met. -/
def scanString : Nat → Option (List Char) → List Char → Option (Option (List Char) × List Char)
  | 0, _, _ => none
  | fuel + 1, done, text =>
    match stringStep text with
    | .close rest => some (done.map List.reverse, rest)
    | .char c rest => scanString fuel (done.map (c :: ·)) rest
    | .lone rest => scanString fuel none rest
    | .fault => none

/-- Reads a string after its opening quote: its text, unless it holds half of a
surrogate pair, and what follows it. -/
def scanText (text : List Char) : Option (Option String × List Char) :=
  (scanString (text.length + 1) (some []) text).map fun (found, rest) =>
    (found.map String.ofList, rest)

/-! ## Values -/

/-- Drops a word that has to stand next. -/
def expect? : List Char → List Char → Option (List Char)
  | [], text => some text
  | _ :: _, [] => none
  | wanted :: more, c :: rest => if c = wanted then expect? more rest else none

/-- An object, or no usable value when one of its names is none. -/
def objectOf (members : Option (List (String × Value))) : Value :=
  match members with
  | some members => .object members
  | none => .unusable

/-- A member in front of others. -/
def consMember (name : Option String) (value : Value) (rest : Option (List (String × Value))) :
    Option (List (String × Value)) :=
  match name, rest with
  | some name, some rest => some ((name, value) :: rest)
  | _, _ => none

mutual

/-- Reads one value, blanks before it included. -/
def readValue : Nat → List Char → Option (Value × List Char)
  | 0, _ => none
  | fuel + 1, text =>
    match skipSpace text with
    | [] => none
    | '[' :: rest =>
      match skipSpace rest with
      | ']' :: after => some (.array [], after)
      | inside => (readItems fuel inside).map fun (items, after) => (.array items, after)
    | '{' :: rest =>
      match skipSpace rest with
      | '}' :: after => some (.object [], after)
      | inside => (readMembers fuel inside).map fun (members, after) => (objectOf members, after)
    | '"' :: rest =>
      (scanText rest).map fun (found, after) =>
        match found with
        | some text => (.string text, after)
        | none => (.unusable, after)
    | 'n' :: rest => (expect? ['u', 'l', 'l'] rest).map fun after => (.null, after)
    | 't' :: rest => (expect? ['r', 'u', 'e'] rest).map fun after => (.bool true, after)
    | 'f' :: rest => (expect? ['a', 'l', 's', 'e'] rest).map fun after => (.bool false, after)
    | c :: rest =>
      (scanLiteral (c :: rest)).map fun (literal, after) =>
        match literal.number? with
        | some number => (.number number, after)
        | none => (.unusable, after)

/-- Reads items up to the closing bracket. -/
def readItems : Nat → List Char → Option (List Value × List Char)
  | 0, _ => none
  | fuel + 1, text =>
    match readValue fuel text with
    | none => none
    | some (item, rest) =>
      match skipSpace rest with
      | ',' :: rest => (readItems fuel rest).map fun (items, after) => (item :: items, after)
      | ']' :: after => some ([item], after)
      | _ => none

/-- Reads members up to the closing brace. -/
def readMembers : Nat → List Char → Option (Option (List (String × Value)) × List Char)
  | 0, _ => none
  | fuel + 1, text =>
    match skipSpace text with
    | '"' :: rest =>
      match scanText rest with
      | none => none
      | some (name, rest) =>
        match skipSpace rest with
        | ':' :: rest =>
          match readValue fuel rest with
          | none => none
          | some (value, rest) =>
            match skipSpace rest with
            | ',' :: rest =>
              (readMembers fuel rest).map fun (members, after) =>
                (consMember name value members, after)
            | '}' :: after => some (consMember name value (some []), after)
            | _ => none
        | _ => none
    | _ => none

end

/-- Reads the value a text starts with, and what is left after it. -/
def readLeading (text : List Char) : Option (Value × List Char) :=
  readValue (2 * text.length + 2) text

/-- The value of a text that holds one value and nothing more. -/
def Value.ofText? (text : String) : Option Value :=
  match readLeading text.toList with
  | some (value, rest) => if (skipSpace rest).isEmpty then some value else none
  | none => none

end TimedRelease.Json
