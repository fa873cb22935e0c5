import TimedRelease.Text.Numeral

/-!
# Double-precision numbers

A finite double is a sign and `mantissa * 2 ^ exponent`.  Quotients of natural
numbers are rounded to the nearest double in exact arithmetic, a tie going to
the even mantissa, and a double is written with the fewest digits that round
back to it.
-/

namespace TimedRelease

/-- A finite number of double precision.  A mantissa below `2 ^ 52` occurs only
with the least exponent, so that each number has one form. -/
structure Binary64 where
  negative : Bool
  mantissa : Nat
  exponent : Int
  deriving DecidableEq, Repr, Inhabited

namespace Binary64

/-- The least exponent. -/
def leastExponent : Int := -1074

/-- The greatest exponent. -/
def greatestExponent : Int := 971

/-- The least mantissa of a double that is not subnormal. -/
def leastMantissa : Nat := Nat.pow 2 52

/-- A quotient rounded to a whole number, a tie going to the even neighbour. -/
def roundEven (numerator denominator : Nat) : Nat :=
  let quotient := numerator / denominator
  let rest := numerator % denominator
  if 2 * rest < denominator then quotient
  else if denominator < 2 * rest then quotient + 1
  else quotient + quotient % 2

/-- A power with an exponent of either sign, as a numerator and a denominator. -/
def power (base : Nat) (exponent : Int) : Nat × Nat :=
  if 0 ≤ exponent then (base.pow exponent.toNat, 1) else (1, base.pow (-exponent).toNat)

/-- The double nearest to a quotient, unless the quotient lies beyond every double. -/
def ofRatio? (negative : Bool) (numerator denominator : Nat) : Option Binary64 :=
  if numerator = 0 then some ⟨negative, 0, leastExponent⟩
  else
    let guess : Int := (numerator.log2 : Int) - denominator.log2 - 52
    let (up, down) := power 2 guess
    let fitted :=
      if numerator * down < leastMantissa * denominator * up then guess - 1 else guess
    let exponent := max fitted leastExponent
    let (up, down) := power 2 exponent
    let rounded := roundEven (numerator * down) (denominator * up)
    let (mantissa, exponent) :=
      if rounded = 2 * leastMantissa then (leastMantissa, exponent + 1) else (rounded, exponent)
    if greatestExponent < exponent then none else some ⟨negative, mantissa, exponent⟩

/-- The magnitude as a numerator and a denominator. -/
def magnitude (x : Binary64) : Nat × Nat :=
  let (up, down) := power 2 x.exponent
  (x.mantissa * up, down)

/-- The double nearest to `digits * 10 ^ exponent`. -/
def ofDecimal? (negative : Bool) (digits : Nat) (exponent : Int) : Option Binary64 :=
  let (up, down) := power 10 exponent
  ofRatio? negative (digits * up) down

/-- The product of two magnitudes, rounded. -/
def multiply? (x y : Binary64) : Option Binary64 :=
  let (xUp, xDown) := x.magnitude
  let (yUp, yDown) := y.magnitude
  ofRatio? x.negative (xUp * yUp) (xDown * yDown)

/-- The quotient of two magnitudes, rounded. -/
def divide? (x y : Binary64) : Option Binary64 :=
  let (xUp, xDown) := x.magnitude
  let (yUp, yDown) := y.magnitude
  ofRatio? x.negative (xUp * yDown) (xDown * yUp)

/-- The largest power of ten that is scaled by in one step. -/
def greatestStep : Nat := 308

/-- Divides by the largest step the given number of times, or until nothing is left. -/
def shrink? : Nat → Binary64 → Option Binary64
  | 0, x => some x
  | steps + 1, x =>
    if x.mantissa = 0 then some x
    else
      match (ofDecimal? false 1 greatestStep).bind (divide? x) with
      | some smaller => shrink? steps smaller
      | none => none

/-- Scales by a power of ten, one rounded product or quotient at a time. -/
def scale? (x : Binary64) (exponent : Int) : Option Binary64 :=
  if x.mantissa = 0 then some x
  else if 0 ≤ exponent then
    if exponent.toNat ≤ greatestStep then (ofDecimal? false 1 exponent).bind (multiply? x)
    else none
  else
    let steps := (exponent.natAbs - 1) / greatestStep
    match shrink? steps x with
    | none => none
    | some smaller =>
      if smaller.mantissa = 0 then some smaller
      else
        (ofDecimal? false 1 (exponent.natAbs - greatestStep * steps : Nat)).bind
          (divide? smaller)

/-- Decimal digits and the power of ten they are scaled by. -/
structure Decimal where
  digits : Nat
  exponent : Int
  deriving DecidableEq, Repr

/-- The exponent of the leading decimal digit of a positive quotient. -/
def leadingExponent (numerator denominator : Nat) : Int :=
  if denominator ≤ numerator then
    ((Text.decimal (numerator / denominator)).length : Int) - 1
  else
    match (List.range 400).find? (fun shift => denominator ≤ numerator * Nat.pow 10 shift) with
    | some shift => -(shift : Int)
    | none => 0

/-- The decimals on one grid that round back to the double, nearest first, a tie
going to the even one. -/
def onGrid? (x : Binary64) (exponent : Int) : Option Decimal :=
  let (up, down) := power 2 (x.exponent - 2)
  let (gridUp, gridDown) := power 10 exponent
  let center := 4 * x.mantissa
  let below := if x.mantissa = leastMantissa ∧ leastExponent < x.exponent then 1 else 2
  let even := x.mantissa % 2 = 0
  let rounds (digits : Nat) : Bool :=
    let point := digits * gridUp * down
    let low := (center - below) * up * gridDown
    let high := (center + 2) * up * gridDown
    if even then low ≤ point && point ≤ high else low < point && point < high
  let target := center * up * gridDown
  let unit := gridUp * down
  let floor := target / unit
  let rest := target % unit
  match rounds floor && floor != 0, rounds (floor + 1) with
  | true, true =>
    if 2 * rest < unit || (2 * rest == unit && floor % 2 == 0) then some ⟨floor, exponent⟩
    else some ⟨floor + 1, exponent⟩
  | true, false => some ⟨floor, exponent⟩
  | false, true => some ⟨floor + 1, exponent⟩
  | false, false => none

/-- The fewest decimal digits that round back to a non-zero double. -/
def shortest (x : Binary64) : Decimal :=
  let (numerator, denominator) := x.magnitude
  let leading := leadingExponent numerator denominator
  match (List.range 17).findSome? (fun (extra : Nat) => x.onGrid? (leading - extra)) with
  | some decimal => decimal
  | none => ⟨0, 0⟩

/-- Digits without the zeros they end with. -/
def Decimal.stripped (decimal : Decimal) : List Char × Int :=
  let digits := Text.decimal decimal.digits
  let kept := (digits.reverse.dropWhile (· == '0')).reverse
  (kept, decimal.exponent + (digits.length - kept.length : Nat))

/-- The number in text: positional when the leading digit stands at most five
places behind the point and sixteen before it, otherwise with an exponent. -/
def render (x : Binary64) : String :=
  let sign := if x.negative then "-" else ""
  if x.mantissa = 0 then sign ++ "0.0"
  else
    let (digits, exponent) := x.shortest.stripped
    let point : Int := digits.length + exponent
    let body : List Char :=
      if 0 ≤ exponent ∧ point ≤ 16 then
        digits ++ List.replicate exponent.toNat '0' ++ ['.', '0']
      else if 0 < point ∧ point ≤ 16 then
        digits.take point.toNat ++ '.' :: digits.drop point.toNat
      else if -5 < point ∧ point ≤ 0 then
        '0' :: '.' :: (List.replicate (-point).toNat '0' ++ digits)
      else
        let mark := if point - 1 < 0 then ['e', '-'] else ['e']
        let power := mark ++ Text.decimal (point - 1).natAbs
        match digits with
        | [only] => only :: power
        | first :: others => first :: '.' :: (others ++ power)
        | [] => power
    sign ++ String.ofList body

end Binary64

end TimedRelease
