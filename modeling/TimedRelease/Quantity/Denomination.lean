import TimedRelease.Text.LowerCase
import TimedRelease.Text.Numeral
import TimedRelease.Number.Word256

/-!
# Denominations of ether

The named units an amount may be given in.  Each is a power of ten of the
smallest one, and an amount may carry as many digits after the point as that
power has zeros.
-/

namespace TimedRelease

/-- A named unit of ether. -/
inductive Denomination where
  | wei
  | kwei
  | mwei
  | gwei
  | szabo
  | finney
  | ether
  | kether
  | mether
  | gether
  | tether
  deriving DecidableEq, Repr

namespace Denomination

/-- The power of ten that turns one unit into wei. -/
def decimals : Denomination → Nat
  | .wei => 0
  | .kwei => 3
  | .mwei => 6
  | .gwei => 9
  | .szabo => 12
  | .finney => 15
  | .ether => 18
  | .kether => 21
  | .mether => 24
  | .gether => 27
  | .tether => 30

/-- One unit in wei. -/
def multiplier (unit : Denomination) : Nat :=
  Nat.pow 10 unit.decimals

/-- The unit of a name in small letters. -/
def ofName? (name : String) : Option Denomination :=
  match name with
  | "wei" => some .wei
  | "kwei" | "babbage" | "femtoether" => some .kwei
  | "mwei" | "lovelace" | "picoether" => some .mwei
  | "gwei" | "shannon" | "nanoether" | "nano" => some .gwei
  | "szabo" | "microether" | "micro" => some .szabo
  | "finney" | "milliether" | "milli" => some .finney
  | "ether" => some .ether
  | "kether" | "grand" => some .kether
  | "mether" => some .mether
  | "gether" => some .gether
  | "tether" => some .tether
  | _ => none

/-- The unit of a name in any case, or the name in small letters when there is none. -/
def ofText (text : String) : Except String Denomination :=
  let name := String.ofList (Text.lowerCase text.toList)
  match ofName? name with
  | some unit => .ok unit
  | none => .error name

/-- The digits before the first point and those after it. -/
def splitAtPoint (magnitude : List Char) : List Char × List Char :=
  (magnitude.takeWhile (· != '.'), (magnitude.dropWhile (· != '.')).tail)

/-- A decimal magnitude of a unit in wei: digits on at least one side of the
point, no more of them behind it than the unit has, and a value that fits. -/
def toWei? (unit : Denomination) (magnitude : List Char) : Option Word256 :=
  let (whole, fraction) := splitAtPoint magnitude
  if (whole ++ fraction).isEmpty then none
  else if !(whole ++ fraction).all Text.isDecimalDigit then none
  else if unit.decimals < fraction.length then none
  else
    Word256.ofNat?
      (Text.valueOf 10 whole * unit.multiplier +
        Text.valueOf 10 fraction * Nat.pow 10 (unit.decimals - fraction.length))

end Denomination

end TimedRelease
