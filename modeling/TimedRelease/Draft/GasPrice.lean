import TimedRelease.Quantity.Basic

/-!
# Gas price options

The gas prices offered for choice are whole numbers of gwei in even steps, up to
a highest price and at most a thousand of them.  A price of the network has its
own place among them.
-/

namespace TimedRelease

/-- A gas price offered for choice: its value in wei and the text it is listed under. -/
structure GasPriceOption where
  value : Word256
  text : String
  deriving DecidableEq, Repr

namespace GasPriceOption

/-- A whole number of gwei. -/
def gwei (n : Nat) : GasPriceOption :=
  ⟨Word256.saturating (n * Denomination.gwei.multiplier), Text.decimalText n ++ " gwei"⟩

/-- The most options that are offered in even steps. -/
def greatestCount : Nat := 1000

/-- The highest price, in gwei, before the network has reported one. -/
def initialHighest : Nat := 40

/-- The distance between options up to a highest price: as small as their number allows. -/
def stepTo (highest : Nat) : Nat :=
  if highest ≤ greatestCount then 1 else (highest - 1) / greatestCount + 1

/-- The options from one step up to a highest price, which is always the last. -/
def upTo (highest : Nat) : List GasPriceOption :=
  let highest := max highest 1
  let step := stepTo highest
  let count := min ((highest - 1) / step + 1) greatestCount
  (List.range count).map fun index => gwei (min (step * (index + 1)) highest)

/-- Puts an option at its place among options in order of value, unless its
value is there already. -/
def insert (option : GasPriceOption) : List GasPriceOption → List GasPriceOption
  | [] => [option]
  | first :: rest =>
    if option.value < first.value then option :: first :: rest
    else if option.value = first.value then first :: rest
    else first :: insert option rest

/-- The most gwei that a word holds. -/
def mostGwei : Nat := (Word256.size - 1) / Denomination.gwei.multiplier

/-- The options around a price of the network, given in whole gwei: even steps up
to twice that price, and the price itself. -/
def around (price : Nat) : List GasPriceOption :=
  let steps := upTo (min (2 * price) mostGwei)
  if price = 0 then steps else insert (gwei price) steps

/-- The option in the middle. -/
def middle? (options : List GasPriceOption) : Option GasPriceOption :=
  options[options.length / 2]?

end GasPriceOption

end TimedRelease
