import TimedRelease.Proofs.Draft.GasPrices

/-!
# Even steps to the highest gas price

The gas prices offered around a price of the network are whole numbers of gwei that climb
from nothing to the highest price in steps as small as a thousand of them allow.  The last
step may be shorter, so that it ends at the highest price exactly, and the price of the
network parts one step in two.  None of the numbers computed on the way leaves the words.
-/

namespace TimedRelease

/-! ## Numbers that climb -/

/-- The numbers climb from the first bound to the second, each step of at least one and at
most the gap. -/
inductive Climbs (gap : Nat) : Nat → List Nat → Nat → Prop where
  | done (top : Nat) : Climbs gap top [] top
  | step {low next top : Nat} {rest : List Nat} (higher : low < next)
      (near : next ≤ low + gap) (goesOn : Climbs gap next rest top) :
      Climbs gap low (next :: rest) top

/-- Puts a number at its place among numbers in order, unless it is there already. -/
def placeNumber (n : Nat) : List Nat → List Nat
  | [] => [n]
  | first :: rest =>
    if n < first then n :: first :: rest
    else if n = first then first :: rest
    else first :: placeNumber n rest

theorem mem_placeNumber_self (n : Nat) (numbers : List Nat) : n ∈ placeNumber n numbers := by
  induction numbers with
  | nil => simp [placeNumber]
  | cons first rest induction =>
      rw [placeNumber]
      split
      · exact List.mem_cons_self
      · split
        case isTrue same =>
          rw [same]
          exact List.mem_cons_self
        case isFalse => exact List.mem_cons_of_mem _ induction

theorem length_placeNumber_le (n : Nat) (numbers : List Nat) :
    (placeNumber n numbers).length ≤ numbers.length + 1 := by
  induction numbers with
  | nil => simp [placeNumber]
  | cons first rest induction =>
      rw [placeNumber]
      split
      · simp
      · split
        · simp
        · simpa using induction

theorem placeNumber_of_mem {n : Nat} {numbers : List Nat} (rising : numbers.Pairwise (· < ·))
    (member : n ∈ numbers) : placeNumber n numbers = numbers := by
  induction numbers with
  | nil => contradiction
  | cons first rest induction =>
      obtain ⟨above, restRising⟩ := List.pairwise_cons.mp rising
      rw [placeNumber]
      rcases List.mem_cons.mp member with rfl | later
      · simp
      · have less := above n later
        rw [if_neg (by omega), if_neg (by omega), induction restRising later]

namespace Climbs

variable {gap low middle top n : Nat} {numbers more : List Nat}

theorem le (climbs : Climbs gap low numbers top) : low ≤ top := by
  induction climbs with
  | done => exact Nat.le_refl _
  | step higher near goesOn induction => omega

theorem of_mem (climbs : Climbs gap low numbers top) (member : n ∈ numbers) :
    low < n ∧ n ≤ top := by
  induction climbs with
  | done => contradiction
  | step higher near goesOn induction =>
      rcases List.mem_cons.mp member with rfl | later
      · exact ⟨higher, goesOn.le⟩
      · have bounds := induction later
        omega

theorem pairwise (climbs : Climbs gap low numbers top) : numbers.Pairwise (· < ·) := by
  induction climbs with
  | done => exact .nil
  | step higher near goesOn induction =>
      exact List.pairwise_cons.mpr ⟨fun n later => (goesOn.of_mem later).1, induction⟩

theorem getLast? (climbs : Climbs gap low numbers top) :
    (low :: numbers).getLast? = some top := by
  induction climbs with
  | done => rfl
  | step higher near goesOn induction => rw [List.getLast?_cons_cons, induction]

theorem isChain_mul (climbs : Climbs gap low numbers top) (unit : Nat) :
    (low * unit :: numbers.map (· * unit)).IsChain fun lower higher =>
      higher ≤ lower + gap * unit := by
  induction climbs with
  | done => exact .singleton _
  | step higher near goesOn induction =>
      have scaled := Nat.mul_le_mul_right unit near
      rw [Nat.add_mul] at scaled
      exact .cons_cons scaled induction

theorem append (first : Climbs gap low numbers middle) (second : Climbs gap middle more top) :
    Climbs gap low (numbers ++ more) top := by
  induction first with
  | done => exact second
  | step higher near goesOn induction => exact .step higher near (induction second)

theorem evenly (positive : 0 < gap) (count : Nat) :
    Climbs gap 0 ((List.range count).map fun index => gap * (index + 1)) (gap * count) := by
  induction count with
  | zero => exact .done 0
  | succ count induction =>
      have next : gap * (count + 1) = gap * count + gap := Nat.mul_succ gap count
      rw [List.range_succ, List.map_append, List.map_singleton]
      exact induction.append (.step (by omega) (by omega) (.done _))

/-- A number inside parts one step in two, and shorter ones at that. -/
theorem placed (climbs : Climbs gap low numbers top) (above : low < n) (within : n ≤ top) :
    Climbs gap low (placeNumber n numbers) top := by
  induction climbs with
  | done => omega
  | step higher near goesOn induction =>
      rw [placeNumber]
      split
      case isTrue before => exact .step above (by omega) (.step before (by omega) goesOn)
      case isFalse notBefore =>
        split
        case isTrue same => exact .step higher near goesOn
        case isFalse different => exact .step higher near (induction (by omega) within)

end Climbs

namespace GasPriceOption

/-! ## The numbers of gwei -/

/-- The numbers of gwei in even steps up to the highest. -/
def steps (top : Nat) : List Nat :=
  (List.range (min ((top - 1) / stepTo top + 1) greatestCount)).map fun index =>
    min (stepTo top * (index + 1)) top

theorem upTo_eq (highest : Nat) : upTo highest = (steps (max highest 1)).map gwei := by
  rw [upTo, steps, List.map_map]
  rfl

theorem stepTo_eq {top : Nat} (positive : 0 < top) : stepTo top = (top + 999) / 1000 := by
  rw [stepTo, greatestCount]
  split <;> omega

/-- There is room for all steps, so that their number is never cut down. -/
theorem count_steps {top : Nat} (positive : 0 < top) :
    min ((top - 1) / stepTo top + 1) greatestCount = (top - 1) / stepTo top + 1 := by
  have room : (top - 1) / stepTo top < greatestCount := by
    rw [Nat.div_lt_iff_lt_mul (stepTo_pos top), stepTo_eq positive, greatestCount]
    omega
  exact Nat.min_eq_left room

/-- The last of the even steps leads to the highest number or beyond it, and the one before
it stays below. -/
theorem lastStep_reaches {top : Nat} (positive : 0 < top) :
    stepTo top * ((top - 1) / stepTo top) < top ∧
      top ≤ stepTo top * ((top - 1) / stepTo top) + stepTo top := by
  have below : stepTo top * ((top - 1) / stepTo top) ≤ top - 1 := Nat.mul_div_le _ _
  have reached : top - 1 < stepTo top * ((top - 1) / stepTo top + 1) :=
    Nat.lt_mul_div_succ _ (stepTo_pos top)
  rw [Nat.mul_succ] at reached
  omega

/-- All steps but the last stay below the highest number, and the last is held there. -/
theorem steps_eq {top : Nat} (positive : 0 < top) :
    steps top = ((List.range ((top - 1) / stepTo top)).map fun index =>
      stepTo top * (index + 1)) ++ [top] := by
  obtain ⟨below, reached⟩ := lastStep_reaches positive
  rw [steps, count_steps positive, List.range_succ, List.map_append, List.map_singleton,
    Nat.mul_succ, Nat.min_eq_right reached]
  congr 1
  -- The steps before the last are not held.
  apply List.map_congr_left
  intro index member
  have inside : index + 1 ≤ (top - 1) / stepTo top := List.mem_range.mp member
  have lower := Nat.mul_le_mul_left (stepTo top) inside
  omega

theorem climbs_steps {top : Nat} (positive : 0 < top) :
    Climbs (stepTo top) 0 (steps top) top := by
  obtain ⟨below, reached⟩ := lastStep_reaches positive
  rw [steps_eq positive]
  exact (Climbs.evenly (stepTo_pos top) _).append (.step below reached (.done top))

theorem length_steps_le (top : Nat) : (steps top).length ≤ greatestCount := by
  rw [steps, List.length_map, List.length_range]
  omega

theorem steps_of_few {top : Nat} (positive : 0 < top) (few : top ≤ greatestCount) :
    steps top = List.range' 1 top := by
  have one : stepTo top = 1 := if_pos few
  rw [steps_eq positive, one, Nat.div_one]
  obtain ⟨below, rfl⟩ : ∃ below, top = below + 1 := ⟨top - 1, by omega⟩
  rw [Nat.add_sub_cancel, List.range'_eq_map_range, List.range_succ, List.map_append]
  simp [Nat.add_comm]

/-! ## Numbers and options -/

theorem value_lt_iff {lower higher : Nat} (lowerFits : lower ≤ mostGwei)
    (higherFits : higher ≤ mostGwei) :
    (gwei lower).value < (gwei higher).value ↔ lower < higher := by
  rw [Word256.lt_iff, toNat_value_gwei lowerFits, toNat_value_gwei higherFits]
  omega

theorem value_eq_iff {first second : Nat} (firstFits : first ≤ mostGwei)
    (secondFits : second ≤ mostGwei) :
    (gwei first).value = (gwei second).value ↔ first = second := by
  rw [Word256.ext_iff, toNat_value_gwei firstFits, toNat_value_gwei secondFits]
  omega

theorem insert_map_gwei {n : Nat} (fits : n ≤ mostGwei) {numbers : List Nat}
    (allFit : ∀ other ∈ numbers, other ≤ mostGwei) :
    insert (gwei n) (numbers.map gwei) = (placeNumber n numbers).map gwei := by
  induction numbers with
  | nil => rfl
  | cons first rest induction =>
      obtain ⟨firstFits, restFit⟩ := List.forall_mem_cons.mp allFit
      simp only [List.map_cons, insert, placeNumber, value_lt_iff fits firstFits,
        value_eq_iff fits firstFits, induction restFit]
      split
      · rfl
      · split <;> rfl

/-- The highest number of gwei that is offered around a price. -/
def highestAround (price : Nat) : Nat :=
  max (min (2 * price) mostGwei) 1

theorem highestAround_eq (price : Nat) :
    highestAround price = max 1 (min (2 * price) ((2 ^ 256 - 1) / 10 ^ 9)) := by
  have most : mostGwei = (2 ^ 256 - 1) / 10 ^ 9 := by decide
  rw [highestAround, Nat.max_comm, most]

theorem highestAround_pos (price : Nat) : 0 < highestAround price :=
  Nat.lt_of_lt_of_le Nat.one_pos (Nat.le_max_right _ _)

theorem highestAround_le (price : Nat) : highestAround price ≤ mostGwei := by
  have some : 1 ≤ mostGwei := by decide
  rw [highestAround]
  omega

/-- The numbers of gwei around a price: the even steps, and the price itself. -/
def numbersAround (price : Nat) : List Nat :=
  if price = 0 then steps (highestAround price)
  else placeNumber price (steps (highestAround price))

theorem around_eq {price : Nat} (fits : price ≤ mostGwei) :
    around price = (numbersAround price).map gwei := by
  have allFit : ∀ other ∈ steps (highestAround price), other ≤ mostGwei := by
    intro other member
    exact Nat.le_trans ((climbs_steps (highestAround_pos price)).of_mem member).2
      (highestAround_le price)
  rw [around, numbersAround, upTo_eq]
  split
  · rfl
  · exact insert_map_gwei fits allFit

/-- The options around a price have these numbers of gwei. -/
structure HasNumbers (price : Nat) (numbers : List Nat) : Prop where
  options : around price = numbers.map gwei
  climbs : Climbs (stepTo (highestAround price)) 0 numbers (highestAround price)
  network : 1 ≤ price → price ∈ numbers
  count : numbers.length ≤ greatestCount + 1
  all : highestAround price ≤ greatestCount → numbers = List.range' 1 (highestAround price)

theorem hasNumbers_numbersAround {price : Nat} (fits : price ≤ mostGwei) :
    HasNumbers price (numbersAround price) := by
  have positive := highestAround_pos price
  have climbs := climbs_steps positive
  have few := length_steps_le (highestAround price)
  have options := around_eq fits
  by_cases none : price = 0
  · rw [numbersAround, if_pos none] at options ⊢
    exact ⟨options, climbs, by omega, by omega, steps_of_few positive⟩
  · have within : price ≤ highestAround price := by
      rw [highestAround]
      omega
    rw [numbersAround, if_neg none] at options ⊢
    refine ⟨options, climbs.placed (by omega) within, ?_, ?_, ?_⟩
    · intro _
      exact mem_placeNumber_self _ _
    · have more := length_placeNumber_le price (steps (highestAround price))
      omega
    · -- All numbers are there already, and placing the price changes nothing.
      intro small
      have listed : price ∈ List.range' 1 (highestAround price) := by
        rw [List.mem_range'_1]
        omega
      rw [steps_of_few positive small]
      exact placeNumber_of_mem List.pairwise_lt_range' listed

/-- Options that rise to the highest number of gwei, with a price among them, in steps no
longer than a thousand of them have to be. -/
structure Ladder (price top : Nat) (options : List GasPriceOption) : Prop where
  rising : options.Pairwise (·.value < ·.value)
  /-- No value is held at the largest word. -/
  whole : ∀ option ∈ options, ∃ n, 1 ≤ n ∧ n ≤ top ∧ option = gwei n ∧
    option.value.toNat = n * 10 ^ 9
  last : options.getLast? = some (gwei top)
  network : 1 ≤ price → gwei price ∈ options
  few : options.length ≤ 1001
  all : top ≤ 1000 → options = (List.range' 1 top).map gwei
  /-- The first value counts as a step from nothing. -/
  near : (0 :: options.map fun option => option.value.toNat).IsChain fun lower higher =>
    higher ≤ lower + (top + 999) / 1000 * 10 ^ 9

theorem HasNumbers.ladder {price : Nat} {numbers : List Nat} (has : HasNumbers price numbers) :
    Ladder price (highestAround price) (around price) := by
  have fits {n : Nat} (member : n ∈ numbers) : n ≤ mostGwei :=
    Nat.le_trans (has.climbs.of_mem member).2 (highestAround_le price)
  rw [has.options]
  constructor
  · rw [List.pairwise_map]
    apply has.climbs.pairwise.imp_of_mem
    intro lower higher _ member less
    exact gwei_lt_gwei less (fits member)
  · intro option member
    obtain ⟨n, listed, rfl⟩ := List.mem_map.mp member
    obtain ⟨above, within⟩ := has.climbs.of_mem listed
    exact ⟨n, above, within, rfl, toNat_value_gwei (fits listed)⟩
  · have last : numbers.getLast? = some (highestAround price) := by
      have reached := has.climbs.getLast?
      have positive := highestAround_pos price
      cases numbers with
      | nil =>
          simp only [List.getLast?_singleton, Option.some.injEq] at reached
          omega
      | cons first rest => rwa [List.getLast?_cons_cons] at reached
    rw [List.getLast?_map, last, Option.map_some]
  · intro some
    exact List.mem_map_of_mem (has.network some)
  · rw [List.length_map]
    exact has.count
  · intro small
    rw [has.all small]
  · have values : (numbers.map gwei).map (fun option => option.value.toNat) =
        numbers.map (· * 10 ^ 9) := by
      rw [List.map_map]
      apply List.map_congr_left
      intro n member
      rw [Function.comp_apply, toNat_value_gwei (fits member)]
    have chain := has.climbs.isChain_mul (10 ^ 9)
    rw [Nat.zero_mul, stepTo_eq (highestAround_pos price)] at chain
    rw [values]
    exact chain

end GasPriceOption

/-! ## Words on the way -/

namespace Word256

/-- A number, if it is a word. -/
def within? (n : Nat) : Option Nat :=
  if n < size then some n else none

/-- The sum of two words, if it is a word. -/
def sum? (left right : Nat) : Option Nat :=
  within? (left + right)

/-- The product of two words, if it is a word. -/
def product? (left right : Nat) : Option Nat :=
  within? (left * right)

/-- The difference of two words, if it is not below zero. -/
def difference? (left right : Nat) : Option Nat :=
  if right ≤ left then some (left - right) else none

/-- The quotient of two words, if the second is not zero. -/
def quotient? (left right : Nat) : Option Nat :=
  if right = 0 then none else some (left / right)

theorem sum?_of_lt {left right : Nat} (fits : left + right < size) :
    sum? left right = some (left + right) := if_pos fits

theorem product?_of_lt {left right : Nat} (fits : left * right < size) :
    product? left right = some (left * right) := if_pos fits

theorem difference?_of_le {left right : Nat} (less : right ≤ left) :
    difference? left right = some (left - right) := if_pos less

theorem quotient?_of_pos {right : Nat} (left : Nat) (positive : 0 < right) :
    quotient? left right = some (left / right) := if_neg (by omega)

end Word256

namespace GasPriceOption

open Word256 (sum? product? difference? quotient?)

/-- A whole number of gwei, if its value is a word. -/
def gwei? (n : Nat) : Option GasPriceOption := do
  let value ← Word256.ofNat? (n * Denomination.gwei.multiplier)
  return ⟨value, Text.decimalText n ++ " gwei"⟩

/-- The distance between options, computed in words. -/
def stepTo? (highest : Nat) : Option Nat :=
  if highest ≤ greatestCount then some 1
  else do
    let below ← difference? highest 1
    let whole ← quotient? below greatestCount
    sum? whole 1

/-- The options in even steps, computed in words and without a bound on their number. -/
def upTo? (highest : Nat) : Option (List GasPriceOption) := do
  let highest := max highest 1
  let step ← stepTo? highest
  let below ← difference? highest 1
  let whole ← quotient? below step
  let count ← sum? whole 1
  (List.range count).mapM fun index => do
    let reached ← product? step (index + 1)
    gwei? (min reached highest)

/-- The options around a price in wei, computed in words. -/
def around? (price : Word256) : Option (List GasPriceOption) := do
  let whole ← quotient? price.toNat Denomination.gwei.multiplier
  let twice ← product? whole 2
  let most ← quotient? (Word256.size - 1) Denomination.gwei.multiplier
  let options ← upTo? (min twice most)
  if whole = 0 then return options
  let network ← gwei? whole
  return insert network options

/-- There is room in the words for a few times the most gwei. -/
theorem mostGwei_room : 4 * mostGwei < Word256.size := by decide

theorem multiplier_pos : 0 < Denomination.gwei.multiplier := by decide

theorem gwei?_eq {n : Nat} (fits : n ≤ mostGwei) : gwei? n = some (gwei n) := by
  have scaled : n * Denomination.gwei.multiplier ≤ Word256.size - 1 :=
    (Nat.le_div_iff_mul_le multiplier_pos).mp fits
  have room := mostGwei_room
  have inside : n * Denomination.gwei.multiplier < Word256.size := by omega
  simp [gwei?, gwei, Word256.ofNat?, Word256.saturating, inside]

theorem stepTo?_eq {highest : Nat} (positive : 1 ≤ highest) (fits : highest ≤ mostGwei) :
    stepTo? highest = some (stepTo highest) := by
  have room := mostGwei_room
  have some : 0 < greatestCount := by decide
  have smaller : (highest - 1) / greatestCount ≤ highest - 1 := Nat.div_le_self _ _
  rw [stepTo?, stepTo]
  split
  · rfl
  · rw [Word256.difference?_of_le positive, Option.bind_eq_bind, Option.bind_some,
      Word256.quotient?_of_pos _ some, Option.bind_some, Word256.sum?_of_lt (by omega)]

theorem mapM_of_some {α β : Type} {step : α → Option β} {result : α → β} {items : List α}
    (each : ∀ item ∈ items, step item = some (result item)) :
    items.mapM step = some (items.map result) := by
  induction items with
  | nil => rfl
  | cons item rest induction =>
      obtain ⟨here, later⟩ := List.forall_mem_cons.mp each
      rw [List.mapM_cons, here, induction later]
      rfl

theorem upTo?_eq {highest : Nat} (fits : highest ≤ mostGwei) :
    upTo? highest = some (upTo highest) := by
  have room := mostGwei_room
  have least : 1 ≤ mostGwei := by decide
  have positive : 1 ≤ max highest 1 := Nat.le_max_right _ _
  have within : max highest 1 ≤ mostGwei := by omega
  rw [upTo?, upTo]
  generalize max highest 1 = top at positive within
  have step : stepTo top ≤ top := by
    rw [stepTo_eq positive]
    omega
  have smaller : (top - 1) / stepTo top ≤ top - 1 := Nat.div_le_self _ _
  have below := (lastStep_reaches positive).1
  simp only [stepTo?_eq positive within, Word256.difference?_of_le positive,
    Word256.quotient?_of_pos _ (stepTo_pos top), Option.bind_eq_bind, Option.bind_some,
    count_steps positive]
  rw [Word256.sum?_of_lt (by omega), Option.bind_some]
  apply mapM_of_some
  intro index member
  have inside : index ≤ (top - 1) / stepTo top := Nat.lt_succ_iff.mp (List.mem_range.mp member)
  have reached := Nat.mul_le_mul_left (stepTo top) inside
  have next : stepTo top * (index + 1) = stepTo top * index + stepTo top := Nat.mul_succ _ _
  rw [Word256.product?_of_lt (by omega), Option.bind_some]
  exact gwei?_eq (by omega)

theorem around?_eq (price : Word256) :
    around? price = some (around (price.toNat / Denomination.gwei.multiplier)) := by
  have room := mostGwei_room
  have fits := gwei_le_mostGwei price
  rw [around?, Word256.quotient?_of_pos _ multiplier_pos, Option.bind_eq_bind, Option.bind_some]
  generalize price.toNat / Denomination.gwei.multiplier = whole at fits
  have highest : min (whole * 2) ((Word256.size - 1) / Denomination.gwei.multiplier) =
      min (2 * whole) mostGwei := by
    rw [Nat.mul_comm]
    rfl
  rw [Word256.product?_of_lt (by omega), Option.bind_eq_bind, Option.bind_some,
    Word256.quotient?_of_pos _ multiplier_pos, Option.bind_some, highest,
    upTo?_eq (Nat.min_le_right _ _), Option.bind_some, around]
  split
  · rfl
  · rw [gwei?_eq fits]
    rfl

end GasPriceOption

namespace Draft

/-- After news of a gas price, with `g` whole gwei in it and `top` for twice as many, but at
least one and at most as many as a word holds: the options are whole numbers of gwei in
rising order that end at `top`, with `g` among them, at most 1001, all of them up to `top`
if there are no more than a thousand, and never further apart than a thousandth of `top`,
rounded up.  Computed in words, none of the steps overflows, and there is an option in the
middle. -/
theorem prices_around_network (draft : Draft) (price : Word256) :
    let g := price.toNat / 10 ^ 9
    let top := max 1 (min (2 * g) ((2 ^ 256 - 1) / 10 ^ 9))
    let options := (draft.applyGasPrice price).options
    GasPriceOption.Ladder g top options ∧ GasPriceOption.around? price = some options ∧
      options.length / 2 < options.length := by
  intro g top options
  have fits : g ≤ GasPriceOption.mostGwei := by
    have bound := price.toNat_lt
    apply Nat.div_le_div_right
    omega
  have offered : options = GasPriceOption.around g := by
    obtain ⟨gasPrice, same⟩ := exists_applyGasPrice draft price
    exact congrArg Draft.options same
  have highest : top = GasPriceOption.highestAround g :=
    (GasPriceOption.highestAround_eq g).symm
  have positive := List.length_pos_iff.mpr (GasPriceOption.offered_around fits).nonempty
  have has := GasPriceOption.hasNumbers_numbersAround fits
  rw [highest, offered]
  exact ⟨has.ladder, GasPriceOption.around?_eq price, Nat.div_lt_self positive (by omega)⟩

end Draft

end TimedRelease
