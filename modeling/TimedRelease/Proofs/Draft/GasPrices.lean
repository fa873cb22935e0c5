import TimedRelease.Proofs.Draft.Fields
import TimedRelease.Proofs.Quantity.Units

/-!
# The gas prices on offer

However a draft is edited, there are gas prices to choose from, no two of the same
value, and the text of each is read as its value.  So choosing one of them by its text
takes its value and adds nothing to the list.
-/

namespace TimedRelease

namespace GasPriceOption

theorem toNat_value_gwei {n : Nat} (fits : n ≤ mostGwei) :
    (gwei n).value.toNat = n * 10 ^ 9 := by
  have scaled : n * 10 ^ 9 ≤ Word256.size - 1 := by
    have most : n ≤ (Word256.size - 1) / 10 ^ 9 := fits
    omega
  simp only [gwei, Word256.toNat_saturating, Denomination.multiplier, Denomination.decimals,
    Nat.pow_eq]
  omega

/-- The whole gwei of a word are no more than a word holds. -/
theorem gwei_le_mostGwei (price : Word256) :
    price.toNat / Denomination.gwei.multiplier ≤ mostGwei := by
  have bound := price.toNat_lt
  apply Nat.div_le_div_right
  omega

/-- The text of an option is read as its value. -/
def Readable (option : GasPriceOption) : Prop :=
  (Quantity.parse option.text).value = option.value

theorem readable_gwei {n : Nat} (fits : n ≤ mostGwei) : (gwei n).Readable := by
  have listed : ("gwei", 9) ∈ Denomination.table := by decide
  have text : (gwei n).text = Text.decimalText n ++ " " ++ "gwei" := by
    rw [String.append_assoc]
    rfl
  rw [Readable, text]
  exact Quantity.value_parse_units listed (toNat_value_gwei fits)

/-- The options are in order of value, and no two have the same. -/
def Rising (options : List GasPriceOption) : Prop :=
  options.Pairwise (·.value < ·.value)

theorem gwei_lt_gwei {lower higher : Nat} (less : lower < higher) (fits : higher ≤ mostGwei) :
    (gwei lower).value < (gwei higher).value := by
  rw [Word256.lt_iff, toNat_value_gwei fits, toNat_value_gwei (by omega)]
  omega

/-! ## Even steps -/

theorem mem_upTo {highest : Nat} {option : GasPriceOption} (member : option ∈ upTo highest) :
    ∃ n, n ≤ max highest 1 ∧ option = gwei n := by
  simp only [upTo, List.mem_map] at member
  obtain ⟨index, -, rfl⟩ := member
  exact ⟨_, Nat.min_le_right _ _, rfl⟩

theorem upTo_ne_nil (highest : Nat) : upTo highest ≠ [] := by
  simp [upTo, greatestCount]

theorem stepTo_pos (highest : Nat) : 0 < stepTo highest := by
  rw [stepTo]
  split
  · exact Nat.one_pos
  · exact Nat.succ_pos _

theorem rising_upTo {highest : Nat} (fits : highest ≤ mostGwei) : Rising (upTo highest) := by
  have positive := stepTo_pos (max highest 1)
  have some : 1 ≤ max highest 1 := Nat.le_max_right _ _
  have room : max highest 1 ≤ mostGwei := by
    have least : 1 ≤ mostGwei := by decide
    omega
  simp only [upTo]
  generalize stepTo (max highest 1) = step at positive
  generalize max highest 1 = top at some room
  rw [Rising, List.pairwise_map]
  refine List.Pairwise.imp_of_mem ?_ List.pairwise_lt_range
  intro lower higher _ member less
  -- Every step but the last stays below the highest price, so that none is held there.
  have inside : higher ≤ (top - 1) / step := by
    have small := List.mem_range.mp member
    omega
  have next : step * (lower + 1) ≤ step * higher := Nat.mul_le_mul_left step less
  have below : step * higher ≤ top - 1 := by
    rw [Nat.mul_comm]
    exact (Nat.le_div_iff_mul_le positive).mp inside
  have more : step * (higher + 1) = step * higher + step := Nat.mul_succ step higher
  apply gwei_lt_gwei
  · omega
  · omega

/-! ## The price of the network -/

theorem mem_insert {option other : GasPriceOption} {options : List GasPriceOption}
    (member : other ∈ insert option options) : other = option ∨ other ∈ options := by
  induction options with
  | nil => exact .inl (List.mem_singleton.mp member)
  | cons first rest induction =>
      rw [insert] at member
      split at member
      · exact List.mem_cons.mp member
      · split at member
        · exact .inr member
        · rcases List.mem_cons.mp member with here | later
          · exact .inr (here ▸ List.mem_cons_self)
          · rcases induction later with new | old
            · exact .inl new
            · exact .inr (List.mem_cons_of_mem _ old)

theorem insert_ne_nil (option : GasPriceOption) (options : List GasPriceOption) :
    insert option options ≠ [] := by
  cases options with
  | nil => simp [insert]
  | cons first rest =>
      rw [insert]
      split
      · simp
      · split <;> simp

theorem rising_insert {options : List GasPriceOption} (rising : Rising options)
    (option : GasPriceOption) : Rising (insert option options) := by
  induction options with
  | nil => exact List.pairwise_singleton _ _
  | cons first rest induction =>
      obtain ⟨firstBelow, restRising⟩ := List.pairwise_cons.mp rising
      rw [insert]
      split
      case isTrue below =>
        refine List.pairwise_cons.mpr ⟨?_, rising⟩
        intro other member
        rcases List.mem_cons.mp member with next | later
        · rw [next]
          exact below
        · exact Nat.lt_trans below (firstBelow other later)
      case isFalse notBelow =>
        split
        case isTrue same => exact rising
        case isFalse different =>
          have above : first.value < option.value := by
            have unequal : option.value.toNat ≠ first.value.toNat := by
              intro equal
              exact different (Word256.ext equal)
            rw [Word256.lt_iff] at notBelow ⊢
            omega
          refine List.pairwise_cons.mpr ⟨?_, induction restRising⟩
          intro other member
          rcases mem_insert member with new | old
          · rw [new]
            exact above
          · exact firstBelow other old

/-! ## Lists of options -/

/-- Options to choose from: some, of different values, each with a text that is read as
its value. -/
structure Offered (options : List GasPriceOption) : Prop where
  nonempty : options ≠ []
  distinct : (options.map value).Nodup
  readable : ∀ option ∈ options, option.Readable

theorem Rising.nodup {options : List GasPriceOption} (rising : Rising options) :
    (options.map value).Nodup := by
  rw [List.Nodup, List.pairwise_map]
  apply rising.imp
  intro lower higher less same
  rw [same] at less
  exact Nat.lt_irrefl _ less

theorem offered_upTo {highest : Nat} (fits : highest ≤ mostGwei) : Offered (upTo highest) := by
  refine ⟨upTo_ne_nil highest, (rising_upTo fits).nodup, ?_⟩
  intro option member
  obtain ⟨n, small, rfl⟩ := mem_upTo member
  have least : 1 ≤ mostGwei := by decide
  exact readable_gwei (by omega)

theorem offered_around {price : Nat} (fits : price ≤ mostGwei) : Offered (around price) := by
  have steps : Offered (upTo (min (2 * price) mostGwei)) :=
    offered_upTo (Nat.min_le_right _ _)
  have rising : Rising (upTo (min (2 * price) mostGwei)) :=
    rising_upTo (Nat.min_le_right _ _)
  rw [around]
  split
  · exact steps
  · refine ⟨?_, (rising_insert rising (gwei price)).nodup, ?_⟩
    · exact insert_ne_nil (gwei price) _
    · intro option member
      rcases mem_insert member with new | old
      · rw [new]
        exact readable_gwei fits
      · exact steps.readable option old

theorem Offered.append {options : List GasPriceOption} (offered : Offered options)
    {option : GasPriceOption} (new : option.value ∉ options.map value)
    (readable : option.Readable) : Offered (options ++ [option]) := by
  refine ⟨by simp, ?_, ?_⟩
  · rw [List.map_append, List.nodup_append]
    refine ⟨offered.distinct, by simp, ?_⟩
    intro value old last final same
    rw [same, List.mem_singleton.mp final] at old
    exact new old
  · intro other member
    rcases List.mem_append.mp member with old | last
    · exact offered.readable other old
    · rw [List.mem_singleton.mp last]
      exact readable

end GasPriceOption

namespace Draft

open GasPriceOption (Offered)

theorem chooseGasPrice_eq (draft : Draft) (text : String) :
    draft.chooseGasPrice text =
      { draft with
        gasPrice := Quantity.parse text
        options :=
          if (Quantity.parse text).value ∈ draft.options.map GasPriceOption.value then
            draft.options
          else draft.options ++ [⟨(Quantity.parse text).value, text⟩] } := by
  have listed : draft.options.any (fun option => option.value == (Quantity.parse text).value) =
      true ↔ (Quantity.parse text).value ∈ draft.options.map GasPriceOption.value := by
    simp
  simp only [chooseGasPrice, listed]

theorem offered_start [Digest.Hash] : Offered start.options :=
  GasPriceOption.offered_upTo (by decide)

theorem offered_chooseGasPrice {draft : Draft} (offered : Offered draft.options)
    (text : String) : Offered (draft.chooseGasPrice text).options := by
  rw [chooseGasPrice_eq]
  dsimp only
  split
  case isTrue listed => exact offered
  case isFalse new => exact offered.append new rfl

theorem offered_applyGasPrice (draft : Draft) (price : Word256) :
    Offered (draft.applyGasPrice price).options := by
  obtain ⟨gasPrice, same⟩ := exists_applyGasPrice draft price
  rw [same]
  exact GasPriceOption.offered_around (GasPriceOption.gwei_le_mostGwei price)

theorem offered_step [Digest.Hash] {draft : Draft} (offered : Offered draft.options)
    (edit : DraftEdit) : Offered (draft.step edit).options := by
  cases edit with
  | setField field text =>
      cases field with
      | gasPrice => exact offered_chooseGasPrice offered text
      | _ => exact offered
  | chooseGasPrice text => exact offered_chooseGasPrice offered text
  | applyGasPrice price => exact offered_applyGasPrice draft price
  | applyAccounts accounts => exact offered

theorem offered_run [Digest.Hash] {draft : Draft} (offered : Offered draft.options)
    (edits : List DraftEdit) : Offered (draft.run edits).options := by
  induction edits generalizing draft with
  | nil => exact offered
  | cons edit rest induction => exact induction (offered_step offered edit)

theorem chooseGasPrice_of_mem {draft : Draft} (offered : Offered draft.options)
    {option : GasPriceOption} (listed : option ∈ draft.options) :
    draft.chooseGasPrice option.text =
      { draft with gasPrice := Quantity.parse option.text } := by
  have present : (Quantity.parse option.text).value ∈
      draft.options.map GasPriceOption.value := by
    rw [offered.readable option listed]
    exact List.mem_map_of_mem listed
  rw [chooseGasPrice_eq, if_pos present]

/-- After any edits of a new draft there are gas prices to choose from, of different values,
each with a text that is read as its value; and choosing one of them by its text sets the
gas price to its value and changes nothing else, least of all the list. -/
theorem gas_prices_of_run [Digest.Hash] (edits : List DraftEdit) :
    let draft := start.run edits
    draft.options ≠ [] ∧ (draft.options.map GasPriceOption.value).Nodup ∧
      ∀ option ∈ draft.options,
        (Quantity.parse option.text).value = option.value ∧
          let chosen := draft.chooseGasPrice option.text
          chosen.gasPrice.value = option.value ∧ chosen.options = draft.options ∧
            chosen = { draft with gasPrice := chosen.gasPrice } := by
  intro draft
  have offered : Offered draft.options := offered_run offered_start edits
  refine ⟨offered.nonempty, offered.distinct, ?_⟩
  intro option listed
  have readable := offered.readable option listed
  rw [chooseGasPrice_of_mem offered listed]
  exact ⟨readable, readable, rfl, rfl⟩

/-- A text that is no number is listed as zero, and is chosen from the list again. -/
theorem unreadable_price_chosen_again :
    let draft := start.run [.setField .gasPrice "free", .chooseGasPrice "3 gwei"]
    let free : GasPriceOption := ⟨0, "free"⟩
    free ∈ draft.options ∧ (draft.chooseGasPrice "free").gasPrice.value = 0 ∧
      (draft.chooseGasPrice "free").options = draft.options := by
  intro draft free
  have listed : free ∈ draft.options := by decide +kernel
  obtain ⟨-, -, choices⟩ := gas_prices_of_run [.setField .gasPrice "free", .chooseGasPrice "3 gwei"]
  obtain ⟨-, value, same, -⟩ := choices free listed
  exact ⟨listed, value, same⟩

end Draft

end TimedRelease
