import TimedRelease.Proofs.Draft.PriceSteps

/-!
# The selected gas price

The price in the middle of the options is the next one above the price of the network,
whatever the steps between them are: as many options lie at or below the network price as
above it, or one less.  A price other than zero stays selected whatever the wallet reports
later.
-/

namespace TimedRelease

/-! ## Counting in a rising list -/

/-- In a rising list, the number with as many others in front of it as do not exceed a bound
is the next one above the bound. -/
theorem next_of_countP {numbers : List Nat} (rising : numbers.Pairwise (· < ·))
    {bound n : Nat} (found : numbers[numbers.countP (· ≤ bound)]? = some n) :
    n ∈ numbers ∧ bound < n ∧ ∀ other ∈ numbers, bound < other → n ≤ other := by
  induction numbers with
  | nil => contradiction
  | cons first rest induction =>
      obtain ⟨above, restRising⟩ := List.pairwise_cons.mp rising
      by_cases below : first ≤ bound
      · rw [List.countP_cons_of_pos (by simpa using below), List.getElem?_cons_succ] at found
        obtain ⟨member, higher, least⟩ := induction restRising found
        refine ⟨List.mem_cons_of_mem _ member, higher, ?_⟩
        intro other among exceeds
        rcases List.mem_cons.mp among with rfl | later
        · omega
        · exact least other later exceeds
      · -- Nothing behind the first number is below the bound either.
        have none : (first :: rest).countP (· ≤ bound) = 0 := by
          rw [List.countP_eq_zero]
          intro other among
          rw [decide_eq_true_eq]
          rcases List.mem_cons.mp among with rfl | later
          · exact below
          · have less := above other later
            omega
        rw [none] at found
        obtain rfl : first = n := by simpa using found
        refine ⟨List.mem_cons_self, by omega, ?_⟩
        intro other among _
        rcases List.mem_cons.mp among with rfl | later
        · exact Nat.le_refl _
        · exact Nat.le_of_lt (above other later)

theorem countP_multiples {step : Nat} (positive : 0 < step) (count bound : Nat) :
    ((List.range count).map fun index => step * (index + 1)).countP (· ≤ bound) =
      min count (bound / step) := by
  induction count with
  | zero => simp
  | succ count induction =>
      have reaches : step * (count + 1) ≤ bound ↔ count + 1 ≤ bound / step := by
        rw [Nat.le_div_iff_mul_le positive, Nat.mul_comm]
      rw [List.range_succ, List.map_append, List.countP_append, induction]
      simp only [List.map_cons, List.map_nil, List.countP_singleton, decide_eq_true_eq, reaches]
      split <;> omega

theorem placeNumber_perm {n : Nat} {numbers : List Nat} (new : n ∉ numbers) :
    (placeNumber n numbers).Perm (n :: numbers) := by
  induction numbers with
  | nil => exact .refl _
  | cons first rest induction =>
      obtain ⟨different, restNew⟩ := List.ne_and_not_mem_of_not_mem_cons new
      rw [placeNumber]
      split
      · exact .refl _
      · exact ((induction restNew).cons first).trans (.swap n first rest)

namespace GasPriceOption

variable {price : Nat}

/-! ## Half of the options -/

theorem length_steps {top : Nat} (positive : 0 < top) :
    (steps top).length = (top - 1) / stepTo top + 1 := by
  rw [steps_eq positive]
  simp

/-- Up to twice a price, as many steps stay at or below the price as go into it. -/
theorem countP_steps (positive : 0 < price) :
    (steps (2 * price)).countP (· ≤ price) = price / stepTo (2 * price) := by
  have fewer : price / stepTo (2 * price) ≤ (2 * price - 1) / stepTo (2 * price) :=
    Nat.div_le_div_right (by omega)
  have last : ¬2 * price ≤ price := by omega
  rw [steps_eq (by omega), List.countP_append, countP_multiples (stepTo_pos _),
    List.countP_singleton, Nat.min_eq_right fewer]
  simp [last]

theorem mem_steps_iff (positive : 0 < price) :
    price ∈ steps (2 * price) ↔ stepTo (2 * price) ∣ price := by
  have gap := stepTo_pos (2 * price)
  rw [steps_eq (by omega), List.mem_append, List.mem_map, List.mem_singleton]
  generalize stepTo (2 * price) = step at gap
  constructor
  · rintro (⟨index, -, reached⟩ | same)
    · exact ⟨index + 1, reached.symm⟩
    · omega
  · rintro ⟨times, reached⟩
    have some : 0 < times := by
      apply Nat.pos_of_mul_pos_left (a := step)
      omega
    refine .inl ⟨times - 1, ?_, ?_⟩
    · rw [List.mem_range, Nat.lt_iff_add_one_le, Nat.le_div_iff_mul_le gap,
        Nat.sub_add_cancel some, Nat.mul_comm]
      omega
    · rw [Nat.sub_add_cancel some, reached]

/-- If the steps meet the price, there are twice as many of them as go into it. -/
theorem length_steps_of_dvd (positive : 0 < price) (meets : stepTo (2 * price) ∣ price) :
    (steps (2 * price)).length = 2 * (price / stepTo (2 * price)) := by
  have gap := stepTo_pos (2 * price)
  rw [length_steps (by omega)]
  generalize stepTo (2 * price) = step at gap meets
  obtain ⟨times, rfl⟩ := meets
  obtain ⟨fewer, rfl⟩ : ∃ fewer, times = fewer + 1 :=
    ⟨times - 1, (Nat.sub_add_cancel (Nat.pos_of_mul_pos_left positive)).symm⟩
  have shape : 2 * (step * (fewer + 1)) - 1 = (step - 1) + step * (2 * fewer + 1) := by
    have once : step * (fewer + 1) = step * fewer + step := Nat.mul_succ _ _
    have twice : step * (2 * fewer + 1) = 2 * (step * fewer) + step := by ring
    omega
  rw [shape, Nat.add_mul_div_left _ _ gap, Nat.div_eq_of_lt (by omega),
    Nat.mul_div_cancel_left _ gap]
  omega

/-- If they pass over it, there are one or two more. -/
theorem length_steps_of_not_dvd (positive : 0 < price) (misses : ¬stepTo (2 * price) ∣ price) :
    2 * (price / stepTo (2 * price)) + 1 ≤ (steps (2 * price)).length ∧
      (steps (2 * price)).length ≤ 2 * (price / stepTo (2 * price)) + 2 := by
  have gap := stepTo_pos (2 * price)
  rw [length_steps (by omega)]
  generalize stepTo (2 * price) = step at gap misses
  have short : price % step < step := Nat.mod_lt _ gap
  have left : 0 < price % step := Nat.pos_of_ne_zero fun none => misses (Nat.dvd_of_mod_eq_zero none)
  have parts := Nat.div_add_mod price step
  have shape : 2 * price - 1 = (2 * (price % step) - 1) + step * (2 * (price / step)) := by
    rw [Nat.mul_left_comm]
    omega
  have atMost : (2 * (price % step) - 1) / step < 2 := by
    rw [Nat.div_lt_iff_lt_mul gap]
    omega
  rw [shape, Nat.add_mul_div_left _ _ gap]
  generalize (2 * (price % step) - 1) / step = more at atMost
  omega

theorem highestAround_of_room (positive : 0 < price) (room : 2 * price ≤ mostGwei) :
    highestAround price = 2 * price := by
  rw [highestAround]
  omega

/-- The middle is where the options exceed the price. -/
theorem countP_numbersAround (room : 2 * price ≤ mostGwei) :
    (numbersAround price).countP (· ≤ price) = (numbersAround price).length / 2 := by
  rcases Nat.eq_zero_or_pos price with rfl | positive
  · decide
  · have listed := mem_steps_iff positive
    have count := countP_steps positive
    rw [numbersAround, if_neg (by omega), highestAround_of_room positive room]
    by_cases meets : stepTo (2 * price) ∣ price
    · have length := length_steps_of_dvd positive meets
      have top : 0 < 2 * price := by omega
      have rising := (climbs_steps top).pairwise
      rw [placeNumber_of_mem rising (listed.mpr meets)]
      omega
    · have length := length_steps_of_not_dvd positive meets
      have placed := placeNumber_perm (fun member => meets (listed.mp member))
      rw [placed.countP_eq, placed.length_eq, List.countP_cons_of_pos (by simp),
        List.length_cons]
      omega

/-- The option is the next one above a bound in wei. -/
structure IsNextAbove (bound : Nat) (options : List GasPriceOption)
    (option : GasPriceOption) : Prop where
  listed : option ∈ options
  above : bound < option.value.toNat
  least : ∀ other ∈ options, bound < other.value.toNat →
    option.value.toNat ≤ other.value.toNat

theorem exists_middle {options : List GasPriceOption} (nonempty : options ≠ []) :
    ∃ middle, middle? options = some middle := by
  have inside : options.length / 2 < options.length :=
    Nat.div_lt_self (List.length_pos_iff.mpr nonempty) (by omega)
  exact ⟨_, List.getElem?_eq_getElem inside⟩

theorem isNextAbove_middle (room : 2 * price ≤ mostGwei) {middle : GasPriceOption}
    (found : middle? (around price) = some middle) :
    IsNextAbove (price * 10 ^ 9) (around price) middle := by
  have fits : price ≤ mostGwei := by omega
  have has := hasNumbers_numbersAround fits
  have value {n : Nat} (member : n ∈ numbersAround price) :
      (gwei n).value.toNat = n * 10 ^ 9 :=
    toNat_value_gwei (Nat.le_trans (has.climbs.of_mem member).2 (highestAround_le price))
  rw [middle?, has.options, List.getElem?_map, List.length_map,
    ← countP_numbersAround room, Option.map_eq_some_iff] at found
  obtain ⟨n, found, rfl⟩ := found
  obtain ⟨member, higher, least⟩ := next_of_countP has.climbs.pairwise found
  rw [has.options]
  constructor
  · exact List.mem_map_of_mem member
  · rw [value member]
    omega
  · intro other listed exceeds
    obtain ⟨otherNumber, among, rfl⟩ := List.mem_map.mp listed
    rw [value among] at exceeds ⊢
    rw [value member]
    have further := least otherNumber among (by omega)
    omega

theorem pos_of_mem_around {price : Nat} (fits : price ≤ mostGwei) {option : GasPriceOption}
    (listed : option ∈ around price) : 0 < option.value.toNat := by
  have has := hasNumbers_numbersAround fits
  obtain ⟨n, some, -, -, value⟩ := has.ladder.whole option listed
  omega

end GasPriceOption

namespace Draft

open GasPriceOption

/-- As long as no price is chosen, news of one selects an option. -/
theorem exists_selected {chosen : Quantity} (unchosen : chosen.value = 0) (price : Word256) :
    ∃ option,
      middle? (around (price.toNat / Denomination.gwei.multiplier)) = some option ∧
        priceAfter chosen price = .ofWord option.value := by
  have zero : chosen.isZero = true := by simp [Quantity.isZero, unchosen]
  obtain ⟨option, middle⟩ := exists_middle (offered_around (gwei_le_mostGwei price)).nonempty
  refine ⟨option, middle, ?_⟩
  simp [priceAfter, zero, middle]

/-- While no gas price is chosen, news of the network's selects the next option above its
whole gwei, which is more than the network's price, provided that twice that many gwei fit
into a word, as they do for prices below `2 ^ 128`. -/
theorem selected_above_network {draft : Draft} {price : Word256}
    (unchosen : draft.gasPrice.value = 0)
    (room : 2 * (price.toNat / 10 ^ 9) ≤ (2 ^ 256 - 1) / 10 ^ 9 ∨ price.toNat < 2 ^ 128) :
    let after := draft.applyGasPrice price
    ∃ option, IsNextAbove (price.toNat / 10 ^ 9 * 10 ^ 9) after.options option ∧
      after.gasPrice = .ofWord option.value ∧ price.toNat < after.gasPrice.value.toNat := by
  intro after
  have most : mostGwei = (2 ^ 256 - 1) / 10 ^ 9 := by decide
  have unit : Denomination.gwei.multiplier = 10 ^ 9 := by decide
  have twice : 2 * (price.toNat / 10 ^ 9) ≤ mostGwei := by
    rw [most]
    omega
  obtain ⟨option, middle, selected⟩ := exists_selected unchosen price
  rw [unit] at middle
  have next := isNextAbove_middle twice middle
  have reselected : after.gasPrice = priceAfter draft.gasPrice price :=
    congrArg Draft.gasPrice (applyGasPrice_eq draft price)
  have offered : after.options = around (price.toNat / 10 ^ 9) :=
    congrArg Draft.options (applyGasPrice_eq draft price)
  rw [← offered] at next
  refine ⟨option, next, reselected.trans selected, ?_⟩
  -- Both ends of the gap are whole numbers of gwei, so that the price lies inside it.
  obtain ⟨n, value⟩ : ∃ n, option.value.toNat = n * 10 ^ 9 := by
    obtain ⟨n, -, -, -, value⟩ := (hasNumbers_numbersAround (by omega)).ladder.whole option
      (offered ▸ next.listed)
    exact ⟨n, value⟩
  have above := next.above
  rw [reselected, selected, Quantity.value_ofWord]
  omega

/-- The even steps pass over a price of 777777777 gwei and a little more. -/
theorem uneven_price_exceeded :
    let price : Word256 := ⟨777777777123456789, by decide⟩
    let after := start.applyGasPrice price
    start.gasPrice.value = 0 ∧ 2 * (price.toNat / 10 ^ 9) ≤ (2 ^ 256 - 1) / 10 ^ 9 ∧
      ∃ option, IsNextAbove (price.toNat / 10 ^ 9 * 10 ^ 9) after.options option ∧
        after.gasPrice = .ofWord option.value ∧ price.toNat < after.gasPrice.value.toNat := by
  intro price after
  have unchosen : start.gasPrice.value = 0 := by decide +kernel
  have room : 2 * (price.toNat / 10 ^ 9) ≤ (2 ^ 256 - 1) / 10 ^ 9 := by decide
  exact ⟨unchosen, room, selected_above_network unchosen (.inl room)⟩

end Draft

/-! ## A price that was chosen -/

/-- The edit chooses a typed gas price, from the options or in its field. -/
inductive DraftEdit.ChoosesGasPrice (text : String) : DraftEdit → Prop where
  | option : ChoosesGasPrice text (.chooseGasPrice text)
  | field : ChoosesGasPrice text (.setField .gasPrice text)

/-- The edit is news from the wallet, or about another field. -/
def DraftEdit.SparesGasPrice : DraftEdit → Prop
  | .setField field _ => field ≠ .gasPrice
  | .chooseGasPrice _ => False
  | .applyGasPrice _ => True
  | .applyAccounts _ => True

instance : DecidablePred DraftEdit.SparesGasPrice
  | .setField field _ => inferInstanceAs (Decidable (field ≠ .gasPrice))
  | .chooseGasPrice _ => inferInstanceAs (Decidable False)
  | .applyGasPrice _ => inferInstanceAs (Decidable True)
  | .applyAccounts _ => inferInstanceAs (Decidable True)

namespace Draft

theorem priceAfter_of_ne {chosen : Quantity} (given : chosen.value ≠ 0) (price : Word256) :
    priceAfter chosen price = chosen := by
  have notZero : chosen.isZero = false := by simp [Quantity.isZero, given]
  simp [priceAfter, notZero]

theorem priceAfter_ne_zero {chosen : Quantity} (unchosen : chosen.value = 0) (price : Word256) :
    (priceAfter chosen price).value ≠ 0 := by
  obtain ⟨option, middle, selected⟩ := exists_selected unchosen price
  have positive := GasPriceOption.pos_of_mem_around (GasPriceOption.gwei_le_mostGwei price)
    (List.mem_of_getElem? middle)
  rw [selected, Quantity.value_ofWord]
  intro zero
  rw [zero] at positive
  exact Nat.lt_irrefl 0 positive

section Choice

variable [Digest.Hash] {draft : Draft} {edit : DraftEdit} {edits : List DraftEdit}

theorem gasPrice_of_chooses {text : String} (chooses : edit.ChoosesGasPrice text) :
    (draft.step edit).gasPrice = Quantity.parse text := by
  cases chooses with
  | option => rfl
  | field => rfl

/-- Of the edits that spare the gas price only news of one can change it. -/
theorem gasPrice_step_of_spares (draft : Draft) (spares : edit.SparesGasPrice) :
    (∃ price, edit = .applyGasPrice price ∧
        (draft.step edit).gasPrice = priceAfter draft.gasPrice price) ∨
      ((∀ price, edit ≠ .applyGasPrice price) ∧ (draft.step edit).gasPrice = draft.gasPrice) := by
  cases edit with
  | setField field text =>
      refine .inr ⟨by simp, ?_⟩
      cases field with
      | gasPrice => exact (spares rfl).elim
      | _ => rfl
  | chooseGasPrice text => exact spares.elim
  | applyGasPrice price =>
      refine .inl ⟨price, rfl, ?_⟩
      rw [step, applyGasPrice_eq]
  | applyAccounts accounts => exact .inr ⟨by simp, rfl⟩

/-- A price other than zero stays, whatever the wallet reports. -/
theorem gasPrice_run_of_ne (given : draft.gasPrice.value ≠ 0)
    (spares : ∀ edit ∈ edits, edit.SparesGasPrice) :
    (draft.run edits).gasPrice = draft.gasPrice := by
  induction edits generalizing draft with
  | nil => rfl
  | cons edit rest induction =>
      obtain ⟨here, later⟩ := List.forall_mem_cons.mp spares
      have kept : (draft.step edit).gasPrice = draft.gasPrice := by
        rcases gasPrice_step_of_spares draft here with ⟨price, -, after⟩ | ⟨-, same⟩
        · rw [after, priceAfter_of_ne given]
        · exact same
      exact (induction (kept ▸ given) later).trans kept

/-- A price of zero stays until there is news of a gas price. -/
theorem gasPrice_run_eq_zero_iff (unchosen : draft.gasPrice.value = 0)
    (spares : ∀ edit ∈ edits, edit.SparesGasPrice) :
    (draft.run edits).gasPrice.value = 0 ↔ ∀ price, DraftEdit.applyGasPrice price ∉ edits := by
  induction edits generalizing draft with
  | nil => simpa [run] using unchosen
  | cons edit rest induction =>
      obtain ⟨here, later⟩ := List.forall_mem_cons.mp spares
      rcases gasPrice_step_of_spares draft here with ⟨price, rfl, after⟩ | ⟨noNews, same⟩
      · -- The first news selects a price other than zero, and that one stays.
        have selected : (draft.step (.applyGasPrice price)).gasPrice.value ≠ 0 := by
          rw [after]
          exact priceAfter_ne_zero unchosen price
        have kept := gasPrice_run_of_ne selected later
        constructor
        · intro zero
          exact (selected (kept ▸ zero)).elim
        · intro none
          exact (none price List.mem_cons_self).elim
      · apply (induction (same ▸ unchosen) later).trans
        simp [fun price => (noNews price).symm]

/-- After a typed gas price was chosen, further edits that spare it leave its value as it is,
unless it is zero and there is news of the network's price among them. -/
theorem choice_kept_iff (draft : Draft) {text : String} {choice : DraftEdit}
    (chooses : choice.ChoosesGasPrice text) {later : List DraftEdit}
    (spares : ∀ edit ∈ later, edit.SparesGasPrice) :
    ((draft.step choice).run later).gasPrice.value = (Quantity.parse text).value ↔
      (Quantity.parse text).value ≠ 0 ∨ ∀ price, DraftEdit.applyGasPrice price ∉ later := by
  have chosen : (draft.step choice).gasPrice = Quantity.parse text := gasPrice_of_chooses chooses
  by_cases zero : (Quantity.parse text).value = 0
  · rw [zero]
    simpa using gasPrice_run_eq_zero_iff (chosen ▸ zero) spares
  · have kept := gasPrice_run_of_ne (chosen ▸ zero) spares
    rw [kept, chosen]
    exact iff_of_true rfl (.inl zero)

end Choice

/-- Half a gwei outlasts a higher price of the network and other edits. -/
theorem fraction_outlasts_news :
    let later : List DraftEdit := [.applyGasPrice ⟨20000000000, by decide⟩, .applyAccounts [],
      .setField .gasLimit "90k", .applyGasPrice ⟨0, by decide⟩]
    DraftEdit.ChoosesGasPrice "0.5 gwei" (.setField .gasPrice "0.5 gwei") ∧
      (∀ edit ∈ later, edit.SparesGasPrice) ∧
      ((start.step (.setField .gasPrice "0.5 gwei")).run later).gasPrice.value =
        (Quantity.parse "0.5 gwei").value := by
  intro later
  have spares : ∀ edit ∈ later, edit.SparesGasPrice := by decide
  have given : (Quantity.parse "0.5 gwei").value ≠ 0 := by decide +kernel
  exact ⟨.field, spares, (choice_kept_iff start .field spares).mpr (.inl given)⟩

/-- A choice of zero reads as a number, and the first news takes its place. -/
theorem zero_choice_replaced :
    (Quantity.parse "0").isValid = true ∧
      ((start.chooseGasPrice "0").applyGasPrice ⟨20000000000, by decide⟩).gasPrice.value ≠
        (Quantity.parse "0").value := by
  decide +kernel

end Draft

end TimedRelease
