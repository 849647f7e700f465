import HftEngine.Backend.StrategySimulation.Payoff

/-!
# The extremes of the payoff

`calculate_max_profit_loss` looks at a hundred prices around the spot, and takes the
payoff near 0 and at five times the spot for unlimited when it is half as much again.
-/

namespace HftEngine.Backend.StrategySimulation

open Py.Exact

variable (legs : List StrategyLeg) (current_spot : ℚ)

/-- The prices that are looked at, from 0.3 to 1.7 times the spot. -/
def sampled_prices : List ℚ :=
  let min_price := current_spot * (3 / 10)
  let max_price := current_spot * (17 / 10)
  (List.range 100).map (fun i : ℕ => min_price + (max_price - min_price) * i / 99)

/-- The extremes before they are rounded. -/
structure Extremes where
  max_profit : ℚ
  max_profit_price : ℚ
  max_loss : ℚ
  max_loss_price : ℚ
  profit_unlimited : Bool
  loss_unlimited : Bool

def sampled_extremes : Extremes :=
  let prices := sampled_prices current_spot
  let payoffs := prices.map (calculate_expiry_payoff legs)
  let max_profit := payoffs.max?.getD 0
  let max_loss := payoffs.min?.getD 0
  let payoff_at_zero := calculate_expiry_payoff legs (1 / 100)
  let payoff_at_high := calculate_expiry_payoff legs (current_spot * 5)
  { max_profit
    max_profit_price :=
      (prices.find? (calculate_expiry_payoff legs · = max_profit)).getD 0
    max_loss
    max_loss_price := (prices.find? (calculate_expiry_payoff legs · = max_loss)).getD 0
    profit_unlimited :=
      max_profit * (3 / 2) < payoff_at_high ∨ max_profit * (3 / 2) < payoff_at_zero
    loss_unlimited :=
      payoff_at_high < max_loss * (3 / 2) ∨ payoff_at_zero < max_loss * (3 / 2) }

/-- The dictionary that is returned; no number stands for "Unlimited" and for None. -/
structure MaxProfitLoss where
  max_profit : Option ℚ
  max_profit_price : Option ℚ
  max_loss : Option ℚ
  max_loss_price : Option ℚ
  profit_unlimited : Bool
  loss_unlimited : Bool
  risk_reward_ratio : Option ℚ

def calculate_max_profit_loss : MaxProfitLoss :=
  let found := sampled_extremes legs current_spot
  let limited (unlimited : Bool) (x : ℚ) : Option ℚ :=
    if unlimited then none else some (roundTo 2 x)
  { max_profit := limited found.profit_unlimited found.max_profit
    max_profit_price := limited found.profit_unlimited found.max_profit_price
    max_loss := limited found.loss_unlimited found.max_loss
    max_loss_price := limited found.loss_unlimited found.max_loss_price
    profit_unlimited := found.profit_unlimited
    loss_unlimited := found.loss_unlimited
    risk_reward_ratio :=
      if found.max_loss ≠ 0 ∧ !found.profit_unlimited ∧ !found.loss_unlimited then
        some (roundTo 2 |found.max_profit / found.max_loss|)
      else none }

/-! ## What the samples say -/

/-- The extremes are those of the payoff over all spot prices. -/
structure Sound (found : Extremes) : Prop where
  profit_unlimited : found.profit_unlimited ↔ ¬BddAbove (payoffs legs)
  loss_unlimited : found.loss_unlimited ↔ ¬BddBelow (payoffs legs)
  max_profit : BddAbove (payoffs legs) → IsGreatest (payoffs legs) found.max_profit
  max_loss : BddBelow (payoffs legs) → IsLeast (payoffs legs) found.max_loss

/-- The payoff at the price is more than 1.5 times that at every sampled price. -/
def AboveSamples (price : ℚ) : Prop :=
  ∀ sampled ∈ sampled_prices current_spot,
    calculate_expiry_payoff legs sampled * (3 / 2) < calculate_expiry_payoff legs price

/-- The payoff at the price is less than 1.5 times that at every sampled price. -/
def BelowSamples (price : ℚ) : Prop :=
  ∀ sampled ∈ sampled_prices current_spot,
    calculate_expiry_payoff legs price < calculate_expiry_payoff legs sampled * (3 / 2)

instance (price : ℚ) : Decidable (AboveSamples legs current_spot price) :=
  inferInstanceAs (Decidable (∀ sampled ∈ sampled_prices current_spot, _))

instance (price : ℚ) : Decidable (BelowSamples legs current_spot price) :=
  inferInstanceAs (Decidable (∀ sampled ∈ sampled_prices current_spot, _))

/-- Some sampled price has a payoff as high as 0 and every strike. -/
def TopSampled : Prop :=
  ∃ sampled ∈ sampled_prices current_spot, ∀ point ∈ turning_points legs,
    calculate_expiry_payoff legs point ≤ calculate_expiry_payoff legs sampled

def BottomSampled : Prop :=
  ∃ sampled ∈ sampled_prices current_spot, ∀ point ∈ turning_points legs,
    calculate_expiry_payoff legs sampled ≤ calculate_expiry_payoff legs point

instance : Decidable (TopSampled legs current_spot) :=
  inferInstanceAs (Decidable (∃ sampled ∈ sampled_prices current_spot, _))

instance : Decidable (BottomSampled legs current_spot) :=
  inferInstanceAs (Decidable (∃ sampled ∈ sampled_prices current_spot, _))

/-- The samples tell whether the calls held and sold balance, and reach the extremes. -/
structure Representative : Prop where
  rises : 0 < call_quantity legs ↔
    AboveSamples legs current_spot (current_spot * 5) ∨
      AboveSamples legs current_spot (1 / 100)
  falls : call_quantity legs < 0 ↔
    BelowSamples legs current_spot (current_spot * 5) ∨
      BelowSamples legs current_spot (1 / 100)
  top : call_quantity legs ≤ 0 → TopSampled legs current_spot
  bottom : 0 ≤ call_quantity legs → BottomSampled legs current_spot

variable {legs current_spot}

theorem sampled_prices_nonneg (positive : 0 < current_spot) :
    ∀ sampled ∈ sampled_prices current_spot, 0 ≤ sampled := by
  intro sampled member
  obtain ⟨i, -, rfl⟩ := List.mem_map.mp member
  have width : current_spot * (17 / 10) - current_spot * (3 / 10) =
      current_spot * (14 / 10) := by ring
  have low := mul_nonneg positive.le (by norm_num : (0 : ℚ) ≤ 3 / 10)
  have wide := mul_nonneg positive.le (by norm_num : (0 : ℚ) ≤ 14 / 10)
  rw [width]
  exact add_nonneg low (div_nonneg (mul_nonneg wide (Nat.cast_nonneg i)) (by norm_num))

theorem sampled_prices_ne_nil : sampled_prices current_spot ≠ [] := by
  rw [sampled_prices, Ne, List.map_eq_nil_iff, List.range_eq_nil]
  decide

theorem max_profit_spec (legs : List StrategyLeg) (current_spot : ℚ) :
    (∃ sampled ∈ sampled_prices current_spot,
      calculate_expiry_payoff legs sampled = (sampled_extremes legs current_spot).max_profit) ∧
    ∀ sampled ∈ sampled_prices current_spot,
      calculate_expiry_payoff legs sampled ≤
        (sampled_extremes legs current_spot).max_profit := by
  obtain ⟨greatest, found⟩ : ∃ greatest,
      ((sampled_prices current_spot).map (calculate_expiry_payoff legs)).max? =
        some greatest :=
    Option.isSome_iff_exists.mp (by simp [sampled_prices_ne_nil])
  have same : (sampled_extremes legs current_spot).max_profit = greatest := by
    rw [sampled_extremes, found, Option.getD_some]
  rw [List.max?_eq_some_iff, List.mem_map] at found
  rw [same]
  exact ⟨found.1, fun sampled member => found.2 _ (List.mem_map_of_mem member)⟩

theorem max_loss_spec (legs : List StrategyLeg) (current_spot : ℚ) :
    (∃ sampled ∈ sampled_prices current_spot,
      calculate_expiry_payoff legs sampled = (sampled_extremes legs current_spot).max_loss) ∧
    ∀ sampled ∈ sampled_prices current_spot,
      (sampled_extremes legs current_spot).max_loss ≤
        calculate_expiry_payoff legs sampled := by
  obtain ⟨least, found⟩ : ∃ least,
      ((sampled_prices current_spot).map (calculate_expiry_payoff legs)).min? =
        some least :=
    Option.isSome_iff_exists.mp (by simp [sampled_prices_ne_nil])
  have same : (sampled_extremes legs current_spot).max_loss = least := by
    rw [sampled_extremes, found, Option.getD_some]
  rw [List.min?_eq_some_iff, List.mem_map] at found
  rw [same]
  exact ⟨found.1, fun sampled member => found.2 _ (List.mem_map_of_mem member)⟩

theorem max_profit_lt_iff (price : ℚ) :
    (sampled_extremes legs current_spot).max_profit * (3 / 2) <
        calculate_expiry_payoff legs price ↔ AboveSamples legs current_spot price := by
  obtain ⟨⟨best, member, same⟩, bound⟩ := max_profit_spec legs current_spot
  constructor
  · intro above sampled sampled_member
    have := bound sampled sampled_member
    linarith
  · intro above
    rw [← same]
    exact above best member

theorem lt_max_loss_iff (price : ℚ) :
    calculate_expiry_payoff legs price <
        (sampled_extremes legs current_spot).max_loss * (3 / 2) ↔
      BelowSamples legs current_spot price := by
  obtain ⟨⟨worst, member, same⟩, bound⟩ := max_loss_spec legs current_spot
  constructor
  · intro below sampled sampled_member
    have := bound sampled sampled_member
    linarith
  · intro below
    rw [← same]
    exact below worst member

theorem profit_unlimited_iff :
    (sampled_extremes legs current_spot).profit_unlimited ↔
      AboveSamples legs current_spot (current_spot * 5) ∨
        AboveSamples legs current_spot (1 / 100) := by
  rw [← max_profit_lt_iff, ← max_profit_lt_iff]
  exact decide_eq_true_iff

theorem loss_unlimited_iff :
    (sampled_extremes legs current_spot).loss_unlimited ↔
      BelowSamples legs current_spot (current_spot * 5) ∨
        BelowSamples legs current_spot (1 / 100) := by
  rw [← lt_max_loss_iff, ← lt_max_loss_iff]
  exact decide_eq_true_iff

theorem isGreatest_iff (positive : 0 < current_spot) (short : call_quantity legs ≤ 0) :
    IsGreatest (payoffs legs) (sampled_extremes legs current_spot).max_profit ↔
      TopSampled legs current_spot := by
  obtain ⟨⟨best, member, same⟩, bound⟩ := max_profit_spec legs current_spot
  constructor
  · rintro ⟨-, above⟩
    refine ⟨best, member, ?_⟩
    intro point turns
    rw [same]
    exact above (Set.mem_image_of_mem _ (turning_points_nonneg point turns))
  · rintro ⟨sampled, sampled_member, turns⟩
    rw [← same]
    refine ⟨Set.mem_image_of_mem _ (sampled_prices_nonneg positive best member), ?_⟩
    rintro _ ⟨spot_price, nonneg, rfl⟩
    apply payoff_le short ?_ nonneg
    intro point turning
    rw [same]
    exact (turns point turning).trans (bound sampled sampled_member)

theorem isLeast_iff (positive : 0 < current_spot) (long : 0 ≤ call_quantity legs) :
    IsLeast (payoffs legs) (sampled_extremes legs current_spot).max_loss ↔
      BottomSampled legs current_spot := by
  obtain ⟨⟨worst, member, same⟩, bound⟩ := max_loss_spec legs current_spot
  constructor
  · rintro ⟨-, below⟩
    refine ⟨worst, member, ?_⟩
    intro point turns
    rw [same]
    exact below (Set.mem_image_of_mem _ (turning_points_nonneg point turns))
  · rintro ⟨sampled, sampled_member, turns⟩
    rw [← same]
    refine ⟨Set.mem_image_of_mem _ (sampled_prices_nonneg positive worst member), ?_⟩
    rintro _ ⟨spot_price, nonneg, rfl⟩
    apply le_payoff long ?_ nonneg
    intro point turning
    rw [same]
    exact (bound sampled sampled_member).trans (turns point turning)

/-- The extremes are right exactly when the samples are representative. -/
theorem extremes_sound_iff (positive : 0 < current_spot) :
    Sound legs (sampled_extremes legs current_spot) ↔
      Representative legs current_spot := by
  constructor
  · intro sound
    refine ⟨?_, ?_, ?_, ?_⟩
    · rw [← profit_unlimited_iff, sound.profit_unlimited, bddAbove_payoffs_iff, not_le]
    · rw [← loss_unlimited_iff, sound.loss_unlimited, bddBelow_payoffs_iff, not_le]
    · intro short
      exact (isGreatest_iff positive short).mp
        (sound.max_profit ((bddAbove_payoffs_iff legs).mpr short))
    · intro long
      exact (isLeast_iff positive long).mp
        (sound.max_loss ((bddBelow_payoffs_iff legs).mpr long))
  · intro representative
    refine ⟨?_, ?_, ?_, ?_⟩
    · rw [profit_unlimited_iff, ← representative.rises, bddAbove_payoffs_iff, not_le]
    · rw [loss_unlimited_iff, ← representative.falls, bddBelow_payoffs_iff, not_le]
    · intro bounded
      have short := (bddAbove_payoffs_iff legs).mp bounded
      exact (isGreatest_iff positive short).mpr (representative.top short)
    · intro bounded
      have long := (bddBelow_payoffs_iff legs).mp bounded
      exact (isLeast_iff positive long).mpr (representative.bottom long)

/-! ### A put, and a spread of calls -/

theorem extremes_sound_iff_spread :
    Sound [option_leg .CE .BUY 90 12, option_leg .CE .SELL 110 4]
        (sampled_extremes [option_leg .CE .BUY 90 12, option_leg .CE .SELL 110 4] 100) ↔
      Representative [option_leg .CE .BUY 90 12, option_leg .CE .SELL 110 4] 100 :=
  extremes_sound_iff (by norm_num)

/-- The put is worth most at 0, which no sample reaches. -/
theorem extremes_not_sound :
    (sampled_extremes [option_leg .PE .BUY 100 5] 100).max_profit = 65 ∧
      ¬Sound [option_leg .PE .BUY 100 5]
        (sampled_extremes [option_leg .PE .BUY 100 5] 100) := by
  have sampled : (sampled_extremes [option_leg .PE .BUY 100 5] 100).max_profit = 65 := by
    decide +kernel
  refine ⟨sampled, ?_⟩
  intro sound
  have bounded := (bddAbove_payoffs_iff [option_leg .PE .BUY 100 5]).mpr (by decide)
  have greatest := (sound.max_profit bounded).2
    (Set.mem_image_of_mem (calculate_expiry_payoff _) (Set.mem_Ici.mpr (le_refl 0)))
  rw [sampled] at greatest
  exact absurd greatest (by with_unfolding_all decide)

end HftEngine.Backend.StrategySimulation
