import HftEngine.Core.BlackScholes
import HftEngine.Lib.Sweep
import Mathlib.Analysis.SpecialFunctions.Exp
import Mathlib.Tactic.FieldSimp
import Mathlib.Tactic.Linarith
import Mathlib.Tactic.LinearCombination

/-!
# Binomial trees

`OptionPricer.binomial_tree` keeps the option values of one level in an array and
overwrites them with those of the level before.  What it leaves in the first entry is the
value of the American option, for which a call is not worth more than the European one.
-/

namespace HftEngine.BinomialTree

open BlackScholes (OptionType)
open Py.Exact

variable {α : Type} [Field α] [LinearOrder α]

/-- What the arguments determine before the loops. -/
structure Factors (α : Type) where
  u : α
  d : α
  p : α
  /-- `exp(-risk_free_rate * dt)` -/
  discount : α

/-- With `math.exp` and `math.sqrt` as parameters; none where an exception is raised. -/
def factors (exp sqrt : α → α) (time_to_expiry risk_free_rate volatility : α) (steps : ℕ) :
    Option (Factors α) :=
  if steps = 0 then none
  else
    let dt := time_to_expiry / steps
    if dt < 0 then none
    else
      let u := exp (volatility * sqrt dt)
      let d := 1 / u
      if u - d = 0 then none
      else some { u, d, p := (exp (risk_free_rate * dt) - d) / (u - d),
                  discount := exp (-risk_free_rate * dt) }

section Tree

variable (tree : Factors α) (spot strike : α) (option_type : OptionType)

def asset_price (step i : ℕ) : α :=
  spot * tree.u ^ (step - i) * tree.d ^ i

def exercise_value (asset_price : α) : α :=
  match option_type with
  | .CE => max (asset_price - strike) 0
  | .PE => max (strike - asset_price) 0

def hold_value (up down : α) : α :=
  tree.discount * (tree.p * up + (1 - tree.p) * down)

/-- The arrays at maturity. -/
def asset_prices (steps : ℕ) : List α :=
  Sweep.sweep (fun i _ _ => asset_price tree spot steps i) 0 (steps + 1)
    (List.replicate (steps + 1) 0)

def values_at_maturity (steps : ℕ) : List α :=
  let asset_prices := asset_prices tree spot steps
  Sweep.sweep (fun i _ _ => exercise_value strike option_type (asset_prices.getD i 0)) 0
    (steps + 1) (List.replicate (steps + 1) 0)

/-- The inner loop. -/
def level (step : ℕ) (option_values : List α) : List α :=
  Sweep.sweep (fun i up down =>
    max (hold_value tree up down)
      (exercise_value strike option_type (asset_price tree spot step i))) 0
    (step + 1) option_values

/-- The outer loop, `for step in range(steps - 1, -1, -1)`. -/
def backward (steps : ℕ) (option_values : List α) : List α :=
  (List.range steps).reverse.foldl
    (fun option_values step => level tree spot strike option_type step option_values)
    option_values

def option_values (steps : ℕ) : List α :=
  backward tree spot strike option_type steps
    (values_at_maturity tree spot strike option_type steps)

end Tree

structure Result (α : Type) where
  theoretical_price : α
  intrinsic_value : α
  time_value : α
  deriving DecidableEq

def binomial_tree [FloorRing α] (exp sqrt : α → α) (spot strike time_to_expiry
    risk_free_rate volatility : α) (option_type : OptionType) (steps : ℕ) :
    Option (Result α) := do
  let tree ← factors exp sqrt time_to_expiry risk_free_rate volatility steps
  let price := (option_values tree spot strike option_type steps).getD 0 0
  let intrinsic := exercise_value strike option_type spot
  some { theoretical_price := roundTo 2 price
         intrinsic_value := roundTo 2 intrinsic
         time_value := roundTo 2 (max (price - intrinsic) 0) }

/-! ## The value of the American option -/

section American

variable (tree : Factors α) (spot strike : α) (option_type : OptionType)

/-- The value at a node that has so many steps left before maturity. -/
def american : ℕ → ℕ → ℕ → α
  | 0, step, i => exercise_value strike option_type (asset_price tree spot step i)
  | left + 1, step, i =>
      max (exercise_value strike option_type (asset_price tree spot step i))
        (hold_value tree (american left (step + 1) i) (american left (step + 1) (i + 1)))

variable {tree spot strike option_type}

theorem exercise_le_american (left step i : ℕ) :
    exercise_value strike option_type (asset_price tree spot step i) ≤
      american tree spot strike option_type left step i := by
  cases left with
  | zero => exact le_refl _
  | succ left => exact le_max_left _ _

omit [LinearOrder α] in
theorem asset_price_root : asset_price tree spot 0 0 = spot := by
  simp [asset_price]

theorem getD_values_at_maturity {steps i : ℕ} (inside : i ≤ steps) :
    (values_at_maturity tree spot strike option_type steps).getD i 0 =
      american tree spot strike option_type 0 steps i := by
  have below : i < steps + 1 := Nat.lt_succ_of_le inside
  have zeros : steps + 1 ≤ (List.replicate (steps + 1) (0 : α)).length := by simp
  have price : (asset_prices tree spot steps).getD i 0 = asset_price tree spot steps i := by
    rw [asset_prices, Sweep.getD_sweep _ _ zeros, if_pos below]
  rw [values_at_maturity, Sweep.getD_sweep _ _ zeros, if_pos below, price, american]

theorem length_values_at_maturity (steps : ℕ) :
    (values_at_maturity tree spot strike option_type steps).length = steps + 1 := by
  simp [values_at_maturity]

theorem length_level (step : ℕ) (values : List α) :
    (level tree spot strike option_type step values).length = values.length :=
  Sweep.length_sweep _ _ _ _

/-- One pass of the inner loop leads from the values of a level to those of the level
before. -/
theorem getD_level {left step : ℕ} {values : List α} (long : step + 1 < values.length)
    (filled : ∀ i ≤ step + 1, values.getD i 0 =
      american tree spot strike option_type left (step + 1) i) {i : ℕ} (inside : i ≤ step) :
    (level tree spot strike option_type step values).getD i 0 =
      american tree spot strike option_type (left + 1) step i := by
  have up := filled i (Nat.le_succ_of_le inside)
  have down := filled (i + 1) (Nat.succ_le_succ inside)
  rw [level, Sweep.getD_sweep _ _ long.le, if_pos (Nat.lt_succ_of_le inside), up, down,
    american, max_comm]

theorem backward_succ (steps : ℕ) (values : List α) :
    backward tree spot strike option_type (steps + 1) values =
      backward tree spot strike option_type steps
        (level tree spot strike option_type steps values) := by
  rw [backward, List.range_succ, List.reverse_append]
  rfl

/-- The outer loop leads from the values of any level to that of the root. -/
theorem getD_backward {left steps : ℕ} {values : List α} (long : steps < values.length)
    (filled : ∀ i ≤ steps, values.getD i 0 =
      american tree spot strike option_type left steps i) :
    (backward tree spot strike option_type steps values).getD 0 0 =
      american tree spot strike option_type (left + steps) 0 0 := by
  induction steps generalizing left values with
  | zero => exact filled 0 (le_refl 0)
  | succ steps ih =>
      have short : steps < (level tree spot strike option_type steps values).length := by
        rw [length_level]
        exact Nat.lt_of_succ_lt long
      have next := ih short (fun i inside => getD_level long filled inside)
      rw [backward_succ, next, Nat.add_right_comm, Nat.add_assoc]

variable (tree spot strike option_type)

theorem root_eq_american (steps : ℕ) :
    (option_values tree spot strike option_type steps).getD 0 0 =
      american tree spot strike option_type steps 0 0 := by
  have long : steps < (values_at_maturity tree spot strike option_type steps).length := by
    rw [length_values_at_maturity]
    exact Nat.lt_succ_self steps
  rw [option_values, getD_backward long (fun i inside => getD_values_at_maturity inside),
    Nat.zero_add]

theorem intrinsic_le_american (steps : ℕ) :
    exercise_value strike option_type spot ≤
      american tree spot strike option_type steps 0 0 := by
  have root : exercise_value strike option_type (asset_price tree spot 0 0) ≤
      american tree spot strike option_type steps 0 0 := exercise_le_american steps 0 0
  rwa [asset_price_root] at root

/-- Whatever the factors are, the loops leave the value of the American option in the
first entry, which is at least the intrinsic value. -/
theorem option_values_american (steps : ℕ) :
    (option_values tree spot strike option_type steps).getD 0 0 =
        american tree spot strike option_type steps 0 0 ∧
      exercise_value strike option_type spot ≤
        (option_values tree spot strike option_type steps).getD 0 0 := by
  rw [root_eq_american]
  exact ⟨rfl, intrinsic_le_american tree spot strike option_type steps⟩

variable (exp sqrt : α → α) (time_to_expiry risk_free_rate volatility : α)

/-- The time value is what the American option is worth beyond its intrinsic value. -/
theorem binomial_tree_eq [FloorRing α] [IsStrictOrderedRing α] (steps : ℕ) :
    binomial_tree exp sqrt spot strike time_to_expiry risk_free_rate volatility option_type
        steps =
      (factors exp sqrt time_to_expiry risk_free_rate volatility steps).map (fun tree =>
        let value := american tree spot strike option_type steps 0 0
        let intrinsic := exercise_value strike option_type spot
        ⟨roundTo 2 value, roundTo 2 intrinsic, roundTo 2 (value - intrinsic)⟩) := by
  rw [binomial_tree]
  cases factors exp sqrt time_to_expiry risk_free_rate volatility steps with
  | none => rfl
  | some tree =>
      have nonneg := sub_nonneg.mpr (intrinsic_le_american tree spot strike option_type steps)
      simp only [Option.bind_eq_bind, Option.bind_some, Option.map_some, root_eq_american,
        max_eq_left nonneg]

end American

/-! ## Calls

A tree whose probability makes the discounted price a martingale. -/

section Calls

/-- The value at a node without the comparison with the exercise value. -/
def european (tree : Factors α) (spot strike : α) (option_type : OptionType) :
    ℕ → ℕ → ℕ → α
  | 0, step, i => exercise_value strike option_type (asset_price tree spot step i)
  | left + 1, step, i =>
      hold_value tree (european tree spot strike option_type left (step + 1) i)
        (european tree spot strike option_type left (step + 1) (i + 1))

structure RiskNeutral (tree : Factors α) : Prop where
  u_pos : 0 < tree.u
  d_pos : 0 < tree.d
  p_nonneg : 0 ≤ tree.p
  p_le_one : tree.p ≤ 1
  discount_pos : 0 < tree.discount
  discount_le_one : tree.discount ≤ 1
  martingale : tree.discount * (tree.p * tree.u + (1 - tree.p) * tree.d) = 1

variable [IsStrictOrderedRing α] {tree : Factors α} {spot strike : α}

theorem RiskNeutral.hold_mono (neutral : RiskNeutral tree) {up down up' down' : α}
    (le_up : up ≤ up') (le_down : down ≤ down') :
    hold_value tree up down ≤ hold_value tree up' down' := by
  have p_nonneg := neutral.p_nonneg
  have rest_nonneg : 0 ≤ 1 - tree.p := sub_nonneg.mpr neutral.p_le_one
  have discount_nonneg := neutral.discount_pos.le
  unfold hold_value
  gcongr

/-- Holding the asset, with a constant amount owed at the next step. -/
theorem RiskNeutral.hold_asset (neutral : RiskNeutral tree) (spot owed : α) {step i : ℕ}
    (inside : i ≤ step) :
    hold_value tree (asset_price tree spot (step + 1) i - owed)
        (asset_price tree spot (step + 1) (i + 1) - owed) =
      asset_price tree spot step i - tree.discount * owed := by
  have up : asset_price tree spot (step + 1) i = asset_price tree spot step i * tree.u := by
    rw [asset_price, asset_price, Nat.succ_sub inside, pow_succ]
    ring
  have down : asset_price tree spot (step + 1) (i + 1) =
      asset_price tree spot step i * tree.d := by
    rw [asset_price, asset_price, Nat.succ_sub_succ, pow_succ]
    ring
  rw [up, down, hold_value]
  linear_combination asset_price tree spot step i * neutral.martingale

theorem RiskNeutral.asset_nonneg (neutral : RiskNeutral tree) (spot_pos : 0 < spot)
    (step i : ℕ) : 0 ≤ asset_price tree spot step i := by
  have u_pos := neutral.u_pos
  have d_pos := neutral.d_pos
  unfold asset_price
  positivity

section Bounds

variable (neutral : RiskNeutral tree)

include neutral

theorem european_nonneg (left step i : ℕ) : 0 ≤ european tree spot strike .CE left step i := by
  induction left generalizing step i with
  | zero => exact le_max_right _ _
  | succ left ih =>
      have nothing : hold_value tree 0 0 = 0 := by simp [hold_value]
      rw [← nothing]
      exact neutral.hold_mono (ih (step + 1) i) (ih (step + 1) (i + 1))

/-- A call is worth at least the asset less the strike, as it is discounted. -/
theorem sub_le_european (left : ℕ) {step i : ℕ} (inside : i ≤ step) :
    asset_price tree spot step i - strike * tree.discount ^ left ≤
      european tree spot strike .CE left step i := by
  induction left generalizing step i with
  | zero =>
      rw [pow_zero, mul_one]
      exact le_max_left _ _
  | succ left ih =>
      have owed := neutral.hold_asset spot (strike * tree.discount ^ left) inside
      have discounted : strike * tree.discount ^ (left + 1) =
          tree.discount * (strike * tree.discount ^ left) := by ring
      rw [discounted, ← owed]
      exact neutral.hold_mono (ih (Nat.le_succ_of_le inside)) (ih (Nat.succ_le_succ inside))

theorem european_le_asset (spot_pos : 0 < spot) (strike_nonneg : 0 ≤ strike)
    (left : ℕ) {step i : ℕ} (inside : i ≤ step) :
    european tree spot strike .CE left step i ≤ asset_price tree spot step i := by
  induction left generalizing step i with
  | zero =>
      apply max_le
      · exact sub_le_self _ strike_nonneg
      · exact neutral.asset_nonneg spot_pos step i
  | succ left ih =>
      have held := neutral.hold_asset spot 0 inside
      simp only [sub_zero, mul_zero] at held
      rw [← held]
      exact neutral.hold_mono (ih (Nat.le_succ_of_le inside)) (ih (Nat.succ_le_succ inside))

/-- To exercise a call is worth no more than to hold it. -/
theorem exercise_le_european (strike_nonneg : 0 ≤ strike) (left : ℕ) {step i : ℕ}
    (inside : i ≤ step) :
    exercise_value strike .CE (asset_price tree spot step i) ≤
      european tree spot strike .CE left step i := by
  apply max_le
  · have discounted : strike * tree.discount ^ left ≤ strike :=
      mul_le_of_le_one_right strike_nonneg
        (pow_le_one₀ neutral.discount_pos.le neutral.discount_le_one)
    exact (sub_le_sub_left discounted _).trans (sub_le_european neutral left inside)
  · exact european_nonneg neutral left step i

theorem american_eq_european (strike_nonneg : 0 ≤ strike) (left : ℕ) {step i : ℕ}
    (inside : i ≤ step) :
    american tree spot strike .CE left step i = european tree spot strike .CE left step i := by
  induction left generalizing step i with
  | zero => rfl
  | succ left ih =>
      rw [american, ih (Nat.le_succ_of_le inside), ih (Nat.succ_le_succ inside)]
      exact max_eq_right (exercise_le_european neutral strike_nonneg (left + 1) inside)

end Bounds

end Calls

/-! ## The functions of analysis -/

section Analysis

variable {spot strike time_to_expiry risk_free_rate volatility : ℝ} {steps : ℕ}
  {tree : Factors ℝ}

theorem factors_eq_some (made : factors Real.exp Real.sqrt time_to_expiry risk_free_rate
    volatility steps = some tree) :
    steps ≠ 0 ∧ 0 ≤ time_to_expiry / steps ∧ tree.u - tree.d ≠ 0 ∧
      tree.u = Real.exp (volatility * Real.sqrt (time_to_expiry / steps)) ∧
        tree.d = 1 / tree.u ∧
          tree.p = (Real.exp (risk_free_rate * (time_to_expiry / steps)) - tree.d) /
            (tree.u - tree.d) ∧
              tree.discount = Real.exp (-risk_free_rate * (time_to_expiry / steps)) := by
  simp only [factors, Option.ite_none_left_eq_some] at made
  obtain ⟨some_step, forward, apart, made⟩ := made
  obtain rfl := Option.some.inj made
  exact ⟨some_step, not_lt.mp forward, apart, rfl, rfl, rfl, rfl⟩

theorem riskNeutral_of_factors (made : factors Real.exp Real.sqrt time_to_expiry
    risk_free_rate volatility steps = some tree) (rate_nonneg : 0 ≤ risk_free_rate)
    (p_nonneg : 0 ≤ tree.p) (p_le_one : tree.p ≤ 1) : RiskNeutral tree := by
  obtain ⟨_, forward, apart, u_eq, d_eq, p_eq, discount_eq⟩ := factors_eq_some made
  have u_pos : 0 < tree.u := u_eq ▸ Real.exp_pos _
  have growth : tree.p * tree.u + (1 - tree.p) * tree.d =
      Real.exp (risk_free_rate * (time_to_expiry / steps)) := by
    have weighted := (eq_div_iff apart).mp p_eq
    linear_combination weighted
  refine ⟨u_pos, d_eq ▸ one_div_pos.mpr u_pos, p_nonneg, p_le_one, ?_, ?_, ?_⟩
  · rw [discount_eq]
    exact Real.exp_pos _
  · rw [discount_eq, Real.exp_le_one_iff, neg_mul]
    exact neg_nonpos.mpr (mul_nonneg rate_nonneg forward)
  · rw [growth, discount_eq, ← Real.exp_add, neg_mul, neg_add_cancel, Real.exp_zero]

theorem discount_pow (made : factors Real.exp Real.sqrt time_to_expiry risk_free_rate
    volatility steps = some tree) :
    tree.discount ^ steps = Real.exp (-risk_free_rate * time_to_expiry) := by
  obtain ⟨some_step, _, _, _, _, _, discount_eq⟩ := factors_eq_some made
  have nonzero : (steps : ℝ) ≠ 0 := Nat.cast_ne_zero.mpr some_step
  rw [discount_eq, ← Real.exp_nat_mul]
  congr 1
  field_simp

/-- Early exercise adds nothing to a call, whose price is between its discounted intrinsic
value and the price of the asset. -/
theorem call_price (made : factors Real.exp Real.sqrt time_to_expiry risk_free_rate volatility
    steps = some tree) (spot_pos : 0 < spot) (strike_nonneg : 0 ≤ strike)
    (rate_nonneg : 0 ≤ risk_free_rate) (p_nonneg : 0 ≤ tree.p) (p_le_one : tree.p ≤ 1) :
    let price := (option_values tree spot strike .CE steps).getD 0 0
    price = european tree spot strike .CE steps 0 0 ∧
      max (spot - strike * Real.exp (-risk_free_rate * time_to_expiry)) 0 ≤ price ∧
        price ≤ spot := by
  have neutral := riskNeutral_of_factors made rate_nonneg p_nonneg p_le_one
  have lower : asset_price tree spot 0 0 - strike * tree.discount ^ steps ≤
      european tree spot strike .CE steps 0 0 := sub_le_european neutral steps (le_refl 0)
  have upper := european_le_asset neutral spot_pos strike_nonneg steps (le_refl 0)
  rw [asset_price_root, discount_pow made] at lower
  rw [asset_price_root] at upper
  intro price
  have price_eq : price = european tree spot strike .CE steps 0 0 :=
    (root_eq_american tree spot strike .CE steps).trans
      (american_eq_european neutral strike_nonneg steps (le_refl 0))
  rw [price_eq]
  exact ⟨rfl, max_le lower (european_nonneg neutral steps 0 0), upper⟩

/-- One step of a year, without interest and with a volatility of 1. -/
noncomputable def yearly : Factors ℝ where
  u := Real.exp 1
  d := 1 / Real.exp 1
  p := (1 - 1 / Real.exp 1) / (Real.exp 1 - 1 / Real.exp 1)
  discount := 1

theorem yearly_down_lt_one : 1 / Real.exp 1 < 1 :=
  (div_lt_one (Real.exp_pos 1)).mpr (Real.one_lt_exp_iff.mpr one_pos)

theorem factors_yearly : factors Real.exp Real.sqrt 1 0 1 1 = some yearly := by
  have apart : Real.exp 1 - 1 / Real.exp 1 ≠ 0 :=
    (sub_pos.mpr (yearly_down_lt_one.trans (Real.one_lt_exp_iff.mpr one_pos))).ne'
  simpa [factors, yearly] using apart

theorem call_price_yearly :
    let price := (option_values yearly 100 90 .CE 1).getD 0 0
    price = european yearly 100 90 .CE 1 0 0 ∧
      max (100 - 90 * Real.exp (-0 * 1)) 0 ≤ price ∧ price ≤ 100 := by
  have down := yearly_down_lt_one
  have up : 1 < Real.exp 1 := Real.one_lt_exp_iff.mpr one_pos
  have apart : 0 < Real.exp 1 - 1 / Real.exp 1 := by linarith
  apply call_price factors_yearly
  · norm_num
  · norm_num
  · exact le_refl 0
  · exact div_nonneg (sub_nonneg.mpr down.le) apart.le
  · apply (div_le_one apart).mpr
    linarith

end Analysis

end HftEngine.BinomialTree
