import HftEngine.Backend.StrategySimulation
import HftEngine.Lib.PiecewiseLinear
import Mathlib.Order.Bounds.Basic

/-!
# The payoff at expiry

The payoff of a strategy is piecewise linear in the spot price, with knots at the
strikes; beyond them it grows with the calls that are held.
-/

namespace HftEngine.Backend.StrategySimulation

open ChartOfAccuracy (OptionType)
open PiecewiseLinear

theorem StrategyLeg.pnl_eq (leg : StrategyLeg) (current_price : ℚ) :
    leg.pnl current_price = leg.multiplier * (current_price - leg.entry_price) := by
  rw [StrategyLeg.pnl, StrategyLeg.multiplier]
  cases leg.action with
  | BUY =>
      simp only [direction]
      ring
  | SELL =>
      simp only [direction]
      ring

@[simp] theorem payoff_nil (spot_price : ℚ) : calculate_expiry_payoff [] spot_price = 0 :=
  rfl

@[simp] theorem payoff_cons (leg : StrategyLeg) (legs : List StrategyLeg)
    (spot_price : ℚ) :
    calculate_expiry_payoff (leg :: legs) spot_price =
      leg.pnl (intrinsic spot_price leg.option_type leg.strike) +
        calculate_expiry_payoff legs spot_price := by
  rw [calculate_expiry_payoff, calculate_expiry_payoff, List.map_cons, List.sum_cons]

theorem knotted_intrinsic (option_type : OptionType) (strike : ℚ) :
    Knotted [strike] (fun spot_price => intrinsic spot_price option_type strike) := by
  cases option_type with
  | CE => exact knotted_rise strike
  | PE => exact knotted_fall strike

theorem knotted_pnl (leg : StrategyLeg) :
    Knotted [leg.strike] (fun spot_price =>
      leg.pnl (intrinsic spot_price leg.option_type leg.strike)) := by
  simp only [StrategyLeg.pnl_eq, sub_eq_add_neg]
  exact ((knotted_intrinsic leg.option_type leg.strike).add
    (knotted_const (-leg.entry_price))).const_mul leg.multiplier

/-- The payoff has its knots at the strikes. -/
theorem knotted_payoff (legs : List StrategyLeg) :
    Knotted (legs.map (·.strike)) (calculate_expiry_payoff legs) := by
  induction legs with
  | nil => exact knotted_const 0
  | cons leg legs ih =>
      have sum : calculate_expiry_payoff (leg :: legs) = _ := funext (payoff_cons leg legs)
      rw [sum]
      exact (knotted_pnl leg).add ih

/-! ## Beyond the strikes -/

/-- How many calls are held, less how many are sold. -/
def call_quantity (legs : List StrategyLeg) : ℚ :=
  ((legs.filter (·.option_type = .CE)).map (·.multiplier)).sum

theorem call_quantity_cons (leg : StrategyLeg) (legs : List StrategyLeg) :
    call_quantity (leg :: legs) =
      (if leg.option_type = .CE then leg.multiplier else 0) + call_quantity legs := by
  unfold call_quantity
  by_cases call : leg.option_type = .CE
  · simp [call]
  · simp [call]

/-- The highest strike, or 0. -/
def last_strike (legs : List StrategyLeg) : ℚ :=
  (legs.map (·.strike)).foldr max 0

theorem last_strike_nonneg (legs : List StrategyLeg) : 0 ≤ last_strike legs := by
  unfold last_strike
  induction legs with
  | nil => exact le_rfl
  | cons leg legs ih => exact ih.trans (le_max_right _ _)

theorem le_last_strike {legs : List StrategyLeg} :
    ∀ k ∈ legs.map (·.strike), k ≤ last_strike legs := by
  unfold last_strike
  induction legs with
  | nil => exact nofun
  | cons leg legs ih =>
      rw [List.map_cons, List.forall_mem_cons]
      refine ⟨le_max_left _ _, ?_⟩
      intro k member
      exact (ih k member).trans (le_max_right _ _)

/-- The last strike is a strike, or 0. -/
theorem last_strike_cases (legs : List StrategyLeg) :
    last_strike legs = 0 ∨ last_strike legs ∈ legs.map (·.strike) := by
  unfold last_strike
  induction legs with
  | nil => exact .inl rfl
  | cons leg legs ih =>
      rw [List.map_cons, List.foldr_cons]
      rcases max_choice leg.strike ((legs.map (·.strike)).foldr max 0) with same | same
      · rw [same]
        exact .inr List.mem_cons_self
      · rw [same]
        exact ih.imp_right (List.mem_cons_of_mem _)

theorem intrinsic_beyond {option_type : OptionType} {strike c spot_price : ℚ}
    (beyond : strike ≤ c) (above : c ≤ spot_price) :
    intrinsic spot_price option_type strike =
      intrinsic c option_type strike + if option_type = .CE then spot_price - c else 0 := by
  cases option_type with
  | CE =>
      simp only [intrinsic, if_true]
      rw [max_eq_right (sub_nonneg.mpr (beyond.trans above)),
        max_eq_right (sub_nonneg.mpr beyond)]
      ring
  | PE =>
      simp only [intrinsic, reduceCtorEq, if_false, add_zero]
      rw [max_eq_left (sub_nonpos.mpr (beyond.trans above)),
        max_eq_left (sub_nonpos.mpr beyond)]

/-- Beyond the strikes the payoff is a ray whose slope is the quantity of calls. -/
theorem payoff_beyond {legs : List StrategyLeg} {c spot_price : ℚ}
    (beyond : ∀ k ∈ legs.map (·.strike), k ≤ c) (above : c ≤ spot_price) :
    calculate_expiry_payoff legs spot_price =
      calculate_expiry_payoff legs c + call_quantity legs * (spot_price - c) := by
  induction legs with
  | nil => simp [call_quantity]
  | cons leg legs ih =>
      rw [List.map_cons, List.forall_mem_cons] at beyond
      rw [payoff_cons, payoff_cons, ih beyond.2, call_quantity_cons, leg.pnl_eq, leg.pnl_eq,
        intrinsic_beyond beyond.1 above]
      split <;> ring

theorem payoff_ray (legs : List StrategyLeg) (spot_price : ℚ)
    (above : last_strike legs ≤ spot_price) :
    calculate_expiry_payoff legs spot_price =
      calculate_expiry_payoff legs (last_strike legs) +
        call_quantity legs * (spot_price - last_strike legs) :=
  payoff_beyond le_last_strike above

/-! ## Its bounds -/

/-- The payoffs of all spot prices. -/
def payoffs (legs : List StrategyLeg) : Set ℚ :=
  calculate_expiry_payoff legs '' Set.Ici 0

/-- Where the payoff may be extreme: at 0 and at the strikes above it. -/
def turning_points (legs : List StrategyLeg) : List ℚ :=
  0 :: (legs.map (·.strike)).filter (0 < ·)

theorem last_strike_turns (legs : List StrategyLeg) :
    last_strike legs ∈ turning_points legs := by
  rcases last_strike_cases legs with zero | strike
  · rw [zero]
    exact List.mem_cons_self
  · rcases (last_strike_nonneg legs).eq_or_lt with zero | positive
    · rw [← zero]
      exact List.mem_cons_self
    · exact List.mem_cons_of_mem _ (List.mem_filter.mpr ⟨strike, decide_eq_true positive⟩)

theorem turning_points_nonneg {legs : List StrategyLeg} :
    ∀ point ∈ turning_points legs, 0 ≤ point := by
  rw [turning_points, List.forall_mem_cons]
  refine ⟨le_rfl, ?_⟩
  intro point member
  exact (of_decide_eq_true (List.mem_filter.mp member).2).le

/-- Without calls held, what bounds the payoff at the turning points bounds it. -/
theorem payoff_le {legs : List StrategyLeg} {bound : ℚ} (short : call_quantity legs ≤ 0)
    (turns : ∀ point ∈ turning_points legs, calculate_expiry_payoff legs point ≤ bound)
    {spot_price : ℚ} (positive : 0 ≤ spot_price) :
    calculate_expiry_payoff legs spot_price ≤ bound := by
  apply (knotted_payoff legs).le_of_ray (payoff_ray legs) short
    (turns 0 List.mem_cons_self) ?_ (turns _ (last_strike_turns legs)) positive
  intro k member nonneg
  rcases nonneg.eq_or_lt with rfl | above
  · exact turns _ List.mem_cons_self
  · exact turns k (List.mem_cons_of_mem _ (List.mem_filter.mpr
      ⟨member, decide_eq_true above⟩))

/-- The strategy with every leg on the other side. -/
def reverse (legs : List StrategyLeg) : List StrategyLeg :=
  legs.map (fun leg => { leg with qty := -leg.qty })

theorem payoff_reverse (legs : List StrategyLeg) (spot_price : ℚ) :
    calculate_expiry_payoff (reverse legs) spot_price =
      -calculate_expiry_payoff legs spot_price := by
  induction legs with
  | nil => simp [reverse]
  | cons leg legs ih =>
      rw [reverse, List.map_cons, payoff_cons, ← reverse, ih, payoff_cons,
        StrategyLeg.pnl_eq, StrategyLeg.pnl_eq]
      simp only [StrategyLeg.multiplier, Int.cast_neg]
      ring

theorem call_quantity_reverse (legs : List StrategyLeg) :
    call_quantity (reverse legs) = -call_quantity legs := by
  induction legs with
  | nil => simp [reverse, call_quantity]
  | cons leg legs ih =>
      rw [reverse, List.map_cons, call_quantity_cons, ← reverse, ih, call_quantity_cons]
      simp only [StrategyLeg.multiplier, Int.cast_neg]
      split <;> ring

theorem turning_points_reverse (legs : List StrategyLeg) :
    turning_points (reverse legs) = turning_points legs := by
  simp [turning_points, reverse, Function.comp_def]

theorem le_payoff {legs : List StrategyLeg} {bound : ℚ} (long : 0 ≤ call_quantity legs)
    (turns : ∀ point ∈ turning_points legs, bound ≤ calculate_expiry_payoff legs point)
    {spot_price : ℚ} (positive : 0 ≤ spot_price) :
    bound ≤ calculate_expiry_payoff legs spot_price := by
  have reversed : calculate_expiry_payoff (reverse legs) spot_price ≤ -bound := by
    apply payoff_le ?_ ?_ positive
    · rwa [call_quantity_reverse, neg_nonpos]
    · intro point member
      rw [payoff_reverse]
      rw [turning_points_reverse] at member
      exact neg_le_neg (turns point member)
  rw [payoff_reverse] at reversed
  exact neg_le_neg_iff.mp reversed

/-- The payoff has no upper bound exactly when more calls are held than sold. -/
theorem bddAbove_payoffs_iff (legs : List StrategyLeg) :
    BddAbove (payoffs legs) ↔ call_quantity legs ≤ 0 := by
  constructor
  · rintro ⟨bound, above⟩
    by_contra held
    rw [not_le] at held
    -- far enough beyond the last strike the ray is above the bound
    let rise := (|bound| + |calculate_expiry_payoff legs (last_strike legs)| + 1) /
      call_quantity legs
    have far : 0 ≤ rise := by positivity
    have reached := above (Set.mem_image_of_mem _ (show 0 ≤ last_strike legs + rise from
      add_nonneg (last_strike_nonneg legs) far))
    rw [payoff_ray legs _ (le_add_of_nonneg_right far), add_sub_cancel_left,
      mul_div_cancel₀ _ held.ne'] at reached
    linarith [le_abs_self bound,
      neg_abs_le (calculate_expiry_payoff legs (last_strike legs))]
  · intro short
    refine ⟨((turning_points legs).map (calculate_expiry_payoff legs)).foldr max 0, ?_⟩
    rintro _ ⟨spot_price, positive, rfl⟩
    apply payoff_le short ?_ positive
    intro point member
    exact List.le_max_of_le' 0 (List.mem_map_of_mem member) le_rfl

theorem bddBelow_payoffs_iff (legs : List StrategyLeg) :
    BddBelow (payoffs legs) ↔ 0 ≤ call_quantity legs := by
  rw [← neg_nonpos, ← call_quantity_reverse, ← bddAbove_payoffs_iff]
  constructor
  · rintro ⟨bound, below⟩
    refine ⟨-bound, ?_⟩
    rintro _ ⟨spot_price, positive, rfl⟩
    rw [payoff_reverse]
    exact neg_le_neg (below (Set.mem_image_of_mem _ positive))
  · rintro ⟨bound, above⟩
    refine ⟨-bound, ?_⟩
    rintro _ ⟨spot_price, positive, rfl⟩
    have reached := above (Set.mem_image_of_mem _ positive)
    rw [payoff_reverse] at reached
    exact neg_le.mp reached

/-- One option of a strike, bought or sold at a price. -/
def option_leg (option_type : ChartOfAccuracy.OptionType) (action : Action)
    (strike entry_price : ℚ) : StrategyLeg where
  strike
  option_type
  action
  qty := 1
  entry_price
  iv := 15 / 100
  expiry := "2025-02-27"

/-- Close to the functions of `math` and `scipy.stats` near the money, a year before
expiry. -/
def near_functions : BlackScholes.Functions ℚ where
  exp x := 1 + x + x ^ 2 / 2
  log x := 2 * (x - 1) / (x + 1)
  sqrt x := (1 + x) / 2
  cdf x := 1 / 2 + 2 * x / (5 + 4 * |x|)
  pdf x := 2 / (5 + x ^ 2)
  pi := 355 / 113

end HftEngine.Backend.StrategySimulation
