import HftEngine.Lib.Python.Exact
import Mathlib.Analysis.SpecialFunctions.Artanh
import Mathlib.Tactic.Linarith
import Mathlib.Tactic.NormNum

/-!
# Reversal points

`ReversalService.advanced_reversal_point` weighs the effects of twelve Greeks and moves
the strike by what a bounded function makes of their total.
-/

namespace HftEngine.Backend

namespace Reversal

open Py.Exact

variable {α : Type} [Field α] [LinearOrder α]

/-- `math.tanh`, `math.sqrt(1 / 365)` and `x ** 1.5`. -/
structure Functions (α : Type) where
  tanh : α → α
  sqrt_day : α
  power : α → α

structure AdvancedGreeks (α : Type) where
  delta : α
  gamma : α
  vega : α
  theta : α
  rho : α
  vomma : α
  vanna : α
  charm : α
  speed : α
  zomma : α
  color : α
  ultima : α

structure Arguments (α : Type) where
  K : α
  spot_price : α
  T_days : α
  current_iv : α
  iv_chng : α
  ce_greeks : AdvancedGreeks α
  pe_greeks : AdvancedGreeks α
  curr_call_price : α
  curr_put_price : α
  call_theoretical : α
  put_theoretical : α
  S_chng : α
  time_chng : α
  gravity : α
  liquidity_ratio : α

/-! ## Liquidity and ticks -/

def calculate_liquidity_gravity (ce_oi pe_oi avg_ce_oi avg_pe_oi : α) : α × α :=
  let avg_oi_safe := max (avg_ce_oi + avg_pe_oi) 1 / 2.0
  let strike_oi := ce_oi + pe_oi
  let ratio := strike_oi / avg_oi_safe
  (ratio, min 0.4 (max 0 ((ratio - 1) * 0.1)))

def round_to_tick [FloorRing α] (price tick_size : α) : α :=
  roundTo 2 (roundHalfEven (price / tick_size) * tick_size)

/-! ## Features -/

structure ReversalFeatures (α : Type) where
  strike : α
  net_delta : α
  net_gamma : α
  net_vega : α
  net_vanna : α
  net_vomma : α
  net_charm : α
  net_color : α
  vanna_gamma : α
  vomma_vanna_ratio : α
  charm_color_sum : α
  speed_gamma_ratio : α
  composite_score : α

/-- The sums over the call and the put. -/
def net (ce_greeks pe_greeks : AdvancedGreeks α) : AdvancedGreeks α where
  delta := ce_greeks.delta + pe_greeks.delta
  gamma := ce_greeks.gamma + pe_greeks.gamma
  vega := ce_greeks.vega + pe_greeks.vega
  theta := ce_greeks.theta + pe_greeks.theta
  rho := ce_greeks.rho + pe_greeks.rho
  vomma := ce_greeks.vomma + pe_greeks.vomma
  vanna := ce_greeks.vanna + pe_greeks.vanna
  charm := ce_greeks.charm + pe_greeks.charm
  speed := ce_greeks.speed + pe_greeks.speed
  zomma := ce_greeks.zomma + pe_greeks.zomma
  color := ce_greeks.color + pe_greeks.color
  ultima := ce_greeks.ultima + pe_greeks.ultima

def compute_reversal_features (K : α) (ce_greeks pe_greeks : AdvancedGreeks α) :
    ReversalFeatures α :=
  let net := net ce_greeks pe_greeks
  { strike := K
    net_delta := net.delta
    net_gamma := net.gamma
    net_vega := net.vega
    net_vanna := net.vanna
    net_vomma := net.vomma
    net_charm := net.charm
    net_color := net.color
    vanna_gamma := net.vanna * net.gamma
    vomma_vanna_ratio := net.vomma / max |net.vanna| 1e-5
    charm_color_sum := |net.charm| + |net.color|
    speed_gamma_ratio := net.speed / max |net.gamma| 1e-5
    composite_score := 0.25 * |net.delta| + 0.30 * |net.gamma| + 0.20 * |net.vanna| +
      0.15 * |net.charm| + 0.10 * |net.vomma| }

/-! ## Weights -/

structure Weights (α : Type) where
  w1 : α
  w2 : α
  w3 : α
  volatility_multiplier : α

def weights (T_days : α) : Weights α :=
  if T_days ≤ 5.0 then ⟨0.4, 0.4, 0.2, 1.5⟩
  else if T_days ≤ 15.0 then ⟨0.5, 0.35, 0.15, 1.3⟩
  else if T_days ≤ 30.0 then ⟨0.6, 0.3, 0.1, 1.1⟩
  else ⟨0.7, 0.25, 0.05, 1.0⟩

structure Boosts (α : Type) where
  vega_boost : α
  vomma_boost : α
  ultima_boost : α

def boosts (current_iv : α) : Boosts α :=
  if 30.0 < current_iv then ⟨1.4, 1.6, 1.3⟩
  else if current_iv < 12.0 then ⟨0.8, 0.7, 0.6⟩
  else ⟨1.0, 1.0, 1.0⟩

/-! ## Effects -/

structure FirstOrder (α : Type) where
  delta : α
  gamma : α
  vega : α
  theta : α
  rho : α
  total : α

structure SecondOrder (α : Type) where
  vomma : α
  vanna : α
  charm : α
  total : α

structure ThirdOrder (α : Type) where
  speed : α
  zomma : α
  color : α
  ultima : α
  total : α

section Adjustment

variable (functions : Functions α) (arguments : Arguments α)

def first_order : FirstOrder α :=
  let net := net arguments.ce_greeks arguments.pe_greeks
  let delta_effect := net.delta * arguments.S_chng
  let gamma_effect := 0.5 * net.gamma * arguments.S_chng ^ 2
  let vega_effect := net.vega * arguments.iv_chng
  let theta_effect := net.theta * arguments.time_chng
  let rho_effect := net.rho * 0.001
  { delta := delta_effect
    gamma := gamma_effect
    vega := vega_effect
    theta := theta_effect
    rho := rho_effect
    total := delta_effect + gamma_effect +
      vega_effect * (boosts arguments.current_iv).vega_boost + theta_effect + rho_effect }

def second_order : SecondOrder α :=
  let net := net arguments.ce_greeks arguments.pe_greeks
  let vomma_effect := 0.5 * net.vomma * arguments.iv_chng ^ 2
  let vanna_effect := net.vanna * arguments.S_chng * arguments.iv_chng
  let charm_effect := net.charm * arguments.time_chng
  { vomma := vomma_effect
    vanna := vanna_effect
    charm := charm_effect
    total := (vomma_effect * (boosts arguments.current_iv).vomma_boost + vanna_effect +
      charm_effect) * (weights arguments.T_days).volatility_multiplier }

def third_order : ThirdOrder α :=
  let net := net arguments.ce_greeks arguments.pe_greeks
  let speed_effect := 1 / 6.0 * net.speed * arguments.S_chng ^ 3
  let zomma_effect := net.zomma * arguments.S_chng * arguments.iv_chng
  let color_effect := net.color * arguments.time_chng
  let ultima_effect := 1 / 6.0 * net.ultima * arguments.iv_chng ^ 3
  { speed := speed_effect
    zomma := zomma_effect
    color := color_effect
    ultima := ultima_effect
    total := (speed_effect + zomma_effect + color_effect +
      ultima_effect * (boosts arguments.current_iv).ultima_boost) *
        functions.power (weights arguments.T_days).volatility_multiplier }

/-- With the gravity. -/
def total_greek_adjustment : α :=
  let weights := weights arguments.T_days
  ((first_order arguments).total * weights.w1 + (second_order arguments).total * weights.w2 +
    (third_order functions arguments).total * weights.w3) * (1 - arguments.gravity)

def max_adjustment : α :=
  let implied_move_today :=
    arguments.spot_price * (arguments.current_iv / 100.0) * functions.sqrt_day
  let dynamic_max_adj := max 10.0 (implied_move_today * 3.0)
  min dynamic_max_adj (arguments.K * 0.02)

def bounded_adjustment : α :=
  let max_adjustment := max_adjustment functions arguments
  functions.tanh (total_greek_adjustment functions arguments / max max_adjustment 1) *
    max_adjustment

def higher_order_significance : α :=
  let net := net arguments.ce_greeks arguments.pe_greeks
  (|net.vomma| + |net.vanna| + |net.charm| + |net.speed| + |net.zomma| + |net.color| +
      |net.ultima|) /
    max (|net.delta| + |net.gamma| + |net.vega| + |net.theta|) 0.001

def final_confidence [FloorRing α] : ℤ :=
  let time_vol_confidence := min 100.0 (arguments.T_days * arguments.current_iv / 10.0)
  let base_confidence := 60.0 + min 30.0 (higher_order_significance arguments * 20.0)
  roundHalfEven (min 95.0 (base_confidence + time_vol_confidence * 0.1))

end Adjustment

/-! ## The reversal point -/

inductive VolatilityRegime where
  | high
  | low
  | normal
  deriving DecidableEq

inductive TimeRegime where
  | near_expiry
  | normal
  deriving DecidableEq

structure DebugData (α : Type) where
  reversal_point : α
  confidence_score : ℤ
  ratio : α
  gravity : α
  first_order : FirstOrder α
  second_order : SecondOrder α
  third_order : ThirdOrder α
  price_discrepancy : α
  volatility_regime : VolatilityRegime
  time_regime : TimeRegime
  max_adjustment_bound : α
  weights_applied : Weights α
  higher_order_significance : α
  reversal_features : ReversalFeatures α

structure Point (α : Type) where
  reversal_point : α
  final_confidence : ℤ
  debug_data : Option (DebugData α)

def advanced_reversal_point [FloorRing α] (functions : Functions α)
    (arguments : Arguments α) : Point α :=
  if arguments.T_days ≤ 0 then ⟨arguments.K, 0, none⟩
  else
    let reversal_point :=
      round_to_tick (arguments.K + bounded_adjustment functions arguments) 0.05
    let final_confidence := final_confidence arguments
    { reversal_point
      final_confidence
      debug_data := some
        { reversal_point
          confidence_score := final_confidence
          ratio := arguments.liquidity_ratio
          gravity := arguments.gravity
          first_order := first_order arguments
          second_order := second_order arguments
          third_order := third_order functions arguments
          price_discrepancy := arguments.curr_call_price - arguments.call_theoretical +
            (arguments.curr_put_price - arguments.put_theoretical)
          volatility_regime :=
            if 30.0 < arguments.current_iv then .high
            else if arguments.current_iv < 12.0 then .low
            else .normal
          time_regime := if arguments.T_days ≤ 5.0 then .near_expiry else .normal
          max_adjustment_bound := max_adjustment functions arguments
          weights_applied := weights arguments.T_days
          higher_order_significance := higher_order_significance arguments
          reversal_features := compute_reversal_features arguments.K arguments.ce_greeks
            arguments.pe_greeks } }

/-! ## Bounds -/

section Ticks

variable [IsStrictOrderedRing α] [FloorRing α]

/-- A multiple of the tick has no more than two places. -/
theorem round_to_tick_eq (price : α) :
    round_to_tick price 0.05 = roundHalfEven (price * 20) / 20 := by
  have ticks : price / 0.05 = price * 20 := by ring
  have tick : (roundHalfEven (price * 20) : α) * 0.05 = roundHalfEven (price * 20) / 20 := by
    ring
  rw [round_to_tick, ticks, tick]
  apply roundTo_of_scaled (n := roundHalfEven (price * 20) * 5)
  push_cast
  ring

theorem round_to_tick_mono {low high : α} (le : low ≤ high) :
    round_to_tick low 0.05 ≤ round_to_tick high 0.05 := by
  have scaled : low * 20 ≤ high * 20 := by linarith
  rw [round_to_tick_eq, round_to_tick_eq]
  apply div_le_div_of_nonneg_right _ (by norm_num)
  exact_mod_cast roundHalfEven_mono scaled

theorem abs_round_to_tick_sub_le (price : α) :
    |round_to_tick price 0.05 - price| ≤ 1 / 40 := by
  have error := abs_roundHalfEven_sub_le (price * 20)
  rw [round_to_tick_eq]
  rw [abs_le] at error ⊢
  constructor <;> linarith

end Ticks

section Bounds

variable [IsStrictOrderedRing α]

theorem gravity_bounds (ce_oi pe_oi avg_ce_oi avg_pe_oi : α) :
    0 ≤ (calculate_liquidity_gravity ce_oi pe_oi avg_ce_oi avg_pe_oi).2 ∧
      (calculate_liquidity_gravity ce_oi pe_oi avg_ce_oi avg_pe_oi).2 ≤ 0.4 := by
  constructor
  · exact le_min (by norm_num) (le_max_left _ _)
  · exact min_le_left _ _

theorem gravity_mono {ce_oi pe_oi ce_oi' pe_oi' : α} (more : ce_oi + pe_oi ≤ ce_oi' + pe_oi')
    (avg_ce_oi avg_pe_oi : α) :
    (calculate_liquidity_gravity ce_oi pe_oi avg_ce_oi avg_pe_oi).2 ≤
      (calculate_liquidity_gravity ce_oi' pe_oi' avg_ce_oi avg_pe_oi).2 := by
  have average : 0 < max (avg_ce_oi + avg_pe_oi) 1 / 2 :=
    div_pos (one_pos.trans_le (le_max_right _ _)) two_pos
  have ratio := div_le_div_of_nonneg_right more average.le
  simp only [calculate_liquidity_gravity]
  gcongr

variable {arguments : Arguments α}

theorem max_adjustment_nonneg (functions : Functions α) (strike : 0 ≤ arguments.K) :
    0 ≤ max_adjustment functions arguments :=
  le_min (by positivity) (by positivity)

variable {functions : Functions α}

theorem abs_bounded_adjustment_le (range : ∀ x, |functions.tanh x| ≤ 1)
    (strike : 0 ≤ arguments.K) :
    |bounded_adjustment functions arguments| ≤ max_adjustment functions arguments := by
  have nonneg := max_adjustment_nonneg functions strike
  rw [bounded_adjustment, abs_mul, abs_of_nonneg nonneg]
  exact mul_le_of_le_one_left nonneg (range _)

theorem bounded_adjustment_nonneg (increasing : Monotone functions.tanh)
    (middle : functions.tanh 0 = 0) (strike : 0 ≤ arguments.K)
    (total : 0 ≤ total_greek_adjustment functions arguments) :
    0 ≤ bounded_adjustment functions arguments := by
  have scaled : 0 ≤ total_greek_adjustment functions arguments /
      max (max_adjustment functions arguments) 1 :=
    div_nonneg total (zero_le_one.trans (le_max_right _ _))
  have share := increasing scaled
  rw [middle] at share
  exact mul_nonneg share (max_adjustment_nonneg functions strike)

theorem bounded_adjustment_nonpos (increasing : Monotone functions.tanh)
    (middle : functions.tanh 0 = 0) (strike : 0 ≤ arguments.K)
    (total : total_greek_adjustment functions arguments ≤ 0) :
    bounded_adjustment functions arguments ≤ 0 := by
  have scaled : total_greek_adjustment functions arguments /
      max (max_adjustment functions arguments) 1 ≤ 0 :=
    div_nonpos_of_nonpos_of_nonneg total (zero_le_one.trans (le_max_right _ _))
  have share := increasing scaled
  rw [middle] at share
  exact mul_nonpos_of_nonpos_of_nonneg share (max_adjustment_nonneg functions strike)

theorem higher_order_significance_nonneg (arguments : Arguments α) :
    0 ≤ higher_order_significance arguments :=
  div_nonneg (by positivity) (le_max_of_le_right (by norm_num))

variable [FloorRing α]

theorem final_confidence_bounds (days : 0 < arguments.T_days)
    (iv : 0 ≤ arguments.current_iv) :
    60 ≤ final_confidence arguments ∧ final_confidence arguments ≤ 95 := by
  have significance := higher_order_significance_nonneg arguments
  have base : 0 ≤ min 30.0 (higher_order_significance arguments * 20.0) :=
    le_min (by norm_num) (by positivity)
  have time_vol : 0 ≤ min 100.0 (arguments.T_days * arguments.current_iv / 10.0) :=
    le_min (by norm_num) (by positivity)
  constructor
  · apply le_roundHalfEven
    push_cast
    apply le_min
    · norm_num
    · linarith
  · apply roundHalfEven_le
    apply min_le_of_left_le
    norm_num

/-- What the reversal point and the confidence of a call keep to. -/
structure Within (functions : Functions α) (arguments : Arguments α)
    (point : Point α) : Prop where
  distance : |point.reversal_point - arguments.K| ≤
    min (max 10 (3 * arguments.spot_price * (arguments.current_iv / 100) * functions.sqrt_day))
      (0.02 * arguments.K) + 1 / 40
  above : 0 ≤ total_greek_adjustment functions arguments →
    round_to_tick arguments.K 0.05 ≤ point.reversal_point
  below : total_greek_adjustment functions arguments ≤ 0 →
    point.reversal_point ≤ round_to_tick arguments.K 0.05
  confidence : 60 ≤ point.final_confidence ∧ point.final_confidence ≤ 95

omit [IsStrictOrderedRing α] in
theorem reversal_point_eq (days : 0 < arguments.T_days) :
    (advanced_reversal_point functions arguments).reversal_point =
      round_to_tick (arguments.K + bounded_adjustment functions arguments) 0.05 := by
  rw [advanced_reversal_point, if_neg days.not_ge]

theorem within (middle : functions.tanh 0 = 0) (increasing : Monotone functions.tanh)
    (range : ∀ x, |functions.tanh x| ≤ 1) (strike : 0 ≤ arguments.K)
    (days : 0 < arguments.T_days) (iv : 0 ≤ arguments.current_iv) :
    Within functions arguments (advanced_reversal_point functions arguments) := by
  constructor
  case distance =>
    have limit : max_adjustment functions arguments =
        min (max 10 (3 * arguments.spot_price * (arguments.current_iv / 100) *
          functions.sqrt_day)) (0.02 * arguments.K) := by
      rw [max_adjustment, mul_comm arguments.K]
      norm_num
      congr 2
      ring
    have moved := abs_bounded_adjustment_le range strike
    have error := abs_round_to_tick_sub_le
      (arguments.K + bounded_adjustment functions arguments)
    rw [reversal_point_eq days, ← limit]
    rw [abs_le] at moved error ⊢
    constructor <;> linarith
  case above =>
    intro total
    rw [reversal_point_eq days]
    exact round_to_tick_mono (le_add_of_nonneg_right
      (bounded_adjustment_nonneg increasing middle strike total))
  case below =>
    intro total
    rw [reversal_point_eq days]
    exact round_to_tick_mono (add_le_of_nonpos_right
      (bounded_adjustment_nonpos increasing middle strike total))
  case confidence =>
    rw [advanced_reversal_point, if_neg days.not_ge]
    exact final_confidence_bounds days iv

/-- Whatever odd, increasing function with values up to 1 stands for `tanh`, the reversal
point stays near the strike, on the side of the total, and the gravity grows with the open
interest. -/
theorem advanced_reversal_point_within (odd : ∀ x, functions.tanh (-x) = -functions.tanh x)
    (increasing : Monotone functions.tanh) (range : ∀ x, |functions.tanh x| ≤ 1)
    (strike : 0 ≤ arguments.K) (days : 0 < arguments.T_days)
    (iv : 0 ≤ arguments.current_iv) :
    Within functions arguments (advanced_reversal_point functions arguments) ∧
      ∀ ce_oi pe_oi avg_ce_oi avg_pe_oi : α,
        let gravity := fun ce_oi pe_oi =>
          (calculate_liquidity_gravity ce_oi pe_oi avg_ce_oi avg_pe_oi).2
        0 ≤ gravity ce_oi pe_oi ∧ gravity ce_oi pe_oi ≤ 0.4 ∧
          ∀ ce_oi' pe_oi', ce_oi + pe_oi ≤ ce_oi' + pe_oi' →
            gravity ce_oi pe_oi ≤ gravity ce_oi' pe_oi' := by
  have middle : functions.tanh 0 = 0 := by
    have mirrored := odd 0
    rw [neg_zero] at mirrored
    linarith
  constructor
  · exact within middle increasing range strike days iv
  · intro ce_oi pe_oi avg_ce_oi avg_pe_oi
    exact ⟨(gravity_bounds ce_oi pe_oi avg_ce_oi avg_pe_oi).1,
      (gravity_bounds ce_oi pe_oi avg_ce_oi avg_pe_oi).2,
      fun ce_oi' pe_oi' more => gravity_mono more avg_ce_oi avg_pe_oi⟩

end Bounds

/-! ## The functions of analysis -/

noncomputable def analysis : Functions ℝ where
  tanh := Real.tanh
  sqrt_day := √(1 / (365 : ℕ))
  power := fun x => x * √x

theorem monotone_tanh : Monotone Real.tanh := by
  intro x y le
  have within : ∀ x, Real.tanh x ∈ Set.Ioo (-1) 1 :=
    fun x => ⟨Real.neg_one_lt_tanh x, Real.tanh_lt_one x⟩
  rwa [← Real.artanh_le_artanh_iff (within x) (within y), Real.artanh_tanh, Real.artanh_tanh]

def weekly : Arguments ℝ where
  K := (20000 : ℕ)
  spot_price := (20100 : ℕ)
  T_days := (3 : ℕ)
  current_iv := (15 : ℕ)
  iv_chng := (1 : ℕ)
  ce_greeks := ⟨1, 0, 1, -1, 1, 0, 0, 0, 0, 0, 0, 0⟩
  pe_greeks := ⟨0, 0, 1, -1, -1, 0, 0, 0, 0, 0, 0, 0⟩
  curr_call_price := (150 : ℕ)
  curr_put_price := (40 : ℕ)
  call_theoretical := (140 : ℕ)
  put_theoretical := (45 : ℕ)
  S_chng := (1 : ℕ)
  time_chng := (0 : ℕ)
  gravity := (0 : ℕ)
  liquidity_ratio := (1 : ℕ)

theorem advanced_reversal_point_weekly :
    Within analysis weekly (advanced_reversal_point analysis weekly) := by
  have range : ∀ x, |analysis.tanh x| ≤ 1 := fun x => (Real.abs_tanh_lt_one x).le
  exact (advanced_reversal_point_within Real.tanh_neg monotone_tanh range
    (by norm_num [weekly]) (by norm_num [weekly]) (by norm_num [weekly])).1

end Reversal

end HftEngine.Backend
