import HftEngine.Lib.Python.Exact
import Mathlib.Tactic.Linarith
import Mathlib.Tactic.NormNum

/-!
# The advanced reversal point

`advanced_reversal_point` of the processor moves a strike by a share of its largest
shift.  The share stays within one before expiry; an expired contract has a factor for
the time that is beyond it.
-/

namespace HftEngine.AdvancedReversal

open Py.Exact

inductive InstrumentType where
  | IDX
  | STK
  deriving DecidableEq

variable {α : Type} [Field α] [LinearOrder α]

structure Arguments (α : Type) where
  K : α
  ce_delta : α
  pe_delta : α
  ce_gamma : α
  pe_gamma : α
  ce_vega : α
  pe_vega : α
  ce_theta : α
  pe_theta : α
  iv_chng : α
  T_days : ℤ
  curr_call_price : α
  curr_put_price : α
  call_price : α
  put_price : α
  S_chng : α
  instrument_type : InstrumentType
  current_iv : α

/-- What is returned, with the other entries of `all_data`. -/
structure ReversalPoint (α : Type) where
  reversal_point : α
  confidence_score : ℤ
  net_delta : α
  net_gamma : α
  net_vega : α
  net_theta : α
  scaled_adjustment : α
  pweight : α

namespace Arguments

variable (arguments : Arguments α)

def net_delta : α := arguments.ce_delta + arguments.pe_delta
def net_gamma : α := arguments.ce_gamma + arguments.pe_gamma
def net_vega : α := arguments.ce_vega + arguments.pe_vega
def net_theta : α := arguments.ce_theta + arguments.pe_theta

def raw_adjustment : α :=
  let total := |arguments.net_delta| + |arguments.net_gamma| + |arguments.net_vega| +
    |arguments.net_theta|
  let total_mag := if total = 0 then 1 else total
  let delta_contrib := |arguments.net_delta| / total_mag * arguments.net_delta
  let gamma_contrib :=
    |arguments.net_gamma| / total_mag * 0.5 * arguments.net_gamma * arguments.S_chng ^ 2
  let vega_contrib := |arguments.net_vega| / total_mag * arguments.net_vega * arguments.iv_chng
  let theta_contrib := |arguments.net_theta| / total_mag * arguments.net_theta
  delta_contrib + gamma_contrib + vega_contrib + theta_contrib

def time_sensitivity : α :=
  1 / (1 + 1 / (arguments.T_days + 1e-8))

def vol_sensitivity : α :=
  min 1.0 (arguments.current_iv / 30.0)

def max_dynamic_shift : α :=
  match arguments.instrument_type with
  | .IDX => min 150.0 (arguments.K * (arguments.current_iv / 100.0) * 0.03)
  | .STK => min 20.0 (arguments.K * (arguments.current_iv / 100.0) * 0.05)

def pweight : α :=
  arguments.curr_call_price - arguments.call_price +
    (arguments.curr_put_price - arguments.put_price)

/-- With a function in the place of `tanh`. -/
def scaled_adjustment (tanh : α → α) : α :=
  tanh (arguments.raw_adjustment / 5.0) * arguments.time_sensitivity *
    arguments.vol_sensitivity * arguments.max_dynamic_shift

end Arguments

def advanced_reversal_point [FloorRing α] (tanh : α → α) (arguments : Arguments α) :
    ReversalPoint α :=
  let mean_greek := (|arguments.net_delta| + |arguments.net_gamma| + |arguments.net_vega| +
    |arguments.net_theta|) / 4.0
  { reversal_point := roundTo 2
      (arguments.K + arguments.scaled_adjustment tanh + arguments.pweight)
    confidence_score := roundHalfEven (tanh (mean_greek / 2.0) * 100.0)
    net_delta := arguments.net_delta
    net_gamma := arguments.net_gamma
    net_vega := arguments.net_vega
    net_theta := arguments.net_theta
    scaled_adjustment := arguments.scaled_adjustment tanh
    pweight := arguments.pweight }

/-! ## The share of the largest shift -/

/-- The bound, for everything that the strike, the volatility, the instrument and the time
leave open. -/
def Bounded [FloorRing α] (K current_iv : α) (instrument_type : InstrumentType)
    (T_days : ℤ) : Prop :=
  ∀ (tanh : α → α) (arguments : Arguments α), (∀ x, |tanh x| ≤ 1) → arguments.K = K →
    arguments.current_iv = current_iv → arguments.instrument_type = instrument_type →
      arguments.T_days = T_days →
        |(advanced_reversal_point tanh arguments).reversal_point - (K + arguments.pweight)| ≤
          arguments.max_dynamic_shift + 1 / 200

variable [IsStrictOrderedRing α] {arguments : Arguments α}

omit [LinearOrder α] [IsStrictOrderedRing α] in
theorem one_div_one_add_one_div {t : α} (nonzero : t ≠ 0) : 1 / (1 + 1 / t) = t / (t + 1) := by
  rw [one_add_div nonzero, one_div_div]

/-- Days before the last one are further from 0 than the next ones. -/
theorem abs_succ_lt_abs {T_days : ℤ} (expired : T_days < 0) :
    |(T_days : α) + 1e-8 + 1| < |(T_days : α) + 1e-8| := by
  have last : (T_days : α) ≤ -1 := by exact_mod_cast Int.le_sub_one_of_lt expired
  have small : (1 : α) / 10 ^ 8 < 1 / 2 := by norm_num
  have negative : (T_days : α) + 1e-8 < 0 := by linarith
  rw [abs_of_neg negative, abs_lt]
  constructor <;> linarith

theorem days_ne_zero (T_days : ℤ) : (T_days : α) + 1e-8 ≠ 0 := by
  have positive : (0 : α) < 1e-8 := by positivity
  rcases lt_or_ge T_days 0 with expired | left
  · intro zero
    have further := abs_succ_lt_abs (α := α) expired
    rw [zero, abs_zero] at further
    exact (abs_nonneg _).not_gt further
  · have nonneg : (0 : α) ≤ T_days := by exact_mod_cast left
    linarith

theorem days_succ_ne_zero (T_days : ℤ) : (T_days : α) + 1e-8 + 1 ≠ 0 := by
  have next := days_ne_zero (α := α) (T_days + 1)
  push_cast at next
  intro zero
  apply next
  linarith

theorem abs_time_sensitivity (arguments : Arguments α) :
    |arguments.time_sensitivity| =
      |(arguments.T_days : α) + 1e-8| / |(arguments.T_days : α) + 1e-8 + 1| := by
  rw [Arguments.time_sensitivity, one_div_one_add_one_div (days_ne_zero _), abs_div]

theorem vol_sensitivity_eq (arguments : Arguments α) :
    arguments.vol_sensitivity = min 1 (arguments.current_iv / 30) := by
  norm_num [Arguments.vol_sensitivity]

theorem vol_sensitivity_nonneg (iv : 0 ≤ arguments.current_iv) :
    0 ≤ arguments.vol_sensitivity := by
  rw [vol_sensitivity_eq]
  exact le_min zero_le_one (div_nonneg iv (by norm_num))

/-- When the factors for the time and the volatility stay within one together. -/
theorem share_le_one_iff (arguments : Arguments α) :
    |arguments.time_sensitivity| * arguments.vol_sensitivity ≤ 1 ↔
      0 ≤ arguments.T_days ∨
        arguments.current_iv * |(arguments.T_days : α) + 1e-8| ≤
          30 * |(arguments.T_days : α) + 1e-8 + 1| := by
  have next_pos : 0 < |(arguments.T_days : α) + 1e-8 + 1| :=
    abs_pos.mpr (days_succ_ne_zero _)
  have at_most : arguments.vol_sensitivity ≤ 1 := by
    rw [vol_sensitivity_eq]
    exact min_le_left _ _
  rw [abs_time_sensitivity, div_mul_eq_mul_div, div_le_one next_pos]
  rcases lt_or_ge arguments.T_days 0 with expired | left
  · have further := abs_succ_lt_abs (α := α) expired
    rw [or_iff_right expired.not_ge]
    rcases le_or_gt 1 (arguments.current_iv / 30) with high | low
    · have whole : arguments.vol_sensitivity = 1 := by
        rw [vol_sensitivity_eq, min_eq_left high]
      have many : 30 ≤ arguments.current_iv := by linarith
      rw [whole, mul_one]
      constructor
      · intro within
        exact absurd within further.not_ge
      · intro within
        have scaled := mul_le_mul_of_nonneg_right many
          (abs_nonneg ((arguments.T_days : α) + 1e-8))
        linarith
    · have part : arguments.vol_sensitivity = arguments.current_iv / 30 := by
        rw [vol_sensitivity_eq, min_eq_right low.le]
      rw [part]
      constructor <;> intro within <;> linarith
  · have nonneg : (0 : α) ≤ arguments.T_days := by exact_mod_cast left
    have days_nonneg : 0 ≤ (arguments.T_days : α) + 1e-8 := by positivity
    rw [abs_of_nonneg days_nonneg, abs_of_nonneg (by positivity)]
    apply iff_of_true _ (Or.inl left)
    have scaled := mul_le_mul_of_nonneg_left at_most days_nonneg
    linarith

/-- A share of the strike, up to a limit. -/
theorem max_dynamic_shift_eq (arguments : Arguments α) :
    ∃ limit share : α, 0 < limit ∧ 0 < share ∧ arguments.max_dynamic_shift =
      min limit (arguments.K * (arguments.current_iv / 100.0) * share) := by
  unfold Arguments.max_dynamic_shift
  cases arguments.instrument_type with
  | IDX => exact ⟨150.0, 0.03, by norm_num, by norm_num, rfl⟩
  | STK => exact ⟨20.0, 0.05, by norm_num, by norm_num, rfl⟩

theorem max_dynamic_shift_nonneg (strike : 0 < arguments.K)
    (iv : 0 ≤ arguments.current_iv) : 0 ≤ arguments.max_dynamic_shift := by
  obtain ⟨limit, share, limit_pos, share_pos, shift⟩ := max_dynamic_shift_eq arguments
  rw [shift]
  exact le_min limit_pos.le (by positivity)

theorem max_dynamic_shift_pos (strike : 0 < arguments.K) (iv : 0 < arguments.current_iv) :
    0 < arguments.max_dynamic_shift := by
  obtain ⟨limit, share, limit_pos, share_pos, shift⟩ := max_dynamic_shift_eq arguments
  rw [shift]
  exact lt_min limit_pos (by positivity)

theorem abs_scaled_adjustment (tanh : α → α) (strike : 0 < arguments.K)
    (iv : 0 ≤ arguments.current_iv) :
    |arguments.scaled_adjustment tanh| =
      |tanh (arguments.raw_adjustment / 5.0)| *
        (|arguments.time_sensitivity| * arguments.vol_sensitivity) *
          arguments.max_dynamic_shift := by
  rw [Arguments.scaled_adjustment, abs_mul, abs_mul, abs_mul,
    abs_of_nonneg (vol_sensitivity_nonneg iv), abs_of_nonneg (max_dynamic_shift_nonneg strike iv)]
  ring

/-! ## The bound -/

variable [FloorRing α] {K current_iv : α} {instrument_type : InstrumentType} {T_days : ℤ}

omit [IsStrictOrderedRing α] in
theorem reversal_point_eq (tanh : α → α) (arguments : Arguments α) :
    (advanced_reversal_point tanh arguments).reversal_point =
      roundTo 2 (arguments.K + arguments.scaled_adjustment tanh + arguments.pweight) :=
  rfl

theorem bounded_of_days (strike : 0 < K) (iv : 0 ≤ current_iv)
    (days : 0 ≤ T_days ∨ current_iv * |(T_days : α) + 1e-8| ≤
      30 * |(T_days : α) + 1e-8 + 1|) :
    Bounded K current_iv instrument_type T_days := by
  rintro tanh arguments range rfl rfl rfl rfl
  have within := (share_le_one_iff arguments).mpr days
  have share_nonneg : 0 ≤ |arguments.time_sensitivity| * arguments.vol_sensitivity :=
    mul_nonneg (abs_nonneg _) (vol_sensitivity_nonneg iv)
  have shifted : |arguments.scaled_adjustment tanh| ≤ arguments.max_dynamic_shift := by
    rw [abs_scaled_adjustment tanh strike iv]
    exact mul_le_of_le_one_left (max_dynamic_shift_nonneg strike iv)
      (mul_le_one₀ (range _) share_nonneg within)
  have error := abs_roundTo_sub_le 2
    (arguments.K + arguments.scaled_adjustment tanh + arguments.pweight)
  rw [reversal_point_eq]
  rw [abs_le] at shifted error ⊢
  norm_num at error
  constructor <;> linarith

/-- Without Greeks, and with a price of the call. -/
def quoted (K current_iv : α) (instrument_type : InstrumentType) (T_days : ℤ) (call : α) :
    Arguments α where
  K := K
  ce_delta := 0
  pe_delta := 0
  ce_gamma := 0
  pe_gamma := 0
  ce_vega := 0
  pe_vega := 0
  ce_theta := 0
  pe_theta := 0
  iv_chng := 0
  T_days := T_days
  curr_call_price := call
  curr_put_price := 0
  call_price := 0
  put_price := 0
  S_chng := 1
  instrument_type := instrument_type
  current_iv := current_iv

omit [LinearOrder α] [FloorRing α] [IsStrictOrderedRing α] in
theorem pweight_quoted (call : α) :
    (quoted K current_iv instrument_type T_days call).pweight = call := by
  simp [Arguments.pweight, quoted]

/-- Halves of a hundredth, which are rounded up and down. -/
theorem roundTo_halves : roundTo 2 (3 / 200 : α) = 1 / 50 ∧ roundTo 2 (1 / 200 : α) = 0 := by
  have up : (3 / 200 : α) * 10 ^ 2 = 3 / 2 := by norm_num
  have down : (1 / 200 : α) * 10 ^ 2 = 1 / 2 := by norm_num
  have one : ⌊(3 / 2 : α)⌋ = 1 := by
    rw [Int.floor_eq_iff]
    norm_num
  have zero : ⌊(1 / 2 : α)⌋ = 0 := by
    rw [Int.floor_eq_iff]
    norm_num
  rw [roundTo, roundTo, up, down, roundHalfEven, roundHalfEven, one, zero]
  norm_num

/-- What is within the rounding at every price of the call is within the shift itself. -/
theorem abs_le_of_rounded {x shift : α}
    (near : ∀ call, |roundTo 2 (K + x + call) - (K + call)| ≤ shift + 1 / 200) :
    |x| ≤ shift := by
  rcases le_total 0 x with right | left
  · have price : K + x + (3 / 200 - K - x) = 3 / 200 := by ring
    have close := near (3 / 200 - K - x)
    rw [price, roundTo_halves.1, abs_le] at close
    rw [abs_of_nonneg right]
    linarith [close.2]
  · have price : K + x + (1 / 200 - K - x) = 1 / 200 := by ring
    have close := near (1 / 200 - K - x)
    rw [price, roundTo_halves.2, abs_le] at close
    rw [abs_of_nonpos left]
    linarith [close.1]

/-- Beyond one, the share leads further than the largest shift at some price. -/
theorem share_le_one_of_bounded (strike : 0 < K) (iv : 0 ≤ current_iv)
    (bounded : Bounded K current_iv instrument_type T_days) :
    let arguments := quoted K current_iv instrument_type T_days 0
    |arguments.time_sensitivity| * arguments.vol_sensitivity ≤ 1 := by
  intro arguments
  rcases iv.eq_or_lt with still | volatile
  · have nothing : arguments.vol_sensitivity = 0 := by
      simp [vol_sensitivity_eq, arguments, quoted, ← still]
    rw [nothing, mul_zero]
    exact zero_le_one
  · have within : |arguments.scaled_adjustment (fun _ => 1)| ≤ arguments.max_dynamic_shift := by
      apply abs_le_of_rounded (K := K)
      intro call
      have close := bounded (fun _ => 1) (quoted K current_iv instrument_type T_days call)
        (by simp) rfl rfl rfl rfl
      rwa [reversal_point_eq, pweight_quoted] at close
    have shift_pos : 0 < arguments.max_dynamic_shift := max_dynamic_shift_pos strike volatile
    rw [abs_scaled_adjustment _ strike iv, abs_one, one_mul] at within
    exact (mul_le_iff_le_one_left shift_pos).mp within

/-- The reversal point stays within the largest shift exactly before expiry, or with a
volatility that is low for the days since. -/
theorem reversal_point_bound_iff (strike : 0 < K) (iv : 0 ≤ current_iv) :
    Bounded K current_iv instrument_type T_days ↔
      0 ≤ T_days ∨ current_iv * |(T_days : α) + 1e-8| ≤
        30 * |(T_days : α) + 1e-8 + 1| := by
  constructor
  · intro bounded
    exact (share_le_one_iff (quoted K current_iv instrument_type T_days 0)).mp
      (share_le_one_of_bounded strike iv bounded)
  · exact bounded_of_days strike iv

/-- With three days left. -/
theorem reversal_point_bound_iff_three : Bounded (20000 : ℚ) 15 .IDX 3 ↔
    (0 : ℤ) ≤ 3 ∨ (15 : ℚ) * |((3 : ℤ) : ℚ) + 1e-8| ≤
      30 * |((3 : ℤ) : ℚ) + 1e-8 + 1| :=
  reversal_point_bound_iff (by norm_num) (by norm_num)

/-- A day after expiry. -/
theorem not_bounded_expired : ¬Bounded (20000 : ℚ) 15 .IDX (-1) := by
  intro bounded
  have within := (share_le_one_iff (quoted (20000 : ℚ) 15 .IDX (-1) 0)).mp
    (share_le_one_of_bounded (by norm_num) (by norm_num) bounded)
  norm_num [quoted] at within

end HftEngine.AdvancedReversal
