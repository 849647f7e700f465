import HftEngine.Core.BlackScholes.Agreement
import Mathlib.Analysis.SpecialFunctions.Log.Deriv
import Mathlib.Analysis.SpecialFunctions.Sqrt

/-!
# Greeks of higher order

`GreeksCalculator.calculate_all_greeks` has a closed form for each Greek.  Each of these
is the partial derivative that it is named after, but for `color`, in which a term has
the interest rate in the place of the dividend yield.
-/

namespace HftEngine.HigherGreeks

open BlackScholes (Functions analysis)
open Py.Exact

inductive OptionType where
  | call
  | put
  | CE
  | PE
  deriving DecidableEq

/-- `option_type.lower() in ["call", "ce"]` -/
def OptionType.is_call : OptionType → Bool
  | .call => true
  | .put => false
  | .CE => true
  | .PE => false

structure AdvancedGreeks (α : Type) [Zero α] where
  delta : α := 0
  gamma : α := 0
  theta : α := 0
  vega : α := 0
  rho : α := 0
  vanna : α := 0
  charm : α := 0
  speed : α := 0
  zomma : α := 0
  color : α := 0
  vomma : α := 0
  veta : α := 0
  ultima : α := 0

section Formulas

variable {α : Type} [Field α] (functions : Functions α) (r S K T sigma : α)

def d1 : α :=
  (functions.log (S / K) + (r + 1 / (2 : ℕ) * sigma ^ 2) * T) / (sigma * functions.sqrt T)

def d2 : α :=
  d1 functions r S K T sigma - sigma * functions.sqrt T

def pdf_d1 : α :=
  functions.pdf (d1 functions r S K T sigma)

def delta (is_call : Bool) : α :=
  let cdf_d1 := functions.cdf (d1 functions r S K T sigma)
  if is_call then cdf_d1 else cdf_d1 - 1

def theta (is_call : Bool) : α :=
  let d2 := d2 functions r S K T sigma
  let exp_rt := functions.exp (-r * T)
  let theta_term1 := -(S * pdf_d1 functions r S K T sigma * sigma) / ((2 : ℕ) * functions.sqrt T)
  let theta_term2 :=
    if is_call then -r * K * exp_rt * functions.cdf d2
    else r * K * exp_rt * functions.cdf (-d2)
  (theta_term1 + theta_term2) / (365 : ℕ)

def rho (is_call : Bool) : α :=
  let d2 := d2 functions r S K T sigma
  let exp_rt := functions.exp (-r * T)
  if is_call then K * T * exp_rt * functions.cdf d2 / (100 : ℕ)
  else -K * T * exp_rt * functions.cdf (-d2) / (100 : ℕ)

def vega : α :=
  S * pdf_d1 functions r S K T sigma * functions.sqrt T / (100 : ℕ)

def gamma : α :=
  pdf_d1 functions r S K T sigma / (S * sigma * functions.sqrt T)

def vanna : α :=
  -pdf_d1 functions r S K T sigma * d2 functions r S K T sigma / sigma

def charm : α :=
  -pdf_d1 functions r S K T sigma *
    ((2 : ℕ) * r * T - d2 functions r S K T sigma * sigma * functions.sqrt T) /
      ((2 : ℕ) * T * sigma * functions.sqrt T)

def speed : α :=
  -gamma functions r S K T sigma / S *
    (d1 functions r S K T sigma / (sigma * functions.sqrt T) + 1)

def zomma : α :=
  gamma functions r S K T sigma *
    (d1 functions r S K T sigma * d2 functions r S K T sigma - 1) / sigma

def color : α :=
  let d1 := d1 functions r S K T sigma
  let d2 := d2 functions r S K T sigma;
  -pdf_d1 functions r S K T sigma / ((2 : ℕ) * S * T * sigma * functions.sqrt T) *
    ((2 : ℕ) * r * T + 1 + ((2 : ℕ) * r * T - d2 * sigma * functions.sqrt T) * d1 /
      (sigma * functions.sqrt T))

def vomma : α :=
  vega functions r S K T sigma * d1 functions r S K T sigma * d2 functions r S K T sigma /
    sigma

def veta : α :=
  let d1 := d1 functions r S K T sigma
  let d2 := d2 functions r S K T sigma;
  -S * pdf_d1 functions r S K T sigma * functions.sqrt T *
    (r * d1 / (sigma * functions.sqrt T) - (1 + d1 * d2) / ((2 : ℕ) * T))

def ultima : α :=
  let d1 := d1 functions r S K T sigma
  let d2 := d2 functions r S K T sigma;
  -vega functions r S K T sigma / sigma ^ 2 *
    (d1 * d2 * (1 - d1 * d2) + d1 ^ 2 + d2 ^ 2)

/-- For a strike that is not positive an exception is raised, which is caught. -/
def calculate_all_greeks [LinearOrder α] [FloorRing α] (option_type : OptionType) :
    AdvancedGreeks α :=
  if T ≤ 0 ∨ sigma ≤ 0 ∨ S ≤ 0 then {}
  else if K ≤ 0 then {}
  else
    let is_call := option_type.is_call
    { delta := roundTo 5 (delta functions r S K T sigma is_call)
      gamma := roundTo 6 (gamma functions r S K T sigma)
      theta := roundTo 5 (theta functions r S K T sigma is_call)
      vega := roundTo 5 (vega functions r S K T sigma)
      rho := roundTo 5 (rho functions r S K T sigma is_call)
      vanna := roundTo 6 (vanna functions r S K T sigma)
      charm := roundTo 6 (charm functions r S K T sigma)
      speed := roundTo 6 (speed functions r S K T sigma)
      zomma := roundTo 6 (zomma functions r S K T sigma)
      color := roundTo 6 (color functions r S K T sigma)
      vomma := roundTo 6 (vomma functions r S K T sigma)
      veta := roundTo 6 (veta functions r S K T sigma)
      ultima := roundTo 6 (ultima functions r S K T sigma) }

end Formulas

/-! ## The derivatives of the two points -/

section Derivatives

variable (r S K T sigma : ℝ)

theorem hasDerivAt_sqrt {T : ℝ} (time : 0 < T) :
    HasDerivAt analysis.sqrt (analysis.sqrt T / (2 * T)) T := by
  have root : 0 < √T := Real.sqrt_pos.mpr time
  have square : √T ^ 2 = T := Real.sq_sqrt time.le
  apply (Real.hasDerivAt_sqrt time.ne').congr_deriv
  have same : analysis.sqrt T = √T := rfl
  rw [same]
  field_simp
  exact square.symm

theorem hasDerivAt_d1_spot (spot : 0 < S) (strike : 0 < K) :
    HasDerivAt (fun S => d1 analysis r S K T sigma) (1 / (S * sigma * analysis.sqrt T)) S := by
  have ratio : HasDerivAt (fun S => S / K) (1 / K) S := (hasDerivAt_id' S).div_const K
  have logarithm := ratio.log (div_pos spot strike).ne'
  apply ((logarithm.add_const _).div_const _).congr_deriv
  field_simp

theorem hasDerivAt_d1_volatility (time : 0 < T) (volatile : 0 < sigma) :
    HasDerivAt (fun sigma => d1 analysis r S K T sigma)
      (-d2 analysis r S K T sigma / sigma) sigma := by
  have root : 0 < analysis.sqrt T := Real.sqrt_pos.mpr time
  have square : analysis.sqrt T ^ 2 = T := Real.sq_sqrt time.le
  have numerator := ((((hasDerivAt_pow 2 sigma).const_mul (1 / 2)).const_add r).mul_const
    T).const_add (analysis.log (S / K))
  have denominator := (hasDerivAt_id' sigma).mul_const (analysis.sqrt T)
  apply (numerator.div denominator (mul_pos volatile root).ne').congr_deriv
  simp only [d2, d1]
  field_simp
  rw [square]
  ring

theorem hasDerivAt_d1_time (time : 0 < T) (volatile : 0 < sigma) :
    HasDerivAt (fun T => d1 analysis r S K T sigma)
      ((2 * r * T - d2 analysis r S K T sigma * sigma * analysis.sqrt T) /
        (2 * T * sigma * analysis.sqrt T)) T := by
  have root : 0 < analysis.sqrt T := Real.sqrt_pos.mpr time
  have square : analysis.sqrt T ^ 2 = T := Real.sq_sqrt time.le
  have numerator := ((hasDerivAt_id' T).const_mul (r + 1 / 2 * sigma ^ 2)).const_add
    (analysis.log (S / K))
  have denominator := (hasDerivAt_sqrt time).const_mul sigma
  apply (numerator.div denominator (mul_pos volatile root).ne').congr_deriv
  simp only [d2, d1]
  field_simp
  rw [square]
  ring

theorem hasDerivAt_d2_volatility (time : 0 < T) (volatile : 0 < sigma) :
    HasDerivAt (fun sigma => d2 analysis r S K T sigma)
      (-d1 analysis r S K T sigma / sigma) sigma := by
  have shift := (hasDerivAt_id' sigma).mul_const (analysis.sqrt T)
  apply ((hasDerivAt_d1_volatility r S K T sigma time volatile).sub shift).congr_deriv
  rw [d2]
  field_simp
  ring

/-- The density at the first point, along any of its arguments. -/
theorem hasDerivAt_pdf {point : ℝ → ℝ} {slope x : ℝ} (moved : HasDerivAt point slope x) :
    HasDerivAt (fun x => analysis.pdf (point x))
      (-point x * analysis.pdf (point x) * slope) x :=
  (Normal.hasDerivAt_density (point x)).comp x moved

theorem hasDerivAt_delta (is_call : Bool) {point : ℝ → ℝ} {slope x : ℝ}
    (moved : HasDerivAt point slope x) :
    HasDerivAt (fun x => if is_call then analysis.cdf (point x) else analysis.cdf (point x) - 1)
      (analysis.pdf (point x) * slope) x := by
  have distributed := (Normal.hasDerivAt_distribution (point x)).comp x moved
  cases is_call with
  | true => exact distributed
  | false => exact distributed.sub_const 1

end Derivatives

/-! ## The derivatives of the Greeks -/

section Greeks

variable (r S K T sigma : ℝ)

theorem hasDerivAt_vanna (is_call : Bool) (time : 0 < T) (volatile : 0 < sigma) :
    HasDerivAt (fun sigma => delta analysis r S K T sigma is_call)
      (vanna analysis r S K T sigma) sigma := by
  have moved := hasDerivAt_d1_volatility r S K T sigma time volatile
  apply (hasDerivAt_delta is_call moved).congr_deriv
  rw [vanna, pdf_d1]
  ring

theorem hasDerivAt_charm (is_call : Bool) (time : 0 < T) (volatile : 0 < sigma) :
    HasDerivAt (fun T => delta analysis r S K T sigma is_call)
      (-charm analysis r S K T sigma) T := by
  have moved := hasDerivAt_d1_time r S K T sigma time volatile
  apply (hasDerivAt_delta is_call moved).congr_deriv
  rw [charm, pdf_d1]
  ring

theorem hasDerivAt_vomma (time : 0 < T) (volatile : 0 < sigma) :
    HasDerivAt (fun sigma => vega analysis r S K T sigma)
      (vomma analysis r S K T sigma) sigma := by
  have density := hasDerivAt_pdf (hasDerivAt_d1_volatility r S K T sigma time volatile)
  apply (((density.const_mul S).mul_const (analysis.sqrt T)).div_const 100).congr_deriv
  rw [vomma, vega, pdf_d1]
  ring

theorem hasDerivAt_veta (time : 0 < T) (volatile : 0 < sigma) :
    HasDerivAt (fun T => 100 * vega analysis r S K T sigma)
      (veta analysis r S K T sigma) T := by
  have root : 0 < analysis.sqrt T := Real.sqrt_pos.mpr time
  have density := hasDerivAt_pdf (hasDerivAt_d1_time r S K T sigma time volatile)
  have product := ((density.const_mul S).mul (hasDerivAt_sqrt time)).div_const 100
  apply (product.const_mul 100).congr_deriv
  simp only [veta, pdf_d1]
  field_simp
  ring

theorem hasDerivAt_ultima (time : 0 < T) (volatile : 0 < sigma) :
    HasDerivAt (fun sigma => vomma analysis r S K T sigma)
      (ultima analysis r S K T sigma) sigma := by
  have first := hasDerivAt_d1_volatility r S K T sigma time volatile
  have second := hasDerivAt_d2_volatility r S K T sigma time volatile
  have product := ((hasDerivAt_vomma r S K T sigma time volatile).mul first).mul second
  apply (product.div (hasDerivAt_id' sigma) volatile.ne').congr_deriv
  simp only [ultima, vomma, Pi.mul_apply]
  field_simp
  ring

theorem hasDerivAt_speed (spot : 0 < S) (strike : 0 < K) (time : 0 < T)
    (volatile : 0 < sigma) :
    HasDerivAt (fun S => gamma analysis r S K T sigma) (speed analysis r S K T sigma) S := by
  have root : 0 < analysis.sqrt T := Real.sqrt_pos.mpr time
  have density := hasDerivAt_pdf (hasDerivAt_d1_spot r S K T sigma spot strike)
  have denominator := ((hasDerivAt_id' S).mul_const sigma).mul_const (analysis.sqrt T)
  apply (density.div denominator (by positivity)).congr_deriv
  rw [speed, gamma, pdf_d1]
  field_simp
  ring

theorem hasDerivAt_zomma (spot : 0 < S) (time : 0 < T) (volatile : 0 < sigma) :
    HasDerivAt (fun sigma => gamma analysis r S K T sigma)
      (zomma analysis r S K T sigma) sigma := by
  have root : 0 < analysis.sqrt T := Real.sqrt_pos.mpr time
  have density := hasDerivAt_pdf (hasDerivAt_d1_volatility r S K T sigma time volatile)
  have denominator := ((hasDerivAt_id' sigma).const_mul S).mul_const (analysis.sqrt T)
  apply (density.div denominator (by positivity)).congr_deriv
  rw [zomma, gamma, pdf_d1]
  field_simp

/-- Without the term that `color` has too much. -/
theorem hasDerivAt_gamma_time (spot : 0 < S) (time : 0 < T) (volatile : 0 < sigma) :
    HasDerivAt (fun T => gamma analysis r S K T sigma)
      (color analysis r S K T sigma + r * gamma analysis r S K T sigma) T := by
  have root : 0 < analysis.sqrt T := Real.sqrt_pos.mpr time
  have density := hasDerivAt_pdf (hasDerivAt_d1_time r S K T sigma time volatile)
  have denominator := (hasDerivAt_sqrt time).const_mul (S * sigma)
  apply (density.div denominator (by positivity)).congr_deriv
  simp only [color, gamma, pdf_d1]
  field_simp
  ring

theorem gamma_pos (spot : 0 < S) (time : 0 < T) (volatile : 0 < sigma) :
    0 < gamma analysis r S K T sigma := by
  have root : 0 < analysis.sqrt T := Real.sqrt_pos.mpr time
  exact div_pos (Normal.density_pos _) (by positivity)

end Greeks

/-! ## What the Greeks are named after -/

/-- Whether time runs away from expiry or towards it. -/
inductive Direction where
  | backward
  | forward
  deriving DecidableEq

def Direction.sign : Direction → ℝ
  | .backward => 1
  | .forward => -1

/-- The directions of time in `charm`, `color` and `veta`. -/
structure Directions where
  charm : Direction
  color : Direction
  veta : Direction

structure Named (directions : Directions) (r S K T sigma : ℝ) : Prop where
  vanna : ∀ is_call, HasDerivAt (fun sigma => delta analysis r S K T sigma is_call)
    (vanna analysis r S K T sigma) sigma
  vomma : HasDerivAt (fun sigma => vega analysis r S K T sigma)
    (vomma analysis r S K T sigma) sigma
  ultima : HasDerivAt (fun sigma => HigherGreeks.vomma analysis r S K T sigma)
    (ultima analysis r S K T sigma) sigma
  speed : HasDerivAt (fun S => gamma analysis r S K T sigma)
    (speed analysis r S K T sigma) S
  zomma : HasDerivAt (fun sigma => gamma analysis r S K T sigma)
    (zomma analysis r S K T sigma) sigma
  charm : ∀ is_call, HasDerivAt (fun T => delta analysis r S K T sigma is_call)
    (directions.charm.sign * charm analysis r S K T sigma) T
  color : HasDerivAt (fun T => gamma analysis r S K T sigma)
    (directions.color.sign * color analysis r S K T sigma) T
  veta : HasDerivAt (fun T => 100 * vega analysis r S K T sigma)
    (directions.veta.sign * veta analysis r S K T sigma) T

section Named

variable {r S K T sigma : ℝ}

theorem Named.color_eq {directions : Directions} (named : Named directions r S K T sigma)
    (spot : 0 < S) (time : 0 < T) (volatile : 0 < sigma) :
    directions.color.sign * HigherGreeks.color analysis r S K T sigma =
      HigherGreeks.color analysis r S K T sigma + r * gamma analysis r S K T sigma :=
  named.color.unique (hasDerivAt_gamma_time r S K T sigma spot time volatile)

/-- Where all signs are right, only `color` can fail. -/
theorem named_iff (spot : 0 < S) (strike : 0 < K) (time : 0 < T) (volatile : 0 < sigma) :
    Named ⟨.forward, .backward, .backward⟩ r S K T sigma ↔ r = 0 := by
  constructor
  · intro named
    have excess := named.color_eq spot time volatile
    rw [Direction.sign, one_mul, left_eq_add] at excess
    exact (mul_eq_zero.mp excess).resolve_right
      (gamma_pos r S K T sigma spot time volatile).ne'
  · rintro rfl
    have exact_color := hasDerivAt_gamma_time 0 S K T sigma spot time volatile
    rw [zero_mul, add_zero] at exact_color
    constructor
    case vanna => exact fun is_call => hasDerivAt_vanna 0 S K T sigma is_call time volatile
    case vomma => exact hasDerivAt_vomma 0 S K T sigma time volatile
    case ultima => exact hasDerivAt_ultima 0 S K T sigma time volatile
    case speed => exact hasDerivAt_speed 0 S K T sigma spot strike time volatile
    case zomma => exact hasDerivAt_zomma 0 S K T sigma spot time volatile
    case charm =>
      intro is_call
      rw [Direction.sign, neg_one_mul]
      exact hasDerivAt_charm 0 S K T sigma is_call time volatile
    case color =>
      rw [Direction.sign, one_mul]
      exact exact_color
    case veta =>
      rw [Direction.sign, one_mul]
      exact hasDerivAt_veta 0 S K T sigma time volatile

/-- With the first point at 0, the other sign of `color` leaves one rate for each time. -/
theorem rate_mul_time {directions : Directions} (direction : directions.color = .forward)
    (spot : 0 < S) (time : 0 < T) (volatile : 0 < sigma) (middle : d1 analysis r S K T sigma = 0)
    (named : Named directions r S K T sigma) : r * T = -1 := by
  have root : 0 < analysis.sqrt T := Real.sqrt_pos.mpr time
  have color_eq : HigherGreeks.color analysis r S K T sigma =
      -gamma analysis r S K T sigma * (2 * r * T + 1) / (2 * T) := by
    simp only [HigherGreeks.color, gamma, middle]
    field_simp
    ring
  have excess := named.color_eq spot time volatile
  rw [direction, Direction.sign, color_eq] at excess
  have positive := gamma_pos r S K T sigma spot time volatile
  field_simp at excess
  linarith

theorem d1_exp (r T : ℝ) : d1 analysis r (Real.exp (-(r + 1 / 2) * T)) 1 T 1 = 0 := by
  have logarithm : analysis.log (Real.exp (-(r + 1 / 2) * T) / 1) = -(r + 1 / 2) * T := by
    rw [div_one]
    exact Real.log_exp _
  rw [d1, logarithm]
  ring

/-- Whatever the signs are, the Greeks are not right with interest. -/
theorem rate_eq_zero {directions : Directions}
    (named : ∀ S K T sigma, 0 < S → 0 < K → 0 < T → 0 < sigma →
      Named directions r S K T sigma) : r = 0 := by
  cases direction : directions.color with
  | backward =>
      have excess := (named 1 1 1 1 one_pos one_pos one_pos one_pos).color_eq one_pos one_pos
        one_pos
      rw [direction, Direction.sign, one_mul, left_eq_add] at excess
      exact (mul_eq_zero.mp excess).resolve_right
        (gamma_pos r 1 1 1 1 one_pos one_pos one_pos).ne'
  | forward =>
      have fixed : ∀ T, 0 < T → r * T = -1 := by
        intro T time
        have spot := Real.exp_pos (-(r + 1 / 2) * T)
        exact rate_mul_time direction spot time one_pos (d1_exp r T)
          (named _ 1 T 1 spot one_pos time one_pos)
      linarith [fixed 1 one_pos, fixed 2 two_pos]

/-- The Greeks are the derivatives that they are named after exactly when the interest rate
is 0, at each point and with any fixed signs at all points. -/
theorem higher_greeks_iff (r : ℝ) :
    (∀ {S K T sigma : ℝ}, 0 < S → 0 < K → 0 < T → 0 < sigma →
      (Named ⟨.forward, .backward, .backward⟩ r S K T sigma ↔ r = 0)) ∧
    ((∃ directions, ∀ S K T sigma, 0 < S → 0 < K → 0 < T → 0 < sigma →
      Named directions r S K T sigma) ↔ r = 0) := by
  constructor
  · exact fun spot strike time volatile => named_iff spot strike time volatile
  · constructor
    · rintro ⟨directions, named⟩
      exact rate_eq_zero named
    · intro free
      refine ⟨⟨.forward, .backward, .backward⟩, ?_⟩
      intro S K T sigma spot strike time volatile
      exact (named_iff spot strike time volatile).mpr free

/-- With an interest rate of 10. -/
theorem not_named_tenth : ¬∃ directions, ∀ S K T sigma, 0 < S → 0 < K → 0 < T → 0 < sigma →
    Named directions (1 / 10) S K T sigma := by
  rintro ⟨directions, named⟩
  have free := rate_eq_zero named
  norm_num at free

end Named

end HftEngine.HigherGreeks
