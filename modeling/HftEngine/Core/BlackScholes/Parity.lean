import HftEngine.Core.BlackScholes.Agreement

/-!
# Put-call parity

A call less a put with the same data is the asset less the strike, both discounted, and
each Greek of the difference is that of these two.
-/

namespace HftEngine.BlackScholes

variable {α : Type} [Field α]

/-- The relations between a call and a put, with the discount factors of the dividends and
of the interest. -/
structure Parity (model : BlackScholesModel α) (S K T exp_qt exp_rt : α)
    (call put : Values α) : Prop where
  price : call.theoretical_price - put.theoretical_price = S * exp_qt - K * exp_rt
  delta : call.delta - put.delta = exp_qt
  gamma : call.gamma = put.gamma
  vega : call.vega = put.vega
  theta : call.theta - put.theta =
    (model.dividend_yield * S * exp_qt - model.risk_free_rate * K * exp_rt) / 365
  rho : call.rho - put.rho = K * T * exp_rt / 100

section Formulas

variable (functions : Functions α) (model : BlackScholesModel α) (S K T sigma : α)

/-- The values of the formulas before the price is cut at 0 and all are rounded. -/
def unrounded (option_type : OptionType) : Values α where
  theoretical_price := price functions model S K T sigma option_type
  delta := delta functions model S K T sigma option_type
  gamma := gamma functions model S K T sigma
  theta := theta functions model S K T sigma option_type
  vega := vega functions model S K T sigma
  rho := rho functions model S K T sigma option_type

theorem parity_unrounded (mirrored : ∀ x, functions.cdf x + functions.cdf (-x) = 1) :
    Parity model S K T (exp_qt functions model T) (exp_rt functions model T)
      (unrounded functions model S K T sigma .CE)
      (unrounded functions model S K T sigma .PE) := by
  have first := mirrored (d1 functions model S K T sigma)
  have second := mirrored (d2 functions model S K T sigma)
  constructor
  case price =>
    simp only [unrounded, price]
    linear_combination S * exp_qt functions model T * first -
      K * exp_rt functions model T * second
  case delta =>
    simp only [unrounded, delta]
    linear_combination exp_qt functions model T * first
  case gamma => rfl
  case vega => rfl
  case theta =>
    simp only [unrounded, theta]
    linear_combination model.dividend_yield * S * exp_qt functions model T / 365 * first -
      model.risk_free_rate * K * exp_rt functions model T / 365 * second
  case rho =>
    simp only [unrounded, rho]
    linear_combination K * T * exp_rt functions model T / 100 * second

end Formulas

/-! ## What is rounded -/

variable [LinearOrder α]

/-- Never negative. -/
def Values.clamped (values : Values α) : Values α :=
  { values with theoretical_price := max values.theoretical_price 0 }

variable [FloorRing α] (functions : Functions α)
  (model : BlackScholesModel α) {S K T sigma : α}

theorem calculate_greeks_unrounded (spot : 0 < S) (strike : 0 < K) (time : 0 < T)
    (volatile : 0 < sigma) (option_type : OptionType) :
    calculate_greeks functions model S K T sigma option_type =
      (unrounded functions model S K T sigma option_type).clamped.rounded :=
  calculate_greeks_eq spot strike time volatile option_type

theorem numpy_option_unrounded {option : OptionData α} (spot : 0 < S)
    (strike : 0 < option.strike) (time : 0 < T) (volatile : 0 < option.vol) :
    numpy_option functions model S T option =
      .set (unrounded functions model S option.strike T option.vol
        option.option_type).clamped.rounded := by
  have valid : option.valid = true := by simp [OptionData.valid, volatile, strike]
  have defined : ¬(T ≤ 0 ∨ S ≤ 0) := by simp [time, spot]
  rw [numpy_option, if_pos valid, if_neg defined]
  rfl

end HftEngine.BlackScholes
