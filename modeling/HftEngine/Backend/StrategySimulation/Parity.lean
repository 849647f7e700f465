import HftEngine.Backend.StrategySimulation
import HftEngine.Core.BlackScholes.Parity

/-!
# Put-call parity in the simulation

The simulation has its own formulas, without dividends.  Its calls and puts keep the
relations that those of the model keep.
-/

namespace HftEngine.Backend

namespace StrategySimulation

open BlackScholes (Functions BlackScholesModel Parity Values unrounded)
open ChartOfAccuracy (OptionType)
open Py.Exact

section Formulas

variable {α : Type} [Field α] (functions : Functions α)
  (spot strike time_to_expiry volatility risk_free_rate : α)

def d1 : α :=
  (functions.log (spot / strike) +
    (risk_free_rate + 1 / (2 : ℕ) * volatility ^ 2) * time_to_expiry) /
      (volatility * functions.sqrt time_to_expiry)

def d2 : α :=
  d1 functions spot strike time_to_expiry volatility risk_free_rate -
    volatility * functions.sqrt time_to_expiry

/-- The price before it is cut at 0 and the Greeks before they are rounded. -/
def simulated (option_type : OptionType) : Values α :=
  let d1 := d1 functions spot strike time_to_expiry volatility risk_free_rate
  let d2 := d2 functions spot strike time_to_expiry volatility risk_free_rate
  let sqrt_t := functions.sqrt time_to_expiry
  let discount := functions.exp (-risk_free_rate * time_to_expiry)
  let first_term := -spot * functions.pdf d1 * volatility / ((2 : ℕ) * sqrt_t)
  let gamma := functions.pdf d1 / (spot * volatility * sqrt_t)
  let vega := spot * functions.pdf d1 * sqrt_t / (100 : ℕ)
  match option_type with
  | .CE =>
      { theoretical_price := spot * functions.cdf d1 - strike * discount * functions.cdf d2
        delta := functions.cdf d1
        gamma
        vega
        theta :=
          (first_term - risk_free_rate * strike * discount * functions.cdf d2) / (365 : ℕ)
        rho := strike * time_to_expiry * discount * functions.cdf d2 / (100 : ℕ) }
  | .PE =>
      { theoretical_price :=
          strike * discount * functions.cdf (-d2) - spot * functions.cdf (-d1)
        delta := -functions.cdf (-d1)
        gamma
        vega
        theta :=
          (first_term + risk_free_rate * strike * discount * functions.cdf (-d2)) / (365 : ℕ)
        rho := -strike * time_to_expiry * discount * functions.cdf (-d2) / (100 : ℕ) }

theorem parity_simulated (mirrored : ∀ x, functions.cdf x + functions.cdf (-x) = 1) :
    Parity ⟨risk_free_rate, 0⟩ spot strike time_to_expiry 1
      (functions.exp (-risk_free_rate * time_to_expiry))
      (simulated functions spot strike time_to_expiry volatility risk_free_rate .CE)
      (simulated functions spot strike time_to_expiry volatility risk_free_rate .PE) := by
  have first := mirrored (d1 functions spot strike time_to_expiry volatility risk_free_rate)
  have second := mirrored (d2 functions spot strike time_to_expiry volatility risk_free_rate)
  generalize discounted : functions.exp (-risk_free_rate * time_to_expiry) = discount
  constructor
  case price =>
    simp only [simulated, discounted]
    linear_combination spot * first - strike * discount * second
  case delta =>
    simp only [simulated]
    linear_combination first
  case gamma => rfl
  case vega => rfl
  case theta =>
    simp only [simulated, discounted]
    linear_combination -risk_free_rate * strike * discount / 365 * second
  case rho =>
    simp only [simulated, discounted]
    linear_combination strike * time_to_expiry * discount / 100 * second

end Formulas

/-! ## The service -/

section Service

variable {Date : Type} (service : Service Date)
  {spot strike time_to_expiry volatility : ℚ} (risk_free_rate : ℚ)

def rounded (values : Values ℚ) : Greeks where
  delta := roundTo 4 values.delta
  gamma := roundTo 6 values.gamma
  theta := roundTo 4 values.theta
  vega := roundTo 4 values.vega
  rho := roundTo 4 values.rho

theorem calculate_d1_d2_eq (spot_pos : 0 < spot) (strike_pos : 0 < strike)
    (time : 0 < time_to_expiry) (volatile : 0 < volatility) :
    calculate_d1_d2 service spot strike time_to_expiry volatility risk_free_rate =
      some (d1 service.functions spot strike time_to_expiry volatility risk_free_rate,
        d2 service.functions spot strike time_to_expiry volatility risk_free_rate) := by
  have positive : ¬spot / strike ≤ 0 := not_le.mpr (div_pos spot_pos strike_pos)
  rw [calculate_d1_d2, if_neg time.not_ge, if_neg volatile.not_ge]
  simp only [if_neg positive]
  rfl

/-- The service cuts and rounds what the formulas give. -/
def Computed (service : Service Date) (spot strike time_to_expiry volatility
    risk_free_rate : ℚ) (option_type : OptionType) : Prop :=
  let values := simulated service.functions spot strike time_to_expiry volatility
    risk_free_rate option_type
  black_scholes_price service spot strike time_to_expiry volatility risk_free_rate
      option_type = some (max 0 values.theoretical_price) ∧
    calculate_greeks service spot strike time_to_expiry volatility risk_free_rate
      option_type = some (rounded values)

theorem computed (spot_pos : 0 < spot) (strike_pos : 0 < strike) (time : 0 < time_to_expiry)
    (volatile : 0 < volatility) (option_type : OptionType) :
    Computed service spot strike time_to_expiry volatility risk_free_rate option_type := by
  have points :=
    calculate_d1_d2_eq service risk_free_rate spot_pos strike_pos time volatile
  constructor
  · rw [black_scholes_price, if_neg time.not_ge, points]
    cases option_type with
    | CE => rfl
    | PE => rfl
  · rw [calculate_greeks, if_neg time.not_ge, points]
    cases option_type with
    | CE => rfl
    | PE => rfl

end Service

/-! ## The model and the service -/

section Parity

variable {α : Type} [Field α] [LinearOrder α] [FloorRing α] {functions : Functions α}

/-- Put-call parity of the price and of each Greek, in the scalar functions and the NumPy
branch of the model and in the service. -/
theorem put_call_parity (mirrored : ∀ x, functions.cdf x + functions.cdf (-x) = 1)
    (model : BlackScholesModel α) {S K T sigma : α} (spot : 0 < S) (strike : 0 < K)
    (time : 0 < T) (volatile : 0 < sigma) :
    (∀ option_type, BlackScholes.calculate_greeks functions model S K T sigma option_type =
      (unrounded functions model S K T sigma option_type).clamped.rounded) ∧
    (∀ option : BlackScholes.OptionData α, option.strike = K → option.vol = sigma →
      BlackScholes.numpy_option functions model S T option =
        .set (unrounded functions model S K T sigma option.option_type).clamped.rounded) ∧
    Parity model S K T (functions.exp (-model.dividend_yield * T))
      (functions.exp (-model.risk_free_rate * T))
      (unrounded functions model S K T sigma .CE)
      (unrounded functions model S K T sigma .PE) ∧
    (∀ {Date : Type} (service : Service Date) (spot strike time_to_expiry volatility
        risk_free_rate : ℚ) (option_type : OptionType), 0 < spot → 0 < strike →
      0 < time_to_expiry → 0 < volatility →
        Computed service spot strike time_to_expiry volatility risk_free_rate option_type) ∧
    Parity ⟨model.risk_free_rate, 0⟩ S K T 1 (functions.exp (-model.risk_free_rate * T))
      (simulated functions S K T sigma model.risk_free_rate .CE)
      (simulated functions S K T sigma model.risk_free_rate .PE) := by
  refine ⟨?_, ?_, ?_, ?_, ?_⟩
  · exact BlackScholes.calculate_greeks_unrounded functions model spot strike time volatile
  · rintro option rfl rfl
    exact BlackScholes.numpy_option_unrounded functions model spot strike time volatile
  · exact BlackScholes.parity_unrounded functions model S K T sigma mirrored
  · intro Date service spot strike time_to_expiry volatility risk_free_rate option_type
      spot_pos strike_pos forward positive
    exact computed service risk_free_rate spot_pos strike_pos forward positive option_type
  · exact parity_simulated functions S K T sigma model.risk_free_rate mirrored

/-- With a year left and a volatility of 20. -/
theorem put_call_parity_year :
    Parity ⟨1 / 10, 1 / 50⟩ 110 100 1 (Real.exp (-(1 / 50) * 1)) (Real.exp (-(1 / 10) * 1))
      (unrounded BlackScholes.analysis ⟨1 / 10, 1 / 50⟩ 110 100 1 (1 / 5) .CE)
      (unrounded BlackScholes.analysis ⟨1 / 10, 1 / 50⟩ 110 100 1 (1 / 5) .PE) := by
  have mirrored : ∀ x, BlackScholes.analysis.cdf x + BlackScholes.analysis.cdf (-x) = 1 := by
    intro x
    rw [BlackScholes.laws_analysis.cdf_neg]
    ring
  exact (put_call_parity mirrored ⟨1 / 10, 1 / 50⟩ (by norm_num) (by norm_num)
    (by norm_num) (by norm_num)).2.2.1

end Parity

end StrategySimulation

end HftEngine.Backend
