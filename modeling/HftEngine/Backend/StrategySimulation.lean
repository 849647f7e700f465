import HftEngine.Backend.ChartOfAccuracy
import HftEngine.Core.BlackScholes

/-!
# Strategy simulation

`StrategySimulationService`, over exact numbers: the profit and the Greeks of a
strategy at a point, its breakevens at expiry and its probability of profit.  What
raises is `none`.
-/

namespace HftEngine.Backend

namespace StrategySimulation

open ChartOfAccuracy (OptionType)
open Py.Exact

inductive Action where
  | BUY
  | SELL
  deriving DecidableEq

structure StrategyLeg where
  strike : ℚ
  option_type : OptionType
  action : Action
  qty : ℤ
  entry_price : ℚ
  iv : ℚ
  expiry : String
  lot_size : ℚ := 1

structure Service (Date : Type) where
  functions : BlackScholes.Functions ℚ
  risk_free_rate : ℚ
  /-- `(expiry - date).total_seconds()`. -/
  total_seconds : String → Date → Option ℚ
  /-- The draws of `random.gauss(0, std_dev)`. -/
  gauss : ℕ → ℚ → ℚ

/-- `1 if leg.action == "BUY" else -1`. -/
def direction : Action → ℚ
  | .BUY => 1
  | .SELL => -1

/-- What an option is worth at expiry. -/
def intrinsic (spot_price : ℚ) (option_type : OptionType) (strike : ℚ) : ℚ :=
  match option_type with
  | .CE => max 0 (spot_price - strike)
  | .PE => max 0 (strike - spot_price)

section Pricing

variable {Date : Type} (service : Service Date)
variable (spot strike time_to_expiry volatility risk_free_rate : ℚ)

def calculate_d1_d2 : Option (ℚ × ℚ) :=
  let time_to_expiry := if time_to_expiry ≤ 0 then 1 / 365 / 24 else time_to_expiry
  let volatility := if volatility ≤ 0 then 1 / 1000 else volatility
  -- the logarithm raises, as does the division by a strike of 0
  if spot / strike ≤ 0 then none
  else
    let d1 := (service.functions.log (spot / strike) +
      (risk_free_rate + 1 / 2 * volatility ^ 2) * time_to_expiry) /
        (volatility * service.functions.sqrt time_to_expiry)
    some (d1, d1 - volatility * service.functions.sqrt time_to_expiry)

def black_scholes_price (option_type : OptionType) : Option ℚ :=
  if time_to_expiry ≤ 0 then some (intrinsic spot option_type strike)
  else do
    let (d1, d2) ← calculate_d1_d2 service spot strike time_to_expiry volatility
      risk_free_rate
    let discount := service.functions.exp (-risk_free_rate * time_to_expiry)
    let cdf := service.functions.cdf
    match option_type with
    | .CE => some (max 0 (spot * cdf d1 - strike * discount * cdf d2))
    | .PE => some (max 0 (strike * discount * cdf (-d2) - spot * cdf (-d1)))

structure Greeks where
  delta : ℚ
  gamma : ℚ
  theta : ℚ
  vega : ℚ
  rho : ℚ
  deriving DecidableEq

def delta_at_expiry (option_type : OptionType) : ℚ :=
  match option_type with
  | .CE => if strike < spot then 1 else 0
  | .PE => if spot < strike then -1 else 0

def calculate_greeks (option_type : OptionType) : Option Greeks :=
  if time_to_expiry ≤ 0 then
    some ⟨delta_at_expiry spot strike option_type, 0, 0, 0, 0⟩
  else do
    let (d1, d2) ← calculate_d1_d2 service spot strike time_to_expiry volatility
      risk_free_rate
    let sqrt_t := service.functions.sqrt time_to_expiry
    let discount := service.functions.exp (-risk_free_rate * time_to_expiry)
    let cdf := service.functions.cdf
    let pdf := service.functions.pdf
    let first_term := -spot * pdf d1 * volatility / (2 * sqrt_t)
    let delta :=
      match option_type with
      | .CE => cdf d1
      | .PE => -cdf (-d1)
    let theta :=
      match option_type with
      | .CE => (first_term - risk_free_rate * strike * discount * cdf d2) / 365
      | .PE => (first_term + risk_free_rate * strike * discount * cdf (-d2)) / 365
    let rho :=
      match option_type with
      | .CE => strike * time_to_expiry * discount * cdf d2 / 100
      | .PE => -strike * time_to_expiry * discount * cdf (-d2) / 100
    some
      { delta := roundTo 4 delta
        gamma := roundTo 6 (pdf d1 / (spot * volatility * sqrt_t))
        theta := roundTo 4 theta
        vega := roundTo 4 (spot * pdf d1 * sqrt_t / 100)
        rho := roundTo 4 rho }

end Pricing

/-! ## A point -/

structure SimulationPoint where
  spot_price : ℚ
  days_to_expiry : ℚ
  iv_change : ℚ
  pnl : ℚ
  net_delta : ℚ
  net_gamma : ℚ
  net_theta : ℚ
  net_vega : ℚ
  net_rho : ℚ
  deriving DecidableEq

/-- The sums of the loop over the legs, and the least days to expiry. -/
structure Totals where
  pnl : ℚ := 0
  net_delta : ℚ := 0
  net_gamma : ℚ := 0
  net_theta : ℚ := 0
  net_vega : ℚ := 0
  net_rho : ℚ := 0
  min_dte : Option ℚ := none

def StrategyLeg.multiplier (leg : StrategyLeg) : ℚ :=
  leg.qty * leg.lot_size * direction leg.action

def StrategyLeg.pnl (leg : StrategyLeg) (current_price : ℚ) : ℚ :=
  match leg.action with
  | .BUY => (current_price - leg.entry_price) * leg.qty * leg.lot_size
  | .SELL => (leg.entry_price - current_price) * leg.qty * leg.lot_size

section Simulation

variable {Date : Type} (service : Service Date)

/-- The days that a leg has left, not below a bound. -/
def days_left (least : ℚ) (date : Date) (leg : StrategyLeg) : Option ℚ :=
  (service.total_seconds leg.expiry date).map (fun seconds =>
    max least (seconds / (24 * 3600)))

section Point

variable (spot_price : ℚ) (simulation_date : Date) (iv_change rfr : ℚ)

def adjusted_iv (leg : StrategyLeg) : ℚ :=
  max (1 / 100) (leg.iv + iv_change)

/-- The Greeks that the model gives a leg. -/
def leg_greeks (leg : StrategyLeg) : Option Greeks := do
  let days_to_expiry ← days_left service 0 simulation_date leg
  calculate_greeks service spot_price leg.strike (days_to_expiry / 365)
    (adjusted_iv iv_change leg) rfr leg.option_type

def add_leg (totals : Totals) (leg : StrategyLeg) : Option Totals := do
  let days_to_expiry ← days_left service 0 simulation_date leg
  let current_price ← black_scholes_price service spot_price leg.strike
    (days_to_expiry / 365) (adjusted_iv iv_change leg) rfr leg.option_type
  let greeks ← leg_greeks service spot_price simulation_date iv_change rfr leg
  some
    { pnl := totals.pnl + leg.pnl current_price
      net_delta := totals.net_delta + greeks.delta * leg.multiplier
      net_gamma := totals.net_gamma + greeks.gamma * leg.multiplier
      net_theta := totals.net_theta + greeks.theta * leg.multiplier
      net_vega := totals.net_vega + greeks.vega * leg.multiplier
      net_rho := totals.net_rho + greeks.rho * leg.multiplier
      min_dte := some ((totals.min_dte.map (min · days_to_expiry)).getD days_to_expiry) }

end Point

def simulate_strategy_at_point (legs : List StrategyLeg) (spot_price : ℚ)
    (simulation_date : Date) (iv_change : ℚ) (risk_free_rate : Option ℚ) :
    Option SimulationPoint := do
  let rfr := risk_free_rate.getD service.risk_free_rate
  let totals ← legs.foldlM (add_leg service spot_price simulation_date iv_change rfr) {}
  some
    { spot_price
      days_to_expiry := totals.min_dte.getD 0
      iv_change
      pnl := roundTo 2 totals.pnl
      net_delta := roundTo 4 totals.net_delta
      net_gamma := roundTo 6 totals.net_gamma
      net_theta := roundTo 4 totals.net_theta
      net_vega := roundTo 4 totals.net_vega
      net_rho := roundTo 4 totals.net_rho }

end Simulation

/-! ## Breakevens at expiry -/

def calculate_expiry_payoff (legs : List StrategyLeg) (spot_price : ℚ) : ℚ :=
  (legs.map (fun leg => leg.pnl (intrinsic spot_price leg.option_type leg.strike))).sum

/-- A payoff of 0 counts as a profit. -/
def same_sign (left right : ℚ) : Prop :=
  (left < 0 ∧ right < 0) ∨ (0 ≤ left ∧ 0 ≤ right)

instance (left right : ℚ) : Decidable (same_sign left right) :=
  inferInstanceAs (Decidable (_ ∨ _))

/-- Bisection with so many iterations left and a tolerance of 0.5. -/
def bisect_breakeven (legs : List StrategyLeg) : ℕ → ℚ → ℚ → ℚ
  | 0, low, high => (low + high) / 2
  | iterations + 1, low, high =>
      let mid := (low + high) / 2
      let pnl := calculate_expiry_payoff legs mid
      if |pnl| < 1 / 2 then mid
      else if same_sign (calculate_expiry_payoff legs low) pnl then
        bisect_breakeven legs iterations mid high
      else bisect_breakeven legs iterations low mid

/-- The prices from half of the spot price to one and a half of it, by 200 steps. -/
def find_breakevens (legs : List StrategyLeg) (current_spot : ℚ) : List ℚ :=
  let min_price := current_spot * (1 / 2)
  let max_price := current_spot * (3 / 2)
  let step := (max_price - min_price) / 200
  if step ≤ 1 / 10000 then []
  else
    let prices := (List.range 201).map (fun i => min_price + i * step)
    (prices.zip prices.tail).filterMap (fun (previous, price) =>
      if same_sign (calculate_expiry_payoff legs previous)
          (calculate_expiry_payoff legs price) then none
      else some (bisect_breakeven legs 20 (price - step) price))

/-! ## Probability of profit -/

/-- A value of the dictionary that is returned. -/
inductive Reported where
  | number (x : ℚ)
  | numbers (xs : List ℚ)
  | text (s : String)
  deriving DecidableEq

abbrev Report := List (String × Reported)

/-- `report.get(key, default)`. -/
def Report.get (report : Report) (key : String) (default : Reported) : Reported :=
  (report.lookup key).getD default

section Probability

variable {Date : Type} (service : Service Date) (legs : List StrategyLeg)

def monte_carlo_pop (current_spot std_dev : ℚ) (n_sims : ℕ) : ℚ :=
  let profitable := (List.range n_sims).filter (fun i =>
    0 < calculate_expiry_payoff legs
      (current_spot * service.functions.exp (service.gauss i std_dev)))
  profitable.length / n_sims

/-- Where a breakeven lies, in standard deviations. -/
def breakeven_deviation (current_spot std_dev breakeven : ℚ) : ℚ :=
  if 0 < std_dev then service.functions.log (breakeven / current_spot) / std_dev
  else 0

/-- The probability of the zones with a profit, between sorted breakevens. -/
def profit_probability (current_spot std_dev : ℚ) (sorted_be : List ℚ) : ℚ :=
  let cdf := service.functions.cdf
  let deviation := breakeven_deviation service current_spot std_dev
  match sorted_be with
  | [be] =>
      let prob_below := cdf (deviation be)
      let prob_above := 1 - prob_below
      if 0 < calculate_expiry_payoff legs current_spot then
        if current_spot < be then prob_above else prob_below
      else if be < current_spot then prob_above else prob_below
  | [be_low, be_high] =>
      if 0 < calculate_expiry_payoff legs ((be_low + be_high) / 2) then
        cdf (deviation be_high) - cdf (deviation be_low)
      else cdf (deviation be_low) + (1 - cdf (deviation be_high))
  | _ => monte_carlo_pop service legs current_spot std_dev 5000

/-- What is reported without a breakeven. -/
def flat_report (test_point : SimulationPoint) : Report :=
  if 0 < test_point.pnl then
    [("pop", .number 100), ("breakevens", .numbers []),
     ("analysis", .text "Always profitable at current conditions")]
  else
    [("pop", .number 0), ("breakevens", .numbers []),
     ("analysis", .text "Always loss at current conditions")]

def calculate_probability_of_profit (current_spot : ℚ) (current_date : Date)
    (average_iv : Option ℚ) : Option Report :=
  let breakevens := find_breakevens legs current_spot
  if breakevens = [] then
    (simulate_strategy_at_point service legs current_spot current_date 0 none).map
      flat_report
  else do
    let dtes ← legs.mapM (days_left service (1 / 1000) current_date)
    let min_dte ← dtes.min?
    let total_iv := (legs.map (·.iv)).sum
    let avg_iv :=
      match average_iv with
      | some iv => if iv = 0 then total_iv / legs.length else iv
      | none => total_iv / legs.length
    let std_dev := avg_iv * service.functions.sqrt (min_dte / 365)
    let sorted_be := breakevens.insertionSort (· ≤ ·)
    let profit_prob := profit_probability service legs current_spot std_dev sorted_be
    some
      [("pop", .number (roundTo 2 (profit_prob * 100))),
       ("breakevens", .numbers (sorted_be.map (roundTo 2))),
       ("average_iv", .number (roundTo 2 (avg_iv * 100))),
       ("days_to_expiry", .number (roundTo 1 min_dte)),
       ("std_move", .number (roundTo 2 (std_dev * current_spot))),
       ("one_std_range", .numbers
         [roundTo 2 (current_spot * service.functions.exp (-std_dev)),
          roundTo 2 (current_spot * service.functions.exp std_dev)])]

/-- The report has no entry of that name: the probability is its entry `pop`. -/
theorem lookup_probability_of_profit {current_spot : ℚ} {current_date : Date}
    {average_iv : Option ℚ} {report : Report}
    (reported : calculate_probability_of_profit service legs current_spot current_date
      average_iv = some report) :
    report.lookup "probability_of_profit" = none := by
  unfold calculate_probability_of_profit at reported
  dsimp only at reported
  split at reported
  case isTrue =>
      obtain ⟨test_point, -, rfl⟩ := Option.map_eq_some_iff.mp reported
      unfold flat_report
      split <;> rfl
  case isFalse =>
      simp only [Option.bind_eq_bind, Option.bind_eq_some_iff] at reported
      obtain ⟨dtes, -, min_dte, -, same⟩ := reported
      obtain rfl := Option.some.inj same
      rfl

end Probability

/-! ## Sums over the legs -/

/-- A Greek of each leg, times how much of the leg is held. -/
def net (greek : StrategyLeg → ℚ) (legs : List StrategyLeg) : ℚ :=
  (legs.map (fun leg => greek leg * leg.multiplier)).sum

@[simp] theorem net_nil (greek : StrategyLeg → ℚ) : net greek [] = 0 := rfl

@[simp] theorem net_cons (greek : StrategyLeg → ℚ) (leg : StrategyLeg)
    (legs : List StrategyLeg) :
    net greek (leg :: legs) = greek leg * leg.multiplier + net greek legs := by
  rw [net, net, List.map_cons, List.sum_cons]

section Loop

variable {Date : Type} {service : Service Date} {spot_price : ℚ}
  {simulation_date : Date} {iv_change rfr : ℚ}

/-- The Greeks that the model gives a leg, when it gives some. -/
def modelled (service : Service Date) (spot_price : ℚ) (simulation_date : Date)
    (iv_change rfr : ℚ) (leg : StrategyLeg) : Greeks :=
  (leg_greeks service spot_price simulation_date iv_change rfr leg).getD ⟨0, 0, 0, 0, 0⟩

theorem add_leg_cases {totals next : Totals} {leg : StrategyLeg}
    (added : add_leg service spot_price simulation_date iv_change rfr totals leg =
      some next) :
    let greeks := modelled service spot_price simulation_date iv_change rfr leg
    ∃ days_to_expiry current_price, next =
      { pnl := totals.pnl + leg.pnl current_price
        net_delta := totals.net_delta + greeks.delta * leg.multiplier
        net_gamma := totals.net_gamma + greeks.gamma * leg.multiplier
        net_theta := totals.net_theta + greeks.theta * leg.multiplier
        net_vega := totals.net_vega + greeks.vega * leg.multiplier
        net_rho := totals.net_rho + greeks.rho * leg.multiplier
        min_dte :=
          some ((totals.min_dte.map (min · days_to_expiry)).getD days_to_expiry) } := by
  simp only [add_leg, Option.bind_eq_bind, Option.bind_eq_some_iff] at added
  obtain ⟨days_to_expiry, -, current_price, -, greeks, model, same⟩ := added
  refine ⟨days_to_expiry, current_price, ?_⟩
  rw [modelled, model, Option.getD_some]
  exact (Option.some.inj same).symm

/-- What a leg adds to a sum, the loop adds to it for every leg. -/
theorem run_net (measure : Totals → ℚ) (greek : Greeks → ℚ)
    (step : ∀ {totals next : Totals} {leg : StrategyLeg},
      add_leg service spot_price simulation_date iv_change rfr totals leg = some next →
        measure next = measure totals +
          greek (modelled service spot_price simulation_date iv_change rfr leg) *
            leg.multiplier)
    {legs : List StrategyLeg} {totals final : Totals}
    (run : legs.foldlM (add_leg service spot_price simulation_date iv_change rfr)
      totals = some final) :
    measure final = measure totals + net (fun leg =>
      greek (modelled service spot_price simulation_date iv_change rfr leg)) legs := by
  induction legs generalizing totals with
  | nil =>
      obtain rfl := Option.some.inj run
      rw [net_nil, add_zero]
  | cons leg legs ih =>
      simp only [List.foldlM_cons, Option.bind_eq_bind, Option.bind_eq_some_iff] at run
      obtain ⟨next, added, run⟩ := run
      rw [ih run, step added, net_cons, add_assoc]

/-- A point sums the Greeks of the model, and then rounds. -/
theorem simulate_net {legs : List StrategyLeg} {risk_free_rate : Option ℚ}
    {point : SimulationPoint}
    (simulated : simulate_strategy_at_point service legs spot_price simulation_date
      iv_change risk_free_rate = some point) :
    let greeks := modelled service spot_price simulation_date iv_change
      (risk_free_rate.getD service.risk_free_rate)
    point.net_delta = roundTo 4 (net (fun leg => (greeks leg).delta) legs) ∧
      point.net_gamma = roundTo 6 (net (fun leg => (greeks leg).gamma) legs) ∧
      point.net_theta = roundTo 4 (net (fun leg => (greeks leg).theta) legs) ∧
      point.net_vega = roundTo 4 (net (fun leg => (greeks leg).vega) legs) := by
  simp only [simulate_strategy_at_point, Option.bind_eq_bind,
    Option.bind_eq_some_iff] at simulated
  obtain ⟨totals, run, same⟩ := simulated
  obtain rfl := Option.some.inj same
  refine ⟨congrArg (roundTo 4) ?_, congrArg (roundTo 6) ?_, congrArg (roundTo 4) ?_,
    congrArg (roundTo 4) ?_⟩
  · apply (run_net (·.net_delta) (·.delta) ?_ run).trans
    · rw [zero_add]
    · intro totals next leg added
      obtain ⟨_, _, rfl⟩ := add_leg_cases added
      rfl
  · apply (run_net (·.net_gamma) (·.gamma) ?_ run).trans
    · rw [zero_add]
    · intro totals next leg added
      obtain ⟨_, _, rfl⟩ := add_leg_cases added
      rfl
  · apply (run_net (·.net_theta) (·.theta) ?_ run).trans
    · rw [zero_add]
    · intro totals next leg added
      obtain ⟨_, _, rfl⟩ := add_leg_cases added
      rfl
  · apply (run_net (·.net_vega) (·.vega) ?_ run).trans
    · rw [zero_add]
    · intro totals next leg added
      obtain ⟨_, _, rfl⟩ := add_leg_cases added
      rfl

end Loop

end StrategySimulation

end HftEngine.Backend
