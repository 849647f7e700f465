import HftEngine.Backend.StrategySimulation

/-!
# The metrics of an optimized structure

The legs that `LegOptimizer` builds, with the Greeks that the chain gives them, and
`_calculate_metrics`, which asks the simulation for the probability of profit.
-/

namespace HftEngine.Backend

namespace LegOptimizer

open ChartOfAccuracy (OptionType)
open StrategySimulation (Action Greeks Reported Report Service SimulationPoint
  StrategyLeg direction)
open Py.Exact

structure OptimizedLeg where
  strike : ℚ
  option_type : OptionType
  action : Action
  qty : ℤ
  lot_size : ℚ
  ltp : ℚ
  iv : ℚ
  delta : ℚ
  gamma : ℚ
  theta : ℚ
  vega : ℚ
  deriving DecidableEq

def OptimizedLeg.total_qty (leg : OptimizedLeg) : ℚ :=
  leg.qty * leg.lot_size

def OptimizedLeg.premium_value (leg : OptimizedLeg) : ℚ :=
  leg.ltp * leg.total_qty

def OptimizedLeg.to_simulation_leg (expiry : String) (leg : OptimizedLeg) :
    StrategyLeg where
  strike := leg.strike
  option_type := leg.option_type
  action := leg.action
  qty := leg.qty
  entry_price := leg.ltp
  iv := if 1 < leg.iv then leg.iv / 100 else leg.iv
  expiry
  lot_size := leg.lot_size

structure StructureMetrics where
  /-- Unlimited when there is none. -/
  max_profit : Option ℚ
  max_loss : ℚ
  net_credit : ℚ
  probability_of_profit : Reported
  breakevens : Reported
  net_delta : ℚ
  net_gamma : ℚ
  net_theta : ℚ
  net_vega : ℚ
  risk_reward_ratio : Option ℚ
  margin_required : ℚ
  capital_at_risk : ℚ
  deriving DecidableEq

/-! ## Metrics -/

/-- A sum over the legs, with a sign for an action. -/
def net (sign : Action → ℚ) (value : OptimizedLeg → ℚ) (legs : List OptimizedLeg) : ℚ :=
  (legs.map (fun leg => value leg * leg.total_qty * sign leg.action)).sum

/-- `-1 if leg.action == "BUY" else 1`, with which theta and the premiums are summed. -/
def credit_direction : Action → ℚ
  | .BUY => -1
  | .SELL => 1

/-- What is lost at most when a credit is received: the width of the spread less the
credit, or the capital without a spread. -/
def credit_max_loss (legs : List OptimizedLeg) (net_credit max_capital : ℚ) : ℚ :=
  match legs.filter (fun leg => leg.action = .BUY),
      legs.filter (fun leg => leg.action = .SELL) with
  | bought :: _, sold :: _ =>
      |bought.strike - sold.strike| * bought.total_qty - net_credit
  | _, _ => max_capital

section Metrics

variable {Date : Type} (sim : Service Date) (legs : List OptimizedLeg)
  (expiry : String) (spot : ℚ) (now : Date)

def simulation_legs : List StrategyLeg :=
  legs.map (·.to_simulation_leg expiry)

/-- The dictionary of the simulation, empty when it raises. -/
def pop_result : Report :=
  (StrategySimulation.calculate_probability_of_profit sim (simulation_legs legs expiry)
    spot now none).getD []

def calculate_metrics (max_capital : ℚ) : StructureMetrics :=
  let pop_result := pop_result sim legs expiry spot now
  let net_credit := net credit_direction (·.ltp) legs
  let max_profit := if 0 < net_credit then some net_credit else none
  let max_loss :=
    if 0 < net_credit then credit_max_loss legs net_credit max_capital else |net_credit|
  { max_profit, max_loss, net_credit
    probability_of_profit := pop_result.get "probability_of_profit" (.number 50)
    breakevens := pop_result.get "breakevens" (.numbers [])
    net_delta := net direction (·.delta) legs
    net_gamma := net direction (·.gamma) legs
    net_theta := net credit_direction (·.theta) legs
    net_vega := net direction (·.vega) legs
    risk_reward_ratio := if 0 < max_loss then max_profit.map (· / max_loss) else some 0
    margin_required := if max_loss < max_capital then max_loss * (12 / 10) else max_capital
    capital_at_risk := min max_loss max_capital }

end Metrics

/-! ## Agreement with the simulation -/

@[simp] theorem net_nil (sign : Action → ℚ) (value : OptimizedLeg → ℚ) :
    net sign value [] = 0 := rfl

@[simp] theorem net_cons (sign : Action → ℚ) (value : OptimizedLeg → ℚ)
    (leg : OptimizedLeg) (legs : List OptimizedLeg) :
    net sign value (leg :: legs) =
      value leg * leg.total_qty * sign leg.action + net sign value legs := by
  rw [net, net, List.map_cons, List.sum_cons]

theorem net_congr {sign : Action → ℚ} {value other : OptimizedLeg → ℚ}
    {legs : List OptimizedLeg} (same : ∀ leg ∈ legs, value leg = other leg) :
    net sign value legs = net sign other legs := by
  apply congrArg List.sum
  apply List.map_congr_left
  intro leg member
  rw [same leg member]

theorem credit_direction_eq (action : Action) :
    credit_direction action = -direction action := by
  cases action <;> simp [credit_direction, direction]

theorem net_credit_direction (value : OptimizedLeg → ℚ) (legs : List OptimizedLeg) :
    net credit_direction value legs = -net direction value legs := by
  induction legs with
  | nil => simp
  | cons leg legs ih =>
      rw [net_cons, net_cons, ih, credit_direction_eq]
      ring

/-- The simulation weighs a leg as the direction of the optimizer does. -/
theorem net_simulation_legs (greek : StrategyLeg → ℚ) (expiry : String)
    (legs : List OptimizedLeg) :
    StrategySimulation.net greek (simulation_legs legs expiry) =
      net direction (fun leg => greek (leg.to_simulation_leg expiry)) legs := by
  induction legs with
  | nil => rfl
  | cons leg legs ih =>
      rw [simulation_legs, List.map_cons, StrategySimulation.net_cons,
        ← simulation_legs, ih, net_cons]
      simp only [StrategyLeg.multiplier, OptimizedLeg.to_simulation_leg,
        OptimizedLeg.total_qty, mul_assoc]

section Agreement

variable {Date : Type} {sim : Service Date} {legs : List OptimizedLeg}
  {expiry : String} {spot : ℚ} {now : Date} {max_capital : ℚ}

/-- The metrics never have the probability that the simulation reports. -/
theorem probability_of_profit_default :
    (calculate_metrics sim legs expiry spot now max_capital).probability_of_profit =
      .number 50 := by
  change Report.get _ _ _ = _
  rw [Report.get, pop_result]
  cases reported : StrategySimulation.calculate_probability_of_profit sim
      (simulation_legs legs expiry) spot now none with
  | none => rfl
  | some report =>
      rw [Option.getD_some,
        StrategySimulation.lookup_probability_of_profit _ _ reported, Option.getD_none]

/-- Theta is summed with the signs turned. -/
theorem net_theta_eq_neg :
    (calculate_metrics sim legs expiry spot now max_capital).net_theta =
      -net direction (·.theta) legs :=
  net_credit_direction _ legs

/-- The metrics and the simulation report the same. -/
structure Agrees (metrics : StructureMetrics) (point : SimulationPoint)
    (report : Report) : Prop where
  probability_of_profit : report.lookup "pop" = some metrics.probability_of_profit
  net_delta : metrics.net_delta = point.net_delta
  net_gamma : metrics.net_gamma = point.net_gamma
  net_theta : metrics.net_theta = point.net_theta
  net_vega : metrics.net_vega = point.net_vega

/-- What the claim says of one list of legs. -/
def MetricsAgree (sim : Service Date) (legs : List OptimizedLeg) (expiry : String)
    (spot : ℚ) (now : Date) (max_capital : ℚ) : Prop :=
  ∀ point report,
    StrategySimulation.simulate_strategy_at_point sim (simulation_legs legs expiry) spot
      now 0 none = some point →
    StrategySimulation.calculate_probability_of_profit sim (simulation_legs legs expiry)
      spot now none = some report →
    Agrees (calculate_metrics sim legs expiry spot now max_capital) point report

/-- The Greeks that the simulation gives a leg. -/
def modelled (sim : Service Date) (expiry : String) (spot : ℚ) (now : Date)
    (leg : OptimizedLeg) : Greeks :=
  StrategySimulation.modelled sim spot now 0 sim.risk_free_rate
    (leg.to_simulation_leg expiry)

/-- A Greek of the legs and one of the model, summed with the same signs and
quantities; the latter is rounded. -/
structure SameWeights (legs : List OptimizedLeg) (greek model : OptimizedLeg → ℚ)
    (places : ℕ) (optimized simulated : ℚ) : Prop where
  optimized : optimized = net direction greek legs
  simulated : simulated = roundTo places (net direction model legs)

theorem SameWeights.rounded {greek model : OptimizedLeg → ℚ} {places : ℕ}
    {optimized simulated : ℚ}
    (weighed : SameWeights legs greek model places optimized simulated)
    (same : ∀ leg ∈ legs, greek leg = model leg) :
    roundTo places optimized = simulated := by
  rw [weighed.optimized, weighed.simulated, net_congr same]

variable (max_capital) in
/-- The metrics sum the Greeks of the chain and the simulation those of its model, and
both weigh them alike, theta apart. -/
theorem net_greeks_same_weights
    (simulated : StrategySimulation.simulate_strategy_at_point sim
      (simulation_legs legs expiry) spot now 0 none = some point) :
    let metrics := calculate_metrics sim legs expiry spot now max_capital
    let model := modelled sim expiry spot now
    SameWeights legs (·.delta) (model · |>.delta) 4 metrics.net_delta point.net_delta ∧
    SameWeights legs (·.gamma) (model · |>.gamma) 6 metrics.net_gamma point.net_gamma ∧
    SameWeights legs (·.vega) (model · |>.vega) 4 metrics.net_vega point.net_vega := by
  obtain ⟨delta, gamma, -, vega⟩ := StrategySimulation.simulate_net simulated
  rw [net_simulation_legs] at delta gamma vega
  exact ⟨⟨rfl, delta⟩, ⟨rfl, gamma⟩, ⟨rfl, vega⟩⟩

end Agreement

/-! ### A call that has expired

The spot price is above its strike, and nothing of the functions is called. -/

def expired_sim : Service Unit where
  functions := ⟨id, id, id, id, id, 3⟩
  risk_free_rate := 7 / 100
  total_seconds _ _ := some (-60)
  gauss _ _ := 0

def expired_call : OptimizedLeg where
  strike := 100
  option_type := .CE
  action := .BUY
  qty := 1
  lot_size := 1
  ltp := 0
  iv := 15
  delta := 1 / 2
  gamma := 0
  theta := 0
  vega := 0

def expired_point : SimulationPoint where
  spot_price := 110
  days_to_expiry := 0
  iv_change := 0
  pnl := 10
  net_delta := 1
  net_gamma := 0
  net_theta := 0
  net_vega := 0
  net_rho := 0

theorem expired_simulated :
    StrategySimulation.simulate_strategy_at_point expired_sim
      (simulation_legs [expired_call] "") 110 () 0 none = some expired_point := by
  with_unfolding_all decide

def expired_metrics : StructureMetrics :=
  calculate_metrics expired_sim [expired_call] "" 110 () 0

theorem net_greeks_same_weights_expired :
    SameWeights [expired_call] (·.delta) (modelled expired_sim "" 110 () · |>.delta) 4
        expired_metrics.net_delta 1 ∧
      SameWeights [expired_call] (·.gamma) (modelled expired_sim "" 110 () · |>.gamma) 6
        expired_metrics.net_gamma 0 ∧
      SameWeights [expired_call] (·.vega) (modelled expired_sim "" 110 () · |>.vega) 4
        expired_metrics.net_vega 0 :=
  net_greeks_same_weights 0 expired_simulated

/-- The simulation is sure of the profit, and has a delta of 1. -/
theorem not_metrics_agree_expired :
    ¬ MetricsAgree expired_sim [expired_call] "" 110 () 0 := by
  intro agree
  have certain : StrategySimulation.calculate_probability_of_profit expired_sim
      (simulation_legs [expired_call] "") 110 () none =
        some (StrategySimulation.flat_report expired_point) := by
    decide +kernel
  have same := (agree _ _ expired_simulated certain).net_delta
  exact absurd same (by with_unfolding_all decide)

end LegOptimizer

end HftEngine.Backend
