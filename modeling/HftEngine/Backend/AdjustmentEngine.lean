import HftEngine.Backend.StrategySimulation

/-!
# The adjustment engine

`AdjustmentEngine.analyze_position` with its six checks, over exact numbers.  The
simulation is that of `StrategySimulation`; reading a date in one of the three formats
and the text of a number without a format are parameters.
-/

namespace HftEngine.Backend

namespace AdjustmentEngine

open StrategySimulation (StrategyLeg Service simulate_strategy_at_point)
open Py (Value Dict Result)
open Py.Exact

inductive AlertSeverity where
  | INFO
  | WARNING
  | CRITICAL
  deriving DecidableEq

inductive AlertType where
  | DELTA_DRIFT
  | GAMMA_RISK
  | THETA_DECAY
  | IV_SPIKE
  | IV_CRUSH
  | LEG_TESTED
  | PROFIT_TARGET
  | STOP_LOSS
  | TIME_WARNING
  | ADJUSTMENT_SUGGESTED
  deriving DecidableEq

structure AdjustmentConfig where
  delta_drift_warning : ℚ := 10 / 100
  delta_drift_critical : ℚ := 20 / 100
  iv_spike_warning : ℚ := 15 / 100
  iv_spike_critical : ℚ := 30 / 100
  iv_crush_warning : ℚ := 15 / 100
  leg_test_buffer : ℚ := 2 / 100
  profit_target : ℚ := 50 / 100
  stop_loss : ℚ := 150 / 100
  time_warning_dte : ℕ := 7
  time_critical_dte : ℕ := 3
  gamma_risk_threshold : ℚ := 10 / 100

/-- An alert, and the place of the leg that it is about, which the code only writes into
the message. -/
structure PositionAlert where
  alert_type : AlertType
  leg : Option ℕ := none
  severity : AlertSeverity
  message : String
  current_value : ℚ
  threshold_value : ℚ
  recommended_action : Option String := none
  deriving DecidableEq

/-- What an alert is about. -/
def PositionAlert.condition (alert : PositionAlert) : AlertType × Option ℕ :=
  (alert.alert_type, alert.leg)

/-- A leg as `LegSchema` has it. -/
structure Leg where
  strike : ℚ
  option_type : String
  action : String
  qty : ℤ
  lot_size : ℤ
  entry_price : ℚ
  deriving DecidableEq

structure Engine (Date : Type) where
  config : AdjustmentConfig
  sim : Service Date
  /-- The days from a date to an expiry that one of the formats reads. -/
  days_to : String → Date → Option ℤ
  /-- `str` of a float. -/
  text : ℚ → String

/-- The fields of a position that the engine is given. -/
structure Given where
  legs : List Leg
  entry_metrics : Option Dict
  entry_atm_iv : Option ℚ
  expiry : String
  current_pnl : Option ℚ

/-- The metrics at the analysis: what the simulation returned, unless it raised, and the
days to expiry. -/
structure Simulated where
  pnl : ℚ
  net_delta : ℚ
  net_gamma : ℚ
  net_theta : ℚ
  net_vega : ℚ
  deriving DecidableEq

structure Metrics where
  simulated : Option Simulated
  dte : ℕ
  deriving DecidableEq

/-- `metrics.get(key, 0)`, which has to be a number. -/
def number (metrics : Dict) (key : String) : Result ℚ :=
  Py.exact (Dict.get metrics key (.int 0))

section Checks

variable {Date : Type} (engine : Engine Date)

/-! ## The checks -/

def _check_delta_drift (entry_metrics : Dict) (metrics : Metrics) :
    Result (List PositionAlert) :=
  if entry_metrics.isEmpty then .ok []
  else do
    let entry_delta ← number entry_metrics "net_delta"
    let current_delta := (metrics.simulated.map (·.net_delta)).getD 0
    let drift := |current_delta - entry_delta|
    if engine.config.delta_drift_critical ≤ drift then
      .ok [{ alert_type := .DELTA_DRIFT
             severity := .CRITICAL
             message := "Net delta has drifted " ++ fixed 2 drift ++ " from entry (" ++
               fixed 2 entry_delta ++ " → " ++ fixed 2 current_delta ++ ")"
             current_value := drift
             threshold_value := engine.config.delta_drift_critical
             recommended_action :=
               some "Consider rolling untested side to restore delta neutrality" }]
    else if engine.config.delta_drift_warning ≤ drift then
      .ok [{ alert_type := .DELTA_DRIFT
             severity := .WARNING
             message := "Net delta drifting: " ++ fixed 2 entry_delta ++ " → " ++
               fixed 2 current_delta
             current_value := drift
             threshold_value := engine.config.delta_drift_warning }]
    else .ok []

def _check_iv_change (entry_iv : Option ℚ) (current_iv : ℚ) :
    Result (List PositionAlert) :=
  match entry_iv with
  | none => .error .typeError
  | some entry_iv =>
      let iv_change := (current_iv - entry_iv) / entry_iv
      if entry_iv ≤ 0 then .ok []
      else if engine.config.iv_spike_critical ≤ iv_change then
        .ok [{ alert_type := .IV_SPIKE
               severity := .CRITICAL
               message := "IV spiked " ++ fixed 1 (iv_change * 100) ++ "% (" ++
                 fixed 1 entry_iv ++ "% → " ++ fixed 1 current_iv ++ "%)"
               current_value := iv_change
               threshold_value := engine.config.iv_spike_critical
               recommended_action := some "Consider closing position or adding hedge" }]
      else if engine.config.iv_spike_warning ≤ iv_change then
        .ok [{ alert_type := .IV_SPIKE
               severity := .WARNING
               message := "IV increased " ++ fixed 1 (iv_change * 100) ++ "%"
               current_value := iv_change
               threshold_value := engine.config.iv_spike_warning }]
      else if iv_change ≤ -engine.config.iv_crush_warning then
        .ok [{ alert_type := .IV_CRUSH
               severity := .INFO
               message := "IV crushed " ++ fixed 1 (|iv_change| * 100) ++
                 "% - favorable for short premium"
               current_value := |iv_change|
               threshold_value := engine.config.iv_crush_warning }]
      else .ok []

/-- The alert about one short leg that the spot is near. -/
def leg_tested (current_spot : ℚ) (index : ℕ) (leg : Leg) : Option PositionAlert :=
  if leg.action ≠ "SELL" then none
  else
    let distance := |current_spot - leg.strike| / current_spot
    if distance ≤ engine.config.leg_test_buffer then
      let direction := if leg.strike < current_spot then "above" else "below"
      some
        { alert_type := .LEG_TESTED
          leg := some index
          severity := .CRITICAL
          message := "Short " ++ engine.text leg.strike ++ " " ++ leg.option_type ++
            " is being tested (spot " ++ direction ++ " at " ++
            fixed 1 (distance * 100) ++ "%)"
          current_value := distance
          threshold_value := engine.config.leg_test_buffer
          recommended_action :=
            some "Consider rolling the tested leg or closing position" }
    else none

def _check_leg_tested (legs : List Leg) (current_spot : ℚ) : List PositionAlert :=
  legs.zipIdx.filterMap (fun (leg, index) => leg_tested engine current_spot index leg)

def profit_target_alert (current_pnl pnl_vs_max : ℚ) : List PositionAlert :=
  if engine.config.profit_target ≤ pnl_vs_max then
    [{ alert_type := .PROFIT_TARGET
       severity := .INFO
       message := "Position at " ++ whole (pnl_vs_max * 100) ++ "% of max profit (₹" ++
         whole current_pnl ++ ")"
       current_value := pnl_vs_max
       threshold_value := engine.config.profit_target
       recommended_action := some "Consider taking profits" }]
  else []

def stop_loss_alert (current_pnl max_loss : ℚ) : List PositionAlert :=
  if max_loss ≤ 0 then []
  else
    let loss_ratio := if current_pnl < 0 then |current_pnl| / max_loss else 0
    if engine.config.stop_loss ≤ loss_ratio then
      [{ alert_type := .STOP_LOSS
         severity := .CRITICAL
         message := "Position loss exceeds threshold (₹" ++ whole |current_pnl| ++ " = " ++
           whole (loss_ratio * 100) ++ "% of max loss)"
         current_value := loss_ratio
         threshold_value := engine.config.stop_loss
         recommended_action := some "Consider closing position to limit further losses" }]
    else []

def _check_pnl_targets (position : Given) : Result (List PositionAlert) :=
  let entry_metrics := position.entry_metrics.getD []
  if entry_metrics.isEmpty then .ok []
  else do
    let max_profit ← number entry_metrics "max_profit"
    if max_profit ≤ 0 then .ok []
    else
      match position.current_pnl with
      | none => .error .typeError
      | some current_pnl => do
          let max_loss ← number entry_metrics "max_loss"
          .ok (profit_target_alert engine current_pnl (current_pnl / max_profit) ++
            stop_loss_alert engine current_pnl max_loss)

def _check_time_decay (dte : ℕ) : List PositionAlert :=
  if dte ≤ engine.config.time_critical_dte then
    [{ alert_type := .TIME_WARNING
       severity := .CRITICAL
       message := "Only " ++ toString dte ++ " DTE remaining - gamma risk elevated"
       current_value := dte
       threshold_value := engine.config.time_critical_dte
       recommended_action := some "Consider closing or rolling out to next expiry" }]
  else if dte ≤ engine.config.time_warning_dte then
    [{ alert_type := .TIME_WARNING
       severity := .WARNING
       message := toString dte ++ " DTE remaining - monitor closely"
       current_value := dte
       threshold_value := engine.config.time_warning_dte }]
  else []

def _check_gamma_risk (metrics : Metrics) : List PositionAlert :=
  let net_gamma := |(metrics.simulated.map (·.net_gamma)).getD 0|
  if metrics.dte = 0 then []
  else
    let gamma_impact := net_gamma * (1 / 100) * metrics.dte
    if engine.config.gamma_risk_threshold < gamma_impact then
      [{ alert_type := .GAMMA_RISK
         severity := .WARNING
         message := "Elevated gamma risk: " ++ fixed 2 (gamma_impact * 100) ++
           "% potential delta swing"
         current_value := gamma_impact
         threshold_value := engine.config.gamma_risk_threshold }]
    else []

/-! ## The analysis -/

/-- A leg for the simulation, which only tells calls from other options and buys from
other actions. -/
def sim_leg (current_iv : ℚ) (expiry_str : String) (leg : Leg) : StrategyLeg where
  strike := leg.strike
  option_type := if leg.option_type = "CE" then .CE else .PE
  action := if leg.action = "BUY" then .BUY else .SELL
  qty := leg.qty
  entry_price := leg.entry_price
  iv := if 1 < current_iv then current_iv / 100 else current_iv
  expiry := expiry_str
  lot_size := leg.lot_size

/-- What raises leaves the metrics empty. -/
def _calculate_current_metrics (legs : List Leg) (current_spot current_iv : ℚ)
    (expiry_str : String) (current_date : Date) : Option Simulated :=
  (simulate_strategy_at_point engine.sim (legs.map (sim_leg current_iv expiry_str))
    current_spot current_date 0 none).map (fun result =>
      { pnl := result.pnl
        net_delta := result.net_delta
        net_gamma := result.net_gamma
        net_theta := result.net_theta
        net_vega := result.net_vega })

def _calculate_dte (expiry_str : String) (current_date : Date) : ℕ :=
  match engine.days_to expiry_str current_date with
  | some days => days.toNat
  | none => 0

def severity_score : AlertSeverity → ℕ
  | .CRITICAL => 30
  | .WARNING => 15
  | .INFO => 5

def _calculate_risk_score (alerts : List PositionAlert) (dte : ℕ) : ℕ :=
  let score := (alerts.map (fun alert => severity_score alert.severity)).sum
  min 100 (score + if dte ≤ 3 then 20 else if dte ≤ 7 then 10 else 0)

structure Analysis where
  alerts : List PositionAlert
  current_metrics : Option Metrics
  risk_score : ℕ
  deriving DecidableEq

def analyze_position (position : Given) (current_spot current_iv : ℚ)
    (current_date : Date) : Result Analysis :=
  if position.legs.isEmpty then .ok ⟨[], none, 0⟩
  else do
    let metrics : Metrics :=
      { simulated := _calculate_current_metrics engine position.legs current_spot
          current_iv position.expiry current_date
        dte := _calculate_dte engine position.expiry current_date }
    let drift ← _check_delta_drift engine (position.entry_metrics.getD []) metrics
    let iv ← _check_iv_change engine position.entry_atm_iv current_iv
    let pnl ← _check_pnl_targets engine position
    let alerts := drift ++ iv ++ _check_leg_tested engine position.legs current_spot ++
      pnl ++ _check_time_decay engine metrics.dte ++ _check_gamma_risk engine metrics
    .ok ⟨alerts, some metrics, _calculate_risk_score alerts metrics.dte⟩

end Checks

/-! ## What is found

An analysis finds each condition once at most. -/

/-- The conditions in the order of the checks. -/
def conditions (legs : ℕ) : List (AlertType × Option ℕ) :=
  [(AlertType.DELTA_DRIFT, none)] ++
    [(AlertType.IV_SPIKE, none), (AlertType.IV_CRUSH, none)] ++
    (List.range' 0 legs).map (fun index => (AlertType.LEG_TESTED, some index)) ++
    [(AlertType.PROFIT_TARGET, none), (AlertType.STOP_LOSS, none)] ++
    [(AlertType.TIME_WARNING, none)] ++ [(AlertType.GAMMA_RISK, none)]

theorem nodup_conditions (legs : ℕ) : (conditions legs).Nodup := by
  have tested : ((List.range' 0 legs).map
      (fun index => (AlertType.LEG_TESTED, some index))).Nodup := by
    apply List.Nodup.map
    · intro left right same
      simpa using same
    · exact List.nodup_range'
  simp [conditions, List.nodup_append, tested]

variable {Date : Type} {engine : Engine Date}

theorem delta_drift_conditions {entry_metrics : Dict} {metrics : Metrics}
    {alerts : List PositionAlert}
    (checked : _check_delta_drift engine entry_metrics metrics = .ok alerts) :
    (alerts.map (·.condition)).Sublist [(.DELTA_DRIFT, none)] := by
  unfold _check_delta_drift at checked
  split at checked
  · obtain rfl := Except.ok.inj checked
    exact List.nil_sublist _
  · obtain ⟨entry_delta, _, checked⟩ := Py.bind_eq_ok.mp checked
    dsimp only at checked
    split at checked
    · obtain rfl := Except.ok.inj checked
      exact List.Sublist.refl _
    · split at checked
      · obtain rfl := Except.ok.inj checked
        exact List.Sublist.refl _
      · obtain rfl := Except.ok.inj checked
        exact List.nil_sublist _

theorem iv_change_conditions {entry_iv : Option ℚ} {current_iv : ℚ}
    {alerts : List PositionAlert}
    (checked : _check_iv_change engine entry_iv current_iv = .ok alerts) :
    (alerts.map (·.condition)).Sublist [(.IV_SPIKE, none), (.IV_CRUSH, none)] := by
  have spike : [(AlertType.IV_SPIKE, none)].Sublist
      [(AlertType.IV_SPIKE, (none : Option ℕ)), (.IV_CRUSH, none)] := by decide
  have crush : [(AlertType.IV_CRUSH, none)].Sublist
      [(AlertType.IV_SPIKE, (none : Option ℕ)), (.IV_CRUSH, none)] := by decide
  unfold _check_iv_change at checked
  cases entry_iv with
  | none => cases checked
  | some entry_iv =>
      dsimp only at checked
      split at checked
      · obtain rfl := Except.ok.inj checked
        exact List.nil_sublist _
      · split at checked
        · obtain rfl := Except.ok.inj checked
          exact spike
        · split at checked
          · obtain rfl := Except.ok.inj checked
            exact spike
          · split at checked
            · obtain rfl := Except.ok.inj checked
              exact crush
            · obtain rfl := Except.ok.inj checked
              exact List.nil_sublist _

theorem leg_tested_conditions (legs : List Leg) (current_spot : ℚ) (start : ℕ) :
    (((legs.zipIdx start).filterMap
      (fun (leg, index) => leg_tested engine current_spot index leg)).map
        (·.condition)).Sublist
      ((List.range' start legs.length).map (fun index => (.LEG_TESTED, some index))) := by
  induction legs generalizing start with
  | nil => exact List.nil_sublist _
  | cons leg legs ih =>
      rw [List.zipIdx_cons, List.filterMap_cons, List.length_cons, List.range'_succ,
        List.map_cons]
      dsimp only
      unfold leg_tested
      split
      · exact (ih (start + 1)).cons _
      · rename_i alert found
        split at found
        · cases found
        · dsimp only at found
          split at found
          · obtain rfl := Option.some.inj found
            rw [List.map_cons]
            exact (ih (start + 1)).cons_cons _
          · cases found

theorem profit_target_conditions (current_pnl pnl_vs_max : ℚ) :
    ((profit_target_alert engine current_pnl pnl_vs_max).map (·.condition)).Sublist
      [(.PROFIT_TARGET, none)] := by
  unfold profit_target_alert
  split
  · exact List.Sublist.refl _
  · exact List.nil_sublist _

theorem stop_loss_conditions (current_pnl max_loss : ℚ) :
    ((stop_loss_alert engine current_pnl max_loss).map (·.condition)).Sublist
      [(.STOP_LOSS, none)] := by
  unfold stop_loss_alert
  split
  · exact List.nil_sublist _
  · generalize (if current_pnl < 0 then |current_pnl| / max_loss else 0) = loss_ratio
    dsimp only
    split
    · exact List.Sublist.refl _
    · exact List.nil_sublist _

theorem pnl_targets_conditions {position : Given} {alerts : List PositionAlert}
    (checked : _check_pnl_targets engine position = .ok alerts) :
    (alerts.map (·.condition)).Sublist [(.PROFIT_TARGET, none), (.STOP_LOSS, none)] := by
  unfold _check_pnl_targets at checked
  dsimp only at checked
  split at checked
  · obtain rfl := Except.ok.inj checked
    exact List.nil_sublist _
  · obtain ⟨max_profit, _, checked⟩ := Py.bind_eq_ok.mp checked
    split at checked
    · obtain rfl := Except.ok.inj checked
      exact List.nil_sublist _
    · split at checked
      · cases checked
      · obtain ⟨max_loss, _, checked⟩ := Py.bind_eq_ok.mp checked
        obtain rfl := Except.ok.inj checked
        rw [List.map_append]
        exact (profit_target_conditions _ _).append (stop_loss_conditions _ _)

theorem time_decay_conditions (dte : ℕ) :
    ((_check_time_decay engine dte).map (·.condition)).Sublist [(.TIME_WARNING, none)] := by
  unfold _check_time_decay
  split
  · exact List.Sublist.refl _
  · split
    · exact List.Sublist.refl _
    · exact List.nil_sublist _

theorem gamma_risk_conditions (metrics : Metrics) :
    ((_check_gamma_risk engine metrics).map (·.condition)).Sublist
      [(.GAMMA_RISK, none)] := by
  unfold _check_gamma_risk
  dsimp only
  split
  · exact List.nil_sublist _
  · split
    · exact List.Sublist.refl _
    · exact List.nil_sublist _

/-- An analysis of some legs has the alerts of the six checks in their order. -/
theorem analyze_position_ok {position : Given} {current_spot current_iv : ℚ}
    {current_date : Date} {analysis : Analysis}
    (analyzed : analyze_position engine position current_spot current_iv current_date =
      .ok analysis) :
    (position.legs = [] ∧ analysis.alerts = [] ∧ analysis.current_metrics = none) ∨
    ∃ drift iv pnl,
      let metrics : Metrics :=
        { simulated := _calculate_current_metrics engine position.legs current_spot
            current_iv position.expiry current_date
          dte := _calculate_dte engine position.expiry current_date }
      position.legs ≠ [] ∧ analysis.current_metrics = some metrics ∧
      analysis.alerts = drift ++ iv ++ _check_leg_tested engine position.legs current_spot ++
        pnl ++ _check_time_decay engine metrics.dte ++ _check_gamma_risk engine metrics ∧
      _check_delta_drift engine (position.entry_metrics.getD []) metrics = .ok drift ∧
      _check_iv_change engine position.entry_atm_iv current_iv = .ok iv ∧
      _check_pnl_targets engine position = .ok pnl := by
  unfold analyze_position at analyzed
  split at analyzed
  case isTrue empty =>
      obtain rfl := Except.ok.inj analyzed
      exact .inl ⟨List.isEmpty_iff.mp empty, rfl, rfl⟩
  case isFalse some_legs =>
      obtain ⟨drift, drifted, analyzed⟩ := Py.bind_eq_ok.mp analyzed
      obtain ⟨iv, changed, analyzed⟩ := Py.bind_eq_ok.mp analyzed
      obtain ⟨pnl, reached, analyzed⟩ := Py.bind_eq_ok.mp analyzed
      obtain rfl := Except.ok.inj analyzed
      exact .inr ⟨drift, iv, pnl, mt List.isEmpty_iff.mpr some_legs, rfl, rfl, drifted,
        changed, reached⟩

theorem analyze_position_conditions {position : Given} {current_spot current_iv : ℚ}
    {current_date : Date} {analysis : Analysis}
    (analyzed : analyze_position engine position current_spot current_iv current_date =
      .ok analysis) :
    (analysis.alerts.map (·.condition)).Nodup := by
  rcases analyze_position_ok analyzed with
    ⟨-, none, -⟩ | ⟨drift, iv, pnl, -, -, alerts, drifted, changed, reached⟩
  · rw [none]
    exact List.nodup_nil
  · rw [alerts]
    apply List.Nodup.sublist _ (nodup_conditions position.legs.length)
    simp only [List.map_append]
    exact (((((delta_drift_conditions drifted).append (iv_change_conditions changed)).append
      (leg_tested_conditions position.legs current_spot 0)).append
      (pnl_targets_conditions reached)).append (time_decay_conditions _)).append
      (gamma_risk_conditions _)

theorem type_of_conditions {alerts : List PositionAlert}
    {kinds : List (AlertType × Option ℕ)} (found : (alerts.map (·.condition)).Sublist kinds)
    {alert : PositionAlert} (member : alert ∈ alerts) :
    alert.alert_type ∈ kinds.map (·.1) :=
  List.mem_map.mpr ⟨_, found.subset (List.mem_map_of_mem member), rfl⟩

/-- Where the analysis has the alerts of a type from. -/
theorem mem_alerts_iff {drift iv pnl alerts : List PositionAlert} {legs : List Leg}
    {current_spot : ℚ} {entry_metrics : Dict} {metrics : Metrics} {entry_iv : Option ℚ}
    {current_iv : ℚ} {position : Given}
    (found : alerts = drift ++ iv ++ _check_leg_tested engine legs current_spot ++ pnl ++
      _check_time_decay engine metrics.dte ++ _check_gamma_risk engine metrics)
    (drifted : _check_delta_drift engine entry_metrics metrics = .ok drift)
    (changed : _check_iv_change engine entry_iv current_iv = .ok iv)
    (reached : _check_pnl_targets engine position = .ok pnl) (alert : PositionAlert) :
    alert ∈ alerts ↔
      match alert.alert_type with
      | .DELTA_DRIFT => alert ∈ drift
      | .IV_SPIKE | .IV_CRUSH => alert ∈ iv
      | .LEG_TESTED => alert ∈ _check_leg_tested engine legs current_spot
      | .PROFIT_TARGET | .STOP_LOSS => alert ∈ pnl
      | .TIME_WARNING => alert ∈ _check_time_decay engine metrics.dte
      | .GAMMA_RISK => alert ∈ _check_gamma_risk engine metrics
      | _ => False := by
  have drift_type : alert ∈ drift → alert.alert_type = .DELTA_DRIFT := by
    intro member
    simpa using type_of_conditions (delta_drift_conditions drifted) member
  have iv_type : alert ∈ iv →
      alert.alert_type = .IV_SPIKE ∨ alert.alert_type = .IV_CRUSH := by
    intro member
    simpa using type_of_conditions (iv_change_conditions changed) member
  have leg_type : alert ∈ _check_leg_tested engine legs current_spot →
      alert.alert_type = .LEG_TESTED := by
    intro member
    have type := type_of_conditions (leg_tested_conditions legs current_spot 0) member
    obtain ⟨kind, among, same⟩ := List.mem_map.mp type
    obtain ⟨index, -, rfl⟩ := List.mem_map.mp among
    exact same.symm
  have pnl_type : alert ∈ pnl →
      alert.alert_type = .PROFIT_TARGET ∨ alert.alert_type = .STOP_LOSS := by
    intro member
    simpa using type_of_conditions (pnl_targets_conditions reached) member
  have time_type : alert ∈ _check_time_decay engine metrics.dte →
      alert.alert_type = .TIME_WARNING := by
    intro member
    simpa using type_of_conditions (time_decay_conditions metrics.dte) member
  have gamma_type : alert ∈ _check_gamma_risk engine metrics →
      alert.alert_type = .GAMMA_RISK := by
    intro member
    simpa using type_of_conditions (gamma_risk_conditions metrics) member
  rw [found]
  simp only [List.mem_append]
  cases kind : alert.alert_type <;> grind only

end AdjustmentEngine

end HftEngine.Backend
