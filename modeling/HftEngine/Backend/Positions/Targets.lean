import HftEngine.Backend.Positions
import HftEngine.Backend.StrategySimulation.Payoff
import HftEngine.Lib.Ranking

/-!
# The targets of a position

The analysis of a position checks its P&L against the targets before the route records
the P&L that the same analysis has simulated.
-/

namespace HftEngine.Backend.Positions

open AdjustmentEngine
open StrategySimulation (StrategyLeg calculate_expiry_payoff payoffs call_quantity
  turning_points)
open Py (Dict Result)

variable {Date : Type} (engine : Engine Date)

/-- A number of the entry metrics that is above 0. -/
def target (position : Given) (key : String) : Option ℚ :=
  (number (position.entry_metrics.getD []) key).toOption.filter (fun limit => 0 < limit)

/-- The P&L that is a loss of so many times the maximum loss. -/
def stop_threshold (position : Given) : Option ℚ :=
  (target position "max_loss").map (fun max_loss => -(engine.config.stop_loss * max_loss))

/-- The P&L that is the target share of the maximum profit. -/
def profit_threshold (position : Given) : Option ℚ :=
  (target position "max_profit").map (engine.config.profit_target * ·)

/-- The legs as they are simulated. -/
def simulated_legs (position : Given) (current_iv : ℚ) : List StrategyLeg :=
  position.legs.map (sim_leg current_iv position.expiry)

/-- The alerts about the targets are those that the P&L calls for, and, where the loss is
limited, some spot price at expiry reaches the stop. -/
structure Current (position : Given) (current_iv pnl : ℚ) (alerts : List PositionAlert) :
    Prop where
  stop_loss : (∃ alert ∈ alerts, alert.alert_type = .STOP_LOSS) ↔
    ∃ threshold ∈ stop_threshold engine position, pnl ≤ threshold
  profit_target : (∃ alert ∈ alerts, alert.alert_type = .PROFIT_TARGET) ↔
    ∃ threshold ∈ profit_threshold engine position, threshold ≤ pnl
  attainable : BddBelow (payoffs (simulated_legs position current_iv)) →
    ∀ threshold ∈ stop_threshold engine position, ∃ spot_price, 0 ≤ spot_price ∧
      calculate_expiry_payoff (simulated_legs position current_iv) spot_price ≤ threshold

/-- The P&L that is stored is on the same side of each threshold as the simulated one, a
stop that is called for comes with a maximum profit, and the payoff at 0 or at a strike
reaches the stop unless more calls are sold than held. -/
structure StoredAgrees (position : Given) (current_iv pnl : ℚ) : Prop where
  stop_loss : ∀ threshold ∈ stop_threshold engine position,
    (pnl ≤ threshold ↔ (target position "max_profit").isSome ∧
      ∃ stored ∈ position.current_pnl, stored ≤ threshold)
  profit_target : ∀ threshold ∈ profit_threshold engine position,
    (threshold ≤ pnl ↔ ∃ stored ∈ position.current_pnl, threshold ≤ stored)
  reached : 0 ≤ call_quantity (simulated_legs position current_iv) →
    ∀ threshold ∈ stop_threshold engine position,
      ∃ point ∈ turning_points (simulated_legs position current_iv),
        calculate_expiry_payoff (simulated_legs position current_iv) point ≤ threshold

variable {engine}

theorem target_eq_some {position : Given} {key : String} {limit : ℚ} :
    target position key = some limit ↔
      number (position.entry_metrics.getD []) key = .ok limit ∧ 0 < limit := by
  rw [target, Option.filter_eq_some_iff, Py.toOption_eq_some, decide_eq_true_eq]

theorem target_eq_none {position : Given} {key : String} {limit : ℚ}
    (read : number (position.entry_metrics.getD []) key = .ok limit) (low : limit ≤ 0) :
    target position key = none := by
  rw [Option.eq_none_iff_forall_ne_some]
  intro other found
  obtain ⟨same, positive⟩ := target_eq_some.mp found
  obtain rfl := Except.ok.inj (read.symm.trans same)
  exact positive.not_ge low

theorem target_no_metrics {position : Given}
    (empty : (position.entry_metrics.getD []).isEmpty) (key : String) :
    target position key = none := by
  have read : number (position.entry_metrics.getD []) key = .ok 0 := by
    rw [List.isEmpty_iff.mp empty]
    rfl
  exact target_eq_none read le_rfl

theorem profit_target_alert_iff {current_pnl max_profit : ℚ} (positive : 0 < max_profit) :
    (∃ alert ∈ profit_target_alert engine current_pnl (current_pnl / max_profit),
      alert.alert_type = .PROFIT_TARGET) ↔
      engine.config.profit_target * max_profit ≤ current_pnl := by
  rw [← le_div_iff₀ positive]
  unfold profit_target_alert
  split
  case isTrue reached => simp [reached]
  case isFalse below => simp [below]

/-- A loss ratio of 0 never reaches a stop above 0. -/
theorem stop_loss_alert_iff (stops : 0 < engine.config.stop_loss)
    {current_pnl max_loss : ℚ} (positive : 0 < max_loss) :
    (∃ alert ∈ stop_loss_alert engine current_pnl max_loss,
      alert.alert_type = .STOP_LOSS) ↔
      current_pnl ≤ -(engine.config.stop_loss * max_loss) := by
  have ratio : engine.config.stop_loss ≤
      (if current_pnl < 0 then |current_pnl| / max_loss else 0) ↔
      current_pnl ≤ -(engine.config.stop_loss * max_loss) := by
    by_cases loss : current_pnl < 0
    · rw [if_pos loss, le_div_iff₀ positive, abs_of_neg loss, le_neg]
    · rw [if_neg loss]
      have threshold : 0 < engine.config.stop_loss * max_loss := mul_pos stops positive
      constructor
      · intro low
        exact absurd stops low.not_gt
      · intro low
        linarith
  unfold stop_loss_alert
  rw [if_neg positive.not_ge]
  dsimp only
  rw [← ratio]
  split
  · simp
  · simp

theorem not_mem_profit_target_alert {current_pnl pnl_vs_max : ℚ} :
    ¬∃ alert ∈ profit_target_alert engine current_pnl pnl_vs_max,
      alert.alert_type = .STOP_LOSS := by
  rintro ⟨alert, member, stop⟩
  have type := type_of_conditions (profit_target_conditions current_pnl pnl_vs_max) member
  simp [stop] at type

theorem not_mem_stop_loss_alert {current_pnl max_loss : ℚ} :
    ¬∃ alert ∈ stop_loss_alert engine current_pnl max_loss,
      alert.alert_type = .PROFIT_TARGET := by
  rintro ⟨alert, member, profit⟩
  have type := type_of_conditions (stop_loss_conditions current_pnl max_loss) member
  simp [profit] at type

/-- What the check reads: the thresholds and the stored P&L, and no stop without a
maximum profit. -/
theorem check_pnl_targets_iff (stops : 0 < engine.config.stop_loss) {position : Given}
    {alerts : List PositionAlert}
    (checked : _check_pnl_targets engine position = .ok alerts) :
    ((∃ alert ∈ alerts, alert.alert_type = .STOP_LOSS) ↔
      ∃ threshold ∈ stop_threshold engine position,
        (target position "max_profit").isSome ∧
          ∃ stored ∈ position.current_pnl, stored ≤ threshold) ∧
    ((∃ alert ∈ alerts, alert.alert_type = .PROFIT_TARGET) ↔
      ∃ threshold ∈ profit_threshold engine position,
        ∃ stored ∈ position.current_pnl, threshold ≤ stored) := by
  unfold _check_pnl_targets at checked
  dsimp only at checked
  split at checked
  case isTrue empty =>
      obtain rfl := Except.ok.inj checked
      simp [stop_threshold, profit_threshold, target_no_metrics empty]
  case isFalse =>
      obtain ⟨max_profit, read, checked⟩ := Py.bind_eq_ok.mp checked
      split at checked
      case isTrue low =>
          obtain rfl := Except.ok.inj checked
          simp [profit_threshold, target_eq_none read low]
      case isFalse positive =>
          have profit := target_eq_some.mpr ⟨read, not_le.mp positive⟩
          cases current : position.current_pnl with
          | none =>
              rw [current] at checked
              cases checked
          | some current_pnl =>
              rw [current] at checked
              obtain ⟨max_loss, loss_read, checked⟩ := Py.bind_eq_ok.mp checked
              obtain rfl := Except.ok.inj checked
              simp only [List.mem_append, or_and_right, exists_or]
              constructor
              · rw [or_iff_right not_mem_profit_target_alert, profit]
                by_cases limited : max_loss ≤ 0
                · simp [stop_threshold, target_eq_none loss_read limited, stop_loss_alert,
                    limited]
                · have loss := target_eq_some.mpr ⟨loss_read, not_le.mp limited⟩
                  rw [stop_loss_alert_iff stops (not_le.mp limited)]
                  simp [stop_threshold, loss]
              · rw [or_iff_left not_mem_stop_loss_alert,
                  profit_target_alert_iff (not_le.mp positive)]
                simp [profit_threshold, profit]

/-- A limited loss is reached at 0 or at a strike, if anywhere. -/
theorem attainable_iff {legs : List StrategyLeg} {threshold : ℚ}
    (limited : 0 ≤ call_quantity legs) :
    (∃ spot_price, 0 ≤ spot_price ∧ calculate_expiry_payoff legs spot_price ≤ threshold) ↔
      ∃ point ∈ turning_points legs, calculate_expiry_payoff legs point ≤ threshold := by
  constructor
  · rintro ⟨spot_price, positive, reached⟩
    by_contra! none
    -- the least payoff of the turning points bounds all payoffs
    have some_point : turning_points legs ≠ [] := List.cons_ne_nil _ _
    obtain ⟨worst, member, least⟩ :=
      Ranking.exists_least (calculate_expiry_payoff legs) some_point
    have bound := StrategySimulation.le_payoff limited least positive
    exact (none worst member).not_ge (bound.trans reached)
  · rintro ⟨point, member, reached⟩
    exact ⟨point, StrategySimulation.turning_points_nonneg point member, reached⟩

/-- Where the maximum loss is that of the legs, no spot price reaches a stop at more than
all of it. -/
theorem unattainable {legs : List StrategyLeg} {max_loss stop_loss : ℚ}
    (positive : 0 < max_loss) (more : 1 < stop_loss)
    (least : IsLeast (payoffs legs) (-max_loss)) {spot_price : ℚ} (nonneg : 0 ≤ spot_price) :
    ¬calculate_expiry_payoff legs spot_price ≤ -(stop_loss * max_loss) := by
  have bound := least.2 (Set.mem_image_of_mem _ nonneg)
  have beyond : max_loss < stop_loss * max_loss := lt_mul_of_one_lt_left positive more
  intro reached
  linarith

theorem exists_mem_iff_exists_mem {α : Type} {o : Option α} {p q : α → Prop} :
    ((∃ x ∈ o, p x) ↔ ∃ x ∈ o, q x) ↔ ∀ x ∈ o, (p x ↔ q x) := by
  cases o with
  | none => simp
  | some x => simp

/-- The alerts are those that the simulated P&L calls for exactly when the stored one, which
is what the analysis reads, calls for the same. -/
theorem current_iff (stops : 0 < engine.config.stop_loss) {position : TrackedPosition Date}
    {current_spot current_iv pnl : ℚ} {now : Date} {analysis : Analysis}
    (analyzed : analyze_position engine position.given current_spot current_iv now =
      .ok analysis)
    (simulated : simulated_pnl analysis.current_metrics = some pnl) :
    Current engine position.given current_iv pnl analysis.alerts ↔
      StoredAgrees engine position.given current_iv pnl := by
  rcases analyze_position_ok analyzed with
    ⟨-, -, empty⟩ | ⟨drift, iv, checked, -, -, alerts, drifted, changed, reached⟩
  · rw [empty] at simulated
    cases simulated
  · have members := mem_alerts_iff alerts drifted changed reached
    have stop : (∃ alert ∈ analysis.alerts, alert.alert_type = .STOP_LOSS) ↔
        ∃ alert ∈ checked, alert.alert_type = .STOP_LOSS := by
      apply exists_congr
      intro alert
      apply and_congr_left
      intro type
      rw [members, type]
    have profit : (∃ alert ∈ analysis.alerts, alert.alert_type = .PROFIT_TARGET) ↔
        ∃ alert ∈ checked, alert.alert_type = .PROFIT_TARGET := by
      apply exists_congr
      intro alert
      apply and_congr_left
      intro type
      rw [members, type]
    obtain ⟨stop_checked, profit_checked⟩ := check_pnl_targets_iff stops reached
    have attained : (BddBelow (payoffs (simulated_legs position.given current_iv)) →
        ∀ threshold ∈ stop_threshold engine position.given, ∃ spot_price, 0 ≤ spot_price ∧
          calculate_expiry_payoff (simulated_legs position.given current_iv) spot_price ≤
            threshold) ↔
        (0 ≤ call_quantity (simulated_legs position.given current_iv) →
          ∀ threshold ∈ stop_threshold engine position.given,
            ∃ point ∈ turning_points (simulated_legs position.given current_iv),
              calculate_expiry_payoff (simulated_legs position.given current_iv) point ≤
                threshold) := by
      rw [StrategySimulation.bddBelow_payoffs_iff]
      apply forall_congr'
      intro limited
      simp only [attainable_iff limited]
    constructor
    · intro current
      constructor
      · apply exists_mem_iff_exists_mem.mp
        rw [← current.stop_loss, stop, stop_checked]
      · apply exists_mem_iff_exists_mem.mp
        rw [← current.profit_target, profit, profit_checked]
      · exact attained.mp current.attainable
    · intro agrees
      constructor
      · rw [stop, stop_checked, exists_mem_iff_exists_mem]
        intro threshold member
        exact (agrees.stop_loss threshold member).symm
      · rw [profit, profit_checked, exists_mem_iff_exists_mem]
        intro threshold member
        exact (agrees.profit_target threshold member).symm
      · exact attained.mpr agrees.reached

/-! ### The call after its expiry, at a loss of 3 -/

def expired_call (max_loss : ℤ) (current_pnl : ℚ) : TrackedPosition ℕ :=
  { create_position (february_call "2025-02-27") none with
    entry_metrics := some [("max_profit", .int 20), ("max_loss", .int max_loss)]
    current_pnl := some current_pnl }

/-- Where the loss has been stored and the maximum loss is taken for 2, the stop is raised
and attained. -/
theorem current_stopped :
    ∃ analysis, analyze_position february (expired_call 2 (-3)).given 102 15 28 =
        .ok analysis ∧
      Current february (expired_call 2 (-3)).given 15 (-3) analysis.alerts := by
  have checked : ∃ analysis ∈ (analyze_position february (expired_call 2 (-3)).given
      102 15 28).toOption, simulated_pnl analysis.current_metrics = some (-3) := by
    with_unfolding_all decide
  obtain ⟨analysis, found, simulated⟩ := checked
  have analyzed := Py.toOption_eq_some.mp found
  refine ⟨analysis, analyzed, (current_iff ?_ analyzed simulated).mpr ⟨?_, ?_, ?_⟩⟩
  · with_unfolding_all decide
  · with_unfolding_all decide
  · with_unfolding_all decide
  · with_unfolding_all decide

/-- At the first analysis the stored P&L is 0, and no stop is raised; and where the maximum
loss is what has been paid, no spot price reaches it. -/
theorem not_current :
    (∃ analysis, analyze_position february (expired_call 2 0).given 102 15 28 =
        .ok analysis ∧ simulated_pnl analysis.current_metrics = some (-3) ∧
      ¬Current february (expired_call 2 0).given 15 (-3) analysis.alerts) ∧
    ∃ analysis, analyze_position february (expired_call 5 0).given 102 15 28 =
        .ok analysis ∧ simulated_pnl analysis.current_metrics = some (-3) ∧
      ¬Current february (expired_call 5 0).given 15 (-3) analysis.alerts := by
  constructor
  · have checked : ∃ analysis ∈ (analyze_position february (expired_call 2 0).given
        102 15 28).toOption, simulated_pnl analysis.current_metrics = some (-3) ∧
        ∀ alert ∈ analysis.alerts, alert.alert_type ≠ .STOP_LOSS := by
      with_unfolding_all decide
    obtain ⟨analysis, found, simulated, none⟩ := checked
    refine ⟨analysis, Py.toOption_eq_some.mp found, simulated, ?_⟩
    intro current
    have called : ∃ threshold ∈ stop_threshold february (expired_call 2 0).given,
        -3 ≤ threshold := by
      with_unfolding_all decide
    obtain ⟨alert, member, type⟩ := current.stop_loss.mpr called
    exact none alert member type
  · have checked : ∃ analysis ∈ (analyze_position february (expired_call 5 0).given
        102 15 28).toOption, simulated_pnl analysis.current_metrics = some (-3) := by
      with_unfolding_all decide
    obtain ⟨analysis, found, simulated⟩ := checked
    refine ⟨analysis, Py.toOption_eq_some.mp found, simulated, ?_⟩
    intro current
    have limited : 0 ≤ call_quantity (simulated_legs (expired_call 5 0).given 15) := by
      with_unfolding_all decide
    have least : IsLeast (payoffs (simulated_legs (expired_call 5 0).given 15)) (-5) := by
      constructor
      · exact ⟨0, Set.self_mem_Ici, by with_unfolding_all decide⟩
      · rintro _ ⟨spot_price, nonneg, rfl⟩
        exact StrategySimulation.le_payoff limited (by with_unfolding_all decide) nonneg
    have threshold : -(3 / 2 * 5) ∈ stop_threshold february (expired_call 5 0).given := by
      with_unfolding_all decide
    obtain ⟨spot_price, nonneg, reached⟩ := current.attainable
      ((StrategySimulation.bddBelow_payoffs_iff _).mpr limited) _ threshold
    exact unattainable (by norm_num) (by norm_num) least nonneg reached

end HftEngine.Backend.Positions
