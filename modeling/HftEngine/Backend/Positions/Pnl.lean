import HftEngine.Backend.Positions

/-!
# The P&L and the status of a position

`peak_pnl` is documented as the high water mark of `current_pnl`, `current_pnl_pct` is
its share of the maximal profit, and `exit_time` belongs to a closed position.  The
routes each write some of these fields.
-/

namespace HftEngine.Backend.Positions

open AdjustmentEngine
open Py (Dict Result)
open Transition

variable {Date : Type}

/-- The maximal profit, where there is one. -/
def TrackedPosition.positive_profit (position : TrackedPosition Date) : Option ℚ :=
  position.max_profit.toOption.filter (0 < ·)

/-- `current_pnl_pct` is the share of `current_pnl`. -/
def SharesProfit (position : TrackedPosition Date) : Prop :=
  ∀ max_profit ∈ position.positive_profit,
    position.current_pnl.map (fun pnl => 100 * pnl / max_profit) =
      some position.current_pnl_pct

instance (position : TrackedPosition Date) : Decidable (SharesProfit position) :=
  inferInstanceAs (Decidable (∀ max_profit ∈ position.positive_profit, _))

structure Tracked (state : State Date) : Prop where
  peak : ∀ pnl ∈ state.recorded, pnl ≤ state.position.peak_pnl
  pct : SharesProfit state.position
  exit_time : state.position.exit_time.isSome ↔ state.position.status = .CLOSED

/-! ## What the routes write -/

theorem update_position_fields {position after : TrackedPosition Date}
    {request : UpdatePositionRequest} {utcnow : Date}
    (accepted : update_position position request utcnow = some after) :
    after.entry_metrics = position.entry_metrics ∧ after.peak_pnl = position.peak_pnl ∧
      after.current_pnl_pct = position.current_pnl_pct ∧
      after.current_pnl = request.current_pnl.getD position.current_pnl := by
  unfold update_position at accepted
  dsimp only at accepted
  split at accepted
  · obtain rfl := Option.some.inj accepted
    exact ⟨rfl, rfl, rfl, rfl⟩
  · obtain ⟨status, _, rfl⟩ := Option.map_eq_some_iff.mp accepted
    exact ⟨rfl, rfl, rfl, rfl⟩

/-- The status and the exit time after an update. -/
theorem update_position_status {position after : TrackedPosition Date}
    {request : UpdatePositionRequest} {utcnow : Date}
    (accepted : update_position position request utcnow = some after) :
    (request.status = none ∧ after.status = position.status ∧
      after.exit_time = position.exit_time) ∨
    ∃ text status, request.status = some text ∧ PositionStatus.of? text = some status ∧
      after.status = status ∧
      after.exit_time = if status = .CLOSED then some utcnow else position.exit_time := by
  unfold update_position at accepted
  dsimp only at accepted
  split at accepted
  · rename_i unset
    obtain rfl := Option.some.inj accepted
    exact .inl ⟨unset, rfl, rfl⟩
  · rename_i text given
    obtain ⟨status, valid, rfl⟩ := Option.map_eq_some_iff.mp accepted
    exact .inr ⟨text, status, given, valid, rfl, rfl⟩

theorem known_status {position after : TrackedPosition Date}
    {request : UpdatePositionRequest} {utcnow : Date}
    (accepted : update_position position request utcnow = some after) :
    ∀ text ∈ request.status, (PositionStatus.of? text).isSome := by
  intro text given
  rcases update_position_status accepted with ⟨unset, _⟩ | ⟨other, status, set, valid, _⟩
  · rw [unset] at given
    cases given
  · rw [set] at given
    obtain rfl := Option.some.inj given
    rw [valid]
    rfl

/-- An update that leaves a closed position closed keeps the exit time with the status. -/
theorem exit_time_update {position after : TrackedPosition Date}
    {request : UpdatePositionRequest} {utcnow : Date}
    (before : position.exit_time.isSome ↔ position.status = .CLOSED)
    (reopens : position.status = .CLOSED →
      ∀ text ∈ request.status, PositionStatus.of? text = some .CLOSED)
    (accepted : update_position position request utcnow = some after) :
    after.exit_time.isSome ↔ after.status = .CLOSED := by
  rcases update_position_status accepted with
    ⟨_, status, exit_time⟩ | ⟨text, new, set, valid, status, exit_time⟩
  · rw [status, exit_time]
    exact before
  · rw [status, exit_time]
    by_cases closes : new = .CLOSED
    · simp [closes]
    · have opened : ¬position.status = .CLOSED := by
        intro closed
        have same := reopens closed text set
        rw [valid] at same
        exact closes (Option.some.inj same)
      rw [if_neg closes, before]
      simp [opened, closes]

theorem update_metrics_fields {position after : TrackedPosition Date}
    {metrics : Option Metrics} (updated : update_metrics position metrics = .ok after) :
    after.entry_metrics = position.entry_metrics ∧ after.peak_pnl = position.peak_pnl ∧
      after.status = position.status ∧ after.exit_time = position.exit_time ∧
      after.current_pnl = (simulated_pnl metrics).or position.current_pnl := by
  unfold update_metrics at updated
  cases metrics with
  | none =>
      obtain rfl := Except.ok.inj updated
      exact ⟨rfl, rfl, rfl, rfl, rfl⟩
  | some metrics =>
      obtain ⟨max_profit, _, updated⟩ := Py.bind_eq_ok.mp updated
      split at updated
      · split at updated
        · obtain rfl := Except.ok.inj updated
          exact ⟨rfl, rfl, rfl, rfl, rfl⟩
        · cases updated
      · obtain rfl := Except.ok.inj updated
        exact ⟨rfl, rfl, rfl, rfl, rfl⟩

theorem positive_profit_congr {position after : TrackedPosition Date}
    (same : after.entry_metrics = position.entry_metrics) :
    after.positive_profit = position.positive_profit := by
  rw [TrackedPosition.positive_profit, TrackedPosition.positive_profit,
    TrackedPosition.max_profit, TrackedPosition.max_profit, same]

/-- An analysis with metrics computes the share anew. -/
theorem SharesProfit.update_metrics {position after : TrackedPosition Date}
    {metrics : Option Metrics} (shares : SharesProfit position)
    (updated : update_metrics position metrics = .ok after) : SharesProfit after := by
  have profit := positive_profit_congr (update_metrics_fields updated).1
  unfold Positions.update_metrics at updated
  cases metrics with
  | none =>
      obtain rfl := Except.ok.inj updated
      exact shares
  | some metrics =>
      obtain ⟨max_profit, read, updated⟩ := Py.bind_eq_ok.mp updated
      have profit_eq : position.positive_profit =
          if 0 < max_profit then some max_profit else none := by
        rw [TrackedPosition.positive_profit, read]
        simp only [Except.toOption, Option.filter_some, decide_eq_true_eq]
      intro found member
      rw [profit, profit_eq] at member
      split at updated
      · rename_i positive
        rw [if_pos positive] at member
        obtain rfl := Option.some.inj member
        split at updated
        · rename_i pnl has
          obtain rfl := Except.ok.inj updated
          dsimp only
          rw [has, Option.map_some, mul_comm, mul_div_right_comm]
        · cases updated
      · rename_i not_positive
        rw [if_neg not_positive] at member
        cases member

/-! ## Runs -/

/-- A P&L that an update may set: it is not above the peak, and, where its share of the
maximal profit is kept, it is the one that the position has. -/
def Suits (position : TrackedPosition Date) (pnl : Option ℚ) : Prop :=
  (∀ x ∈ pnl, x ≤ position.peak_pnl) ∧
    (position.positive_profit.isSome → pnl = position.current_pnl)

instance (position : TrackedPosition Date) (pnl : Option ℚ) :
    Decidable (Suits position pnl) :=
  inferInstanceAs (Decidable ((∀ x ∈ pnl, _) ∧ _))

/-- An update that is accepted sets no P&L that does not suit and reopens no closed
position. -/
def UpdateKeeps (position : TrackedPosition Date) (request : UpdatePositionRequest) : Prop :=
  (∀ text ∈ request.status, (PositionStatus.of? text).isSome) →
    (∀ pnl ∈ request.current_pnl, Suits position pnl) ∧
      (position.status = .CLOSED →
        ∀ text ∈ request.status, PositionStatus.of? text = some .CLOSED)

instance (position : TrackedPosition Date) (request : UpdatePositionRequest) :
    Decidable (UpdateKeeps position request) :=
  inferInstanceAs (Decidable ((∀ text ∈ request.status, _) →
    (∀ pnl ∈ request.current_pnl, _) ∧ (_ → ∀ text ∈ request.status, _)))

section Runs

variable (engine : Engine Date)

/-- An analysis with an open market that returns finds no P&L above the peak. -/
def AnalysisKeeps (position : TrackedPosition Date) (live_data : Option LiveData)
    (now : Date) : Prop :=
  ∀ quote ∈ live_data.bind market,
    ∀ found ∈ (analyze_position engine position.given quote.1 quote.2 now).toOption,
      ∀ pnl ∈ simulated_pnl found.current_metrics, pnl ≤ position.peak_pnl

instance (position : TrackedPosition Date) (live_data : Option LiveData) (now : Date) :
    Decidable (AnalysisKeeps engine position live_data now) :=
  inferInstanceAs (Decidable (∀ quote ∈ live_data.bind market,
    ∀ found ∈ (analyze_position engine position.given quote.1 quote.2 now).toOption,
      ∀ pnl ∈ simulated_pnl found.current_metrics, _))

def KeepsTracked (tracked : Option (State Date)) (request : Request Date) : Prop :=
  ∀ state ∈ tracked,
    match request with
    | .update request _ => UpdateKeeps state.position request
    | .analyze live_data now returns =>
        returns → AnalysisKeeps engine state.position live_data now
    | .create .. | .dismiss _ => True

instance (tracked : Option (State Date)) (request : Request Date) :
    Decidable (KeepsTracked engine tracked request) :=
  match request with
  | .update request _ =>
      inferInstanceAs (Decidable (∀ state ∈ tracked, UpdateKeeps state.position request))
  | .analyze live_data now returns =>
      inferInstanceAs (Decidable (∀ state ∈ tracked,
        returns → AnalysisKeeps engine state.position live_data now))
  | .create .. | .dismiss _ => inferInstanceAs (Decidable (∀ state ∈ tracked, True))

variable {engine} {state : State Date}

/-- The P&L of the position is among those recorded. -/
def Recorded (state : State Date) : Prop :=
  ∀ pnl ∈ state.position.current_pnl, pnl ∈ state.recorded

theorem recorded_record (state : State Date) (position : TrackedPosition Date)
    (alerts : List StoredAlert) : Recorded (state.record position alerts) := by
  intro pnl member
  apply List.mem_append_left
  exact Option.mem_toList.mpr member

theorem Tracked.current_le (tracked : Tracked state) (recorded : Recorded state) :
    ∀ pnl ∈ state.position.current_pnl, pnl ≤ state.position.peak_pnl := by
  intro pnl member
  exact tracked.peak pnl (recorded pnl member)

theorem Tracked.record {position : TrackedPosition Date} {alerts : List StoredAlert}
    (tracked : Tracked state) (peak : position.peak_pnl = state.position.peak_pnl)
    (below : ∀ pnl ∈ position.current_pnl, pnl ≤ state.position.peak_pnl)
    (shares : SharesProfit position)
    (exit_time : position.exit_time.isSome ↔ position.status = .CLOSED) :
    Tracked (state.record position alerts) where
  peak := by
    intro pnl member
    change pnl ≤ position.peak_pnl
    rw [peak]
    rcases List.mem_append.mp member with new | old
    · exact below pnl (Option.mem_toList.mp new)
    · exact tracked.peak pnl old
  pct := shares
  exit_time := exit_time

theorem Tracked.update {request : UpdatePositionRequest} {utcnow : Date}
    {position : TrackedPosition Date} (tracked : Tracked state) (recorded : Recorded state)
    (keeps : UpdateKeeps state.position request)
    (accepted : update_position state.position request utcnow = some position) :
    Tracked (state.record position state.alerts) := by
  obtain ⟨entry_metrics, peak, pct, current_pnl⟩ := update_position_fields accepted
  have profit := positive_profit_congr entry_metrics
  obtain ⟨suits, reopens⟩ := keeps (known_status accepted)
  -- a P&L that is not set, and one that is
  have pnl_cases : (position.current_pnl = state.position.current_pnl) ∨
      Suits state.position position.current_pnl := by
    cases set : request.current_pnl with
    | none =>
        rw [set] at current_pnl
        exact .inl current_pnl
    | some pnl =>
        rw [set] at current_pnl
        exact .inr (current_pnl ▸ suits pnl set)
  apply tracked.record peak
  · intro pnl member
    rcases pnl_cases with same | suits
    · exact tracked.current_le recorded pnl (same ▸ member)
    · exact suits.1 pnl member
  · intro max_profit member
    rw [profit] at member
    have share := tracked.pct max_profit member
    have same : position.current_pnl = state.position.current_pnl := by
      rcases pnl_cases with same | suits
      · exact same
      · exact suits.2 (Option.isSome_of_mem member)
    rw [same, pct]
    exact share
  · exact exit_time_update tracked.exit_time reopens accepted

theorem Tracked.analyze {metrics : Option Metrics} {alerts : List StoredAlert}
    {position : TrackedPosition Date} (tracked : Tracked state) (recorded : Recorded state)
    (below : ∀ pnl ∈ simulated_pnl metrics, pnl ≤ state.position.peak_pnl)
    (updated : update_metrics state.position metrics = .ok position) :
    Tracked (state.record position alerts) := by
  obtain ⟨_, peak, status, exit_time, current_pnl⟩ := update_metrics_fields updated
  apply tracked.record peak
  · intro pnl member
    rw [current_pnl, Option.mem_def, Option.or_eq_some_iff] at member
    rcases member with simulated | ⟨_, kept⟩
    · exact below pnl simulated
    · exact tracked.current_le recorded pnl kept
  · exact tracked.pct.update_metrics updated
  · rw [status, exit_time]
    exact tracked.exit_time

theorem tracked {position : Option (State Date)}
    (reached : ReachedBy (system engine) (KeepsTracked engine) position) :
    ∀ state ∈ position, Tracked state := by
  intro state member
  have invariant : ∀ state ∈ position, Tracked state ∧ Recorded state := by
    refine invariant_of_effects engine (I := fun state => Tracked state ∧ Recorded state)
      ?_ ?_ reached
    · intro request live_data
      constructor
      · constructor
        · intro pnl member
          exact (List.mem_singleton.mp member).le
        · intro max_profit _
          simp [create_position]
        · simp [create_position]
      · intro pnl member
        exact List.mem_singleton.mpr (Option.some.inj member).symm
    · intro state request after held keeps effect
      obtain ⟨tracked, recorded⟩ := held
      have kept := keeps state rfl
      cases effect with
      | kept => exact ⟨tracked, recorded⟩
      | updated accepted =>
          exact ⟨tracked.update recorded kept accepted, recorded_record _ _ _⟩
      | analyzed opened found updated =>
          refine ⟨tracked.analyze recorded ?_ updated, recorded_record _ _ _⟩
          intro pnl simulated
          apply kept rfl _ opened _ _ pnl simulated
          rw [found]
          rfl
      | dismissed index =>
          exact ⟨⟨tracked.peak, tracked.pct, tracked.exit_time⟩, recorded⟩
  exact (invariant state member).1

end Runs

/-- The call is analyzed after its expiry, at a loss of 3, and closed. -/
theorem tracked_expired :
    ∃ state, (ReachedBy (system february) (KeepsTracked february) (some state) ∧
      state.position.current_pnl = some (-3) ∧ state.position.current_pnl_pct = -15 ∧
      state.position.exit_time = some 28) ∧ Tracked state := by
  obtain ⟨state, reached, fields⟩ := exists_state_of_run february (KeepsTracked february)
    (fun state => state.position.current_pnl = some (-3) ∧
      state.position.current_pnl_pct = -15 ∧ state.position.exit_time = some 28)
    [.create (february_call "2025-02-27") none, .analyze (some ⟨102, 0, some 15⟩) 28 true,
      .update ⟨some (some "closed"), none⟩ 28] (by with_unfolding_all decide)
  exact ⟨state, ⟨reached, fields⟩, tracked reached state rfl⟩

/-- An update sets a P&L above the peak, an update sets one without its share, and a closed
position is reopened. -/
theorem not_tracked :
    (∃ state, Reachable (system february) (some state) ∧
      ¬∀ pnl ∈ state.recorded, pnl ≤ state.position.peak_pnl) ∧
    (∃ state, Reachable (system february) (some state) ∧ ¬SharesProfit state.position) ∧
    ∃ state, Reachable (system february) (some state) ∧
      ¬(state.position.exit_time.isSome ↔ state.position.status = .CLOSED) := by
  refine ⟨?_, ?_, ?_⟩
  · exact exists_state_of_run february _ _ [.create (february_call "2025-02-27") none,
      .update ⟨none, some (some 10)⟩ 20] (by decide)
  · exact exists_state_of_run february _ _ [.create (february_call "2025-02-27") none,
      .update ⟨none, some (some (-5))⟩ 20] (by with_unfolding_all decide)
  · exact exists_state_of_run february _ _ [.create (february_call "2025-02-27") none,
      .update ⟨some (some "closed"), none⟩ 20, .update ⟨some (some "active"), none⟩ 21]
      (by decide)

end HftEngine.Backend.Positions
