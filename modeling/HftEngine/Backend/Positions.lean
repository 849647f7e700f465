import HftEngine.Backend.AdjustmentEngine
import HftEngine.Lib.Transition

/-!
# Tracked positions

The routes that create, update and analyze a position, and its alerts.  What raises
leaves the position as it is: the session is rolled back.  The texts of a position, its
snapshots and the time of an alert are left out.
-/

namespace HftEngine.Backend.Positions

open AdjustmentEngine
open Py (Dict Result)
open Transition

inductive PositionStatus where
  | RECOMMENDED
  | ACTIVE
  | ADJUSTED
  | CLOSED
  | EXPIRED
deriving DecidableEq

/-- The values of the enumeration. -/
def PositionStatus.values : List (String × PositionStatus) :=
  [("recommended", .RECOMMENDED), ("active", .ACTIVE), ("adjusted", .ADJUSTED),
   ("closed", .CLOSED), ("expired", .EXPIRED)]

/-- `PositionStatus(text)`. -/
def PositionStatus.of? (text : Option String) : Option PositionStatus :=
  text.bind (PositionStatus.values.lookup ·)

structure TrackedPosition (Date : Type) where
  legs : List Leg
  expiry : String
  entry_spot : ℚ
  entry_atm_iv : Option ℚ
  entry_metrics : Option Dict
  status : PositionStatus := .ACTIVE
  current_pnl : Option ℚ := some 0
  current_pnl_pct : ℚ := 0
  peak_pnl : ℚ := 0
  exit_time : Option Date := none

structure CreatePositionRequest where
  legs : List Leg
  expiry : String
  entry_spot : Option ℚ
  entry_atm_iv : Option ℚ
  entry_metrics : Option Dict

/-- The fields that the request has set, which may be null. -/
structure UpdatePositionRequest where
  status : Option (Option String)
  current_pnl : Option (Option ℚ)

/-- What the live data has: `spot.ltp`, `sltp` and `atmiv`. -/
structure LiveData where
  ltp : ℚ
  sltp : ℚ
  atmiv : Option ℚ

/-- A stored alert, with its `market_snapshot`. -/
structure StoredAlert where
  alert : PositionAlert
  spot : ℚ
  iv : ℚ
  is_dismissed : Bool
deriving DecidableEq

variable {Date : Type}

/-! ## Creating and updating -/

/-- The live data is fetched when the request has no spot. -/
def create_position (request : CreatePositionRequest) (live_data : Option LiveData) :
    TrackedPosition Date where
  legs := request.legs
  expiry := request.expiry
  entry_spot :=
    match request.entry_spot.filter (· ≠ 0) with
    | some entry_spot => entry_spot
    | none => (live_data.map (·.sltp)).getD 0
  entry_atm_iv :=
    match request.entry_spot.filter (· ≠ 0), live_data with
    | none, some live_data => live_data.atmiv
    | _, _ => request.entry_atm_iv
  entry_metrics := request.entry_metrics

/-- A text that is no status raises. -/
def update_position (position : TrackedPosition Date) (request : UpdatePositionRequest)
    (utcnow : Date) : Option (TrackedPosition Date) :=
  let updated :=
    { position with current_pnl := request.current_pnl.getD position.current_pnl }
  match request.status with
  | none => some updated
  | some text =>
      (PositionStatus.of? text).map (fun status =>
        { updated with
          status
          exit_time := if status = .CLOSED then some utcnow else updated.exit_time })

/-! ## Analyzing -/

/-- The spot and the IV to analyze with, unless the market is closed. -/
def market (live_data : LiveData) : Option (ℚ × ℚ) :=
  let current_spot := if live_data.ltp ≠ 0 then live_data.ltp else live_data.sltp
  match live_data.atmiv with
  | some current_iv =>
      if 0 < current_spot ∧ 0 < current_iv then some (current_spot, current_iv) else none
  | none => none

def TrackedPosition.given (position : TrackedPosition Date) : Given where
  legs := position.legs
  entry_metrics := position.entry_metrics
  entry_atm_iv := position.entry_atm_iv
  expiry := position.expiry
  current_pnl := position.current_pnl

/-- `entry_metrics.get("max_profit", 0) if entry_metrics else 0`. -/
def TrackedPosition.max_profit (position : TrackedPosition Date) : Result ℚ :=
  match position.entry_metrics with
  | some metrics => if metrics.isEmpty then .ok 0 else number metrics "max_profit"
  | none => .ok 0

/-- The P&L of the metrics, if they are there and have one. -/
def simulated_pnl (metrics : Option Metrics) : Option ℚ :=
  (metrics.bind (·.simulated)).map (·.pnl)

/-- Update the position with the latest metrics. -/
def update_metrics (position : TrackedPosition Date) (metrics : Option Metrics) :
    Result (TrackedPosition Date) :=
  match metrics with
  | none => .ok position
  | some _ => do
      let current_pnl := (simulated_pnl metrics).or position.current_pnl
      let max_profit ← position.max_profit
      if 0 < max_profit then
        match current_pnl with
        | some pnl =>
            .ok { position with
              current_pnl
              current_pnl_pct := pnl / max_profit * 100 }
        | none => .error .typeError
      else .ok { position with current_pnl }

def undismissed (alerts : List StoredAlert) : List StoredAlert :=
  alerts.filter (fun stored => !stored.is_dismissed)

/-- `severity in ["warning", "critical"]`. -/
def is_persisted (alert : PositionAlert) : Bool :=
  alert.severity = .WARNING || alert.severity = .CRITICAL

/-- The alerts to store: those whose message no alert has that is not dismissed.  The
messages are collected before the loop. -/
def new_alerts (existing : List StoredAlert) (raised : List PositionAlert) :
    List PositionAlert :=
  let existing_alert_messages := (undismissed existing).map (·.alert.message)
  (raised.filter is_persisted).filter (fun alert => alert.message ∉ existing_alert_messages)

def store_alerts (existing : List StoredAlert) (raised : List PositionAlert)
    (current_spot current_iv : ℚ) : List StoredAlert :=
  existing ++ (new_alerts existing raised).map (fun alert =>
    ⟨alert, current_spot, current_iv, false⟩)

/-! ## Runs -/

/-- A position, its alerts, and every P&L that it has had. -/
structure State (Date : Type) where
  position : TrackedPosition Date
  alerts : List StoredAlert
  recorded : List ℚ

/-- The position and its alerts after a request. -/
def State.record (state : State Date) (position : TrackedPosition Date)
    (alerts : List StoredAlert) : State Date where
  position
  alerts
  recorded := position.current_pnl.toList ++ state.recorded

/-- The live data is none when it cannot be fetched or read.  The rest of an analysis,
the suggestions of adjustments, the snapshot and the commit, returns or raises.  No route
dismisses an alert. -/
inductive Request (Date : Type) where
  | create (request : CreatePositionRequest) (live_data : Option LiveData)
  | update (request : UpdatePositionRequest) (utcnow : Date)
  | analyze (live_data : Option LiveData) (now : Date) (returns : Bool)
  | dismiss (index : ℕ)

section Step

variable (engine : Engine Date)

def State.analyze (state : State Date) (live_data : Option LiveData) (now : Date) :
    Option (State Date) :=
  match live_data.bind market with
  | none => some state
  | some (current_spot, current_iv) => do
      let found ← (analyze_position engine state.position.given current_spot current_iv
        now).toOption
      let position ← (update_metrics state.position found.current_metrics).toOption
      some (state.record position
        (store_alerts state.alerts found.alerts current_spot current_iv))

def State.dismiss (state : State Date) (index : ℕ) : State Date :=
  { state with
    alerts := state.alerts.modify index (fun stored => { stored with is_dismissed := true }) }

/-- The state after a request on a position. -/
def State.perform (state : State Date) : Request Date → Option (State Date)
  | .create .. => none
  | .update request utcnow =>
      some (((update_position state.position request utcnow).map (fun position =>
        state.record position state.alerts)).getD state)
  | .analyze live_data now returns =>
      some (if returns then (state.analyze engine live_data now).getD state else state)
  | .dismiss index => some (state.dismiss index)

/-- The first request creates the position. -/
def step (tracked : Option (State Date)) (request : Request Date) :
    Option (Option (State Date)) :=
  match tracked, request with
  | none, .create request live_data =>
      let position : TrackedPosition Date := create_position request live_data
      some (some ⟨position, [], position.current_pnl.toList⟩)
  | none, _ => none
  | some state, request => (state.perform engine request).map some

def system : System (Option (State Date)) (Request Date) := ⟨none, step engine⟩

/-! ## What a request does -/

/-- A request leaves the state as it is, or it does one of these. -/
inductive Effect (state : State Date) : Request Date → State Date → Prop where
  | kept {request : Request Date} : Effect state request state
  | updated {request : UpdatePositionRequest} {utcnow : Date}
      {position : TrackedPosition Date} :
      update_position state.position request utcnow = some position →
      Effect state (.update request utcnow) (state.record position state.alerts)
  | analyzed {live_data : Option LiveData} {now : Date} {current_spot current_iv : ℚ}
      {found : Analysis} {position : TrackedPosition Date} :
      live_data.bind market = some (current_spot, current_iv) →
      analyze_position engine state.position.given current_spot current_iv now = .ok found →
      update_metrics state.position found.current_metrics = .ok position →
      Effect state (.analyze live_data now true)
        (state.record position
          (store_alerts state.alerts found.alerts current_spot current_iv))
  | dismissed (index : ℕ) : Effect state (.dismiss index) (state.dismiss index)

theorem effect_of_perform {state after : State Date} {request : Request Date}
    (performed : state.perform engine request = some after) :
    Effect engine state request after := by
  cases request with
  | create => cases performed
  | update request utcnow =>
      obtain rfl := Option.some.inj performed
      cases accepted : update_position state.position request utcnow with
      | none => exact .kept
      | some position => exact .updated accepted
  | analyze live_data now returns =>
      obtain rfl := Option.some.inj performed
      cases returns with
      | false => exact .kept
      | true =>
          rw [if_pos rfl]
          cases analyzed : state.analyze engine live_data now with
          | none => exact .kept
          | some after =>
              unfold State.analyze at analyzed
              split at analyzed
              · obtain rfl := Option.some.inj analyzed
                exact .kept
              · rename_i current_spot current_iv opened
                obtain ⟨found, ran, analyzed⟩ := Option.bind_eq_some_iff.mp analyzed
                obtain ⟨position, updated, analyzed⟩ := Option.bind_eq_some_iff.mp analyzed
                obtain rfl := Option.some.inj analyzed
                exact .analyzed opened (Py.toOption_eq_some.mp ran)
                  (Py.toOption_eq_some.mp updated)
  | dismiss index =>
      obtain rfl := Option.some.inj performed
      exact .dismissed index

/-- What holds of a new position and is preserved by each effect holds in every state. -/
theorem invariant_of_effects {allowed : Option (State Date) → Request Date → Prop}
    {I : State Date → Prop}
    (created : ∀ (request : CreatePositionRequest) (live_data : Option LiveData),
      I ⟨create_position request live_data, [], [0]⟩)
    (preserved : ∀ state request after, I state → allowed (some state) request →
      Effect engine state request after → I after)
    {tracked : Option (State Date)} (reached : ReachedBy (system engine) allowed tracked) :
    ∀ state ∈ tracked, I state := by
  apply reached.invariant
  · intro state none
    cases none
  · intro before request after held meets taken state member
    obtain rfl := Option.mem_def.mp member
    cases before with
    | none =>
        cases request with
        | create request live_data =>
            obtain rfl := Option.some.inj (Option.some.inj taken)
            exact created request live_data
        | update => cases taken
        | analyze => cases taken
        | dismiss => cases taken
    | some before =>
        obtain ⟨after, performed, same⟩ := Option.map_eq_some_iff.mp taken
        obtain rfl := Option.some.inj same
        exact preserved before request _ (held before rfl) meets
          (effect_of_perform engine performed)

/-- A computed run that ends in a position with a property. -/
theorem exists_state_of_run (allowed : Option (State Date) → Request Date → Prop)
    [∀ tracked request, Decidable (allowed tracked request)]
    (P : State Date → Prop) [DecidablePred P] (requests : List (Request Date))
    (checked : ((system engine).run allowed none requests).any
      (fun tracked => decide (∃ state ∈ tracked, P state)) = true) :
    ∃ state, ReachedBy (system engine) allowed (some state) ∧ P state := by
  obtain ⟨tracked, reached, state, member, property⟩ :=
    ReachedBy.exists_of_run (system engine) allowed (fun tracked => ∃ state ∈ tracked, P state)
      requests checked
  exact ⟨state, Option.mem_def.mp member ▸ reached, property⟩

end Step

/-! ### A call that expires on 27 February

A date is a day of February 2025.  Only an expiry in the ISO format can be simulated; the
routes' own example has another one. -/

def february : Engine ℕ where
  config := {}
  sim :=
    { functions := ⟨id, id, id, id, id, 3⟩
      risk_free_rate := 7 / 100
      total_seconds := fun expiry day =>
        if expiry = "2025-02-27" then some ((27 - day) * 86400) else none
      gauss := fun _ _ => 0 }
  days_to _ day := some (27 - day)
  text := Py.Exact.fixed 1

def february_call (expiry : String) : CreatePositionRequest where
  legs := [⟨100, "CE", "BUY", 1, 1, 5⟩]
  expiry
  entry_spot := some 100
  entry_atm_iv := some 15
  entry_metrics := some [("max_profit", .int 20), ("max_loss", .int 5)]

end HftEngine.Backend.Positions
