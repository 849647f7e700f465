import HftEngine.Backend.ChartOfAccuracy
import HftEngine.Backend.LiveData

/-!
# The routes to the chart of accuracy

The COA endpoint and the analysis of a position, which both give live data to
`ChartOfAccuracyService.analyze`.  Numbers are read exactly; one that is not
finite counts as unreadable.
-/

namespace HftEngine.Backend

open Py Binary64

namespace CoaRoutes

open ChartOfAccuracy

/-! ## Reading -/

def get_exact (data : Value) (key : String) : Result ℚ := do
  exact (← data.get key (.int 0))

/-- `data.get(key, 0) or data.get(other, 0)`. -/
def get_either (data : Value) (key other : String) : Result ℚ := do
  exact ((← data.get key (.int 0)).or (← data.get other (.int 0)))

/-! ## The COA endpoint -/

/-- What the endpoint makes of a leg, if there is one; the percentages that it
sets are replaced by the service. -/
def leg_option (strike : ℚ) (option_type : OptionType) (leg : Value) :
    Result (List OptionContract) := do
  if leg.truthy then
    .ok
      [{ strike, option_type
         ltp := ← get_exact leg "ltp"
         oi := ← get_exact leg "oi"
         oi_change := ← get_either leg "oi_change" "change_oi"
         volume := ← get_either leg "volume" "vol" }]
  else .ok []

def strike_options (strike_data : Value) : Result (List OptionContract) := do
  let strike_price ← get_exact strike_data "strike"
  let ce ← leg_option strike_price .CE (← strike_data.get "ce" (.dict []))
  let pe ← leg_option strike_price .PE (← strike_data.get "pe" (.dict []))
  .ok (ce ++ pe)

def read_options (oc_data : Dict) : Result (List OptionContract) := do
  .ok (← oc_data.mapM (fun entry => strike_options entry.2)).flatten

def default_step (symbol : String) : ℚ :=
  if symbol.toUpper = "BANKNIFTY" then 100
  else 50

/-- A call above the spot or a put below it. -/
def is_otm (spot_price : ℚ) (o : OptionContract) : Prop :=
  (o.option_type = .CE ∧ spot_price < o.strike) ∨
    (o.option_type = .PE ∧ o.strike < spot_price)

instance (spot_price : ℚ) (o : OptionContract) : Decidable (is_otm spot_price o) :=
  inferInstanceAs (Decidable (_ ∨ _))

/-- The calls and then the puts that are out of the money and within ten steps
of a strike. -/
def otm_within (spot_price atm_strike step_size : ℚ) (options : List OptionContract) :
    List OptionContract :=
  let visible_options := filtered_options atm_strike step_size 10 options
  (side_options .CE visible_options).filter (fun o => is_otm spot_price o) ++
    (side_options .PE visible_options).filter (fun o => is_otm spot_price o)

inductive Failure where
  | not_found
  | failed (error : Error)
  deriving DecidableEq

def unless_raised {α : Type} : Result α → Except Failure α
  | .ok a => .ok a
  | .error e => .error (.failed e)

structure CoaInput where
  options : List OptionContract
  spot_price : ℚ
  atm_strike : ℚ
  step_size : ℚ
  deriving DecidableEq

/-- What the endpoint passes to `analyze`. -/
def coa_input (symbol : String) (live_data : Dict) : Except Failure CoaInput := do
  let spot_price ← unless_raised
    (get_exact (Dict.get live_data "spot" (.dict [])) "ltp")
  let atm_strike ← unless_raised (exact (Dict.get live_data "atm" (.int 0)))
  let oc_data := LiveData.result_oc live_data
  if spot_price ≤ 0 ∨ oc_data = [] then .error .not_found
  else
    let options ← unless_raised (read_options oc_data)
    let step_size := default_step symbol
    .ok
      { options := otm_within spot_price atm_strike step_size options
        spot_price, atm_strike, step_size }

/-- The response of the endpoint, with the service's threshold of 75. -/
def get_chart_of_accuracy (symbol : String) (live_data : Dict) :
    Except Failure Analysis := do
  let input ← coa_input symbol live_data
  .ok (analyze 75 input.options input.spot_price input.atm_strike input.step_size 10)

/-! ## The analysis of a position -/

structure MarketContext where
  scenario_id : ScenarioId
  scenario_name : String
  bias : Bias
  support_strength : Strength
  resistance_strength : Strength
  deriving DecidableEq

/-- An option as `analyze` reads it; one of another type is passed by. -/
def read_contract (o : Value) : Result (Option OptionContract) := do
  let strike ← get_exact o "strike"
  let contract (option_type : OptionType) : Result (Option OptionContract) := do
    .ok (some
      { strike, option_type
        ltp := ← get_exact o "ltp"
        oi := ← get_exact o "oi"
        oi_change := ← get_exact o "oi_change"
        volume := ← get_exact o "volume"
        gamma := ← get_exact o "gamma" })
  match ← o.get "option_type" .null with
  | .str "CE" => contract .CE
  | .str "PE" => contract .PE
  | _ => .ok none

/-- `analyze` on whatever it is given. -/
def analyze_value (options : Value) (spot_price atm_strike step_size : ℚ) :
    Result Analysis := do
  let items ← options.iterate
  let contracts ← items.mapM read_contract
  .ok (analyze 75 contracts.reduceOption spot_price atm_strike step_size 10)

/-- The market context of the snapshot, which stays empty when the analysis
raises. -/
def market_context (live_data : Dict) (entry_metrics current_spot : Value) :
    Option MarketContext :=
  let option_chain := Dict.get live_data "oc" (.list [])
  if option_chain.truthy then
    let coa_result : Result Analysis := do
      let atm_strike ← entry_metrics.get "atm_strike" current_spot
      analyze_value option_chain (← exact current_spot) (← exact atm_strike) 50
    coa_result.toOption.map (fun coa_result =>
      { scenario_id := coa_result.scenario.id
        scenario_name := coa_result.scenario.name
        bias := coa_result.scenario.bias
        support_strength := coa_result.support.strength
        resistance_strength := coa_result.resistance.strength })
  else none

/-! ## The window of the endpoint -/

theorem otm_within_eq (spot_price atm_strike step_size : ℚ)
    (options : List OptionContract) :
    otm_within spot_price atm_strike step_size options =
      options.filter (fun o => o.option_type = .CE ∧ is_otm spot_price o ∧
          in_range atm_strike step_size 10 o.strike) ++
        options.filter (fun o => o.option_type = .PE ∧ is_otm spot_price o ∧
          in_range atm_strike step_size 10 o.strike) := by
  simp only [otm_within, filtered_options, side_options, List.filter_filter]
  congr 1 <;>
  · apply List.filter_congr
    intro o _
    simp only [Bool.decide_and]
    ac_rfl

theorem mem_otm_within {spot_price atm_strike step_size : ℚ}
    {options : List OptionContract} {o : OptionContract} :
    o ∈ otm_within spot_price atm_strike step_size options ↔
      o ∈ options ∧ is_otm spot_price o ∧ in_range atm_strike step_size 10 o.strike := by
  rw [otm_within_eq, List.mem_append, List.mem_filter, List.mem_filter]
  cases kind : o.option_type with
  | CE => simp
  | PE => simp

/-- Two windows select the same options when the same options out of the money
lie in them. -/
theorem otm_within_eq_iff {spot_price atm_strike step_size other_strike other_step : ℚ}
    {options : List OptionContract} :
    otm_within spot_price atm_strike step_size options =
        otm_within spot_price other_strike other_step options ↔
      ∀ o ∈ options, is_otm spot_price o →
        (in_range atm_strike step_size 10 o.strike ↔
          in_range other_strike other_step 10 o.strike) := by
  constructor
  · intro same o member otm
    have first : o ∈ otm_within spot_price atm_strike step_size options ↔
        o ∈ otm_within spot_price other_strike other_step options := by rw [same]
    simpa [mem_otm_within, member, otm] using first
  · intro windows
    rw [otm_within_eq, otm_within_eq]
    congr 1 <;>
    · apply List.filter_congr
      intro o member
      apply decide_eq_decide.mpr
      apply and_congr_right
      intro _
      exact and_congr_right (windows o member)

/-- What is read of live data. -/
structure Readable (live_data : Dict) (spot_price atm_strike : ℚ)
    (options : List OptionContract) : Prop where
  spot_price : get_exact (Dict.get live_data "spot" (.dict [])) "ltp" = .ok spot_price
  atm_strike : exact (Dict.get live_data "atm_strike" (.int 0)) = .ok atm_strike
  options : read_options (LiveData.result_oc live_data) = .ok options

section Endpoint

variable {services : LiveData.Services} {request : LiveData.Request}
  {chain_data oc live_data : Dict}

/-- Live data has no entry `atm`. -/
theorem atm_missing
    (returned : get_live_data services request chain_data oc = .ok live_data) :
    exact (Dict.get live_data "atm" (.int 0)) = .ok 0 := by
  obtain ⟨_, _, _, -, -, -, -, -, -, missing⟩ := LiveData.get_live_data_ok returned
  rw [Dict.get, missing]
  rfl

theorem coa_input_ok
    (returned : get_live_data services request chain_data oc = .ok live_data)
    {spot_price : ℚ} {options : List OptionContract}
    (spot : get_exact (Dict.get live_data "spot" (.dict [])) "ltp" = .ok spot_price)
    (read : read_options (LiveData.result_oc live_data) = .ok options)
    (positive : 0 < spot_price) (strikes : LiveData.result_oc live_data ≠ [])
    (symbol : String) :
    coa_input symbol live_data = .ok
      { options := otm_within spot_price 0 (default_step symbol) options
        spot_price
        atm_strike := 0
        step_size := default_step symbol } := by
  have answered : ¬ (spot_price ≤ 0 ∨ LiveData.result_oc live_data = []) := by
    simp [positive, strikes]
  rw [coa_input, spot, atm_missing returned]
  simp only [unless_raised, bind, Except.bind, if_neg answered, read]

end Endpoint

/-! ### Two strikes near a spot of 26010 -/

def near_spot : Dict × Dict :=
  ([("spot", .dict [("ltp", .float 26010)])],
   [("26000.0", .dict [("ce", .dict []), ("pe", .dict [])]),
    ("26050.0", .dict [("ce", .dict []), ("pe", .dict [])])])

def near_live_data : Dict :=
  (get_live_data LiveData.plain_services LiveData.bare_request near_spot.1
    near_spot.2).toOption.getD []

def near_options : List OptionContract :=
  [{ strike := 26000, option_type := .CE }, { strike := 26000, option_type := .PE },
   { strike := 26050, option_type := .CE }, { strike := 26050, option_type := .PE }]

theorem ok_getD {result : Result Dict} (answered : result.isOk = true) :
    result = .ok (result.toOption.getD []) := by
  obtain ⟨live_data, rfl⟩ := isOk_iff.mp answered
  rfl

theorem near_readable : Readable near_live_data 26010 26000 near_options where
  spot_price := by with_unfolding_all decide
  atm_strike := by with_unfolding_all decide
  options := by with_unfolding_all decide

/-- `analyze` looks for the strike of a key, which is a text. -/
theorem analyze_value_dict {entry : String × Value} {entries : Dict}
    (spot_price atm_strike step_size : ℚ) :
    analyze_value (.dict (entry :: entries)) spot_price atm_strike step_size =
      .error .attributeError := by
  rw [analyze_value, Value.iterate, List.map_cons]
  simp only [bind, Except.bind, List.mapM_cons]
  rfl

theorem market_context_dict {live_data entries : Dict}
    (chain : lookup? "oc" live_data = some (.dict entries))
    (entry_metrics current_spot : Value) :
    market_context live_data entry_metrics current_spot = none := by
  rw [market_context, Dict.get, chain, Option.getD_some]
  cases entries with
  | nil => rfl
  | cons entry entries =>
      have raises : ∀ spot atm,
          analyze_value (.dict (entry :: entries)) spot atm 50 =
            .error .attributeError :=
        fun spot atm => analyze_value_dict spot atm 50
      simp only [raises]
      cases entry_metrics.get "atm_strike" current_spot with
      | error e => rfl
      | ok atm =>
          cases exact current_spot with
          | error e => simp [bind, Except.bind, Except.toOption]
          | ok spot_price =>
              cases strike : exact atm with
              | error e => simp [bind, Except.bind, strike, Except.toOption]
              | ok atm_strike => simp [bind, Except.bind, strike, Except.toOption]

/-- The scenario that a route shows. -/
abbrev Scenario := ScenarioId × String × Bias

def captured_scenario (live_data : Dict) (entry_metrics current_spot : Value) :
    Option Scenario :=
  (market_context live_data entry_metrics current_spot).map (fun captured =>
    (captured.scenario_id, captured.scenario_name, captured.bias))

def returned_scenario (symbol : String) (live_data : Dict) : Option Scenario :=
  (get_chart_of_accuracy symbol live_data).toOption.map (fun response =>
    (response.scenario.id, response.scenario.name, response.scenario.bias))

/-- The two requests for live data. -/
def position_request (symbol expiry : String) : LiveData.Request where
  symbol
  expiry
  include_greeks := true
  include_reversal := true
  include_profiles := true

def coa_request (symbol expiry : String) : LiveData.Request where
  symbol
  expiry
  include_greeks := false
  include_reversal := false
  include_profiles := false

/-- The endpoint has nothing to analyze: no spot above 0, no strikes, or a
number that cannot be read. -/
def Refused (live_data : Dict) : Prop :=
  (∀ spot_price, get_exact (Dict.get live_data "spot" (.dict [])) "ltp" =
      .ok spot_price → spot_price ≤ 0) ∨
    LiveData.result_oc live_data = [] ∨
    ∀ options, read_options (LiveData.result_oc live_data) ≠ .ok options

section Scenarios

variable {services : LiveData.Services} {symbol expiry : String}
  {chain_data oc live_data coa_data : Dict}

theorem returned_scenario_none_iff
    (returned : get_live_data services (coa_request symbol expiry) chain_data oc =
      .ok coa_data) :
    returned_scenario symbol coa_data = none ↔ Refused coa_data := by
  constructor
  · intro absent
    by_contra accepted
    simp only [Refused, not_or, not_forall, not_not] at accepted
    obtain ⟨⟨spot_price, spot, positive⟩, strikes, options, read⟩ := accepted
    have input := coa_input_ok returned spot read (not_le.mp positive) strikes symbol
    rw [returned_scenario, get_chart_of_accuracy, input] at absent
    contradiction
  · intro refused
    have atm := atm_missing returned
    rw [returned_scenario, get_chart_of_accuracy, coa_input, atm]
    cases spot : get_exact (Dict.get coa_data "spot" (.dict [])) "ltp" with
    | error e => rfl
    | ok spot_price =>
        by_cases stopped : spot_price ≤ 0 ∨ LiveData.result_oc coa_data = []
        · simp [unless_raised, bind, Except.bind, stopped, Except.toOption]
        · rcases refused with low | empty | unread
          · exact absurd (.inl (low spot_price spot)) stopped
          · exact absurd (.inr empty) stopped
          · cases read : read_options (LiveData.result_oc coa_data) with
            | error e =>
                simp [unless_raised, bind, Except.bind, stopped, read, Except.toOption]
            | ok options => exact absurd read (unread options)

end Scenarios

/-! ### Two strikes about a spot of 100 -/

def low_spot : Dict × Dict :=
  ([("spot", .dict [("ltp", .float 100)])],
   [("90.0", .dict [("ce", .dict []), ("pe", .dict [("oi", .int 40)])]),
    ("110.0", .dict [("ce", .dict [("oi", .int 40)]), ("pe", .dict [])])])

def low_live_data (request : LiveData.Request) : Dict :=
  (get_live_data LiveData.plain_services request low_spot.1 low_spot.2).toOption.getD []

end CoaRoutes

end HftEngine.Backend
