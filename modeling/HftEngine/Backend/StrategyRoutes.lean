import HftEngine.Backend.LegOptimizer.Strategies
import HftEngine.Backend.LiveData

/-!
# The routes to a strategy

`/strategies/optimize` and `/strategies/auto-generate`, which both give live data to
`LegOptimizer.optimize`.  The texts of names, rationales and messages are left out.
-/

namespace HftEngine.Backend

namespace StrategyRoutes

open ChartOfAccuracy (OptionType)
open StrategySimulation (Action Greeks Service)
open LegOptimizer
open Py Py.Exact

/-! ## Requests and responses -/

structure OptimizeRequest where
  strategy_type : String
  symbol : String
  expiry : String
  risk_profile : String
  max_capital : ℚ

structure AutoGenerateRequest where
  symbol : String
  risk_profile : String
  max_capital : ℚ
  strategy_type : Option String
  expiry : Option String
  include_calendar_spread : Bool

inductive Failure where
  | invalid_strategy_type
  | invalid_risk_profile
  | no_option_chain
  | internal_error
  deriving DecidableEq

structure OptimizeResponse where
  success : Bool
  /-- A leg also shows its `total_qty` and `premium_value`. -/
  structures : List OptimizedStructure
  deriving DecidableEq

/-- A leg of either kind that `/auto-generate` shows. -/
structure AutoLeg where
  strike : ℚ
  option_type : OptionType
  action : Action
  qty : ℤ
  /-- None for what is no number, as for `dte`. -/
  lot_size : Option ℚ
  ltp : ℚ
  iv : ℚ
  dte : Option ℚ
  expiry : String
  expiry_label : Option String := none
  total_qty : Option ℚ := none
  premium_value : Option ℚ := none
  greeks : Option Greeks := none
  deriving DecidableEq

inductive IvRegime where
  | Low
  | Normal
  | High
  | Unknown
  deriving DecidableEq

inductive Sentiment where
  | Bullish
  | Bearish
  | Neutral
  | Unknown
  deriving DecidableEq

structure AutoContext where
  spot_price : ℚ
  atm_strike : Value
  atm_iv : ℚ
  iv_percentile : ℚ
  pcr : ℚ
  dte : Value
  lot_size : Value
  near_expiry : String
  far_expiry : Option String
  deriving DecidableEq

structure AutoGenerateResponse where
  success : Bool
  strategy_type : String
  iv_regime : IvRegime
  sentiment : Sentiment
  is_calendar_spread : Bool
  legs : List AutoLeg
  metrics : Option StructureMetrics := none
  market_context : Option AutoContext
  confidence : ℚ
  deriving DecidableEq

/-- What the routes depend on. -/
structure Dependencies (Date : Type) where
  services : LiveData.Services
  sim : Service Date
  now : Date
  expiry_dates : Result (List String)
  best_historical : Option String
  /-- Of a spot price, a strike, years, a volatility and a type. -/
  calculate_all_greeks : ℚ → ℚ → ℚ → ℚ → String → Option Greeks

/-- A result, or a failure where there is none. -/
def orElse {α : Type} (failure : Failure) : Option α → Except Failure α
  | some a => .ok a
  | none => .error failure

/-! ## Reading the chain -/

/-- The entries of an option, with the entries of a leg that they are taken from. -/
abbrev FieldNames := List (String × String × ℤ)

def OPTIMIZE_FIELDS : FieldNames :=
  [("ltp", "ltp", 0), ("oi", "oi", 0), ("oi_chng", "oi_chng", 0), ("volume", "vol", 0),
   ("iv", "iv", 15), ("delta", "delta", 0), ("gamma", "gamma", 0),
   ("theta", "theta", 0), ("vega", "vega", 0), ("oi_pct", "oi_pct", 0)]

def AUTO_FIELDS : FieldNames :=
  [("ltp", "ltp", 0), ("oi", "oi", 0), ("iv", "iv", 15), ("delta", "delta", 0),
   ("gamma", "gamma", 0), ("theta", "theta", 0), ("vega", "vega", 0)]

def leg_fields (names : FieldNames) (leg : Value) : Option Dict :=
  names.mapM (fun (key, source, default) => do
    some (key, ← (leg.get source (.int default)).toOption))

def leg_key : OptionType → String
  | .CE => "ce"
  | .PE => "pe"

/-- The option of a leg, if the entry has it. -/
def leg_option (names : FieldNames) (strike : ℚ) (data : Value)
    (option_type : OptionType) : Option (List ChainOption) := do
  if ← (data.contains (leg_key option_type)).toOption then
    let leg ← (data.getItem (leg_key option_type)).toOption
    some [{ strike, option_type, fields := ← leg_fields names leg }]
  else some []

def strike_options (names : FieldNames) (entry : String × Value) :
    Option (List ChainOption) := do
  let strike ← number? (.float (← (Value.str entry.1).toFloat.toOption))
  let ce ← leg_option names strike entry.2 .CE
  let pe ← leg_option names strike entry.2 .PE
  some (ce ++ pe)

def option_chain (names : FieldNames) (oc : Dict) : Option (List ChainOption) := do
  some (← oc.mapM (strike_options names)).flatten

def step_size (symbol : String) : ℚ :=
  if symbol.toUpper = "NIFTY" then 50 else 100

def chain_request (symbol expiry : String) (include_greeks : Bool) :
    LiveData.Request where
  symbol
  expiry
  include_greeks
  include_reversal := false
  include_profiles := false

section Routes

variable {Date : Type} (backend : Dependencies Date) (chain_data oc : Dict)

/-! ## `/strategies/optimize` -/

def optimize_arguments (request : OptimizeRequest) (risk_profile : RiskProfile)
    (live_data live_oc : Dict) : Option Arguments := do
  some
    { option_chain := ← option_chain OPTIMIZE_FIELDS live_oc
      spot_price := ← number? (Dict.get live_data "sltp" (.int 0))
      atm_strike := ← number? (Dict.get live_data "atm_strike" (.int 0))
      expiry := request.expiry
      lot_size := ← number? (Dict.get live_data "lot_size" (.int 75))
      risk_profile
      max_capital := request.max_capital
      step_size := step_size request.symbol }

/-- The response to structures, whose lot sizes have to be whole. -/
def optimize_response (structures : List OptimizedStructure) :
    Except Failure OptimizeResponse :=
  if structures = [] then .ok { success := false, structures := [] }
  else if ∀ s ∈ structures, ∀ leg ∈ s.legs, leg.lot_size.isInt = true then
    .ok { success := true, structures }
  else .error .internal_error

def optimize_strategy (request : OptimizeRequest) : Except Failure OptimizeResponse := do
  let strategy_type ← orElse .invalid_strategy_type
    (StrategyType.of? request.strategy_type.toLower)
  let risk_profile ← orElse .invalid_risk_profile
    (RiskProfile.of? request.risk_profile.toLower)
  let live_data ← orElse .internal_error
    (get_live_data backend.services (chain_request request.symbol request.expiry true)
      chain_data oc).toOption
  match lookup? "oc" live_data with
  | some (.dict live_oc) => do
      let args ← orElse .internal_error
        (optimize_arguments request risk_profile live_data live_oc)
      let structures ← orElse .internal_error
        (optimize backend.sim backend.now args strategy_type)
      optimize_response structures
  | _ => .error .no_option_chain

/-! ## `/strategies/auto-generate` -/

/-- What is read of live data: three numbers at once, the values where they are used. -/
structure Market where
  spot_price : ℚ
  atm_iv : ℚ
  pcr : ℚ
  atmiv : Value
  atm_strike : Value
  dte : Value
  lot_size : Value

def read_market (live_data : Dict) : Option Market := do
  let ltp ← ((Dict.get live_data "spot" (.dict [])).get "ltp" .null).toOption
  some
    { spot_price := ← number? (ltp.or (Dict.get live_data "sltp" (.int 0)))
      atm_iv := ← number? (Dict.get live_data "atmiv" (.int 15))
      pcr := ← number? (Dict.get live_data "pcr" (.int 1))
      atmiv := Dict.get live_data "atmiv" (.int 15)
      atm_strike := Dict.get live_data "atm_strike" (.int 0)
      dte := Dict.get live_data "dte" (.int 7)
      lot_size := Dict.get live_data "lot_size" (.int 75) }

def Market.iv_percentile (market : Market) : ℚ :=
  min 100 (max 0 ((market.atm_iv - 10) / (35 - 10) * 100))

def Market.iv_regime (market : Market) : IvRegime :=
  if 60 < market.iv_percentile then .High
  else if market.iv_percentile < 40 then .Low
  else .Normal

def Market.sentiment (market : Market) : Sentiment :=
  if 12 / 10 < market.pcr then .Bullish
  else if market.pcr < 8 / 10 then .Bearish
  else .Neutral

/-- `given if given else other`. -/
def given_or (given : Option String) (other : String) : String :=
  match given with
  | some text => if text = "" then other else text
  | none => other

/-- The expiry dates as they are used: the near and the far one. -/
structure Expiries where
  near_expiry : String
  far_expiry : String
  several : Bool

def expiries (request : AutoGenerateRequest) (first : String) (later : List String) :
    Expiries :=
  let near_expiry := given_or request.expiry first
  { near_expiry
    far_expiry := later.head?.getD near_expiry
    several := later ≠ [] }

def use_calendar_spread (request : AutoGenerateRequest) (market : Market)
    (dates : Expiries) : Bool :=
  request.include_calendar_spread && market.iv_regime = .High && dates.several &&
    dates.near_expiry ≠ dates.far_expiry

def selected_strategy (request : AutoGenerateRequest) (market : Market) (calendar : Bool) :
    String :=
  given_or request.strategy_type
    (if calendar then "calendar_spread"
    else
      match recommend_strategies backend.best_historical market.iv_percentile market.pcr with
      | recommended :: _ => recommended.value
      | [] => "iron_condor")

/-- A call at ATM, sold for the near expiry and bought for the far one. -/
def calendar_legs (market : Market) (dates : Expiries) (live_oc : Dict) :
    Option (List AutoLeg) := do
  let atm_strike ← number? market.atm_strike
  let atm_data := Dict.get live_oc (toString (trunc atm_strike)) (.dict [])
  let ce_data ← (atm_data.get "ce" (.dict [])).toOption
  let near_ce_ltp ← number? (← (ce_data.get "ltp" (.int 0)).toOption)
  let near_ce_iv ← number? (← (ce_data.get "iv" market.atmiv).toOption)
  let dte ← number? market.dte
  let lot_size := number? market.lot_size
  some
    [{ strike := atm_strike, option_type := .CE, action := .SELL
       qty := 1, lot_size, ltp := near_ce_ltp, iv := near_ce_iv, dte := some dte
       expiry := dates.near_expiry, expiry_label := some "Near Term" },
     { strike := atm_strike, option_type := .CE, action := .BUY
       qty := 1, lot_size, ltp := near_ce_ltp * (15 / 10), iv := near_ce_iv * (95 / 100)
       dte := some (dte + 7)
       expiry := dates.far_expiry, expiry_label := some "Far Term" }]

def auto_arguments (request : AutoGenerateRequest) (market : Market)
    (near_expiry : String) (live_oc : Dict) : Option Arguments := do
  some
    { option_chain := ← option_chain AUTO_FIELDS live_oc
      spot_price := market.spot_price
      atm_strike := ← number? market.atm_strike
      expiry := near_expiry
      lot_size := ← number? market.lot_size
      risk_profile := (RiskProfile.of? request.risk_profile.toLower).getD .MODERATE
      max_capital := request.max_capital
      step_size := step_size request.symbol }

/-- The strategy of a text; another text stands for an iron condor. -/
def strategy_of (selected : String) : StrategyType :=
  (StrategyType.of? selected.toLower).getD .IRON_CONDOR

def auto_leg (market : Market) (near_expiry : String) (leg : OptimizedLeg) : AutoLeg where
  strike := leg.strike
  option_type := leg.option_type
  action := leg.action
  qty := leg.qty
  lot_size := some leg.lot_size
  ltp := leg.ltp
  iv := leg.iv
  dte := number? market.dte
  expiry := near_expiry
  total_qty := some leg.total_qty
  premium_value := some leg.premium_value

/-- The legs of the best structure and their confidence; there are none when the
optimizer finds none or raises. -/
def optimized_legs (request : AutoGenerateRequest) (market : Market)
    (near_expiry selected : String) (live_oc : Dict) : List AutoLeg × ℚ :=
  let structures := do
    let args ← auto_arguments request market near_expiry live_oc
    optimize backend.sim backend.now args (strategy_of selected)
  match structures with
  | some (best :: _) => (best.legs.map (auto_leg market near_expiry), best.confidence)
  | some [] => ([], 3 / 10)
  | none => ([], 5 / 10)

/-- The leg with Greeks, unless they cannot be calculated. -/
def with_greeks (spot_price : ℚ) (leg : AutoLeg) : AutoLeg :=
  let sigma := if 1 < leg.iv then leg.iv / 100 else leg.iv
  match leg.dte with
  | none => leg
  | some leg_dte =>
      if 0 < sigma then
        match backend.calculate_all_greeks spot_price leg.strike
            (max leg_dte (1 / 1000) / 365) sigma (leg_key leg.option_type) with
        | some greeks => { leg with greeks := some greeks }
        | none => leg
      else leg

/-- The response without market data. -/
def no_data (strategy_type : String) : AutoGenerateResponse where
  success := false
  strategy_type
  iv_regime := .Unknown
  sentiment := .Unknown
  is_calendar_spread := false
  legs := []
  market_context := none
  confidence := 0

/-- The legs of the request and their confidence. -/
def generated_legs (request : AutoGenerateRequest) (market : Market) (dates : Expiries)
    (live_oc : Dict) : Except Failure (List AutoLeg × ℚ) :=
  let calendar := use_calendar_spread request market dates
  if calendar then do
    let legs ← orElse .internal_error (calendar_legs market dates live_oc)
    .ok (legs, 75 / 100)
  else
    .ok (optimized_legs backend request market dates.near_expiry
      (selected_strategy backend request market calendar) live_oc)

def generated_response (request : AutoGenerateRequest) (market : Market)
    (dates : Expiries) (legs : List AutoLeg) (confidence : ℚ) : AutoGenerateResponse :=
  let calendar := use_calendar_spread request market dates
  { success := true
    strategy_type := selected_strategy backend request market calendar
    iv_regime := market.iv_regime
    sentiment := market.sentiment
    is_calendar_spread := calendar
    legs := legs.map (with_greeks backend market.spot_price)
    market_context := some
      { spot_price := market.spot_price
        atm_strike := market.atm_strike
        atm_iv := market.atm_iv
        iv_percentile := market.iv_percentile
        pcr := market.pcr
        dte := market.dte
        lot_size := market.lot_size
        near_expiry := dates.near_expiry
        far_expiry := if calendar then some dates.far_expiry else none }
    confidence }

def auto_generate_strategy (request : AutoGenerateRequest) :
    Except Failure AutoGenerateResponse := do
  let expiry_list ← orElse .internal_error backend.expiry_dates.toOption
  match expiry_list with
  | [] => .ok (no_data "none")
  | first :: later => do
      let dates := expiries request first later
      let live_data ← orElse .internal_error
        (get_live_data backend.services
          (chain_request request.symbol dates.near_expiry false) chain_data oc).toOption
      match lookup? "oc" live_data with
      | some (.dict live_oc) => do
          let market ← orElse .internal_error (read_market live_data)
          if market.spot_price ≤ 0 then .ok (no_data "none")
          else
            let (legs, confidence) ← generated_legs backend request market dates live_oc
            .ok (generated_response backend request market dates legs confidence)
      | _ => .ok (no_data "none")

end Routes

/-! ## Agreement -/

/-- What a leg has on both routes. -/
structure Shape where
  strike : ℚ
  option_type : OptionType
  action : Action
  qty : ℤ
  lot_size : Option ℚ
  deriving DecidableEq

/-- A structure with its metrics, as a route shows it. -/
structure Offer where
  legs : List Shape
  metrics : Option StructureMetrics
  deriving DecidableEq

def optimized_shape (leg : OptimizedLeg) : Shape :=
  ⟨leg.strike, leg.option_type, leg.action, leg.qty, some leg.lot_size⟩

def auto_shape (leg : AutoLeg) : Shape :=
  ⟨leg.strike, leg.option_type, leg.action, leg.qty, leg.lot_size⟩

/-- The best structure of `/strategies/optimize`, if there is one. -/
def optimize_offer (answer : Except Failure OptimizeResponse) : Option Offer :=
  match answer with
  | .ok response =>
      response.structures.head?.map (fun best =>
        { legs := best.legs.map optimized_shape, metrics := some best.metrics })
  | .error _ => none

/-- The structure of `/strategies/auto-generate`, if it has legs. -/
def auto_offer (answer : Except Failure AutoGenerateResponse) : Option Offer :=
  match answer with
  | .ok response =>
      if response.legs = [] then none
      else some { legs := response.legs.map auto_shape, metrics := response.metrics }
  | .error _ => none

/-- The request for the same strategy. -/
def same_request (request : OptimizeRequest) (include_calendar_spread : Bool) :
    AutoGenerateRequest where
  symbol := request.symbol
  risk_profile := request.risk_profile
  max_capital := request.max_capital
  strategy_type := some request.strategy_type
  expiry := some request.expiry
  include_calendar_spread

/-- Delta, gamma, theta and vega. -/
abbrev FourGreeks := ℚ × ℚ × ℚ × ℚ

/-- The Greeks that the chain holds for a strike and a type. -/
def chain_greeks (live_oc : Dict) (strike : ℚ) (option_type : OptionType) :
    Option FourGreeks := do
  let entry ← live_oc.find? (fun entry =>
    ((Value.str entry.1).toFloat.toOption.bind (fun x => number? (.float x))) = some strike)
  let leg ← (entry.2.get (leg_key option_type) (.dict [])).toOption
  let optgeeks ← (leg.get "optgeeks" (.dict [])).toOption
  some
    (← number? (← (optgeeks.get "delta" .null).toOption),
     ← number? (← (optgeeks.get "gamma" .null).toOption),
     ← number? (← (optgeeks.get "theta" .null).toOption),
     ← number? (← (optgeeks.get "vega" .null).toOption))

section Agreement

variable {Date : Type} (backend : Dependencies Date) (chain_data oc : Dict)

/-- The live chain with its Greeks. -/
def live_chain (request : OptimizeRequest) : Dict :=
  ((get_live_data backend.services (chain_request request.symbol request.expiry true)
    chain_data oc).toOption.map LiveData.result_oc).getD []

/-- The routes show the same structure with the same metrics, or none, and every leg has
the Greeks of the chain. -/
structure EndpointsAgree (request : OptimizeRequest) (include_calendar_spread : Bool) :
    Prop where
  same : optimize_offer (optimize_strategy backend chain_data oc request) =
    auto_offer (auto_generate_strategy backend chain_data oc
      (same_request request include_calendar_spread))
  optimize_greeks : ∀ response,
    optimize_strategy backend chain_data oc request = .ok response →
    ∀ built ∈ response.structures, ∀ leg ∈ built.legs,
      chain_greeks (live_chain backend chain_data oc request) leg.strike leg.option_type =
        some (leg.delta, leg.gamma, leg.theta, leg.vega)
  auto_greeks : ∀ response,
    auto_generate_strategy backend chain_data oc
      (same_request request include_calendar_spread) = .ok response →
    ∀ leg ∈ response.legs,
      chain_greeks (live_chain backend chain_data oc request) leg.strike leg.option_type =
        leg.greeks.map (fun g => (g.delta, g.gamma, g.theta, g.vega))

/-- `/strategies/optimize` can read the request and the chain, and the optimizer can
build the strategy from them. -/
def OptimizeBuilds (request : OptimizeRequest) : Prop :=
  ∃ strategy_type risk_profile live_data live_oc args,
    StrategyType.of? request.strategy_type.toLower = some strategy_type ∧
    RiskProfile.of? request.risk_profile.toLower = some risk_profile ∧
    get_live_data backend.services (chain_request request.symbol request.expiry true)
      chain_data oc = .ok live_data ∧
    lookup? "oc" live_data = some (.dict live_oc) ∧
    optimize_arguments request risk_profile live_data live_oc = some args ∧
    args.lot_size.isInt = true ∧ Builds args strategy_type

/-- `/strategies/auto-generate` can read the chain, whose spot price is above 0, and has
a calendar spread or a strategy that the optimizer can build. -/
def AutoBuilds (request : AutoGenerateRequest) : Prop :=
  ∃ first later live_data live_oc market, backend.expiry_dates = .ok (first :: later) ∧
    get_live_data backend.services
      (chain_request request.symbol (expiries request first later).near_expiry false)
      chain_data oc = .ok live_data ∧
    lookup? "oc" live_data = some (.dict live_oc) ∧
    read_market live_data = some market ∧ 0 < market.spot_price ∧
    if use_calendar_spread request market (expiries request first later) = true then
      ∃ legs, calendar_legs market (expiries request first later) live_oc = some legs
    else
      ∃ args, auto_arguments request market (expiries request first later).near_expiry
          live_oc = some args ∧
        Builds args (strategy_of (selected_strategy backend request market false))

end Agreement

/-! ### What the routes return -/

theorem orElse_bind_eq_ok {α β : Type} {failure : Failure} {option : Option α}
    {next : α → Except Failure β} {b : β} :
    (orElse failure option >>= next) = .ok b ↔ ∃ a, option = some a ∧ next a = .ok b := by
  cases option <;> simp [orElse, bind, Except.bind]

theorem create_leg_lot_size {qty : ℤ} {lot_size : ℚ} {data : Position × ChainOption}
    {leg : OptimizedLeg} (created : create_leg qty lot_size data = some leg) :
    leg.lot_size = lot_size := by
  simp only [create_leg, Option.bind_eq_bind, Option.bind_eq_some_iff] at created
  obtain ⟨_, -, _, -, _, -, _, -, _, -, _, -, same⟩ := created
  obtain rfl := Option.some.inj same
  rfl

/-- The legs of a structure have the lot size of the chain. -/
theorem built_lot_size {Date : Type} {sim : Service Date} {now : Date} {args : Arguments}
    {strategy_type : StrategyType} {built : OptimizedStructure}
    {rest : List OptimizedStructure}
    (optimized : optimize sim now args strategy_type = some (built :: rest)) :
    ∀ leg ∈ built.legs, leg.lot_size = args.lot_size := by
  obtain ⟨_, _, _, _, _, legs, -, -, -, -, -, created, -, rfl⟩ := optimize_cons optimized
  intro leg member
  obtain ⟨data, -, created⟩ := (Traversal.mem_of_mapM created _).mp member
  exact create_leg_lot_size created

section Returned

variable {Date : Type} {backend : Dependencies Date} {chain_data oc : Dict}

/-- Where a structure of `/strategies/optimize` comes from. -/
theorem optimize_strategy_ok {request : OptimizeRequest} {response : OptimizeResponse}
    {best : OptimizedStructure} {rest : List OptimizedStructure}
    (answered : optimize_strategy backend chain_data oc request = .ok response)
    (shown : response.structures = best :: rest) :
    ∃ strategy_type risk_profile live_data live_oc args,
      StrategyType.of? request.strategy_type.toLower = some strategy_type ∧
      RiskProfile.of? request.risk_profile.toLower = some risk_profile ∧
      get_live_data backend.services (chain_request request.symbol request.expiry true)
        chain_data oc = .ok live_data ∧
      lookup? "oc" live_data = some (.dict live_oc) ∧
      optimize_arguments request risk_profile live_data live_oc = some args ∧
      optimize backend.sim backend.now args strategy_type = some (best :: rest) ∧
      ∀ leg ∈ best.legs, leg.lot_size.isInt = true := by
  simp only [optimize_strategy, orElse_bind_eq_ok, Py.toOption_eq_some] at answered
  obtain ⟨strategy_type, known, risk_profile, profile, live_data, fetched, answered⟩ :=
    answered
  split at answered
  case h_2 => cases answered
  case h_1 live_oc chain =>
      simp only [orElse_bind_eq_ok] at answered
      obtain ⟨args, read, structures, optimized, answered⟩ := answered
      rw [optimize_response] at answered
      split at answered
      case isTrue empty =>
          obtain rfl := Except.ok.inj answered
          cases shown
      case isFalse =>
          split at answered
          case isFalse => cases answered
          case isTrue whole =>
              obtain rfl := Except.ok.inj answered
              obtain rfl : structures = best :: rest := shown
              exact ⟨strategy_type, risk_profile, live_data, live_oc, args, known, profile,
                fetched, chain, read, optimized, whole best List.mem_cons_self⟩

/-- `/strategies/optimize` shows a structure exactly when it can build one. -/
theorem optimize_strategy_iff {request : OptimizeRequest} :
    (∃ response best rest,
      optimize_strategy backend chain_data oc request = .ok response ∧
        response.structures = best :: rest) ↔
      OptimizeBuilds backend chain_data oc request := by
  constructor
  · rintro ⟨response, best, rest, answered, shown⟩
    obtain ⟨strategy_type, risk_profile, live_data, live_oc, args, known, profile, fetched,
      chain, read, optimized, whole⟩ := optimize_strategy_ok answered shown
    refine ⟨strategy_type, risk_profile, live_data, live_oc, args, known, profile, fetched,
      chain, read, ?_, (optimize_iff backend.sim backend.now).mp ⟨_, _, optimized⟩⟩
    obtain ⟨leg, member⟩ := List.exists_mem_of_ne_nil _ (legs_ne_nil optimized)
    rw [← built_lot_size optimized leg member]
    exact whole leg member
  · rintro ⟨strategy_type, risk_profile, live_data, live_oc, args, known, profile, fetched,
      chain, read, whole, builds⟩
    obtain ⟨best, rest, optimized⟩ := (optimize_iff backend.sim backend.now).mpr builds
    obtain ⟨_, _, _, _, _, _, -, -, -, -, -, -, rfl, -⟩ := optimize_cons optimized
    refine ⟨{ success := true, structures := [best] }, best, [], ?_, rfl⟩
    simp only [optimize_strategy, orElse_bind_eq_ok, Py.toOption_eq_some]
    refine ⟨strategy_type, known, risk_profile, profile, live_data, fetched, ?_⟩
    rw [chain]
    simp only [orElse_bind_eq_ok]
    refine ⟨args, read, [best], optimized, ?_⟩
    rw [optimize_response, if_neg (List.cons_ne_nil _ _), if_pos]
    intro built member leg among
    obtain rfl := List.mem_singleton.mp member
    rw [built_lot_size optimized leg among]
    exact whole

variable (backend) in
theorem optimized_legs_ne_nil_iff {request : AutoGenerateRequest} {market : Market}
    {near_expiry selected : String} {live_oc : Dict} :
    (optimized_legs backend request market near_expiry selected live_oc).1 ≠ [] ↔
      ∃ args, auto_arguments request market near_expiry live_oc = some args ∧
        Builds args (strategy_of selected) := by
  unfold optimized_legs
  cases read : auto_arguments request market near_expiry live_oc with
  | none => simp
  | some args =>
      simp only [Option.bind_eq_bind, Option.bind_some, Option.some.injEq,
        exists_eq_left', ← optimize_iff backend.sim backend.now]
      cases optimized : optimize backend.sim backend.now args (strategy_of selected) with
      | none => simp
      | some structures =>
          cases structures with
          | nil => simp
          | cons best rest => simp [legs_ne_nil optimized]

theorem calendar_legs_ne_nil {market : Market} {dates : Expiries} {live_oc : Dict}
    {legs : List AutoLeg} (read : calendar_legs market dates live_oc = some legs) :
    legs ≠ [] := by
  simp only [calendar_legs, Option.bind_eq_bind, Option.bind_eq_some_iff] at read
  obtain ⟨_, -, _, -, _, -, _, -, _, -, _, -, _, -, same⟩ := read
  obtain rfl := Option.some.inj same
  exact List.cons_ne_nil _ _

/-- What `/strategies/auto-generate` returns: an answer without legs or metrics, or what
it generates from a chain. -/
theorem auto_generate_strategy_ok {request : AutoGenerateRequest}
    {response : AutoGenerateResponse}
    (answered : auto_generate_strategy backend chain_data oc request = .ok response) :
    response = no_data "none" ∨
      ∃ first later live_data live_oc market legs confidence,
        backend.expiry_dates = .ok (first :: later) ∧
        get_live_data backend.services
          (chain_request request.symbol (expiries request first later).near_expiry false)
          chain_data oc = .ok live_data ∧
        lookup? "oc" live_data = some (.dict live_oc) ∧
        read_market live_data = some market ∧ 0 < market.spot_price ∧
        generated_legs backend request market (expiries request first later) live_oc =
          .ok (legs, confidence) ∧
        response = generated_response backend request market
          (expiries request first later) legs confidence := by
  simp only [auto_generate_strategy, orElse_bind_eq_ok, Py.toOption_eq_some] at answered
  obtain ⟨expiry_list, listed, answered⟩ := answered
  cases expiry_list with
  | nil => exact .inl (Except.ok.inj answered).symm
  | cons first later =>
      simp only [orElse_bind_eq_ok, Py.toOption_eq_some] at answered
      obtain ⟨live_data, fetched, answered⟩ := answered
      split at answered
      case h_2 => exact .inl (Except.ok.inj answered).symm
      case h_1 live_oc chain =>
          simp only [orElse_bind_eq_ok] at answered
          obtain ⟨market, read, answered⟩ := answered
          split at answered
          case isTrue => exact .inl (Except.ok.inj answered).symm
          case isFalse priced =>
              cases generated : generated_legs backend request market
                  (expiries request first later) live_oc with
              | error failure =>
                  rw [generated] at answered
                  cases answered
              | ok result =>
                  rw [generated] at answered
                  exact .inr ⟨first, later, live_data, live_oc, market, result.1, result.2,
                    listed, fetched, chain, read, not_le.mp priced, generated,
                    (Except.ok.inj answered).symm⟩

/-- The metrics of `/strategies/auto-generate` are never set. -/
theorem auto_metrics {request : AutoGenerateRequest} {response : AutoGenerateResponse}
    (answered : auto_generate_strategy backend chain_data oc request = .ok response) :
    response.metrics = none := by
  rcases auto_generate_strategy_ok answered with
    rfl | ⟨_, _, _, _, _, _, _, -, -, -, -, -, -, rfl⟩
  · rfl
  · rfl

variable (backend) in
theorem generated_legs_iff {request : AutoGenerateRequest} {market : Market}
    {dates : Expiries} {live_oc : Dict} :
    (∃ legs confidence, generated_legs backend request market dates live_oc =
        .ok (legs, confidence) ∧ legs ≠ []) ↔
      if use_calendar_spread request market dates = true then
        ∃ legs, calendar_legs market dates live_oc = some legs
      else
        ∃ args, auto_arguments request market dates.near_expiry live_oc = some args ∧
          Builds args (strategy_of (selected_strategy backend request market false)) := by
  unfold generated_legs
  cases calendar : use_calendar_spread request market dates with
  | true =>
      simp only [if_true, orElse_bind_eq_ok, Except.ok.injEq, Prod.mk.injEq]
      constructor
      · rintro ⟨_, _, ⟨legs, read, -⟩, -⟩
        exact ⟨legs, read⟩
      · rintro ⟨legs, read⟩
        exact ⟨legs, 75 / 100, ⟨legs, read, rfl, rfl⟩, calendar_legs_ne_nil read⟩
  | false =>
      simp only [Bool.false_eq_true, if_false, Except.ok.injEq,
        ← optimized_legs_ne_nil_iff backend]
      constructor
      · rintro ⟨_, _, same, some_leg⟩
        rw [same]
        exact some_leg
      · intro some_leg
        exact ⟨_, _, rfl, some_leg⟩

/-- `/strategies/auto-generate` shows legs exactly when it can build some. -/
theorem auto_generate_strategy_iff {request : AutoGenerateRequest} :
    (∃ response, auto_generate_strategy backend chain_data oc request = .ok response ∧
      response.legs ≠ []) ↔ AutoBuilds backend chain_data oc request := by
  constructor
  · rintro ⟨response, answered, some_leg⟩
    rcases auto_generate_strategy_ok answered with
      rfl | ⟨first, later, live_data, live_oc, market, legs, confidence, listed, fetched,
        chain, read, priced, generated, rfl⟩
    · exact absurd rfl some_leg
    · refine ⟨first, later, live_data, live_oc, market, listed, fetched, chain, read,
        priced, (generated_legs_iff backend).mp ⟨legs, confidence, generated, ?_⟩⟩
      intro none
      exact some_leg (by simp [generated_response, none])
  · rintro ⟨first, later, live_data, live_oc, market, listed, fetched, chain, read, priced,
      builds⟩
    obtain ⟨legs, confidence, generated, some_leg⟩ :=
      (generated_legs_iff backend).mpr builds
    refine ⟨generated_response backend request market (expiries request first later) legs
      confidence, ?_, by simpa [generated_response] using some_leg⟩
    simp only [auto_generate_strategy, orElse_bind_eq_ok, Py.toOption_eq_some]
    refine ⟨first :: later, listed, ?_⟩
    simp only [orElse_bind_eq_ok, Py.toOption_eq_some]
    refine ⟨live_data, fetched, ?_⟩
    rw [chain]
    simp only [orElse_bind_eq_ok]
    refine ⟨market, read, ?_⟩
    rw [if_neg (not_le.mpr priced), generated]
    rfl

/-! ### The offers -/

theorem optimize_offer_iff {request : OptimizeRequest} :
    (∃ offer, optimize_offer (optimize_strategy backend chain_data oc request) =
      some offer) ↔ OptimizeBuilds backend chain_data oc request := by
  rw [← optimize_strategy_iff]
  constructor
  · rintro ⟨offer, offered⟩
    cases answered : optimize_strategy backend chain_data oc request with
    | error failure =>
        rw [answered] at offered
        cases offered
    | ok response =>
        rw [answered] at offered
        obtain ⟨best, first, -⟩ := Option.map_eq_some_iff.mp offered
        obtain ⟨rest, shown⟩ := List.head?_eq_some_iff.mp first
        exact ⟨response, best, rest, rfl, shown⟩
  · rintro ⟨response, best, rest, answered, shown⟩
    rw [answered, optimize_offer, shown]
    exact ⟨_, rfl⟩

theorem auto_offer_iff {request : AutoGenerateRequest} :
    (∃ offer, auto_offer (auto_generate_strategy backend chain_data oc request) =
      some offer) ↔ AutoBuilds backend chain_data oc request := by
  rw [← auto_generate_strategy_iff]
  constructor
  · rintro ⟨offer, offered⟩
    cases answered : auto_generate_strategy backend chain_data oc request with
    | error failure =>
        rw [answered] at offered
        cases offered
    | ok response =>
        refine ⟨response, rfl, ?_⟩
        intro none
        rw [answered, auto_offer, if_pos none] at offered
        cases offered
  · rintro ⟨response, answered, some_leg⟩
    rw [answered, auto_offer, if_neg some_leg]
    exact ⟨_, rfl⟩

theorem optimize_offer_metrics {answer : Except Failure OptimizeResponse} {offer : Offer}
    (offered : optimize_offer answer = some offer) : offer.metrics ≠ none := by
  cases answer with
  | error failure => cases offered
  | ok response =>
      obtain ⟨best, -, rfl⟩ := Option.map_eq_some_iff.mp offered
      exact Option.some_ne_none _

theorem auto_offer_metrics {request : AutoGenerateRequest} {offer : Offer}
    (offered : auto_offer (auto_generate_strategy backend chain_data oc request) =
      some offer) : offer.metrics = none := by
  cases answered : auto_generate_strategy backend chain_data oc request with
  | error failure =>
      rw [answered] at offered
      cases offered
  | ok response =>
      rw [answered, auto_offer] at offered
      split at offered
      case isTrue => cases offered
      case isFalse =>
          obtain rfl := Option.some.inj offered
          exact auto_metrics answered

/-- Without structures there is nothing to disagree about. -/
theorem agree_of_no_offer {request : OptimizeRequest} {include_calendar_spread : Bool}
    (unbuilt : optimize_offer (optimize_strategy backend chain_data oc request) = none)
    (ungenerated : auto_offer (auto_generate_strategy backend chain_data oc
      (same_request request include_calendar_spread)) = none) :
    EndpointsAgree backend chain_data oc request include_calendar_spread where
  same := unbuilt.trans ungenerated.symm
  optimize_greeks := by
    intro response answered built member
    rw [answered] at unbuilt
    have empty := List.head?_eq_none_iff.mp (Option.map_eq_none_iff.mp unbuilt)
    rw [empty] at member
    cases member
  auto_greeks := by
    intro response generated leg member
    rw [generated, auto_offer] at ungenerated
    split at ungenerated
    case isTrue empty =>
        rw [empty] at member
        cases member
    case isFalse => cases ungenerated

theorem sltp_missing {services : LiveData.Services} {request : LiveData.Request}
    {live_data : Dict}
    (returned : get_live_data services request chain_data oc = .ok live_data) :
    lookup? "sltp" live_data = none := by
  simp only [get_live_data, bind_eq_ok] at returned
  obtain ⟨_, -, _, -, _, -, _, -, _, -, _, -, same⟩ := returned
  obtain rfl := Except.ok.inj same
  rfl

theorem number?_zero : number? (.int 0) = some 0 := rfl

/-- The spot price has another name in live data. -/
theorem optimize_spot_price {services : LiveData.Services} {live_request : LiveData.Request}
    {live_data live_oc : Dict} {request : OptimizeRequest} {risk_profile : RiskProfile}
    {args : Arguments}
    (returned : get_live_data services live_request chain_data oc = .ok live_data)
    (read : optimize_arguments request risk_profile live_data live_oc = some args) :
    args.spot_price = 0 := by
  simp only [optimize_arguments, Option.bind_eq_bind, Option.bind_eq_some_iff] at read
  obtain ⟨_, -, spot_price, spot, _, -, _, -, same⟩ := read
  obtain rfl := Option.some.inj same
  rw [Dict.get, sltp_missing returned, Option.getD_none, number?_zero] at spot
  exact (Option.some.inj spot).symm

/-- A short straddle is sized by a margin of 0, so that it is never returned. -/
theorem short_straddle_not_built {request : OptimizeRequest}
    (asked : StrategyType.of? request.strategy_type.toLower = some .SHORT_STRADDLE) :
    ¬ OptimizeBuilds backend chain_data oc request := by
  rintro ⟨strategy_type, risk_profile, live_data, live_oc, args, known, -, fetched, -, read,
    -, context, plan, -, planned, data, credits, -, -, -, risky⟩
  obtain rfl := Option.some.inj (known.symm.trans asked)
  obtain rfl := Option.some.inj planned
  apply risky
  rw [estimated_margin, optimize_spot_price fetched read, zero_mul, zero_mul]

/-- What the option of a leg has, if its Greeks are nested. -/
theorem leg_fields_greeks {leg : Value} {fields : Dict}
    (nested : LiveData.GreeksNested leg)
    (read : leg_fields OPTIMIZE_FIELDS leg = some fields) :
    ∀ greek ∈ ["delta", "gamma", "theta", "vega"],
      Dict.get fields greek (.int 0) = .int 0 := by
  obtain ⟨entries, rfl, missing⟩ := nested
  obtain rfl : OPTIMIZE_FIELDS.map (fun (key, source, default) =>
      (key, Dict.get entries source (.int default))) = fields := Option.some.inj read
  intro greek member
  have copied : Dict.get (OPTIMIZE_FIELDS.map (fun (key, source, default) =>
      (key, Dict.get entries source (.int default)))) greek (.int 0) =
        Dict.get entries greek (.int 0) := by
    simp only [List.mem_cons, List.not_mem_nil, or_false] at member
    rcases member with rfl | rfl | rfl | rfl <;> rfl
  rw [copied, Dict.get, missing greek member, Option.getD_none]

theorem leg_option_greeks {strike : ℚ} {data : Value} {option_type : OptionType}
    {options : List ChainOption}
    (nested : ∀ leg, data.getItem (leg_key option_type) = .ok leg →
      LiveData.GreeksNested leg)
    (read : leg_option OPTIMIZE_FIELDS strike data option_type = some options) :
    ∀ opt ∈ options, ∀ greek ∈ ["delta", "gamma", "theta", "vega"],
      opt.number? greek 0 = some 0 := by
  simp only [leg_option, Option.bind_eq_bind, Option.bind_eq_some_iff] at read
  obtain ⟨has_leg, -, read⟩ := read
  cases has_leg with
  | false =>
      obtain rfl := Option.some.inj read
      simp
  | true =>
      simp only [if_true, Option.bind_eq_some_iff, Py.toOption_eq_some] at read
      obtain ⟨leg, item, fields, named, same⟩ := read
      obtain rfl := Option.some.inj same
      intro opt member greek among
      obtain rfl := List.mem_singleton.mp member
      rw [ChainOption.number?, leg_fields_greeks (nested leg item) named greek among,
        number?_zero]

/-- Every option of the chain that the optimizer receives has Greeks of 0. -/
theorem option_chain_greeks {services : LiveData.Services} {live_request : LiveData.Request}
    {live_data live_oc : Dict} {options : List ChainOption}
    (returned : get_live_data services live_request chain_data oc = .ok live_data)
    (chain : lookup? "oc" live_data = some (.dict live_oc))
    (read : option_chain OPTIMIZE_FIELDS live_oc = some options) :
    ∀ opt ∈ options, ∀ greek ∈ ["delta", "gamma", "theta", "vega"],
      opt.number? greek 0 = some 0 := by
  obtain ⟨_, _, _, -, -, -, -, -, same, -⟩ := LiveData.get_live_data_ok returned
  obtain rfl : LiveData.result_oc live_data = live_oc :=
    Value.dict.inj (Option.some.inj (same.symm.trans chain))
  simp only [option_chain, Option.bind_eq_bind, Option.bind_eq_some_iff] at read
  obtain ⟨parts, mapped, same⟩ := read
  obtain rfl := Option.some.inj same
  intro opt member
  obtain ⟨part, among, inside⟩ := List.mem_flatten.mp member
  obtain ⟨entry, present, parsed⟩ := (Traversal.mem_of_mapM mapped _).mp among
  have nested : ∀ option_type leg, entry.2.getItem (leg_key option_type) = .ok leg →
      LiveData.GreeksNested leg := by
    obtain ⟨kept, held, sides⟩ := LiveData.legs_of_returned returned present
    intro option_type leg item
    have side : leg_key option_type ∈ ["ce", "pe"] := by
      cases option_type <;> simp [leg_key]
    obtain ⟨found, looked, nested⟩ := sides _ side
    rw [held, Value.getItem, looked] at item
    exact Except.ok.inj item ▸ nested
  simp only [strike_options, Option.bind_eq_bind, Option.bind_eq_some_iff] at parsed
  obtain ⟨_, -, strike, -, ce, call, pe, put, same⟩ := parsed
  obtain rfl := Option.some.inj same
  rcases List.mem_append.mp inside with first | second
  · exact leg_option_greeks (nested .CE) call opt first
  · exact leg_option_greeks (nested .PE) put opt second

theorem create_leg_greeks {qty : ℤ} {lot_size : ℚ} {data : Position × ChainOption}
    {leg : OptimizedLeg} (created : create_leg qty lot_size data = some leg)
    (zero : ∀ greek ∈ ["delta", "gamma", "theta", "vega"],
      data.2.number? greek 0 = some 0) :
    leg.delta = 0 ∧ leg.gamma = 0 ∧ leg.theta = 0 ∧ leg.vega = 0 := by
  simp only [List.forall_mem_cons, List.not_mem_nil, false_implies, implies_true,
    and_true] at zero
  simp only [create_leg, zero, Option.bind_eq_bind, Option.bind_eq_some_iff,
    Option.some.injEq] at created
  obtain ⟨_, -, _, -, _, rfl, _, rfl, _, rfl, _, rfl, rfl⟩ := created
  exact ⟨rfl, rfl, rfl, rfl⟩

/-- Every leg of `/strategies/optimize` has Greeks of 0, whatever the chain holds. -/
theorem optimize_greeks_zero {request : OptimizeRequest} {response : OptimizeResponse}
    {best : OptimizedStructure} {rest : List OptimizedStructure}
    (answered : optimize_strategy backend chain_data oc request = .ok response)
    (shown : response.structures = best :: rest) :
    ∀ leg ∈ best.legs,
      leg.delta = 0 ∧ leg.gamma = 0 ∧ leg.theta = 0 ∧ leg.vega = 0 := by
  obtain ⟨_, _, live_data, live_oc, args, -, -, fetched, chain, read, optimized, -⟩ :=
    optimize_strategy_ok answered shown
  obtain ⟨context, plan, data, _, _, legs, -, -, found, -, -, created, -, rfl⟩ :=
    optimize_cons optimized
  simp only [optimize_arguments, Option.bind_eq_bind, Option.bind_eq_some_iff] at read
  obtain ⟨options, converted, _, -, _, -, _, -, same⟩ := read
  obtain rfl := Option.some.inj same
  intro leg member
  obtain ⟨item, among, made⟩ := (Traversal.mem_of_mapM created _).mp member
  obtain ⟨position, -, located⟩ := (Traversal.mem_of_mapM found _).mp among
  obtain ⟨opt, got, rfl⟩ := Option.map_eq_some_iff.mp located
  apply create_leg_greeks made
  exact option_chain_greeks fetched chain converted opt (List.mem_of_find?_eq_some got)

end Returned

/-! ### A bull put spread

The put at 25850 has the most open interest, the one at 25700 the volume. -/

def put_entry (ltp oi vol : ℤ) : Value :=
  .dict
    [("ce", .dict []),
     ("pe", .dict
       [("ltp", .int ltp), ("oi", .int oi), ("vol", .int vol), ("iv", .int 14),
        ("optgeeks", .dict [("delta", .float (-0.25)), ("gamma", .int 0),
          ("theta", .int (-5)), ("vega", .int 10)])])]

def put_chain_data : Dict :=
  [("spot", .dict [("ltp", .int 26000)]), ("atmiv", .int 14), ("lot_size", .int 75)]

def put_chain : Dict :=
  [("25550.0", put_entry 10 10 0), ("25700.0", put_entry 30 90 100),
   ("25850.0", put_entry 60 100 0), ("26000.0", put_entry 110 10 0)]

def put_backend : Dependencies Unit where
  services := LiveData.plain_services
  sim := expired_sim
  now := ()
  expiry_dates := .ok ["2025-01-30", "2025-02-06"]
  best_historical := none
  calculate_all_greeks _ _ _ _ _ := none

def put_request : OptimizeRequest where
  strategy_type := "bull_put_spread"
  symbol := "NIFTY"
  expiry := "2025-01-30"
  risk_profile := "moderate"
  max_capital := 100000

/-- Only one of the routes passes the volume on. -/
theorem put_offers :
    (optimize_offer (optimize_strategy put_backend put_chain_data put_chain
        put_request)).map (·.legs) =
      some [⟨25700, .PE, .SELL, 10, some 75⟩, ⟨25550, .PE, .BUY, 10, some 75⟩] ∧
    (auto_offer (auto_generate_strategy put_backend put_chain_data put_chain
        (same_request put_request true))).map (·.legs) =
      some [⟨25850, .PE, .SELL, 11, some 75⟩, ⟨25700, .PE, .BUY, 11, some 75⟩] := by
  constructor
  · decide +kernel
  · decide +kernel

end StrategyRoutes

end HftEngine.Backend
