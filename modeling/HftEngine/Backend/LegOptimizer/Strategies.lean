import HftEngine.Backend.LegOptimizer
import HftEngine.Lib.Traversal
import Mathlib.Data.List.MinMax

/-!
# The structures that the optimizer builds

`LegOptimizer.optimize`: the walls that the chart of accuracy finds, the strikes that
each strategy picks, the number of lots and the legs.  Numbers are read where they are
used; what raises is `none`, and so is what reads a number that is not finite.
-/

namespace HftEngine.Backend

namespace LegOptimizer

open ChartOfAccuracy (OptionType OptionContract Strength ScenarioId Analysis)
open StrategySimulation (Action Service)
open Py Py.Exact

inductive RiskProfile where
  | CONSERVATIVE
  | MODERATE
  | AGGRESSIVE
  deriving DecidableEq

def RiskProfile.value : RiskProfile → String
  | .CONSERVATIVE => "conservative"
  | .MODERATE => "moderate"
  | .AGGRESSIVE => "aggressive"

/-- `RiskProfile(text)`. -/
def RiskProfile.of? (text : String) : Option RiskProfile :=
  [RiskProfile.CONSERVATIVE, .MODERATE, .AGGRESSIVE].find? (fun r => r.value = text)

inductive StrategyType where
  | IRON_CONDOR
  | BULL_PUT_SPREAD
  | BEAR_CALL_SPREAD
  | LONG_STRADDLE
  | SHORT_STRADDLE
  | STRANGLE
  | BULL_CALL_SPREAD
  | BEAR_PUT_SPREAD
  | JADE_LIZARD
  | CUSTOM
  deriving DecidableEq

def StrategyType.value : StrategyType → String
  | .IRON_CONDOR => "iron_condor"
  | .BULL_PUT_SPREAD => "bull_put_spread"
  | .BEAR_CALL_SPREAD => "bear_call_spread"
  | .LONG_STRADDLE => "long_straddle"
  | .SHORT_STRADDLE => "short_straddle"
  | .STRANGLE => "strangle"
  | .BULL_CALL_SPREAD => "bull_call_spread"
  | .BEAR_PUT_SPREAD => "bear_put_spread"
  | .JADE_LIZARD => "jade_lizard"
  | .CUSTOM => "custom"

/-- `StrategyType(text)`. -/
def StrategyType.of? (text : String) : Option StrategyType :=
  [StrategyType.IRON_CONDOR, .BULL_PUT_SPREAD, .BEAR_CALL_SPREAD, .LONG_STRADDLE,
    .SHORT_STRADDLE, .STRANGLE, .BULL_CALL_SPREAD, .BEAR_PUT_SPREAD, .JADE_LIZARD,
    .CUSTOM].find? (fun s => s.value = text)

/-- In steps between strikes. -/
def SPREAD_WIDTHS : RiskProfile → ℚ
  | .CONSERVATIVE => 2
  | .MODERATE => 3
  | .AGGRESSIVE => 4

/-- In steps from ATM. -/
def OTM_BUFFER : RiskProfile → ℚ
  | .CONSERVATIVE => 4
  | .MODERATE => 3
  | .AGGRESSIVE => 2

/-! ## The chain -/

/-- An option of the chain that `optimize` receives: a dictionary whose strike is a
number and whose type is known. -/
structure ChainOption where
  strike : ℚ
  option_type : OptionType
  fields : Dict

/-- A value as a number. -/
def number? (value : Value) : Option ℚ :=
  (exact value).toOption

/-- `opt.get(key, default)`. -/
def ChainOption.number? (opt : ChainOption) (key : String) (default : ℤ) : Option ℚ :=
  LegOptimizer.number? (Dict.get opt.fields key (.int default))

def get_option_data (oc : List ChainOption) (strike : ℚ) (option_type : OptionType) :
    Option ChainOption :=
  oc.find? (fun opt => |opt.strike - strike| < 1 ∧ opt.option_type = option_type)

/-- The nearest strike of the chain, the lower one of two. -/
def snap_to_strike (target : ℚ) (oc : List ChainOption) : ℚ :=
  let strikes := (oc.map (·.strike)).dedup.insertionSort (· ≤ ·)
  (strikes.argmin (fun s => |s - target|)).getD target

/-! ## Market context -/

/-- What the chart of accuracy reads of an option. -/
def coa_contract (opt : ChainOption) : Option OptionContract := do
  some
    { strike := opt.strike
      option_type := opt.option_type
      ltp := ← opt.number? "ltp" 0
      oi := ← opt.number? "oi" 0
      oi_change := ← opt.number? "oi_change" 0
      volume := ← opt.number? "volume" 0
      gamma := ← opt.number? "gamma" 0 }

def coa_result (oc : List ChainOption) (spot_price atm_strike step_size : ℚ) :
    Option Analysis := do
  let visible := oc.filter (fun opt =>
    ChartOfAccuracy.in_range atm_strike step_size 10 opt.strike)
  let contracts ← visible.mapM coa_contract
  some (ChartOfAccuracy.analyze_filtered 75 contracts spot_price atm_strike step_size)

structure MarketContext where
  spot_price : ℚ
  atm_strike : ℚ
  support_strike : ℚ
  resistance_strike : ℚ
  support_strength : Strength
  resistance_strength : Strength
  eos : ℚ
  eor : ℚ
  scenario : ScenarioId
  atm_iv : Option ℚ
  deriving DecidableEq

/-- The mean IV of the options at ATM, if both are there. -/
def atm_iv (atm_strike : ℚ) (oc : List ChainOption) : Option (Option ℚ) :=
  match get_option_data oc atm_strike .CE, get_option_data oc atm_strike .PE with
  | some atm_ce, some atm_pe => do
      some (some (((← atm_ce.number? "iv" 15) + (← atm_pe.number? "iv" 15)) / 2))
  | _, _ => some none

def build_market_context (coa_result : Analysis) (spot_price atm_strike : ℚ)
    (oc : List ChainOption) : Option MarketContext := do
  some
    { spot_price, atm_strike
      support_strike := coa_result.support.strike100
      resistance_strike := coa_result.resistance.strike100
      support_strength := coa_result.support.strength
      resistance_strength := coa_result.resistance.strength
      eos := coa_result.levels.eos
      eor := coa_result.levels.eor
      scenario := coa_result.scenario.id
      atm_iv := ← atm_iv atm_strike oc }

def calculate_confidence (short_ce short_pe resistance support : ℚ)
    (context : MarketContext) : ℚ :=
  let score := 5 / 10
    + (if resistance ≤ short_ce then 15 / 100 else 0)
    + (if short_pe ≤ support then 15 / 100 else 0)
    + (if context.scenario = .s1_0 then 1 / 10 else 0)
    + (if context.resistance_strength = .Strong then 5 / 100 else 0)
    + (if context.support_strength = .Strong then 5 / 100 else 0)
  min 1 score

/-! ## Strategies -/

structure Position where
  option_type : OptionType
  action : Action
  strike : ℚ

/-- What one lot risks: the width of a spread less the credit (0 less the credit where
options are bought), or a margin. -/
inductive Sizing where
  | max_loss (width_value : ℚ)
  | margin

/-- What a strategy decides by itself; the rest is alike for all. -/
structure Plan where
  positions : List Position
  sizing : Sizing
  confidence : ℚ

section Plans

variable (context : MarketContext) (oc : List ChainOption) (risk_profile : RiskProfile)
  (step_size : ℚ)

/-- The strikes of the short and the long call of a credit spread. -/
def call_spread : ℚ × ℚ :=
  let short_ce := max context.resistance_strike
    (context.atm_strike + step_size * OTM_BUFFER risk_profile)
  let long_ce := short_ce + step_size * SPREAD_WIDTHS risk_profile
  (snap_to_strike short_ce oc, snap_to_strike long_ce oc)

/-- The strikes of the short and the long put of a credit spread. -/
def put_spread : ℚ × ℚ :=
  let short_pe := min context.support_strike
    (context.atm_strike - step_size * OTM_BUFFER risk_profile)
  let long_pe := short_pe - step_size * SPREAD_WIDTHS risk_profile
  (snap_to_strike short_pe oc, snap_to_strike long_pe oc)

def optimize_iron_condor : Plan :=
  let (short_ce, long_ce) := call_spread context oc risk_profile step_size
  let (short_pe, long_pe) := put_spread context oc risk_profile step_size
  { positions := [⟨.CE, .SELL, short_ce⟩, ⟨.CE, .BUY, long_ce⟩,
      ⟨.PE, .SELL, short_pe⟩, ⟨.PE, .BUY, long_pe⟩]
    -- the width of the calls only
    sizing := .max_loss |short_ce - long_ce|
    confidence := calculate_confidence short_ce short_pe context.resistance_strike
      context.support_strike context }

def optimize_bull_put_spread : Plan :=
  let (short_pe, long_pe) := put_spread context oc risk_profile step_size
  { positions := [⟨.PE, .SELL, short_pe⟩, ⟨.PE, .BUY, long_pe⟩]
    sizing := .max_loss |short_pe - long_pe|
    confidence := if short_pe ≤ context.support_strike then 7 / 10 else 5 / 10 }

def optimize_bear_call_spread : Plan :=
  let (short_ce, long_ce) := call_spread context oc risk_profile step_size
  { positions := [⟨.CE, .SELL, short_ce⟩, ⟨.CE, .BUY, long_ce⟩]
    sizing := .max_loss |short_ce - long_ce|
    confidence := if context.resistance_strike ≤ short_ce then 7 / 10 else 5 / 10 }

def optimize_long_straddle : Plan where
  positions := [⟨.CE, .BUY, context.atm_strike⟩, ⟨.PE, .BUY, context.atm_strike⟩]
  sizing := .max_loss 0
  confidence := 6 / 10

def optimize_short_straddle : Plan where
  positions := [⟨.CE, .SELL, context.atm_strike⟩, ⟨.PE, .SELL, context.atm_strike⟩]
  sizing := .margin
  confidence := if risk_profile = .AGGRESSIVE then 5 / 10 else 3 / 10

/-- The strategies that are implemented. -/
def plan_of : StrategyType → Option Plan
  | .IRON_CONDOR => some (optimize_iron_condor context oc risk_profile step_size)
  | .BULL_PUT_SPREAD => some (optimize_bull_put_spread context oc risk_profile step_size)
  | .BEAR_CALL_SPREAD => some (optimize_bear_call_spread context oc risk_profile step_size)
  | .LONG_STRADDLE => some (optimize_long_straddle context)
  | .SHORT_STRADDLE => some (optimize_short_straddle context risk_profile)
  | .STRANGLE | .BULL_CALL_SPREAD | .BEAR_PUT_SPREAD | .JADE_LIZARD | .CUSTOM => none

end Plans

/-! ## Structures -/

/-- The arguments of `optimize`, the strategy apart. -/
structure Arguments where
  option_chain : List ChainOption
  spot_price : ℚ
  atm_strike : ℚ
  expiry : String
  lot_size : ℚ
  risk_profile : RiskProfile
  max_capital : ℚ
  step_size : ℚ

structure OptimizedStructure where
  strategy_type : StrategyType
  legs : List OptimizedLeg
  metrics : StructureMetrics
  confidence : ℚ
  market_context : MarketContext
  deriving DecidableEq

/-- The option of a position. -/
def position_data (oc : List ChainOption) (position : Position) :
    Option (Position × ChainOption) :=
  (get_option_data oc position.strike position.option_type).map (position, ·)

/-- What a position adds to the net credit. -/
def credit (data : Position × ChainOption) : Option ℚ := do
  some ((← data.2.number? "ltp" 0) * credit_direction data.1.action)

def create_leg (qty : ℤ) (lot_size : ℚ) (data : Position × ChainOption) :
    Option OptimizedLeg := do
  some
    { strike := data.1.strike
      option_type := data.1.option_type
      action := data.1.action
      qty, lot_size
      ltp := ← data.2.number? "ltp" 0
      iv := ← data.2.number? "iv" 15
      delta := ← data.2.number? "delta" 0
      gamma := ← data.2.number? "gamma" 0
      theta := ← data.2.number? "theta" 0
      vega := ← data.2.number? "vega" 0 }

def estimated_margin (args : Arguments) : ℚ :=
  args.spot_price * args.lot_size * (15 / 100)

/-- What one lot risks, if that is above 0.  A margin of 0 is divided by, and raises. -/
def risk_per_lot (args : Arguments) (sizing : Sizing) (net_credit : ℚ) :
    Option (Option ℚ) :=
  match sizing with
  | .max_loss width_value =>
      let max_loss_per_lot := (width_value - net_credit) * args.lot_size
      some (if max_loss_per_lot ≤ 0 then none else some max_loss_per_lot)
  | .margin =>
      if estimated_margin args = 0 then none else some (some (estimated_margin args))

def lots (max_capital risk : ℚ) : ℤ :=
  max 1 (trunc (max_capital / risk))

section Optimize

variable {Date : Type} (sim : Service Date) (now : Date) (args : Arguments)
  (strategy_type : StrategyType)

def built_structure (context : MarketContext) (plan : Plan) (legs : List OptimizedLeg) :
    OptimizedStructure where
  strategy_type
  legs
  metrics := calculate_metrics sim legs args.expiry args.spot_price now args.max_capital
  confidence := plan.confidence
  market_context := context

def carry_out (context : MarketContext) (plan : Plan) : Option (List OptimizedStructure) :=
  match plan.positions.mapM (position_data args.option_chain) with
  | none => some []
  | some data => do
      let credits ← data.mapM credit
      match ← risk_per_lot args plan.sizing credits.sum with
      | none => some []
      | some risk =>
          let legs ← data.mapM (create_leg (lots args.max_capital risk) args.lot_size)
          some [built_structure sim now args strategy_type context plan legs]

def market_context : Option MarketContext := do
  let coa_result ← coa_result args.option_chain args.spot_price args.atm_strike
    args.step_size
  build_market_context coa_result args.spot_price args.atm_strike args.option_chain

def optimize : Option (List OptimizedStructure) := do
  let context ← market_context args
  match plan_of context args.option_chain args.risk_profile args.step_size
      strategy_type with
  | none => some []
  | some plan => do
      let structures ← carry_out sim now args strategy_type context plan
      some (Ranking.descending (·.confidence) structures)

end Optimize

/-- What the rules recommend, after what has done best in such a market. -/
def recommend_strategies (best_historical : Option String) (iv_percentile pcr : ℚ) :
    List StrategyType :=
  let promoted := (best_historical.bind StrategyType.of?).toList
  let rule_recs : List StrategyType :=
    if 60 < iv_percentile then
      if 12 / 10 < pcr then [.BULL_PUT_SPREAD]
      else if pcr < 8 / 10 then [.BEAR_CALL_SPREAD]
      else [.IRON_CONDOR, .SHORT_STRADDLE]
    else if iv_percentile < 40 then
      if 12 / 10 < pcr then [.LONG_STRADDLE, .BULL_CALL_SPREAD]
      else if pcr < 8 / 10 then [.LONG_STRADDLE, .BEAR_PUT_SPREAD]
      else [.LONG_STRADDLE]
    else if 12 / 10 < pcr then [.IRON_CONDOR, .BULL_PUT_SPREAD]
    else if pcr < 8 / 10 then [.IRON_CONDOR, .BEAR_CALL_SPREAD]
    else [.IRON_CONDOR]
  rule_recs.foldl (fun recs r => if r ∈ recs then recs else recs ++ [r]) promoted

/-! ## When there is a structure -/

/-- What a leg takes of an option can be read. -/
def ChainOption.Readable (opt : ChainOption) : Prop :=
  (opt.number? "ltp" 0).isSome ∧ (opt.number? "iv" 15).isSome ∧
    (opt.number? "delta" 0).isSome ∧ (opt.number? "gamma" 0).isSome ∧
    (opt.number? "theta" 0).isSome ∧ (opt.number? "vega" 0).isSome

/-- A lot risks something: what a spread may lose is above 0, or a margin is not 0. -/
def Risky (args : Arguments) (sizing : Sizing) (net_credit : ℚ) : Prop :=
  match sizing with
  | .max_loss width_value => 0 < (width_value - net_credit) * args.lot_size
  | .margin => estimated_margin args ≠ 0

/-- The chain has an option at each position of the plan, which can be read, and a lot
risks something. -/
def Buildable (args : Arguments) (plan : Plan) : Prop :=
  ∃ data credits, plan.positions.mapM (position_data args.option_chain) = some data ∧
    (∀ item ∈ data, item.2.Readable) ∧ data.mapM credit = some credits ∧
    Risky args plan.sizing credits.sum

theorem create_leg_isSome {qty : ℤ} {lot_size : ℚ} {data : Position × ChainOption} :
    (create_leg qty lot_size data).isSome ↔ data.2.Readable := by
  simp only [create_leg, ChainOption.Readable, Option.isSome_iff_exists,
    Option.bind_eq_bind, Option.bind_eq_some_iff]
  constructor
  · rintro ⟨_, ltp, h1, iv, h2, delta, h3, gamma, h4, theta, h5, vega, h6, -⟩
    exact ⟨⟨ltp, h1⟩, ⟨iv, h2⟩, ⟨delta, h3⟩, ⟨gamma, h4⟩, ⟨theta, h5⟩, ⟨vega, h6⟩⟩
  · rintro ⟨⟨ltp, h1⟩, ⟨iv, h2⟩, ⟨delta, h3⟩, ⟨gamma, h4⟩, ⟨theta, h5⟩, ⟨vega, h6⟩⟩
    exact ⟨_, ltp, h1, iv, h2, delta, h3, gamma, h4, theta, h5, vega, h6, rfl⟩

theorem risk_per_lot_iff {args : Arguments} {sizing : Sizing} {net_credit : ℚ} :
    (∃ risk, risk_per_lot args sizing net_credit = some (some risk)) ↔
      Risky args sizing net_credit := by
  cases sizing with
  | max_loss width_value => simp [risk_per_lot, Risky]
  | margin => simp [risk_per_lot, Risky]

theorem plan_positions_ne_nil {context : MarketContext} {oc : List ChainOption}
    {risk_profile : RiskProfile} {step_size : ℚ} {strategy_type : StrategyType}
    {plan : Plan}
    (planned : plan_of context oc risk_profile step_size strategy_type = some plan) :
    plan.positions ≠ [] := by
  cases strategy_type <;> cases planned <;> exact List.cons_ne_nil _ _

section Builds

variable {Date : Type} {sim : Service Date} {now : Date} {args : Arguments}
  {strategy_type : StrategyType}

/-- What the code may do with a plan: it raises, refuses, or builds one structure. -/
theorem carry_out_cases {context : MarketContext} {plan : Plan}
    {structures : List OptimizedStructure}
    (carried : carry_out sim now args strategy_type context plan = some structures) :
    structures = [] ∨ ∃ data credits risk legs,
      plan.positions.mapM (position_data args.option_chain) = some data ∧
      data.mapM credit = some credits ∧
      risk_per_lot args plan.sizing credits.sum = some (some risk) ∧
      data.mapM (create_leg (lots args.max_capital risk) args.lot_size) = some legs ∧
      structures = [built_structure sim now args strategy_type context plan legs] := by
  unfold carry_out at carried
  cases found : plan.positions.mapM (position_data args.option_chain) with
  | none =>
      rw [found] at carried
      exact .inl (Option.some.inj carried).symm
  | some data =>
      rw [found] at carried
      simp only [Option.bind_eq_bind, Option.bind_eq_some_iff] at carried
      obtain ⟨credits, credited, risk, risked, carried⟩ := carried
      cases risk with
      | none => exact .inl (Option.some.inj carried).symm
      | some risk =>
          simp only [Option.bind_eq_some_iff] at carried
          obtain ⟨legs, created, same⟩ := carried
          exact .inr ⟨data, credits, risk, legs, rfl, credited, risked, created,
            (Option.some.inj same).symm⟩

variable (sim now strategy_type) in
/-- A plan is carried out exactly when it can be built. -/
theorem carry_out_iff (context : MarketContext) {plan : Plan} :
    (∃ built rest,
      carry_out sim now args strategy_type context plan = some (built :: rest)) ↔
      Buildable args plan := by
  unfold carry_out Buildable
  cases found : plan.positions.mapM (position_data args.option_chain) with
  | none => simp
  | some data =>
      simp only [Option.bind_eq_bind, Option.bind_eq_some_iff]
      constructor
      · rintro ⟨built, rest, credits, credited, risk, risked, carried⟩
        cases risk with
        | none => cases carried
        | some risk =>
            simp only [Option.bind_eq_some_iff] at carried
            obtain ⟨legs, created, -⟩ := carried
            refine ⟨data, credits, rfl, ?_, credited, risk_per_lot_iff.mp ⟨risk, risked⟩⟩
            intro item member
            exact create_leg_isSome.mp (Traversal.mapM_isSome.mp ⟨legs, created⟩ item member)
      · rintro ⟨_, credits, same, readable, credited, risky⟩
        obtain rfl := Option.some.inj same
        obtain ⟨risk, risked⟩ := risk_per_lot_iff.mpr risky
        have created : ∃ legs, data.mapM
            (create_leg (lots args.max_capital risk) args.lot_size) = some legs :=
          Traversal.mapM_isSome.mpr (fun item member =>
            create_leg_isSome.mpr (readable item member))
        obtain ⟨legs, created⟩ := created
        refine ⟨built_structure sim now args strategy_type context plan legs, [], credits,
          credited, some risk, risked, ?_⟩
        simp only [created, Option.bind_some]

/-- The optimizer knows the strategy and can build what it plans. -/
def Builds (args : Arguments) (strategy_type : StrategyType) : Prop :=
  ∃ context plan, market_context args = some context ∧
    plan_of context args.option_chain args.risk_profile args.step_size strategy_type =
      some plan ∧ Buildable args plan

/-- What `optimize` returns when it returns something. -/
theorem optimize_cons {built : OptimizedStructure} {rest : List OptimizedStructure}
    (optimized : optimize sim now args strategy_type = some (built :: rest)) :
    ∃ context plan data credits risk legs, market_context args = some context ∧
      plan_of context args.option_chain args.risk_profile args.step_size strategy_type =
        some plan ∧
      plan.positions.mapM (position_data args.option_chain) = some data ∧
      data.mapM credit = some credits ∧
      risk_per_lot args plan.sizing credits.sum = some (some risk) ∧
      data.mapM (create_leg (lots args.max_capital risk) args.lot_size) = some legs ∧
      rest = [] ∧
      built = built_structure sim now args strategy_type context plan legs := by
  simp only [optimize, Option.bind_eq_bind, Option.bind_eq_some_iff] at optimized
  obtain ⟨context, read, optimized⟩ := optimized
  cases planned : plan_of context args.option_chain args.risk_profile args.step_size
      strategy_type with
  | none =>
      rw [planned] at optimized
      cases optimized
  | some plan =>
      rw [planned] at optimized
      simp only [Option.bind_eq_some_iff] at optimized
      obtain ⟨structures, carried, ranked⟩ := optimized
      rcases carry_out_cases carried with
        rfl | ⟨data, credits, risk, legs, found, credited, risked, created, rfl⟩
      · cases ranked
      · obtain ⟨rfl, rfl⟩ := List.cons.inj (Option.some.inj ranked)
        exact ⟨context, plan, data, credits, risk, legs, read, planned, found, credited,
          risked, created, rfl, rfl⟩

variable (sim now) in
/-- The optimizer has a structure exactly when it can build one. -/
theorem optimize_iff :
    (∃ built rest, optimize sim now args strategy_type = some (built :: rest)) ↔
      Builds args strategy_type := by
  constructor
  · rintro ⟨built, rest, optimized⟩
    obtain ⟨context, plan, _, _, _, _, read, planned, -⟩ := optimize_cons optimized
    refine ⟨context, plan, read, planned, ?_⟩
    simp only [optimize, read, planned, Option.bind_eq_bind, Option.bind_some,
      Option.bind_eq_some_iff] at optimized
    obtain ⟨structures, carried, ranked⟩ := optimized
    cases structures with
    | nil => cases ranked
    | cons first others =>
        exact (carry_out_iff sim now strategy_type context).mp ⟨first, others, carried⟩
  · rintro ⟨context, plan, read, planned, buildable⟩
    obtain ⟨built, rest, carried⟩ :=
      (carry_out_iff sim now strategy_type context).mpr buildable
    rcases carry_out_cases carried with none | ⟨_, _, _, legs, -, -, -, -, same⟩
    · cases none
    · obtain ⟨rfl, rfl⟩ := List.cons.inj same
      refine ⟨built_structure sim now args strategy_type context plan legs, [], ?_⟩
      simp only [optimize, read, planned, carried, Option.bind_eq_bind, Option.bind_some]
      rfl

/-- Every leg is at a position of the plan, of which there are some. -/
theorem legs_ne_nil {built : OptimizedStructure} {rest : List OptimizedStructure}
    (optimized : optimize sim now args strategy_type = some (built :: rest)) :
    built.legs ≠ [] := by
  obtain ⟨context, plan, data, credits, risk, legs, -, planned, found, -, -, created, -,
    rfl⟩ := optimize_cons optimized
  have positions := plan_positions_ne_nil planned
  have counted := (Traversal.mapM_eq_some.mp found).length_eq.trans
    (Traversal.mapM_eq_some.mp created).length_eq
  intro none
  rw [show legs = [] from none] at counted
  exact positions (List.length_eq_zero_iff.mp counted)

end Builds

end LegOptimizer

end HftEngine.Backend
