import HftEngine.Backend.LegOptimizer.Strategies
import HftEngine.Backend.StrategySimulation.Payoff

/-!
# What a structure may lose

The optimizer sizes a credit spread by the width of its calls, or of its puts, less the
credit.  The loss at expiry is bounded by the wider of the two wings, and a structure
that costs a debit may lose its width on top.
-/

namespace HftEngine.Backend

namespace LegOptimizer

open ChartOfAccuracy (OptionType)
open StrategySimulation (Action Service StrategyLeg direction intrinsic
  calculate_expiry_payoff)
open Py.Exact

/-! ## Strikes -/

/-- Of two strikes the nearest to a higher target is not the lower one. -/
theorem argmin_abs_mono {strikes : List ℚ} {a b s t : ℚ} (le : a ≤ b)
    (first : strikes.argmin (fun s => |s - a|) = some s)
    (second : strikes.argmin (fun s => |s - b|) = some t) : s ≤ t := by
  rcases le.eq_or_lt with rfl | lt
  · exact (Option.some.inj (first.symm.trans second)).le
  · by_contra below
    rw [not_le] at below
    have near := List.le_of_mem_argmin (List.argmin_mem second) first
    have also := List.le_of_mem_argmin (List.argmin_mem first) second
    -- a target above the midpoint is no nearer to the lower strike
    rw [← sq_le_sq] at near also
    nlinarith

theorem snap_to_strike_mono (oc : List ChainOption) {a b : ℚ} (le : a ≤ b) :
    snap_to_strike a oc ≤ snap_to_strike b oc := by
  unfold snap_to_strike
  dsimp only
  generalize (oc.map (·.strike)).dedup.insertionSort (· ≤ ·) = strikes
  cases first : strikes.argmin (fun s => |s - a|) with
  | none =>
      rw [List.argmin_eq_none] at first
      rw [first]
      exact le
  | some s =>
      cases second : strikes.argmin (fun s => |s - b|) with
      | none =>
          rw [List.argmin_eq_none] at second
          rw [second] at first
          cases first
      | some t => exact argmin_abs_mono le first second

section Wings

variable (context : MarketContext) (oc : List ChainOption) (risk_profile : RiskProfile)
  {step_size : ℚ}

theorem call_spread_ordered (steps : 0 ≤ step_size) :
    (call_spread context oc risk_profile step_size).1 ≤
      (call_spread context oc risk_profile step_size).2 := by
  apply snap_to_strike_mono
  apply le_add_of_nonneg_right
  apply mul_nonneg steps
  cases risk_profile <;> norm_num [SPREAD_WIDTHS]

theorem put_spread_ordered (steps : 0 ≤ step_size) :
    (put_spread context oc risk_profile step_size).2 ≤
      (put_spread context oc risk_profile step_size).1 := by
  apply snap_to_strike_mono
  apply sub_le_self
  apply mul_nonneg steps
  cases risk_profile <;> norm_num [SPREAD_WIDTHS]

/-- The short put is not above the short call. -/
theorem short_strikes_ordered (steps : 0 ≤ step_size) :
    (put_spread context oc risk_profile step_size).1 ≤
      (call_spread context oc risk_profile step_size).1 := by
  have buffer : 0 ≤ step_size * OTM_BUFFER risk_profile := by
    apply mul_nonneg steps
    cases risk_profile <;> norm_num [OTM_BUFFER]
  apply snap_to_strike_mono
  apply (min_le_right _ _).trans
  apply le_trans ?_ (le_max_right _ _)
  linarith

end Wings

/-! ## What the positions are worth at expiry -/

/-- A unit of each position at expiry, without what it costs. -/
def settlement (positions : List Position) (spot_price : ℚ) : ℚ :=
  (positions.map (fun position =>
    direction position.action * intrinsic spot_price position.option_type
      position.strike)).sum

/-- The positions are never worth anything, cost their width at some price and nothing at
another. -/
structure Wings (positions : List Position) (width : ℚ) : Prop where
  above : ∀ spot_price, -width ≤ settlement positions spot_price
  below : ∀ spot_price, settlement positions spot_price ≤ 0
  worst : ∃ spot_price, settlement positions spot_price = -width
  best : ∃ spot_price, settlement positions spot_price = 0

theorem Wings.nonneg {positions : List Position} {width : ℚ}
    (wings : Wings positions width) : 0 ≤ width := by
  obtain ⟨spot_price, best⟩ := wings.best
  have above := wings.above spot_price
  linarith

/-- The part of a spread of calls that the price has run through. -/
theorem settlement_calls (short long spot_price : ℚ) :
    settlement [⟨.CE, .SELL, short⟩, ⟨.CE, .BUY, long⟩] spot_price =
      max 0 (spot_price - long) - max 0 (spot_price - short) := by
  simp [settlement, direction, intrinsic]
  ring

theorem settlement_puts (short long spot_price : ℚ) :
    settlement [⟨.PE, .SELL, short⟩, ⟨.PE, .BUY, long⟩] spot_price =
      max 0 (long - spot_price) - max 0 (short - spot_price) := by
  simp [settlement, direction, intrinsic]
  ring

theorem wings_calls {short long : ℚ} (ordered : short ≤ long) :
    Wings [⟨.CE, .SELL, short⟩, ⟨.CE, .BUY, long⟩] (long - short) := by
  constructor
  · intro spot_price
    rw [settlement_calls]
    grind
  · intro spot_price
    rw [settlement_calls]
    grind
  · refine ⟨long, ?_⟩
    rw [settlement_calls]
    grind
  · refine ⟨short, ?_⟩
    rw [settlement_calls]
    grind

theorem wings_puts {short long : ℚ} (ordered : long ≤ short) :
    Wings [⟨.PE, .SELL, short⟩, ⟨.PE, .BUY, long⟩] (short - long) := by
  constructor
  · intro spot_price
    rw [settlement_puts]
    grind
  · intro spot_price
    rw [settlement_puts]
    grind
  · refine ⟨long, ?_⟩
    rw [settlement_puts]
    grind
  · refine ⟨short, ?_⟩
    rw [settlement_puts]
    grind

theorem settlement_condor (short_ce long_ce short_pe long_pe spot_price : ℚ) :
    settlement [⟨.CE, .SELL, short_ce⟩, ⟨.CE, .BUY, long_ce⟩, ⟨.PE, .SELL, short_pe⟩,
        ⟨.PE, .BUY, long_pe⟩] spot_price =
      (max 0 (spot_price - long_ce) - max 0 (spot_price - short_ce)) +
        (max 0 (long_pe - spot_price) - max 0 (short_pe - spot_price)) := by
  simp [settlement, direction, intrinsic]
  ring

/-- Only one of the two wings is lost. -/
theorem wings_condor {short_ce long_ce short_pe long_pe : ℚ} (puts : long_pe ≤ short_pe)
    (shorts : short_pe ≤ short_ce) (calls : short_ce ≤ long_ce) :
    Wings [⟨.CE, .SELL, short_ce⟩, ⟨.CE, .BUY, long_ce⟩, ⟨.PE, .SELL, short_pe⟩,
      ⟨.PE, .BUY, long_pe⟩] (max (long_ce - short_ce) (short_pe - long_pe)) := by
  constructor
  · intro spot_price
    rw [settlement_condor]
    grind
  · intro spot_price
    rw [settlement_condor]
    grind
  · rcases le_total (short_pe - long_pe) (long_ce - short_ce) with wide | narrow
    · refine ⟨long_ce, ?_⟩
      rw [settlement_condor]
      grind
    · refine ⟨long_pe, ?_⟩
      rw [settlement_condor]
      grind
  · refine ⟨short_ce, ?_⟩
    rw [settlement_condor]
    grind

/-! ## What the legs are worth -/

/-- A leg is its position, with the premium that counts for the credit. -/
theorem create_leg_spec {qty : ℤ} {lot_size premium : ℚ} {data : Position × ChainOption}
    {leg : OptimizedLeg} (credited : credit data = some premium)
    (created : create_leg qty lot_size data = some leg) :
    leg.strike = data.1.strike ∧ leg.option_type = data.1.option_type ∧
      leg.action = data.1.action ∧ leg.qty = qty ∧ leg.lot_size = lot_size ∧
      leg.ltp * credit_direction leg.action = premium := by
  simp only [create_leg, credit, Option.bind_eq_bind, Option.bind_eq_some_iff]
    at created credited
  obtain ⟨ltp, read, _, -, _, -, _, -, _, -, _, -, same⟩ := created
  obtain rfl := Option.some.inj same
  obtain ⟨_, again, worth⟩ := credited
  obtain rfl := Option.some.inj (read.symm.trans again)
  obtain rfl := Option.some.inj worth
  exact ⟨rfl, rfl, rfl, rfl, rfl, rfl⟩

section Created

variable {qty : ℤ} {lot_size : ℚ} {data : List (Position × ChainOption)}
  {credits : List ℚ} {legs : List OptimizedLeg}

theorem net_created (credited : data.mapM credit = some credits)
    (created : data.mapM (create_leg qty lot_size) = some legs) :
    net credit_direction (·.ltp) legs = qty * lot_size * credits.sum := by
  induction data generalizing credits legs with
  | nil =>
      obtain rfl := Option.some.inj credited
      obtain rfl := Option.some.inj created
      simp
  | cons item data ih =>
      obtain ⟨premium, rest, first, others, rfl⟩ := Traversal.mapM_cons_eq_some credited
      obtain ⟨leg, more, made, made_others, rfl⟩ := Traversal.mapM_cons_eq_some created
      obtain ⟨-, -, -, qty_eq, lot_eq, premium_eq⟩ := create_leg_spec first made
      rw [net_cons, ih others made_others, List.sum_cons, OptimizedLeg.total_qty, qty_eq,
        lot_eq, ← premium_eq]
      ring

theorem payoff_created (expiry : String) (spot_price : ℚ)
    (credited : data.mapM credit = some credits)
    (created : data.mapM (create_leg qty lot_size) = some legs) :
    calculate_expiry_payoff (simulation_legs legs expiry) spot_price =
      qty * lot_size * (credits.sum + settlement (data.map (·.1)) spot_price) := by
  induction data generalizing credits legs with
  | nil =>
      obtain rfl := Option.some.inj credited
      obtain rfl := Option.some.inj created
      simp [simulation_legs, settlement]
  | cons item data ih =>
      obtain ⟨premium, rest, first, others, rfl⟩ := Traversal.mapM_cons_eq_some credited
      obtain ⟨leg, more, made, made_others, rfl⟩ := Traversal.mapM_cons_eq_some created
      obtain ⟨strike_eq, type_eq, action_eq, qty_eq, lot_eq, premium_eq⟩ :=
        create_leg_spec first made
      rw [simulation_legs, List.map_cons, StrategySimulation.payoff_cons,
        ← simulation_legs, ih others made_others, StrategyLeg.pnl_eq, List.sum_cons,
        settlement, settlement, List.map_cons, List.map_cons, List.sum_cons]
      simp only [StrategyLeg.multiplier, OptimizedLeg.to_simulation_leg, strike_eq, type_eq,
        qty_eq, lot_eq, ← premium_eq, credit_direction_eq, action_eq]
      ring

/-- The first two legs tell the loss of a credit, whatever follows. -/
theorem credit_max_loss_created {short long : Position × ChainOption}
    (sold : short.1.action = .SELL) (bought : long.1.action = .BUY)
    (credited : (short :: long :: data).mapM credit = some credits)
    (created : (short :: long :: data).mapM (create_leg qty lot_size) = some legs)
    (net_credit max_capital : ℚ) :
    credit_max_loss legs net_credit max_capital =
      |short.1.strike - long.1.strike| * (qty * lot_size) - net_credit := by
  obtain ⟨_, _, first, credited_rest, -⟩ := Traversal.mapM_cons_eq_some credited
  obtain ⟨_, _, second, -, -⟩ := Traversal.mapM_cons_eq_some credited_rest
  obtain ⟨sold_leg, _, made, created_rest, rfl⟩ := Traversal.mapM_cons_eq_some created
  obtain ⟨bought_leg, others, also, -, rfl⟩ := Traversal.mapM_cons_eq_some created_rest
  obtain ⟨short_strike, -, short_action, -, -, -⟩ := create_leg_spec first made
  obtain ⟨long_strike, -, long_action, long_qty, long_lot, -⟩ := create_leg_spec second also
  rw [sold] at short_action
  rw [bought] at long_action
  rw [credit_max_loss]
  simp only [List.filter_cons, short_action, long_action, reduceCtorEq, decide_false,
    decide_true, Bool.false_eq_true, if_false, if_true, OptimizedLeg.total_qty, short_strike,
    long_strike, long_qty, long_lot, abs_sub_comm]

end Created

/-! ## The bound -/

/-- The loss at every price is within the capital, unless it is one lot, and within the
loss that the metrics report. -/
structure KeepsBound (args : Arguments) (built : OptimizedStructure) : Prop where
  capital : (∀ leg ∈ built.legs, leg.qty = 1) ∨
    ∀ spot_price, -calculate_expiry_payoff (simulation_legs built.legs args.expiry)
      spot_price ≤ args.max_capital
  reported : ∀ spot_price,
    -calculate_expiry_payoff (simulation_legs built.legs args.expiry) spot_price ≤
      built.metrics.max_loss

/-- The premium of a unit of each position. -/
def net_premium (args : Arguments) (strategy_type : StrategyType)
    (context : MarketContext) : Option ℚ := do
  let plan ← plan_of context args.option_chain args.risk_profile args.step_size
    strategy_type
  let data ← plan.positions.mapM (position_data args.option_chain)
  let credits ← data.mapM credit
  some credits.sum

/-- A credit is received, and the wing that is not measured is no wider; or, with lots of
a negative size, the premiums of all lots are within the capital. -/
def BoundHolds (args : Arguments) (strategy_type : StrategyType) : Prop :=
  ∀ context ∈ market_context args,
    ∀ net_credit ∈ net_premium args strategy_type context,
    let (short_ce, long_ce) :=
      call_spread context args.option_chain args.risk_profile args.step_size
    let (short_pe, long_pe) :=
      put_spread context args.option_chain args.risk_profile args.step_size
    let width_value :=
      if strategy_type = .BULL_PUT_SPREAD then short_pe - long_pe else long_ce - short_ce
    let qty := lots args.max_capital ((width_value - net_credit) * args.lot_size)
    (0 < args.lot_size ∧ 0 < net_credit ∧
      (strategy_type = .IRON_CONDOR → short_pe - long_pe ≤ long_ce - short_ce)) ∨
    (args.lot_size < 0 ∧
      (qty = 1 ∨ qty * -args.lot_size * net_credit ≤ args.max_capital))

theorem lots_pos (max_capital risk : ℚ) : 0 < lots max_capital risk :=
  lt_of_lt_of_le zero_lt_one (le_max_left _ _)

/-- More than one lot is bought only within the capital. -/
theorem lots_mul_le {max_capital risk : ℚ} (risky : 0 < risk)
    (more : lots max_capital risk ≠ 1) : lots max_capital risk * risk ≤ max_capital := by
  have several : 1 < trunc (max_capital / risk) := by
    by_contra few
    exact more (max_eq_left (not_lt.mp few))
  have floored : lots max_capital risk = ⌊max_capital / risk⌋ := by
    rw [lots, max_eq_right several.le, trunc, if_pos]
    by_contra negative
    rw [trunc, if_neg negative, Int.lt_ceil] at several
    push_cast at several
    linarith
  rw [floored, ← le_div_iff₀ risky]
  exact Int.floor_le _

/-- What a credit spread of some kind has in common with the others. -/
structure Shape (oc : List ChainOption) (plan : Plan) (width measured : ℚ) : Prop where
  wings : Wings plan.positions width
  sized : plan.sizing = .max_loss measured
  nonneg : 0 ≤ measured
  within : measured ≤ width
  first : ∃ short_type short long_type long rest,
    plan.positions = ⟨short_type, .SELL, short⟩ :: ⟨long_type, .BUY, long⟩ :: rest ∧
      |short - long| = measured
  flat : width = 0 → ∀ data credits, plan.positions.mapM (position_data oc) = some data →
    data.mapM credit = some credits → credits.sum = 0

theorem Wings.loss_le_iff {positions : List Position} {width n c bound : ℚ}
    (wings : Wings positions width) (held : 0 < n) :
    (∀ spot_price, -(n * (c + settlement positions spot_price)) ≤ bound) ↔
      n * (width - c) ≤ bound := by
  constructor
  · intro losses
    obtain ⟨spot_price, worst⟩ := wings.worst
    have loss := losses spot_price
    rw [worst] at loss
    linarith
  · intro within spot_price
    have worst := mul_le_mul_of_nonneg_left (wings.above spot_price) held.le
    linarith

/-- With the sides turned the premium is all that can be lost. -/
theorem Wings.turned_loss_le_iff {positions : List Position} {width n c bound : ℚ}
    (wings : Wings positions width) (turned : n < 0) :
    (∀ spot_price, -(n * (c + settlement positions spot_price)) ≤ bound) ↔
      -n * c ≤ bound := by
  constructor
  · intro losses
    obtain ⟨spot_price, best⟩ := wings.best
    have loss := losses spot_price
    rw [best] at loss
    linarith
  · intro within spot_price
    have best := mul_nonneg_of_nonpos_of_nonpos turned.le (wings.below spot_price)
    linarith

theorem map_fst_of_found {oc : List ChainOption} {positions : List Position}
    {data : List (Position × ChainOption)}
    (found : positions.mapM (position_data oc) = some data) :
    data.map (·.1) = positions := by
  have each := Traversal.mapM_eq_some.mp found
  clear found
  induction each with
  | nil => rfl
  | cons first _ ih =>
      obtain ⟨opt, -, rfl⟩ := Option.map_eq_some_iff.mp first
      rw [List.map_cons, ih]

theorem risk_per_lot_eq {args : Arguments} {measured net_credit risk : ℚ}
    (risked : risk_per_lot args (.max_loss measured) net_credit = some (some risk)) :
    risk = (measured - net_credit) * args.lot_size ∧ 0 < risk := by
  rw [risk_per_lot] at risked
  obtain ⟨risky, same⟩ := Option.ite_none_left_eq_some.mp (Option.some.inj risked)
  rw [not_le] at risky
  obtain rfl := Option.some.inj same
  exact ⟨rfl, risky⟩

section Kept

variable {Date : Type} {sim : Service Date} {now : Date} {args : Arguments}
  {strategy_type : StrategyType} {context : MarketContext} {plan : Plan}
  {data : List (Position × ChainOption)} {credits : List ℚ} {risk : ℚ}
  {legs : List OptimizedLeg} {width measured : ℚ}

/-- The loss that the metrics report of a credit spread. -/
theorem reported_loss (shape : Shape args.option_chain plan width measured)
    (found : plan.positions.mapM (position_data args.option_chain) = some data)
    (credited : data.mapM credit = some credits) {qty : ℤ}
    (created : data.mapM (create_leg qty args.lot_size) = some legs) :
    (built_structure sim now args strategy_type context plan legs).metrics.max_loss =
      if 0 < qty * args.lot_size * credits.sum then
        measured * (qty * args.lot_size) - qty * args.lot_size * credits.sum
      else |qty * args.lot_size * credits.sum| := by
  obtain ⟨_, short, _, long, rest, positions, rfl⟩ := shape.first
  rw [positions] at found
  obtain ⟨sold, others, first, found_rest, rfl⟩ := Traversal.mapM_cons_eq_some found
  obtain ⟨bought, remaining, second, -, rfl⟩ := Traversal.mapM_cons_eq_some found_rest
  obtain ⟨_, -, rfl⟩ := Option.map_eq_some_iff.mp first
  obtain ⟨_, -, rfl⟩ := Option.map_eq_some_iff.mp second
  change (if 0 < net credit_direction (·.ltp) legs then
    credit_max_loss legs (net credit_direction (·.ltp) legs) args.max_capital
    else |net credit_direction (·.ltp) legs|) = _
  rw [net_created credited created,
    credit_max_loss_created rfl rfl credited created]

theorem one_lot_iff {qty : ℤ} (nonempty : data ≠ [])
    (credited : data.mapM credit = some credits)
    (created : data.mapM (create_leg qty args.lot_size) = some legs) :
    (∀ leg ∈ legs, leg.qty = 1) ↔ qty = 1 := by
  have each : ∀ leg ∈ legs, leg.qty = qty := by
    intro leg member
    obtain ⟨item, among, made⟩ := (Traversal.mem_of_mapM created leg).mp member
    obtain ⟨premium, worth⟩ := Option.isSome_iff_exists.mp
      (Traversal.mapM_isSome.mp ⟨credits, credited⟩ item among)
    exact (create_leg_spec worth made).2.2.2.1
  obtain ⟨item, among⟩ := List.exists_mem_of_ne_nil data nonempty
  obtain ⟨leg, made⟩ := Option.isSome_iff_exists.mp
    (Traversal.mapM_isSome.mp ⟨legs, created⟩ item among)
  have member := (Traversal.mem_of_mapM created leg).mpr ⟨item, among, made⟩
  constructor
  · intro single
    rw [← each leg member]
    exact single leg member
  · rintro rfl
    exact each

/-- With lots of a negative size the credit exceeds the width, and is all that can be
lost. -/
theorem turned_bound_iff {qty : ℤ} {lot_size c max_capital : ℚ} (nonneg : 0 ≤ measured)
    (negative : lot_size < 0) (turned : qty * lot_size < 0)
    (risky : 0 < (measured - c) * lot_size) :
    ((qty = 1 ∨ -(qty * lot_size) * c ≤ max_capital) ∧
        -(qty * lot_size) * c ≤ if 0 < qty * lot_size * c then
          measured * (qty * lot_size) - qty * lot_size * c else |qty * lot_size * c|) ↔
      (0 < lot_size ∧ 0 < c ∧ width ≤ measured) ∨
        (lot_size < 0 ∧ (qty = 1 ∨ qty * -lot_size * c ≤ max_capital)) := by
  have credit_received : 0 < c := by
    have below := neg_of_mul_pos_left risky negative.le
    linarith
  have paid := mul_neg_of_neg_of_pos turned credit_received
  rw [if_neg paid.not_gt, abs_of_neg paid, neg_mul, mul_neg, neg_mul]
  simp only [negative, negative.not_gt, le_refl, and_true, true_and, false_and, false_or]

/-- With lots of a positive size the width counts, less the credit. -/
theorem held_bound_iff {qty : ℤ} {lot_size c max_capital : ℚ} (positive : 0 < lot_size)
    (held : 0 < qty * lot_size) (nonneg : 0 ≤ measured) (within : measured ≤ width)
    (width_nonneg : 0 ≤ width) (flat : width = 0 → c = 0)
    (risky : 0 < (measured - c) * lot_size)
    (sized : qty ≠ 1 → qty * ((measured - c) * lot_size) ≤ max_capital) :
    ((qty = 1 ∨ qty * lot_size * (width - c) ≤ max_capital) ∧
        qty * lot_size * (width - c) ≤ if 0 < qty * lot_size * c then
          measured * (qty * lot_size) - qty * lot_size * c else |qty * lot_size * c|) ↔
      (0 < lot_size ∧ 0 < c ∧ width ≤ measured) ∨
        (lot_size < 0 ∧ (qty = 1 ∨ qty * -lot_size * c ≤ max_capital)) := by
  constructor
  · rintro ⟨-, reported⟩
    refine .inl ⟨positive, ?_⟩
    by_cases credit_received : 0 < c
    · rw [if_pos (mul_pos held credit_received)] at reported
      refine ⟨credit_received, le_of_mul_le_mul_left ?_ held⟩
      linarith
    · -- a debit leaves no room for a wing of any width, and without one nothing is at risk
      rw [not_lt] at credit_received
      have paid := mul_nonpos_of_nonneg_of_nonpos held.le credit_received
      rw [if_neg paid.not_gt, abs_of_nonpos paid] at reported
      have narrow : width ≤ 0 := by
        apply le_of_mul_le_mul_left ?_ held
        linarith
      have no_measure := le_antisymm (within.trans narrow) nonneg
      rw [flat (le_antisymm narrow width_nonneg), no_measure, sub_zero, zero_mul] at risky
      exact absurd risky (lt_irrefl 0)
  · rintro (⟨-, credit_received, narrow⟩ | ⟨negative, -⟩)
    · rw [if_pos (mul_pos held credit_received), le_antisymm narrow within]
      constructor
      · by_cases single_lot : qty = 1
        · exact .inl single_lot
        · right
          have fits := sized single_lot
          linarith
      · linarith
    · exact absurd positive negative.not_gt

/-- A structure keeps the bound when a credit is received and no wing is wider than the
one that is measured. -/
theorem keeps_bound_iff (shape : Shape args.option_chain plan width measured)
    (found : plan.positions.mapM (position_data args.option_chain) = some data)
    (credited : data.mapM credit = some credits)
    (risked : risk_per_lot args plan.sizing credits.sum = some (some risk))
    (created : data.mapM (create_leg (lots args.max_capital risk) args.lot_size) =
      some legs) :
    KeepsBound args (built_structure sim now args strategy_type context plan legs) ↔
      (0 < args.lot_size ∧ 0 < credits.sum ∧ width ≤ measured) ∨
        (args.lot_size < 0 ∧ (lots args.max_capital risk = 1 ∨
          lots args.max_capital risk * -args.lot_size * credits.sum ≤
            args.max_capital)) := by
  have losses : ∀ spot_price,
      calculate_expiry_payoff (simulation_legs legs args.expiry) spot_price =
        lots args.max_capital risk * args.lot_size *
          (credits.sum + settlement plan.positions spot_price) := by
    intro spot_price
    rw [payoff_created args.expiry spot_price credited created, map_fst_of_found found]
  have nonempty : data ≠ [] := by
    rintro rfl
    obtain ⟨_, _, _, _, _, positions, -⟩ := shape.first
    have counted := (Traversal.mapM_eq_some.mp found).length_eq
    rw [positions] at counted
    cases counted
  have single := one_lot_iff nonempty credited created
  rw [shape.sized] at risked
  obtain ⟨same, risky⟩ := risk_per_lot_eq risked
  have some_lot : (0 : ℚ) < lots args.max_capital risk :=
    Int.cast_pos.mpr (lots_pos args.max_capital risk)
  have kept : KeepsBound args
      (built_structure sim now args strategy_type context plan legs) ↔
        (lots args.max_capital risk = 1 ∨ ∀ spot_price,
          -(lots args.max_capital risk * args.lot_size *
            (credits.sum + settlement plan.positions spot_price)) ≤ args.max_capital) ∧
        ∀ spot_price, -(lots args.max_capital risk * args.lot_size *
          (credits.sum + settlement plan.positions spot_price)) ≤
            (built_structure sim now args strategy_type context plan
              legs).metrics.max_loss := by
    simp only [← losses, ← single]
    exact ⟨fun ⟨capital, within⟩ => ⟨capital, within⟩,
      fun ⟨capital, within⟩ => ⟨capital, within⟩⟩
  rw [kept, reported_loss shape found credited created]
  rcases lt_trichotomy args.lot_size 0 with negative | zero | positive
  · have turned := mul_neg_of_pos_of_neg some_lot negative
    rw [shape.wings.turned_loss_le_iff turned, shape.wings.turned_loss_le_iff turned]
    exact turned_bound_iff shape.nonneg negative turned (same ▸ risky)
  · rw [same, zero, mul_zero] at risky
    exact absurd risky (lt_irrefl 0)
  · have held := mul_pos some_lot positive
    rw [shape.wings.loss_le_iff held, shape.wings.loss_le_iff held]
    exact held_bound_iff positive held shape.nonneg shape.within shape.wings.nonneg
      (fun no_width => shape.flat no_width data credits found credited) (same ▸ risky)
      (fun more => same ▸ lots_mul_le risky more)

end Kept

/-! ## The three spreads -/

/-- An option that is sold and bought again brings nothing. -/
theorem flat_pair {oc : List ChainOption} {option_type : OptionType} {strike c d : ℚ}
    {sold bought : Position × ChainOption}
    (first : position_data oc ⟨option_type, .SELL, strike⟩ = some sold)
    (second : position_data oc ⟨option_type, .BUY, strike⟩ = some bought)
    (received : credit sold = some c) (paid : credit bought = some d) : c + d = 0 := by
  obtain ⟨opt, got, rfl⟩ := Option.map_eq_some_iff.mp first
  obtain ⟨other, again, rfl⟩ := Option.map_eq_some_iff.mp second
  obtain rfl := Option.some.inj (got.symm.trans again)
  simp only [credit, Option.bind_eq_bind, Option.bind_eq_some_iff] at received paid
  obtain ⟨ltp, read, received⟩ := received
  obtain ⟨also, same, paid⟩ := paid
  obtain rfl := Option.some.inj (read.symm.trans same)
  obtain rfl := Option.some.inj received
  obtain rfl := Option.some.inj paid
  simp [credit_direction]

theorem mapM_pair {α β : Type} {f : α → Option β} {x y : α} {xs : List α} {ys : List β}
    (mapped : (x :: y :: xs).mapM f = some ys) :
    ∃ a b rest, f x = some a ∧ f y = some b ∧ xs.mapM f = some rest ∧ ys = a :: b :: rest := by
  obtain ⟨a, others, first, mapped_others, rfl⟩ := Traversal.mapM_cons_eq_some mapped
  obtain ⟨b, rest, second, mapped_rest, rfl⟩ := Traversal.mapM_cons_eq_some mapped_others
  exact ⟨a, b, rest, first, second, mapped_rest, rfl⟩

/-- The two positions at one strike add nothing to what the others bring. -/
theorem flat_cons {oc : List ChainOption} {option_type : OptionType} {strike : ℚ}
    {rest : List Position} {data : List (Position × ChainOption)} {credits : List ℚ}
    (found : (⟨option_type, .SELL, strike⟩ :: ⟨option_type, .BUY, strike⟩ :: rest :
      List Position).mapM (position_data oc) = some data)
    (credited : data.mapM credit = some credits) :
    ∃ data' credits', rest.mapM (position_data oc) = some data' ∧
      data'.mapM credit = some credits' ∧ credits.sum = credits'.sum := by
  obtain ⟨sold, bought, data', first, second, found_rest, rfl⟩ := mapM_pair found
  obtain ⟨c, d, credits', received, paid, credited_rest, rfl⟩ := mapM_pair credited
  refine ⟨data', credits', found_rest, credited_rest, ?_⟩
  rw [List.sum_cons, List.sum_cons, ← add_assoc, flat_pair first second received paid,
    zero_add]

theorem sum_of_nil {oc : List ChainOption} {data : List (Position × ChainOption)}
    {credits : List ℚ} (found : ([] : List Position).mapM (position_data oc) = some data)
    (credited : data.mapM credit = some credits) : credits.sum = 0 := by
  obtain rfl := Option.some.inj found
  obtain rfl := Option.some.inj credited
  rfl

section Shapes

variable (context : MarketContext) (oc : List ChainOption) (risk_profile : RiskProfile)
  {step_size : ℚ}

theorem shape_bull_put (steps : 0 ≤ step_size) :
    Shape oc (optimize_bull_put_spread context oc risk_profile step_size)
      ((put_spread context oc risk_profile step_size).1 -
        (put_spread context oc risk_profile step_size).2)
      ((put_spread context oc risk_profile step_size).1 -
        (put_spread context oc risk_profile step_size).2) := by
  have ordered := put_spread_ordered context oc risk_profile steps
  unfold optimize_bull_put_spread
  generalize put_spread context oc risk_profile step_size = puts at ordered ⊢
  obtain ⟨short_pe, long_pe⟩ := puts
  have measured : |short_pe - long_pe| = short_pe - long_pe :=
    abs_of_nonneg (sub_nonneg.mpr ordered)
  refine ⟨wings_puts ordered, congrArg Sizing.max_loss measured, sub_nonneg.mpr ordered,
    le_rfl, ⟨_, _, _, _, _, rfl, measured⟩, ?_⟩
  intro narrow data credits found credited
  have no_puts : short_pe = long_pe := sub_eq_zero.mp narrow
  subst no_puts
  obtain ⟨data', credits', nothing, left, same⟩ := flat_cons found credited
  rw [same, sum_of_nil nothing left]

theorem shape_bear_call (steps : 0 ≤ step_size) :
    Shape oc (optimize_bear_call_spread context oc risk_profile step_size)
      ((call_spread context oc risk_profile step_size).2 -
        (call_spread context oc risk_profile step_size).1)
      ((call_spread context oc risk_profile step_size).2 -
        (call_spread context oc risk_profile step_size).1) := by
  have ordered := call_spread_ordered context oc risk_profile steps
  unfold optimize_bear_call_spread
  generalize call_spread context oc risk_profile step_size = calls at ordered ⊢
  obtain ⟨short_ce, long_ce⟩ := calls
  have measured : |short_ce - long_ce| = long_ce - short_ce := by
    rw [abs_sub_comm]
    exact abs_of_nonneg (sub_nonneg.mpr ordered)
  refine ⟨wings_calls ordered, congrArg Sizing.max_loss measured, sub_nonneg.mpr ordered,
    le_rfl, ⟨_, _, _, _, _, rfl, measured⟩, ?_⟩
  intro narrow data credits found credited
  have no_calls : long_ce = short_ce := sub_eq_zero.mp narrow
  subst no_calls
  obtain ⟨data', credits', nothing, left, same⟩ := flat_cons found credited
  rw [same, sum_of_nil nothing left]

theorem shape_condor (steps : 0 ≤ step_size) :
    Shape oc (optimize_iron_condor context oc risk_profile step_size)
      (max ((call_spread context oc risk_profile step_size).2 -
          (call_spread context oc risk_profile step_size).1)
        ((put_spread context oc risk_profile step_size).1 -
          (put_spread context oc risk_profile step_size).2))
      ((call_spread context oc risk_profile step_size).2 -
        (call_spread context oc risk_profile step_size).1) := by
  have calls_ordered := call_spread_ordered context oc risk_profile steps
  have puts_ordered := put_spread_ordered context oc risk_profile steps
  have shorts_ordered := short_strikes_ordered context oc risk_profile steps
  unfold optimize_iron_condor
  generalize call_spread context oc risk_profile step_size = calls
    at calls_ordered shorts_ordered ⊢
  generalize put_spread context oc risk_profile step_size = puts
    at puts_ordered shorts_ordered ⊢
  obtain ⟨short_ce, long_ce⟩ := calls
  obtain ⟨short_pe, long_pe⟩ := puts
  have measured : |short_ce - long_ce| = long_ce - short_ce := by
    rw [abs_sub_comm]
    exact abs_of_nonneg (sub_nonneg.mpr calls_ordered)
  refine ⟨wings_condor puts_ordered shorts_ordered calls_ordered,
    congrArg Sizing.max_loss measured, sub_nonneg.mpr calls_ordered, le_max_left _ _,
    ⟨_, _, _, _, _, rfl, measured⟩, ?_⟩
  intro narrow data credits found credited
  have no_calls : long_ce = short_ce :=
    le_antisymm (sub_nonpos.mp ((le_max_left _ _).trans narrow.le)) calls_ordered
  have no_puts : short_pe = long_pe :=
    le_antisymm (sub_nonpos.mp ((le_max_right _ _).trans narrow.le)) puts_ordered
  subst no_calls no_puts
  obtain ⟨data', credits', puts_found, puts_credited, same⟩ := flat_cons found credited
  obtain ⟨_, _, nothing, left, also⟩ := flat_cons puts_found puts_credited
  rw [same, also, sum_of_nil nothing left]

end Shapes

section Optimized

variable {Date : Type} {sim : Service Date} {now : Date} {args : Arguments}
  {strategy_type : StrategyType}

end Optimized

/-! ### Puts that are further apart

The strikes of the puts are 250 apart, and those of the calls 150. -/

def quoted (option_type : OptionType) (strike : ℚ) (ltp oi : ℤ) : ChainOption where
  strike
  option_type
  fields := [("ltp", .int ltp), ("oi", .int oi)]

def wide_puts : Arguments where
  option_chain :=
    [quoted .PE 25600 20 10, quoted .PE 25850 60 100, quoted .CE 26150 60 100,
      quoted .CE 26300 30 10]
  spot_price := 26000
  atm_strike := 26000
  expiry := "2025-02-27"
  lot_size := 75
  risk_profile := .MODERATE
  max_capital := 20000
  step_size := 50

/-- One structure is built of each.  The condor's reported loss, and its payoff at 25000. -/
theorem optimize_wide_puts :
    (optimize expired_sim () wide_puts .BULL_PUT_SPREAD).map List.length = some 1 ∧
      (optimize expired_sim () wide_puts .IRON_CONDOR).map (fun structures =>
        structures.map (fun built => (built.metrics.max_loss,
          calculate_expiry_payoff (simulation_legs built.legs wide_puts.expiry) 25000))) =
        some [(18000, -40500)] := by
  decide +kernel

end LegOptimizer

end HftEngine.Backend
