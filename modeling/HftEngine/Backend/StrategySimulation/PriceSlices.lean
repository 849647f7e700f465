import HftEngine.Backend.StrategySimulation.Payoff
import HftEngine.Lib.Traversal
import Mathlib.Data.List.AList

/-!
# The table of price slices

`calculate_price_slices` takes a cell from the simulator up to the first expiry, and from
the payoff of all legs from there on.  What the two differ by is the time value of the
legs that are still alive.
-/

namespace HftEngine.Backend.StrategySimulation

open Py.Exact

/-- A row of the table; a key that is assigned again has its last cell. -/
structure SliceRow where
  price_change_pct : ℚ
  spot_price : ℚ
  pnl_by_time : AList (fun _ : String => ℚ)

structure PriceSlices where
  current_spot : ℚ
  /-- Without legs it is infinite. -/
  days_to_expiry : Option ℚ
  time_columns : List String
  slices : List SliceRow

/-- The column of an offset in days; None is the expiry. -/
def time_key : Option ℤ → String
  | none => "expiry"
  | some days => if 0 < days then "+" ++ toString days ++ "d" else "today"

section Table

variable {Date : Type} (service : Service Date) (add_days : Date → ℤ → Option Date)
  (legs : List StrategyLeg) (current_spot : ℚ) (current_date : Date)

/-- The P&L of a cell before it is rounded. -/
def slice_pnl (min_dte : Option ℚ) (sim_price : ℚ) : Option ℤ → Option ℚ
  | none => some (calculate_expiry_payoff legs sim_price)
  | some days =>
      if min_dte.any (fun dte => dte ≤ (days : ℚ)) then
        some (calculate_expiry_payoff legs sim_price)
      else do
        let sim_date ← add_days current_date days
        let point ← simulate_strategy_at_point service legs sim_price sim_date 0 none
        some point.pnl

def slice_row (min_dte : Option ℚ) (time_offsets : List (Option ℤ)) (pct_change : ℚ) :
    Option SliceRow := do
  let sim_price := current_spot * (1 + pct_change)
  let pnl_by_time ← time_offsets.foldlM (fun cells days =>
    (slice_pnl service add_days legs current_date min_dte sim_price days).map (fun pnl =>
      cells.insert (time_key days) (roundTo 2 pnl))) ∅
  some
    { price_change_pct := roundTo 1 (pct_change * 100)
      spot_price := roundTo 2 sim_price
      pnl_by_time }

def calculate_price_slices (price_changes : List ℚ) (time_offsets : List (Option ℤ)) :
    Option PriceSlices := do
  let dtes ← legs.mapM (days_left service 0 current_date)
  let slices ← price_changes.mapM
    (slice_row service add_days legs current_spot current_date dtes.min? time_offsets)
  some
    { current_spot
      days_to_expiry := dtes.min?.map (roundTo 1)
      time_columns :=
        ["today"] ++
          (time_offsets.filter (fun days => days.any (0 < ·))).map time_key ++ ["expiry"]
      slices }

/-! ## What the simulator adds to the payoff -/

/-- What a leg is worth above its intrinsic value, times how much of it is held. -/
def time_value (spot_price : ℚ) (date : Date) (leg : StrategyLeg) : Option ℚ := do
  let days_to_expiry ← days_left service 0 date leg
  let current_price ← black_scholes_price service spot_price leg.strike
    (days_to_expiry / 365) (adjusted_iv 0 leg) service.risk_free_rate leg.option_type
  some (leg.multiplier *
    (current_price - intrinsic spot_price leg.option_type leg.strike))

def live_value (spot_price : ℚ) (date : Date) : Option ℚ :=
  (legs.mapM (time_value service spot_price date)).map List.sum

variable {legs}

theorem greeks_isSome {spot strike time_to_expiry volatility rate : ℚ}
    {option_type : ChartOfAccuracy.OptionType} {price : ℚ}
    (priced : black_scholes_price service spot strike time_to_expiry volatility rate
      option_type = some price) :
    ∃ greeks, calculate_greeks service spot strike time_to_expiry volatility rate
      option_type = some greeks := by
  unfold calculate_greeks
  unfold black_scholes_price at priced
  split at priced
  case isTrue expired => exact ⟨_, if_pos expired⟩
  case isFalse alive =>
      rw [Option.bind_eq_bind, Option.bind_eq_some_iff] at priced
      obtain ⟨d, found, -⟩ := priced
      rw [if_neg alive, found]
      exact ⟨_, rfl⟩

theorem add_leg_pnl (spot_price : ℚ) (date : Date) (totals : Totals) (leg : StrategyLeg) :
    (add_leg service spot_price date 0 service.risk_free_rate totals leg).map (·.pnl) =
      (time_value service spot_price date leg).map (fun value =>
        totals.pnl + (leg.pnl (intrinsic spot_price leg.option_type leg.strike) + value)) := by
  unfold add_leg leg_greeks time_value
  cases days_left service 0 date leg with
  | none => rfl
  | some days_to_expiry =>
      simp only [Option.bind_eq_bind, Option.bind_some]
      cases priced : black_scholes_price service spot_price leg.strike
          (days_to_expiry / 365) (adjusted_iv 0 leg) service.risk_free_rate
          leg.option_type with
      | none => rfl
      | some current_price =>
          obtain ⟨greeks, modelled⟩ := greeks_isSome service priced
          simp only [modelled, Option.bind_some, Option.map_some, StrategyLeg.pnl_eq]
          congr 2
          ring

theorem run_pnl (legs : List StrategyLeg) (spot_price : ℚ) (date : Date) (totals : Totals) :
    (legs.foldlM (add_leg service spot_price date 0 service.risk_free_rate) totals).map
        (·.pnl) =
      (live_value service legs spot_price date).map (fun value =>
        totals.pnl + (calculate_expiry_payoff legs spot_price + value)) := by
  induction legs generalizing totals with
  | nil => simp [live_value]
  | cons leg legs ih =>
      have added := add_leg_pnl service spot_price date totals leg
      rw [List.foldlM_cons, live_value, List.mapM_cons]
      cases step : add_leg service spot_price date 0 service.risk_free_rate totals leg with
      | none =>
          rw [step, Option.map_none, eq_comm, Option.map_eq_none_iff] at added
          rw [added]
          rfl
      | some next =>
          rw [step, Option.map_some, eq_comm, Option.map_eq_some_iff] at added
          obtain ⟨value, worth, same⟩ := added
          rw [worth]
          simp only [Option.bind_eq_bind, Option.bind_some, ih, ← same, live_value]
          cases legs.mapM (time_value service spot_price date) with
          | none => rfl
          | some values =>
              simp only [Option.map_some, Option.bind_some, Option.pure_def,
                List.sum_cons, payoff_cons]
              congr 1
              ring

/-- The simulator's P&L is the payoff with the time value of the legs, rounded. -/
theorem simulate_pnl (legs : List StrategyLeg) (spot_price : ℚ) (date : Date) :
    (simulate_strategy_at_point service legs spot_price date 0 none).map (·.pnl) =
      (live_value service legs spot_price date).map (fun value =>
        roundTo 2 (calculate_expiry_payoff legs spot_price + value)) := by
  have ran := run_pnl service legs spot_price date {}
  unfold simulate_strategy_at_point
  simp only [Option.getD_none, Option.bind_eq_bind]
  cases summed : legs.foldlM (add_leg service spot_price date 0 service.risk_free_rate)
      {} with
  | none =>
      rw [summed, Option.map_none, eq_comm, Option.map_eq_none_iff] at ran
      rw [ran]
      rfl
  | some totals =>
      rw [summed, Option.map_some, eq_comm, Option.map_eq_some_iff] at ran
      obtain ⟨value, worth, same⟩ := ran
      rw [zero_add] at same
      rw [worth, Option.bind_some, Option.map_some, Option.map_some, same]

/-- Once every leg has expired nothing but the payoff is left. -/
theorem live_value_expired {spot_price : ℚ} {date : Date}
    (expired : ∀ leg ∈ legs, days_left service 0 date leg = some 0) :
    live_value service legs spot_price date = some 0 := by
  have worthless : legs.mapM (time_value service spot_price date) =
      some (legs.map (fun _ => 0)) := by
    rw [Traversal.mapM_eq_map]
    intro leg member
    rw [time_value, expired leg member, Option.bind_eq_bind, Option.bind_some, zero_div,
      black_scholes_price, if_pos le_rfl]
    simp
  rw [live_value, worthless]
  simp

/-! ## What a cell shows -/

variable (legs)

/-- The offset is the last one of its column. -/
def Shown (time_offsets : List (Option ℤ)) (days : Option ℤ) : Prop :=
  time_offsets.reverse.find? (fun other => time_key other = time_key days) = some days

instance (time_offsets : List (Option ℤ)) (days : Option ℤ) :
    Decidable (Shown time_offsets days) :=
  inferInstanceAs (Decidable (_ = _))

/-- What the simulator gives at an offset: for None, at any date by which all legs have
expired. -/
def SimulatedAt (sim_price pnl : ℚ) : Option ℤ → Prop
  | none => ∀ date, (∀ leg ∈ legs, days_left service 0 date leg = some 0) →
      (simulate_strategy_at_point service legs sim_price date 0 none).map (·.pnl) = some pnl
  | some days => ∀ date ∈ add_days current_date days,
      (simulate_strategy_at_point service legs sim_price date 0 none).map (·.pnl) = some pnl

/-- Some leg has expired so many days on. -/
def PastExpiry (days : ℤ) : Prop :=
  ∃ leg ∈ legs, ∃ dte ∈ days_left service 0 current_date leg, dte ≤ days

/-- Every cell is the P&L that the simulator gives at its price and its offset. -/
def SlicesAgree (price_changes : List ℚ) (time_offsets : List (Option ℤ))
    (table : PriceSlices) : Prop :=
  List.Forall₂ (fun pct_change row => ∀ days, Shown time_offsets days →
    ∃ pnl, row.pnl_by_time.lookup (time_key days) = some pnl ∧
      SimulatedAt service add_days legs current_date (current_spot * (1 + pct_change)) pnl
        days)
    price_changes table.slices

/-- Once some leg has expired, the legs that are alive are worth their intrinsic value,
as far as two decimals of the sum show. -/
def NoTimeValue (price_changes : List ℚ) (time_offsets : List (Option ℤ)) : Prop :=
  ∀ pct_change ∈ price_changes, ∀ days, Shown time_offsets (some days) →
    PastExpiry service legs current_date days → ∀ date ∈ add_days current_date days,
      ∃ value ∈ live_value service legs (current_spot * (1 + pct_change)) date,
        roundTo 2 (calculate_expiry_payoff legs (current_spot * (1 + pct_change)) + value) =
          roundTo 2 (calculate_expiry_payoff legs (current_spot * (1 + pct_change)))

/-- Every cell from the expiry on is the rounded payoff, as is the simulator's P&L. -/
def Settled (price_changes : List ℚ) (time_offsets : List (Option ℤ))
    (table : PriceSlices) : Prop :=
  List.Forall₂ (fun pct_change row => ∀ days, Shown time_offsets days →
    (∀ offset ∈ days, PastExpiry service legs current_date offset) →
    let payoff := calculate_expiry_payoff legs (current_spot * (1 + pct_change))
    row.pnl_by_time.lookup (time_key days) = some (roundTo 2 payoff) ∧
      SimulatedAt service add_days legs current_date (current_spot * (1 + pct_change))
        (roundTo 2 payoff) days)
    price_changes table.slices

variable {service add_days legs current_spot current_date}

/-- A cell is the rounded P&L of the last offset of its column. -/
theorem lookup_cell {min_dte : Option ℚ} {sim_price : ℚ} {time_offsets : List (Option ℤ)}
    {cells final : AList (fun _ : String => ℚ)}
    (filled : time_offsets.foldlM (fun cells days =>
      (slice_pnl service add_days legs current_date min_dte sim_price days).map (fun pnl =>
        cells.insert (time_key days) (roundTo 2 pnl))) cells = some final) (key : String) :
    match time_offsets.reverse.find? (fun other => time_key other = key) with
    | some days =>
        ∃ raw, slice_pnl service add_days legs current_date min_dte sim_price days =
          some raw ∧ final.lookup key = some (roundTo 2 raw)
    | none => final.lookup key = cells.lookup key := by
  induction time_offsets generalizing cells with
  | nil =>
      obtain rfl := Option.some.inj filled
      rfl
  | cons first rest ih =>
      rw [List.foldlM_cons, Option.bind_eq_bind, Option.bind_eq_some_iff] at filled
      obtain ⟨next, inserted, filled⟩ := filled
      obtain ⟨raw, computed, rfl⟩ := Option.map_eq_some_iff.mp inserted
      have later := ih filled
      rw [List.reverse_cons, List.find?_append]
      cases found : rest.reverse.find? (fun other => time_key other = key) with
      | some days =>
          rw [found] at later
          exact later
      | none =>
          rw [found] at later
          rw [Option.none_or, List.find?_singleton]
          by_cases same : time_key first = key
          · subst same
            rw [AList.lookup_insert] at later
            rw [if_pos (decide_eq_true rfl)]
            exact ⟨raw, computed, later⟩
          · rw [if_neg (by simpa using same)]
            exact later.trans (AList.lookup_insert_ne (Ne.symm same))

theorem slice_row_cell {min_dte : Option ℚ} {time_offsets : List (Option ℤ)}
    {pct_change : ℚ} {row : SliceRow}
    (computed : slice_row service add_days legs current_spot current_date min_dte
      time_offsets pct_change = some row) {days : Option ℤ}
    (shown : Shown time_offsets days) :
    ∃ raw, slice_pnl service add_days legs current_date min_dte
        (current_spot * (1 + pct_change)) days = some raw ∧
      row.pnl_by_time.lookup (time_key days) = some (roundTo 2 raw) := by
  rw [slice_row, Option.bind_eq_bind, Option.bind_eq_some_iff] at computed
  obtain ⟨cells, filled, same⟩ := computed
  obtain rfl := Option.some.inj same
  have found := lookup_cell filled (time_key days)
  rw [Shown] at shown
  rw [shown] at found
  exact found

/-- The first expiry is past when that of some leg is. -/
theorem any_min_dte {dtes : List ℚ}
    (remaining : legs.mapM (days_left service 0 current_date) = some dtes) (days : ℤ) :
    dtes.min?.any (fun dte => dte ≤ (days : ℚ)) = true ↔
      PastExpiry service legs current_date days := by
  have members := Traversal.mem_of_mapM remaining
  rw [Option.any_eq_true]
  constructor
  · rintro ⟨dte, least, reached⟩
    obtain ⟨leg, member, left⟩ := (members dte).mp (List.min?_mem least)
    exact ⟨leg, member, dte, left, of_decide_eq_true reached⟩
  · rintro ⟨leg, member, dte, left, reached⟩
    have among := (members dte).mpr ⟨leg, member, left⟩
    obtain ⟨least, found⟩ := Option.isSome_iff_exists.mp
      (List.isSome_min?_of_mem among)
    have below := (List.min?_eq_some_iff.mp found).2 dte among
    exact ⟨least, found, decide_eq_true (below.trans reached)⟩

theorem roundTo_roundTo (places : ℕ) (x : ℚ) : roundTo places (roundTo places x) =
    roundTo places x := by
  apply roundTo_of_scaled (n := roundHalfEven (x * 10 ^ places))
  rw [roundTo, div_mul_cancel₀]
  positivity

/-- A cell is what the simulator gives, unless a leg has expired and another one has time
value left. -/
theorem simulatedAt_cell_iff {dtes : List ℚ} {sim_price raw : ℚ} {days : Option ℤ}
    (remaining : legs.mapM (days_left service 0 current_date) = some dtes)
    (computed : slice_pnl service add_days legs current_date dtes.min? sim_price days =
      some raw) :
    SimulatedAt service add_days legs current_date sim_price (roundTo 2 raw) days ↔
      ∀ offset ∈ days, PastExpiry service legs current_date offset →
        ∀ date ∈ add_days current_date offset,
          ∃ value ∈ live_value service legs sim_price date,
            roundTo 2 (calculate_expiry_payoff legs sim_price + value) =
              roundTo 2 (calculate_expiry_payoff legs sim_price) := by
  cases days with
  | none =>
      obtain rfl := Option.some.inj computed
      refine iff_of_true ?_ nofun
      intro date expired
      rw [simulate_pnl, live_value_expired service expired, Option.map_some, add_zero]
  | some days =>
      simp only [Option.mem_some_iff, forall_eq']
      rw [slice_pnl] at computed
      by_cases past : PastExpiry service legs current_date days
      · rw [if_pos ((any_min_dte remaining days).mpr past)] at computed
        obtain rfl := Option.some.inj computed
        simp only [SimulatedAt, past, forall_const, simulate_pnl, Option.map_eq_some_iff,
          Option.mem_def]
      · rw [if_neg (fun any => past ((any_min_dte remaining days).mp any))] at computed
        simp only [Option.bind_eq_bind, Option.bind_eq_some_iff] at computed
        obtain ⟨sim_date, reached, point, simulated, same⟩ := computed
        obtain rfl := Option.some.inj same
        refine iff_of_true ?_ (fun also => absurd also past)
        intro date member
        obtain rfl := Option.some.inj (reached.symm.trans member)
        have rounded := simulate_pnl service legs sim_price sim_date
        rw [simulated, Option.map_some, eq_comm, Option.map_eq_some_iff] at rounded
        obtain ⟨value, -, pnl⟩ := rounded
        rw [simulated, Option.map_some, ← pnl, roundTo_roundTo]

theorem calculate_price_slices_rows {price_changes : List ℚ}
    {time_offsets : List (Option ℤ)} {table : PriceSlices}
    (sliced : calculate_price_slices service add_days legs current_spot current_date
      price_changes time_offsets = some table) :
    ∃ dtes, legs.mapM (days_left service 0 current_date) = some dtes ∧
      List.Forall₂ (fun pct_change row => slice_row service add_days legs current_spot
        current_date dtes.min? time_offsets pct_change = some row)
        price_changes table.slices := by
  simp only [calculate_price_slices, Option.bind_eq_bind, Option.bind_eq_some_iff] at sliced
  obtain ⟨dtes, remaining, slices, computed, same⟩ := sliced
  obtain rfl := Option.some.inj same
  exact ⟨dtes, remaining, Traversal.mapM_eq_some.mp computed⟩

theorem slices_agree_iff {price_changes : List ℚ} {time_offsets : List (Option ℤ)}
    {table : PriceSlices}
    (sliced : calculate_price_slices service add_days legs current_spot current_date
      price_changes time_offsets = some table) :
    SlicesAgree service add_days legs current_spot current_date price_changes time_offsets
        table ↔
      NoTimeValue service add_days legs current_spot current_date price_changes
        time_offsets := by
  obtain ⟨dtes, remaining, rows⟩ := calculate_price_slices_rows sliced
  apply Traversal.forall₂_iff rows
  intro pct_change row computed
  constructor
  · intro cells days shown
    obtain ⟨raw, found, cell⟩ := slice_row_cell computed shown
    obtain ⟨pnl, looked_up, simulated⟩ := cells (some days) shown
    obtain rfl := Option.some.inj (cell.symm.trans looked_up)
    exact (simulatedAt_cell_iff remaining found).mp simulated days rfl
  · intro worthless days shown
    obtain ⟨raw, found, cell⟩ := slice_row_cell computed shown
    refine ⟨_, cell, (simulatedAt_cell_iff remaining found).mpr ?_⟩
    rintro offset ⟨⟩
    exact worthless offset shown

/-! ## One expiry -/

/-- A date that is moved by days is so much closer to every expiry. -/
def Clock (service : Service Date) (add_days : Date → ℤ → Option Date) : Prop :=
  ∀ expiry date days later seconds, add_days date days = some later →
    service.total_seconds expiry date = some seconds →
      service.total_seconds expiry later = some (seconds - days * (24 * 3600))

theorem expired_after (clock : Clock service add_days) {expiry : String}
    (common : ∀ leg ∈ legs, leg.expiry = expiry) {days : ℤ}
    (past : PastExpiry service legs current_date days) {date : Date}
    (moved : date ∈ add_days current_date days) :
    ∀ leg ∈ legs, days_left service 0 date leg = some 0 := by
  obtain ⟨first, member, dte, left, reached⟩ := past
  obtain ⟨seconds, total, rfl⟩ := Option.map_eq_some_iff.mp left
  rw [common first member] at total
  have later := clock _ _ _ _ _ moved total
  have due : seconds ≤ days * (24 * 3600) := by
    rw [← div_le_iff₀ (by norm_num)]
    exact (le_max_right _ _).trans reached
  intro leg among
  rw [days_left, common leg among, later, Option.map_some, max_eq_left]
  exact div_nonpos_of_nonpos_of_nonneg (sub_nonpos.mpr due) (by norm_num)

theorem settled (clock : Clock service add_days) {expiry : String}
    (common : ∀ leg ∈ legs, leg.expiry = expiry) {price_changes : List ℚ}
    {time_offsets : List (Option ℤ)} {table : PriceSlices}
    (sliced : calculate_price_slices service add_days legs current_spot current_date
      price_changes time_offsets = some table) :
    Settled service add_days legs current_spot current_date price_changes time_offsets
      table := by
  obtain ⟨dtes, remaining, rows⟩ := calculate_price_slices_rows sliced
  apply rows.imp
  intro pct_change row computed days shown past
  obtain ⟨raw, found, cell⟩ := slice_row_cell computed shown
  have same : raw = calculate_expiry_payoff legs (current_spot * (1 + pct_change)) := by
    cases days with
    | none => exact (Option.some.inj found).symm
    | some days =>
        rw [slice_pnl, if_pos ((any_min_dte remaining days).mpr (past days rfl))] at found
        exact (Option.some.inj found).symm
  subst same
  refine ⟨cell, (simulatedAt_cell_iff remaining found).mpr ?_⟩
  intro offset member reached date moved
  refine ⟨0, live_value_expired service (expired_after clock common reached moved), ?_⟩
  rw [add_zero]

/-- The table agrees with the simulator exactly when no leg has time value left once
another one has expired; with one expiry both are the rounded payoff from it on. -/
theorem price_slices_iff (clock : Clock service add_days) {price_changes : List ℚ}
    {time_offsets : List (Option ℤ)} {table : PriceSlices}
    (sliced : calculate_price_slices service add_days legs current_spot current_date
      price_changes time_offsets = some table) :
    (SlicesAgree service add_days legs current_spot current_date price_changes time_offsets
        table ↔
      NoTimeValue service add_days legs current_spot current_date price_changes
        time_offsets) ∧
      ∀ expiry, (∀ leg ∈ legs, leg.expiry = expiry) →
        Settled service add_days legs current_spot current_date price_changes time_offsets
          table :=
  ⟨slices_agree_iff sliced, fun _ common => settled clock common sliced⟩

end Table

/-! ### A calendar spread

The call that is sold expires in five days, and the one that is bought a year and a week
from now. -/

def calendar_service : Service ℤ where
  functions := near_functions
  risk_free_rate := 0
  total_seconds expiry date :=
    some (((if expiry = "2025-02-27" then 5 else 372) - date) * (24 * 3600))
  gauss _ _ := 0

def calendar_spread : List StrategyLeg :=
  [option_leg .CE .SELL 100 3, { option_leg .CE .BUY 100 6 with expiry := "2026-03-01" }]

def calendar_days (date days : ℤ) : Option ℤ :=
  some (date + days)

theorem calendar_clock : Clock calendar_service calendar_days := by
  rintro expiry date days _ _ ⟨⟩ ⟨⟩
  simp only [calendar_service, Int.cast_add, Option.some.injEq]
  ring

def calendar_table : PriceSlices :=
  (calculate_price_slices calendar_service calendar_days calendar_spread 100 0 [0]
    [some 7, none]).get (by with_unfolding_all decide)

theorem calendar_sliced :
    calculate_price_slices calendar_service calendar_days calendar_spread 100 0 [0]
      [some 7, none] = some calendar_table :=
  (Option.some_get _).symm

theorem price_slices_iff_calendar :
    (SlicesAgree calendar_service calendar_days calendar_spread 100 0 [0] [some 7, none]
        calendar_table ↔
      NoTimeValue calendar_service calendar_days calendar_spread 100 0 [0]
        [some 7, none]) ∧
      ∀ expiry, (∀ leg ∈ calendar_spread, leg.expiry = expiry) →
        Settled calendar_service calendar_days calendar_spread 100 0 [0] [some 7, none]
          calendar_table :=
  price_slices_iff calendar_clock calendar_sliced

/-- A week on the call that is bought has its time value, which the table leaves out. -/
theorem slices_disagree :
    ¬SlicesAgree calendar_service calendar_days calendar_spread 100 0 [0] [some 7, none]
      calendar_table := by
  rw [slices_agree_iff calendar_sliced]
  intro worthless
  have priced : (live_value calendar_service calendar_spread (100 * (1 + 0)) 7).all
      (fun value =>
        roundTo 2 (calculate_expiry_payoff calendar_spread (100 * (1 + 0)) + value) ≠
          roundTo 2 (calculate_expiry_payoff calendar_spread (100 * (1 + 0)))) = true := by
    with_unfolding_all decide
  have past : PastExpiry calendar_service calendar_spread 0 7 :=
    ⟨_, List.mem_cons_self, _, rfl, by with_unfolding_all decide⟩
  obtain ⟨value, worth, same⟩ := worthless 0 List.mem_cons_self 7 (by decide) past 7 rfl
  rw [Option.mem_def] at worth
  rw [worth, Option.all_some, decide_eq_true_iff] at priced
  exact priced same

end HftEngine.Backend.StrategySimulation
