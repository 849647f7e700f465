import HftEngine.Lib.Grouping
import HftEngine.Lib.Json.Number
import HftEngine.Lib.Python.Exact

/-!
# Normalised messages of the engine

`normalize_data` makes the option chain of the backend from a message of the
engine, with exact numbers.  A field of a message that is missing is null.
-/

namespace HftEngine.Backend.Normalization

open Json
open Py (exact)
open Py.Exact

/-- What the module takes from `math`. -/
structure Math where
  sqrt : ℚ → ℚ
  log : ℚ → ℚ
  erf : ℚ → ℚ
  pi : ℚ

/-! ## Approximations -/

section Approximation

variable (math : Math)

/-- In years, one day at least. -/
def time_to_expiry (dte : ℚ) : ℚ :=
  max (dte / 365) (1 / 365)

def calculate_iv_approximation (ltp spot_price strike dte : ℚ) (option_type : String) :
    ℚ :=
  if ltp ≤ 0 ∨ spot_price ≤ 0 ∨ dte ≤ 0 then 12
  else
    let t := time_to_expiry dte
    let moneyness := strike / spot_price
    let intrinsic :=
      if option_type.toUpper = "CE" then max 0 (spot_price - strike)
      else max 0 (strike - spot_price)
    let time_value := max (1 / 100) (ltp - intrinsic)
    let iv := time_value / spot_price * math.sqrt (2 * math.pi / t) * 100
    let iv :=
      if moneyness < 95 / 100 ∨ 105 / 100 < moneyness then
        iv * (1 + |1 - moneyness| * (3 / 10))
      else iv
    max 5 (min 100 iv)

/-- The delta by moneyness alone. -/
def delta_by_moneyness (spot_price strike : ℚ) (option_type : String) : ℚ :=
  if option_type.toUpper = "CE" then
    if strike ≤ spot_price then 1 / 2 else 3 / 10
  else if spot_price ≤ strike then -1 / 2 else -3 / 10

def calculate_delta_approximation (spot_price strike : ℚ) (option_type : String)
    (dte iv : ℚ) : ℚ :=
  if spot_price ≤ 0 ∨ strike ≤ 0 ∨ dte ≤ 0 ∨ iv ≤ 0 then
    delta_by_moneyness spot_price strike option_type
  else
    let t := time_to_expiry dte
    let sigma := iv / 100
    let d1 := (math.log (spot_price / strike) +
      (65 / 1000 + 1 / 2 * sigma * sigma) * t) / (sigma * math.sqrt t)
    let nd1 := 1 / 2 * (1 + math.erf (d1 / math.sqrt 2))
    if option_type.toUpper = "CE" then roundTo 4 nd1
    else roundTo 4 (nd1 - 1)

end Approximation

/-! ## Legs -/

structure HftOption where
  option_type : Option String := none
  strike : Option ℚ := none
  ltp : Option ℚ := none
  iv : Option ℚ := none
  delta : Option ℚ := none
  gamma : Option ℚ := none
  theta : Option ℚ := none
  vega : Option ℚ := none
  rho : Option ℚ := none
  moneyness_type : Option String := none
  oi : Option ℚ := none
  change_oi : Option ℚ := none
  oi_change : Option ℚ := none
  oi_change_pct : Option ℚ := none
  prev_oi : Option ℚ := none
  volume : Option ℚ := none
  prev_volume : Option ℚ := none
  avg_traded_price : Option ℚ := none
  prev_close : Option ℚ := none
  price_change : Option ℚ := none
  price_change_pct : Option ℚ := none
  bid : Option ℚ := none
  ask : Option ℚ := none
  bid_qty : Option ℚ := none
  ask_qty : Option ℚ := none
  buildup_type : Option String := none
  buildup_name : Option String := none
  symbol : Option String := none
  symbol_id : Option ℚ := none
  is_liquid : Option Bool := none
  is_valid : Option Bool := none

/-- `value or 0`. -/
def orZero (value : Option ℚ) : ℚ :=
  value.getD 0

/-- `text or other`. -/
def orText (text : Option String) (other : String) : String :=
  match text with
  | some text => if text = "" then other else text
  | none => other

structure Greeks where
  delta : ℚ
  gamma : ℚ
  theta : ℚ
  vega : ℚ
  rho : ℚ
  deriving DecidableEq

/-- A leg of the chain.  `vol`, `oi`, `oi_change` and `change` repeat `volume`, `OI`,
`oichng` and `p_chng`, and the leg has the Greeks of `optgeeks` but `rho` as well. -/
structure Leg where
  ltp : ℚ
  atp : ℚ
  pc : ℚ
  bid : ℚ
  ask : ℚ
  bid_qty : ℚ
  ask_qty : ℚ
  volume : ℚ
  pVol : ℚ
  OI : ℚ
  oichng : ℚ
  oiperchnge : ℚ
  p_oi : ℚ
  p_chng : ℚ
  p_pchng : ℚ
  iv : ℚ
  btyp : String
  BuiltupName : String
  mness : String
  optgeeks : Greeks
  sym : String
  sid : ℚ
  is_liquid : Bool
  is_valid : Bool
  deriving DecidableEq

/-- As a percentage; one that is exactly 1 is neither. -/
def raw_iv (opt : HftOption) : Option ℚ :=
  match opt.iv with
  | some raw =>
      if 0 < raw ∧ raw < 1 then some (raw * 100)
      else if 1 < raw then some raw
      else none
  | none => none

/-- `mness[0]`, or `O` for a text that is empty. -/
def mness (opt : HftOption) : String :=
  match (opt.moneyness_type.getD "").toList with
  | [] => "O"
  | c :: _ => String.ofList [c]

def normalize_option_leg (math : Math) (opt : HftOption) (spot_price dte : ℚ) : Leg :=
  let option_type := (opt.option_type.getD "CE").toUpper
  let strike := orZero opt.strike
  let ltp := orZero opt.ltp
  let iv :=
    match raw_iv opt with
    | some iv => iv
    | none =>
        if 0 < spot_price ∧ 0 < ltp ∧ 0 < dte then
          calculate_iv_approximation math ltp spot_price strike dte option_type
        else 15
  let delta :=
    if orZero opt.delta ≠ 0 then orZero opt.delta
    else if 0 < spot_price ∧ 0 < strike ∧ 0 < iv then
      calculate_delta_approximation math spot_price strike option_type dte iv
    else delta_by_moneyness spot_price strike option_type
  let gamma :=
    if orZero opt.gamma = 0 ∧ 0 < spot_price ∧ 0 < iv then
      min (1 / 100) (1 / 100 /
        (spot_price * (iv / 100) * math.sqrt (time_to_expiry dte) + 1 / 1000))
    else orZero opt.gamma
  let theta :=
    if orZero opt.theta = 0 ∧ 0 < iv ∧ 0 < dte then
      let theta := -(ltp * (iv / 100) / (2 * math.sqrt (max dte 1))) * (1 / 10)
      if option_type = "PE" then |theta| * -1 else theta
    else orZero opt.theta
  let vega :=
    if orZero opt.vega = 0 ∧ 0 < iv ∧ 0 < dte then
      spot_price * math.sqrt (time_to_expiry dte) * (1 / 1000)
    else orZero opt.vega
  { ltp
    atp := orZero opt.avg_traded_price
    pc := orZero opt.prev_close
    bid := orZero opt.bid
    ask := orZero opt.ask
    bid_qty := orZero opt.bid_qty
    ask_qty := orZero opt.ask_qty
    volume := orZero opt.volume
    pVol := orZero opt.prev_volume
    OI := orZero opt.oi
    oichng := if orZero opt.change_oi ≠ 0 then orZero opt.change_oi else orZero opt.oi_change
    oiperchnge := orZero opt.oi_change_pct
    p_oi := orZero opt.prev_oi
    p_chng := orZero opt.price_change
    p_pchng := orZero opt.price_change_pct
    iv := roundTo 2 iv
    btyp := orText opt.buildup_type "NT"
    BuiltupName := orText opt.buildup_name "NEUTRAL"
    mness := mness opt
    optgeeks :=
      { delta := roundTo 4 delta
        gamma := roundTo 6 gamma
        theta := roundTo 4 theta
        vega := roundTo 4 vega
        rho := orZero opt.rho }
    sym := opt.symbol.getD ""
    sid := orZero opt.symbol_id
    is_liquid := opt.is_liquid.getD true
    is_valid := opt.is_valid.getD true }

/-! ## The chain -/

structure FuturesData where
  ltp : Option ℚ := none
  oi : Option ℚ := none
  oi_change : Option ℚ := none
  volume : Option ℚ := none
  symbol : Option String := none

structure Context where
  spot_price : Option ℚ := none
  days_to_expiry : Option ℚ := none

structure HftMessage where
  context : Context := {}
  options : List HftOption := []
  futures : Option FuturesData := none

structure Reversal where
  reversal : ℚ
  wkly_reversal : ℚ
  fut_reversal : ℚ
  ce_strength : ℚ
  pe_strength : ℚ
  deriving DecidableEq

/-- The value of a strike in `oc`; a leg that is empty is none. -/
structure Entry where
  ce : Option Leg := none
  pe : Option Leg := none
  reversal : Option Reversal := none
  deriving DecidableEq

abbrev Chain := List (String × Entry)

/-- `opt.get("option_type", "").upper() == "CE"`. -/
def is_ce (opt : HftOption) : Bool :=
  (opt.option_type.getD "").toUpper = "CE"

def strike_str (strike : ℚ) : String :=
  String.ofList (intText (trunc strike))

namespace HftMessage

def spot_price (message : HftMessage) : ℚ :=
  orZero message.context.spot_price

/-- `context.get("days_to_expiry", 1) or 1`. -/
def dte (message : HftMessage) : ℚ :=
  if orZero message.context.days_to_expiry = 0 then 1
  else orZero message.context.days_to_expiry

end HftMessage

def put_leg (math : Math) (message : HftMessage) (entry : Entry) (opt : HftOption) :
    Entry :=
  let leg := normalize_option_leg math opt message.spot_price message.dte
  if is_ce opt then { entry with ce := some leg } else { entry with pe := some leg }

/-- The options that have a strike, each with it. -/
def HftMessage.with_strikes (message : HftMessage) : List (ℚ × HftOption) :=
  message.options.filterMap (fun opt => opt.strike.map (·, opt))

/-- `oc` before the reversals are calculated. -/
def legs (math : Math) (message : HftMessage) : Chain :=
  Grouping.group (fun option => strike_str option.1) {}
    (fun entry option => put_leg math message entry option.2) message.with_strikes

/-- `float(key)`, for a key in the syntax of JSON. -/
def key_number (key : String) : Option ℚ := do
  (exact (← number? key.toList)).toOption

/-- `float` of a key of `oc`, which is always a number. -/
def strike_val (key : String) : ℚ :=
  (key_number key).getD 0

def sorted_keys (oc : Chain) : List String :=
  (oc.map Prod.fst).insertionSort (fun a b => strike_val a ≤ strike_val b)

def Entry.oi (leg : Option Leg) : ℚ :=
  (leg.map Leg.OI).getD 0

def Entry.max_oi (oc : Chain) : ℚ :=
  oc.foldl (fun m item => max (max m (Entry.oi item.2.ce)) (Entry.oi item.2.pe)) 1

/-- `(oi * 0.7 + vol * 0.3) * gamma_mult * iv_mult`. -/
def leg_strength (leg : Option Leg) : ℚ :=
  let vol := (leg.map Leg.volume).getD 0
  let gamma := |(leg.map (fun l => l.optgeeks.gamma)).getD 0|
  let iv := (leg.map Leg.iv).getD 0
  (Entry.oi leg * (7 / 10) + vol * (3 / 10)) * (1 + gamma * 50) * (1 + iv / 100)

def reversal_of (message : HftMessage) (max_oi : ℚ) (strike_val : ℚ) (s : Entry) :
    Reversal :=
  let spot_price := message.spot_price
  let oi_ratio := (Entry.oi s.ce + Entry.oi s.pe) / (max_oi * 2 + 1 / 1000)
  let strength_factor := min (2 / 100) (oi_ratio * (5 / 100))
  let wkly_factor := strength_factor * (3 / 10)
  let fut_factor := strength_factor * (4 / 10)
  let fut_ltp :=
    match message.futures with
    | some futures_data => futures_data.ltp.getD spot_price
    | none => spot_price
  { reversal := roundTo 2 (
      if spot_price < strike_val then strike_val * (1 - strength_factor * (1 / 2))
      else strike_val * (1 + strength_factor * (1 / 2)))
    wkly_reversal := roundTo 2 (strike_val *
      if strike_val < spot_price then 1 + wkly_factor else 1 - wkly_factor)
    fut_reversal := roundTo 2 (
      if fut_ltp < strike_val then strike_val * (1 - fut_factor * (1 / 2))
      else strike_val * (1 + fut_factor * (1 / 2)))
    ce_strength := roundTo 2 (leg_strength s.ce)
    pe_strength := roundTo 2 (leg_strength s.pe) }

def with_reversals (message : HftMessage) (oc : Chain) : Chain :=
  if 0 < message.spot_price then
    oc.map (fun item => (item.1,
      { item.2 with
        reversal := reversal_of message (Entry.max_oi oc) (strike_val item.1) item.2 }))
  else oc

/-- The strike nearest the spot price, the first of two in the order of `strikes`. -/
def nearest (spot_price : ℚ) (strikes : List String) : Option String :=
  strikes.argmin (fun key => |strike_val key - spot_price|)

structure Normalized where
  oc : Chain
  strikes : List String
  atm_strike : ℚ
  deriving DecidableEq

def normalize_data (math : Math) (message : HftMessage) : Normalized :=
  let oc := with_reversals message (legs math message)
  let strikes := sorted_keys oc
  let spot_price := message.spot_price
  { oc
    strikes
    atm_strike :=
      if 0 < spot_price then ((nearest spot_price strikes).map strike_val).getD spot_price
      else spot_price }

/-! ## What is kept -/

def strikes (message : HftMessage) : List ℚ :=
  message.with_strikes.map Prod.fst

/-- A strike has one call and one put at most. -/
def Distinct (message : HftMessage) : Prop :=
  message.with_strikes.Pairwise (fun a b => a.1 = b.1 → is_ce a.2 ≠ is_ce b.2)

instance (message : HftMessage) : Decidable (Distinct message) :=
  inferInstanceAs (Decidable (message.with_strikes.Pairwise _))

def Entry.leg (entry : Entry) (call : Bool) : Option Leg :=
  if call then entry.ce else entry.pe

def leg_at (math : Math) (message : HftMessage) (strike : ℚ) (call : Bool) : Option Leg :=
  (message.with_strikes.find? (fun option =>
    option.1 = strike ∧ is_ce option.2 = call)).map
      (fun option => normalize_option_leg math option.2 message.spot_price message.dte)

/-- A strike has one entry, under a key that reads as the strike, with its legs. -/
def KeepsStrike (math : Math) (message : HftMessage) (oc : Chain) (strike : ℚ) : Prop :=
  ∃ item, oc.filter (fun item => key_number item.1 = some strike) = [item] ∧
    ∀ call, item.2.leg call = leg_at math message strike call

/-- Every strike is kept, and nothing else is in the chain. -/
def KeepsStrikes (math : Math) (message : HftMessage) : Prop :=
  let oc := (normalize_data math message).oc
  (∀ strike ∈ strikes message, KeepsStrike math message oc strike) ∧
    ∀ item ∈ oc, ∃ strike ∈ strikes message, key_number item.1 = some strike

@[simp] theorem key_number_strike_str (strike : ℚ) :
    key_number (strike_str strike) = some (trunc strike : ℚ) := by
  rw [key_number, strike_str, String.toList_ofList, number?_intText]
  rfl

variable {math : Math} {message : HftMessage}

variable (message) in
/-- The reversals leave keys and legs as they are. -/
theorem with_reversals_eq_map (oc : Chain) :
    ∃ reversal : String × Entry → Option Reversal, with_reversals message oc =
      oc.map (fun item => (item.1, { item.2 with reversal := reversal item })) := by
  unfold with_reversals
  split
  · exact ⟨_, rfl⟩
  · exact ⟨fun item => item.2.reversal, by simp⟩

theorem keepsStrike_with_reversals {oc : Chain} {strike : ℚ} :
    KeepsStrike math message (with_reversals message oc) strike ↔
      KeepsStrike math message oc strike := by
  obtain ⟨reversal, mapped⟩ := with_reversals_eq_map message oc
  rw [KeepsStrike, KeepsStrike, mapped, List.filter_map]
  constructor
  · rintro ⟨item, filtered, kept⟩
    obtain ⟨before, alone, rfl⟩ := List.map_eq_singleton_iff.mp filtered
    exact ⟨before, alone, kept⟩
  · rintro ⟨item, filtered, kept⟩
    refine ⟨_, List.map_eq_singleton_iff.mpr ⟨item, filtered, rfl⟩, kept⟩

theorem mem_keys_with_reversals {oc : Chain} {key : String} :
    (∃ item ∈ with_reversals message oc, item.1 = key) ↔ ∃ item ∈ oc, item.1 = key := by
  obtain ⟨reversal, mapped⟩ := with_reversals_eq_map message oc
  simp [mapped]

variable (math message) in
theorem legs_grouped : Grouping.Grouped (fun option => strike_str option.1) {}
    (fun entry option => put_leg math message entry option.2) message.with_strikes
    (legs math message) :=
  Grouping.group_grouped _

/-- A key reads as a strike of the message cut to an integer. -/
theorem key_of_legs {item : String × Entry} (member : item ∈ legs math message) :
    ∃ strike ∈ strikes message, item.1 = strike_str strike := by
  have key : item.1 ∈ (legs math message).map Prod.fst := List.mem_map_of_mem member
  obtain ⟨option, given, same⟩ := (legs_grouped math message).mem_keys.mp key
  exact ⟨option.1, List.mem_map_of_mem given, same.symm⟩

theorem integral_of_keeps {strike : ℚ}
    (kept : KeepsStrike math message (normalize_data math message).oc strike) :
    ∃ n : ℤ, (n : ℚ) = strike := by
  obtain ⟨item, filtered, -⟩ := keepsStrike_with_reversals.mp kept
  have member : item ∈ (legs math message).filter
      (fun item => key_number item.1 = some strike) := by
    rw [filtered]
    exact List.mem_singleton_self item
  obtain ⟨present, reads⟩ := List.mem_filter.mp member
  obtain ⟨other, -, key⟩ := key_of_legs present
  rw [key, key_number_strike_str] at reads
  exact ⟨trunc other, by simpa using reads⟩

theorem leg_put_leg {entry : Entry} {opt : HftOption} {call : Bool} :
    (put_leg math message entry opt).leg call =
      if is_ce opt = call then
        some (normalize_option_leg math opt message.spot_price message.dte)
      else entry.leg call := by
  unfold put_leg
  cases is_ce opt <;> cases call <;> rfl

variable (math message) in
/-- Of options that differ in their side, each leg is that of the first one. -/
theorem leg_foldl (entry : Entry) (call : Bool) {options : List (ℚ × HftOption)}
    (apart : options.Pairwise (fun a b => is_ce a.2 ≠ is_ce b.2)) :
    (options.foldl (fun entry option => put_leg math message entry option.2) entry).leg
        call =
      match options.find? (fun option => is_ce option.2 = call) with
      | some option =>
          some (normalize_option_leg math option.2 message.spot_price message.dte)
      | none => entry.leg call := by
  induction options generalizing entry with
  | nil => rfl
  | cons option options ih =>
      obtain ⟨first, rest⟩ := List.pairwise_cons.mp apart
      rw [List.foldl_cons, ih _ rest, leg_put_leg]
      by_cases side : is_ce option.2 = call
      · have others : options.find? (fun option => is_ce option.2 = call) = none := by
          rw [List.find?_eq_none]
          intro other member same
          have other_side : is_ce other.2 = call := by simpa using same
          exact first other member (side.trans other_side.symm)
        simp [side, others]
      · simp [side]

theorem trunc_of_integral {strike : ℚ} (integral : ∃ n : ℤ, (n : ℚ) = strike) :
    (trunc strike : ℚ) = strike := by
  obtain ⟨n, rfl⟩ := integral
  rw [trunc_intCast]

/-- A strike is kept where all strikes are integers. -/
theorem strike_str_inj {first second : ℚ} (one : ∃ n : ℤ, (n : ℚ) = first)
    (two : ∃ n : ℤ, (n : ℚ) = second) :
    strike_str first = strike_str second ↔ first = second := by
  constructor
  · intro same
    have reads := congrArg key_number same
    rw [key_number_strike_str, key_number_strike_str, trunc_of_integral one,
      trunc_of_integral two] at reads
    exact Option.some.inj reads
  · intro same
    rw [same]

/-- The entry that the options of one strike leave has their legs. -/
theorem leg_of_strike (distinct : Distinct message) (strike : ℚ) (call : Bool) :
    ((message.with_strikes.filter (fun option => option.1 = strike)).foldl
        (fun entry option => put_leg math message entry option.2) ({} : Entry)).leg call =
      leg_at math message strike call := by
  have apart : (message.with_strikes.filter (fun option => option.1 = strike)).Pairwise
      (fun a b => is_ce a.2 ≠ is_ce b.2) := by
    apply (distinct.filter _).imp_of_mem
    intro a b first second different
    rw [List.mem_filter, decide_eq_true_iff] at first second
    exact different (first.2.trans second.2.symm)
  have legs := leg_foldl math message {} call apart
  rw [List.find?_filter] at legs
  simp only [legs, leg_at, decide_eq_true_iff]
  cases message.with_strikes.find? _ with
  | none => cases call <;> rfl
  | some found => rfl

theorem legs_keeps (distinct : Distinct message)
    (integral : ∀ strike ∈ strikes message, ∃ n : ℤ, (n : ℚ) = strike) {strike : ℚ}
    (given : strike ∈ strikes message) :
    KeepsStrike math message (legs math message) strike := by
  have value := trunc_of_integral (integral strike given)
  have own : message.with_strikes.filter
      (fun option => strike_str option.1 = strike_str strike) =
        message.with_strikes.filter (fun option => option.1 = strike) := by
    apply List.filter_congr
    intro option member
    rw [decide_eq_decide]
    exact strike_str_inj (integral _ (List.mem_map_of_mem member)) (integral strike given)
  obtain ⟨option, found, rfl⟩ := List.mem_map.mp given
  have grouped := legs_grouped math message
  obtain ⟨entry, present⟩ : ∃ entry, (strike_str option.1, entry) ∈ legs math message :=
    ⟨_, (grouped.mem_iff _ _).mpr ⟨⟨option, found, rfl⟩, rfl⟩⟩
  have left := ((grouped.mem_iff _ _).mp present).2
  refine ⟨(strike_str option.1, entry), ?_, ?_⟩
  · apply List.perm_singleton.mp
    have nodup : (legs math message).Nodup := grouped.distinct.of_map
    rw [List.perm_ext_iff_of_nodup (nodup.filter _) (List.nodup_singleton _)]
    rintro ⟨key, other⟩
    rw [List.mem_filter, List.mem_singleton]
    constructor
    · rintro ⟨member, reads⟩
      obtain ⟨source, source_given, rfl⟩ := key_of_legs member
      have same : source = option.1 := by
        simpa [value, trunc_of_integral (integral source source_given)] using reads
      subst same
      exact Prod.ext rfl (((grouped.mem_iff _ _).mp member).2.trans left.symm)
    · intro same
      rw [same]
      exact ⟨present, by simp [value]⟩
  · intro call
    rw [left, own]
    exact leg_of_strike distinct _ call

/-- The chain keeps the strikes of a message exactly when they all are integers. -/
theorem normalize_data_keeps_iff (math : Math) (distinct : Distinct message) :
    KeepsStrikes math message ↔ ∀ strike ∈ strikes message, ∃ n : ℤ, (n : ℚ) = strike := by
  constructor
  · intro kept strike given
    exact integral_of_keeps (kept.1 strike given)
  · intro integral
    refine ⟨fun strike given =>
      keepsStrike_with_reversals.mpr (legs_keeps distinct integral given), ?_⟩
    intro item member
    obtain ⟨before, present, same⟩ :=
      mem_keys_with_reversals.mp ⟨item, member, rfl⟩
    obtain ⟨strike, given, key⟩ := key_of_legs present
    refine ⟨strike, given, ?_⟩
    rw [← same, key, key_number_strike_str, trunc_of_integral (integral strike given)]

/-- A leg that has its own figures, so that nothing of `math` is called. -/
def quoted (option_type : String) (strike : ℚ) : HftOption where
  option_type := some option_type
  strike := some strike
  ltp := some 5
  iv := some 12
  delta := some (1 / 2)
  gamma := some (1 / 1000)
  theta := some (-2)
  vega := some 3
  oi := some 40

def no_math : Math where
  sqrt _ := 0
  log _ := 0
  erf _ := 0
  pi := 3

def whole_strikes : HftMessage where
  context := { spot_price := some 26010 }
  options := [quoted "CE" 26000, quoted "PE" 26000, quoted "CE" 26050]

theorem normalize_data_keeps_iff_whole :
    KeepsStrikes no_math whole_strikes ↔
      ∀ strike ∈ strikes whole_strikes, ∃ n : ℤ, (n : ℚ) = strike :=
  normalize_data_keeps_iff no_math (by with_unfolding_all decide)

/-- Two calls, of which the second takes the entry of the first. -/
def half_strikes : HftMessage where
  context := { spot_price := some 100 }
  options := [quoted "CE" (201 / 2), quoted "CE" (401 / 4)]

theorem normalize_data_not_keeps_half :
    Distinct half_strikes ∧ (normalize_data no_math half_strikes).strikes = ["100"] ∧
      ¬KeepsStrikes no_math half_strikes := by
  refine ⟨by with_unfolding_all decide, by with_unfolding_all decide, ?_⟩
  intro kept
  obtain ⟨n, half⟩ := integral_of_keeps (kept.1 (201 / 2) (by with_unfolding_all decide))
  have twice : ((2 * n : ℤ) : ℚ) = (201 : ℤ) := by
    push_cast
    linarith
  have := Int.cast_injective twice
  omega

end HftEngine.Backend.Normalization
