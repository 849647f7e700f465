import HftEngine.Lib.Json.Number
import HftEngine.Lib.Python.Number
import HftEngine.Lib.Traversal
import Mathlib.Data.List.Sort

/-!
# Live data

`OptionsService.get_live_data`, on the dictionary of a chain.  The calculators
that it calls are parameters.  Strikes whose text is `nan` are sorted as if
they were below nothing.
-/

namespace HftEngine.Backend

open Py

namespace LiveData

/-! ## Numbers -/

/-- `left / right` where `right` is positive. -/
def divide (left right : Value) : Result Float := do
  match ← left.operand, ← right.operand with
  | .int a, .int b => trueDivide a b.toNat
  | a, b => .ok ((← a.toFloat) / (← b.toFloat))

/-- `sum(values)`. -/
def sum (values : List Value) : Result Value :=
  values.foldlM Value.add (.int 0)

/-- `str(x)`. -/
def text (x : Float) : String :=
  if x.isNaN then "nan"
  else if x.isInf then (if x < 0 then "-inf" else "inf")
  else String.ofList (Json.floatText x)

/-! ## Legs -/

/-- `leg.get("OI", leg.get("oi", 0))`. -/
def upper_oi (leg : Dict) : Value :=
  Dict.get leg "OI" (Dict.get leg "oi" (.int 0))

def transform_leg (leg : Value) : Result Value :=
  match leg with
  | .dict leg => .ok (.dict
      [("ltp", Dict.get leg "ltp" (.int 0)),
       ("atp", Dict.get leg "atp" (.int 0)),
       ("pc", Dict.get leg "pc" (.int 0)),
       ("volume", Dict.get leg "vol" (.int 0)),
       ("vol", Dict.get leg "vol" (.int 0)),
       ("pVol", Dict.get leg "pVol" (.int 0)),
       ("oi", upper_oi leg),
       ("OI", upper_oi leg),
       ("oichng", Dict.get leg "oichng" (.int 0)),
       ("oi_change", Dict.get leg "oichng" (.int 0)),
       ("oiperchnge", Dict.get leg "oiperchnge" (.int 0)),
       ("p_oi", Dict.get leg "p_oi" (.int 0)),
       ("p_chng", Dict.get leg "p_chng" (.int 0)),
       ("p_pchng", Dict.get leg "p_pchng" (.int 0)),
       ("change", Dict.get leg "p_chng" (.int 0)),
       ("iv", Dict.get leg "iv" (.int 0)),
       ("optgeeks", Dict.get leg "optgeeks" (.dict [])),
       ("bid", Dict.get leg "bid" (.int 0)),
       ("ask", Dict.get leg "ask" (.int 0)),
       ("bid_qty", Dict.get leg "bid_qty" (.int 0)),
       ("ask_qty", Dict.get leg "ask_qty" (.int 0)),
       ("btyp", Dict.get leg "btyp" (.str "NT")),
       ("BuiltupName", Dict.get leg "BuiltupName" (.str "NEUTRAL")),
       ("mness", Dict.get leg "mness" (.str "")),
       ("sym", Dict.get leg "sym" (.str "")),
       ("sid", Dict.get leg "sid" (.int 0)),
       ("disp_sym", Dict.get leg "disp_sym" (.str "")),
       ("otype", Dict.get leg "otype" (.str ""))])
  | _ => .error .attributeError

/-- `leg.get("oi", leg.get("OI", 0))` of the leg of an entry. -/
def leg_oi (entry : Value) (leg : String) : Result Value := do
  let data ← entry.get leg (.dict [])
  data.get "oi" (← data.get "OI" (.int 0))

/-! ## The calculators -/

/-- What `calculate_reversal` receives. -/
structure ReversalInput where
  spot : Value
  spot_change : Value
  iv_change : Value
  strike : Float
  T_days : Value
  sigma_call : Value
  sigma_put : Value
  curr_call_price : Value
  curr_put_price : Value
  fut_price : Value
  atmiv : Value
  instrument_type : Value
  ce_oi : Value
  pe_oi : Value
  avg_ce_oi : Value
  avg_pe_oi : Value

structure TradingSignals where
  entry : Value
  stop_loss : Value
  take_profit : Value
  risk_reward : Value

/-- What `calculate_reversal` returns. -/
structure ReversalResult where
  strike_price : Value
  reversal : Value
  wkly_reversal : Value
  rs : Value
  rr : Value
  ss : Value
  sr_diff : Value
  fut_reversal : Value
  ce_tv : Value
  pe_tv : Value
  price_range : Value
  trading_signals : TradingSignals
  market_regimes : Value
  recommended_strategy : Value
  alert : Value
  confidence : Value

structure Services where
  get_instrument_type : String → Value
  parse_expiry_to_days : Value → Result Value
  HFT_USE_GREEKS : Bool
  /-- With `greeks_to_dict`. -/
  calculate_all_greeks : Value → Float → Float → Float → String → Result Dict
  calculate_reversal : ReversalInput → Result ReversalResult
  weekly_theta_decay : Value → Result Value
  calculate_metadata : List Value → Value → Result Value
  calculate_profiles : Dict → Value → Value → Result Value
  get_ist_isoformat : String

structure Request where
  symbol : String
  expiry : String
  include_greeks : Bool
  include_reversal : Bool
  include_profiles : Bool

/-! ## One strike -/

/-- What is read before the strikes are processed. -/
structure Context where
  spot : Value
  spot_change : Value
  T_days : Value
  T_years : Float
  instrument_type : Value
  total_ce_oi : Value
  total_pe_oi : Value
  avg_ce_oi : Value
  avg_pe_oi : Value
  atmiv : Value
  iv_change : Value
  fut_price : Value

section Strike

variable (services : Services) (request : Request) (context : Context)

/-- `iv / 100 if iv > 0 else 0.2`. -/
def leg_iv (iv_raw : Value) : Result Float := do
  if ← iv_raw.isPositive then divide iv_raw (.int 100) else .ok 0.2

/-- A leg with its Greeks, which are calculated unless those of HFT are used. -/
def leg_with_greeks (strike : Float) (leg : Value) (iv : Float) (kind : String)
    (processed : Value) : Result Value := do
  let optgeeks ← leg.get "optgeeks" (.dict [])
  let delta ← optgeeks.get "delta" .null
  if delta ≠ .null ∧ services.HFT_USE_GREEKS = true then .ok processed
  else
    let greeks ← services.calculate_all_greeks context.spot strike context.T_years iv
      kind
    match processed with
    | .dict fields => .ok (.dict (setItem "optgeeks" (.dict greeks) fields))
    | _ => .error .typeError

def reversal_input (strike : Float) (ce pe : Value) (ce_iv_raw pe_iv_raw : Value)
    (ce_iv pe_iv : Float) : Result ReversalInput := do
  .ok
    { spot := context.spot
      spot_change := context.spot_change
      iv_change := context.iv_change
      strike
      T_days := context.T_days
      sigma_call := if ← ce_iv_raw.isPositive then ce_iv_raw else .float (ce_iv * 100)
      sigma_put := if ← pe_iv_raw.isPositive then pe_iv_raw else .float (pe_iv * 100)
      curr_call_price := ← ce.get "ltp" (.int 0)
      curr_put_price := ← pe.get "ltp" (.int 0)
      fut_price := context.fut_price
      atmiv := context.atmiv
      instrument_type := context.instrument_type
      ce_oi := ← ce.get "oi" (← ce.get "OI" (.int 0))
      pe_oi := ← pe.get "oi" (← pe.get "OI" (.int 0))
      avg_ce_oi := context.avg_ce_oi
      avg_pe_oi := context.avg_pe_oi }

/-- The entries with which a strike is updated. -/
def reversal_entries (result : ReversalResult) (time_decay : Value) : Dict :=
  [("strike_price", result.strike_price),
   ("reversal", result.reversal),
   ("wkly_reversal", result.wkly_reversal),
   ("rs", result.rs),
   ("rr", result.rr),
   ("ss", result.ss),
   ("sr_diff", result.sr_diff),
   ("fut_reversal", result.fut_reversal),
   ("ce_tv", result.ce_tv),
   ("pe_tv", result.pe_tv),
   ("difference", result.sr_diff),
   ("price_range", result.price_range),
   ("trading_signals", .dict
     [("entry", result.trading_signals.entry),
      ("stop_loss", result.trading_signals.stop_loss),
      ("take_profit", result.trading_signals.take_profit),
      ("risk_reward", result.trading_signals.risk_reward)]),
   ("market_regimes", result.market_regimes),
   ("recommended_strategy", result.recommended_strategy),
   ("alert", result.alert),
   ("time_decay", time_decay)]

/-- `include_greeks and spot > 0`. -/
def calculates : Result Bool :=
  if request.include_greeks then context.spot.isPositive else .ok false

/-- The body of the loop down to the reversal, with the confidence that it
appends. -/
def processed_strike (strike_str : String) (strike_data : Value) :
    Result (Dict × Option Value) := do
  let strike ← (Value.str strike_str).toFloat
  let ce ← strike_data.get "ce" (.dict [])
  let pe ← strike_data.get "pe" (.dict [])
  let ce_iv_raw ← ce.get "iv" (.int 0)
  let pe_iv_raw ← pe.get "iv" (.int 0)
  let ce_iv ← leg_iv ce_iv_raw
  let pe_iv ← leg_iv pe_iv_raw
  let ce_leg ← transform_leg ce
  let pe_leg ← transform_leg pe
  if ← calculates request context then
    let ce_leg ← leg_with_greeks services context strike ce ce_iv "call" ce_leg
    let pe_leg ← leg_with_greeks services context strike pe pe_iv "put" pe_leg
    let processed := [("strike", .float strike), ("ce", ce_leg), ("pe", pe_leg)]
    if request.include_reversal then
      let input ← reversal_input context strike ce pe ce_iv_raw pe_iv_raw ce_iv pe_iv
      let result ← services.calculate_reversal input
      let time_decay ← services.weekly_theta_decay context.T_days
      .ok (processed ++ reversal_entries result time_decay, some result.confidence)
    else .ok (processed, none)
  else .ok ([("strike", .float strike), ("ce", ce_leg), ("pe", pe_leg)], none)

/-- `round(pe_oi / ce_oi, 4) if ce_oi > 0 else 0`. -/
def pcr (ce_oi pe_oi : Value) : Result Value := do
  if ← ce_oi.isPositive then .ok (.float (roundTo 4 (← divide pe_oi ce_oi)))
  else .ok (.int 0)

def strike_pcr (strike_data : Value) : Result Value := do
  pcr (← leg_oi strike_data "ce") (← leg_oi strike_data "pe")

/-- One pass through the loop, which drops a strike that raises; its confidence
stays when it has one. -/
def process (state : Dict × List Value) (entry : String × Value) :
    Dict × List Value :=
  match processed_strike services request context entry.1 entry.2 with
  | .error _ => state
  | .ok (processed, confidence) =>
      let scores := state.2 ++ confidence.toList
      match strike_pcr entry.2 with
      | .error _ => (state.1, scores)
      | .ok ratio =>
          (setItem entry.1 (.dict (setItem "pcr" ratio processed)) state.1, scores)

end Strike

/-! ## The whole chain -/

/-- `total / len(values) if values else 1`. -/
def average (values : List Value) (total : Value) : Result Value := do
  if values.isEmpty then .ok (.int 1)
  else .ok (.float (← divide total (.int values.length)))

/-- `max(T_days, 0.001) / 365`. -/
def years (T_days : Value) : Result Float := do
  let days ← T_days.toFloat
  .ok ((if 0.001 > days then 0.001 else days) / 365)

/-- The price of the first future. -/
def future_price (future : Value) : Result Value :=
  match future with
  | .dict [] => .ok (.int 0)
  | .dict ((first_key, _) :: _) => do
      if first_key.isEmpty then .ok (.int 0)
      else (← future.get first_key (.dict [])).get "ltp" (.int 0)
  | value => if value.truthy then .error .attributeError else .ok (.int 0)

/-- `expiry or chain_data.get("expiry") or chain_data.get("exp_sid")`. -/
def actual_expiry (request : Request) (chain_data : Dict) : Value :=
  (Value.str request.expiry).or
    ((Dict.get chain_data "expiry" .null).or (Dict.get chain_data "exp_sid" .null))

def days_to_expiry (services : Services) (expiry : Value) : Result Value :=
  if expiry.truthy then services.parse_expiry_to_days expiry else .ok (.int 0)

/-- `change / 100 if change else 0`. -/
def iv_change_of (atmiv_change : Value) : Result Value :=
  if atmiv_change.truthy then Value.float <$> divide atmiv_change (.int 100)
  else .ok (.int 0)

def read_context (services : Services) (request : Request) (chain_data oc : Dict) :
    Result Context := do
  let spot ← (Dict.get chain_data "spot" (.dict [])).get "ltp" (.int 0)
  let spot_change ← (Dict.get chain_data "spot" (.dict [])).get "change" (.int 0)
  let T_days ← days_to_expiry services (actual_expiry request chain_data)
  let T_years ← years T_days
  let all_ce_oi ← oc.mapM (fun entry => leg_oi entry.2 "ce")
  let all_pe_oi ← oc.mapM (fun entry => leg_oi entry.2 "pe")
  let total_ce_oi ← sum all_ce_oi
  let total_pe_oi ← sum all_pe_oi
  let avg_ce_oi ← average all_ce_oi total_ce_oi
  let avg_pe_oi ← average all_pe_oi total_pe_oi
  let iv_change ← iv_change_of (Dict.get chain_data "atmiv_change" .null)
  let fut_price ← future_price (Dict.get chain_data "future" (.dict []))
  .ok
    { spot, spot_change, T_days, T_years
      instrument_type := services.get_instrument_type request.symbol
      total_ce_oi, total_pe_oi, avg_ce_oi, avg_pe_oi
      atmiv := Dict.get chain_data "atmiv" (.int 0)
      iv_change, fut_price }

/-- `sorted(float(s) for s in oc.keys())`. -/
def sorted_strikes (oc : Dict) : Result (List Float) := do
  let strikes ← oc.mapM (fun entry => (Value.str entry.1).toFloat)
  .ok (strikes.insertionSort (fun a b => ¬ b < a))

/-- `abs(strike - spot)`. -/
def distance (spot : Value) (strike : Float) : Result Float := do
  let difference ← (← (Value.float strike).sub spot).toFloat
  .ok difference.abs

/-- The first of the strikes that are nearest the spot, and the spot itself when
there are none. -/
def atm_strike (spot : Value) (strikes : List Float) : Result Value :=
  match strikes with
  | [] => .ok spot
  | first :: rest => do
      let (nearest, _) ← rest.foldlM (fun (best : Float × Float) strike => do
        let d ← distance spot strike
        .ok (if d < best.2 then (strike, d) else best))
        (first, ← distance spot first)
      .ok (.float nearest)

def chain_pcr (context : Context) (chain_data : Dict) : Result Value :=
  let pcr_ratio := Dict.get chain_data "pcr_ratio" .null
  if pcr_ratio.truthy then .ok pcr_ratio
  else pcr context.total_ce_oi context.total_pe_oi

def profiles (services : Services) (request : Request) (context : Context)
    (processed_strikes : Dict) (atm_strike : Value) : Result Value :=
  if request.include_profiles then
    services.calculate_profiles processed_strikes context.spot atm_strike
  else .ok .null

end LiveData

open LiveData in
/-- `get_live_data` of a fetched chain, with the strikes of its `oc` apart. -/
def get_live_data (services : Services) (request : Request) (chain_data oc : Dict) :
    Result Dict := do
  let context ← read_context services request chain_data oc
  let (processed_strikes, confidence_scores) :=
    oc.foldl (process services request context) ([], [])
  let strikes ← sorted_strikes oc
  let atm_strike ← atm_strike context.spot strikes
  let meta_data ← services.calculate_metadata confidence_scores context.atmiv
  let ratio ← chain_pcr context chain_data
  let profiles ← profiles services request context processed_strikes atm_strike
  .ok
    [("symbol", .str request.symbol.toUpper),
     ("expiry", actual_expiry request chain_data),
     ("spot", Dict.get chain_data "spot" (.dict [])),
     ("future", Dict.get chain_data "future" .null),
     ("atm_strike", atm_strike),
     ("atmiv", context.atmiv),
     ("atmiv_change", Dict.get chain_data "atmiv_change" (.int 0)),
     ("oc", .dict processed_strikes),
     ("strikes", .list (strikes.map (fun s => .str (text s)))),
     ("total_ce_oi", Dict.get chain_data "total_call_oi" context.total_ce_oi),
     ("total_pe_oi", Dict.get chain_data "total_put_oi" context.total_pe_oi),
     ("pcr", ratio),
     ("timestamp", .str services.get_ist_isoformat),
     ("days_to_expiry", (Dict.get chain_data "dte" .null).or context.T_days),
     ("dte", Dict.get chain_data "dte" context.T_days),
     ("instrument_type", context.instrument_type),
     ("max_pain_strike", Dict.get chain_data "max_pain_strike" (.int 0)),
     ("u_id", Dict.get chain_data "u_id" (.int 0)),
     ("lot_size", Dict.get chain_data "lot_size" (.int 75)),
     ("expiry_list", Dict.get chain_data "expiry_list" (.list [])),
     ("meta", meta_data),
     ("profiles", profiles),
     ("hft_analyses", Dict.get chain_data "hft_analyses" .null),
     ("_source", Dict.get chain_data "_source" (.str "dhan_api"))]

namespace LiveData

/-! ## The strikes that are kept -/

section Kept

variable {services : Services} {request : Request} {context : Context}

/-- The entry passes through the body of the loop, and this is kept of it. -/
def Kept (services : Services) (request : Request) (context : Context)
    (entry : String × Value) (kept : Dict) : Prop :=
  ∃ processed confidence ratio,
    processed_strike services request context entry.1 entry.2 =
        .ok (processed, confidence) ∧
      strike_pcr entry.2 = .ok ratio ∧ kept = setItem "pcr" ratio processed

variable (services request context) in
theorem process_cases (state : Dict × List Value) (entry : String × Value) :
    (∃ kept, Kept services request context entry kept ∧
      (process services request context state entry).1 =
        setItem entry.1 (.dict kept) state.1) ∨
    ((∀ kept, ¬ Kept services request context entry kept) ∧
      (process services request context state entry).1 = state.1) := by
  cases body : processed_strike services request context entry.1 entry.2 with
  | error e =>
      refine .inr ⟨?_, by rw [process, body]⟩
      rintro kept ⟨processed, confidence, ratio, passed, -⟩
      rw [body] at passed
      contradiction
  | ok result =>
      obtain ⟨processed, confidence⟩ := result
      cases ratios : strike_pcr entry.2 with
      | error e =>
          refine .inr ⟨?_, by simp only [process, body, ratios]⟩
          rintro kept ⟨_, _, ratio, -, passed, -⟩
          rw [ratios] at passed
          contradiction
      | ok ratio =>
          refine .inl ⟨setItem "pcr" ratio processed, ?_, ?_⟩
          · exact ⟨processed, confidence, ratio, body, ratios, rfl⟩
          · simp only [process, body, ratios]

theorem mem_setItem {key : String} {value : Value} {entries : Dict}
    {entry : String × Value} (member : entry ∈ setItem key value entries) :
    entry = (key, value) ∨ entry ∈ entries := by
  induction entries with
  | nil => exact .inl (List.mem_singleton.mp member)
  | cons first entries ih =>
      rw [setItem] at member
      split at member
      case isTrue =>
          rcases List.mem_cons.mp member with own | later
          · exact .inl own
          · exact .inr (List.mem_cons_of_mem _ later)
      case isFalse =>
          rcases List.mem_cons.mp member with own | later
          · exact .inr (own ▸ List.mem_cons_self)
          · exact (ih later).imp_right (List.mem_cons_of_mem _)

theorem mem_keys_setItem {key other : String} {value : Value} {entries : Dict} :
    other ∈ (setItem key value entries).map Prod.fst ↔
      other = key ∨ other ∈ entries.map Prod.fst := by
  induction entries with
  | nil => simp [setItem]
  | cons first entries ih =>
      rw [setItem]
      split
      case isTrue same => simp [← same]
      case isFalse =>
          rw [List.map_cons, List.mem_cons, ih, List.map_cons, List.mem_cons]
          exact or_left_comm

theorem lookup_setItem_of_ne {key other : String} {value : Value} {entries : Dict}
    (different : key ≠ other) :
    lookup? other (setItem key value entries) = lookup? other entries := by
  induction entries with
  | nil => simp [setItem, lookup?, different]
  | cons first entries ih =>
      obtain ⟨name, held⟩ := first
      rw [setItem]
      split
      case isTrue same =>
          obtain rfl : name = key := same
          simp [lookup?, different]
      case isFalse => simp only [lookup?, ih]

theorem mem_processed {oc : Dict} {state : Dict × List Value} {key : String}
    {value : Value}
    (member : (key, value) ∈ (oc.foldl (process services request context) state).1) :
    (key, value) ∈ state.1 ∨
      ∃ data kept, (key, data) ∈ oc ∧ value = .dict kept ∧
        Kept services request context (key, data) kept := by
  induction oc generalizing state with
  | nil => exact .inl member
  | cons entry oc ih =>
      rcases ih member with before | ⟨data, kept, later, same, passed⟩
      · rcases process_cases services request context state entry with
          ⟨kept, passed, set⟩ | ⟨-, same⟩
        · rw [set] at before
          rcases mem_setItem before with own | earlier
          · obtain ⟨rfl, rfl⟩ := Prod.mk.inj own
            exact .inr ⟨entry.2, kept, List.mem_cons_self, rfl, passed⟩
          · exact .inl earlier
        · exact .inl (same ▸ before)
      · exact .inr ⟨data, kept, List.mem_cons_of_mem _ later, same, passed⟩

theorem mem_keys_processed {oc : Dict} {state : Dict × List Value} {key : String}
    (all_kept : ∀ entry ∈ oc, ∃ kept, Kept services request context entry kept) :
    key ∈ (oc.foldl (process services request context) state).1.map Prod.fst ↔
      key ∈ state.1.map Prod.fst ∨ key ∈ oc.map Prod.fst := by
  induction oc generalizing state with
  | nil => simp
  | cons entry oc ih =>
      obtain ⟨⟨kept, passed⟩, others⟩ := List.forall_mem_cons.mp all_kept
      rw [List.foldl_cons, ih others]
      rcases process_cases services request context state entry with
        ⟨_, -, set⟩ | ⟨dropped, -⟩
      · rw [set, mem_keys_setItem, List.map_cons, List.mem_cons]
        tauto
      · exact absurd passed (dropped kept)

/-- A leg without a Greek of its own: they are within its `optgeeks`. -/
def GreeksNested (leg : Value) : Prop :=
  ∃ fields, leg = .dict fields ∧
    ∀ greek ∈ ["delta", "gamma", "theta", "vega"], lookup? greek fields = none

theorem transform_leg_greeksNested {leg processed : Value}
    (transformed : transform_leg leg = .ok processed) : GreeksNested processed := by
  cases leg with
  | dict entries =>
      obtain rfl := Except.ok.inj transformed
      refine ⟨_, rfl, ?_⟩
      intro greek member
      simp only [List.mem_cons, List.not_mem_nil, or_false] at member
      rcases member with rfl | rfl | rfl | rfl <;> rfl
  | _ => cases transformed

theorem leg_with_greeks_greeksNested {strike iv : Float} {leg processed result : Value}
    {kind : String} (nested : GreeksNested processed)
    (calculated : leg_with_greeks services context strike leg iv kind processed =
      .ok result) : GreeksNested result := by
  simp only [leg_with_greeks, bind_eq_ok] at calculated
  obtain ⟨optgeeks, -, delta, -, calculated⟩ := calculated
  split at calculated
  case isTrue =>
      obtain rfl := Except.ok.inj calculated
      exact nested
  case isFalse =>
      rw [bind_eq_ok] at calculated
      obtain ⟨greeks, -, calculated⟩ := calculated
      obtain ⟨fields, rfl, missing⟩ := nested
      obtain rfl := Except.ok.inj calculated
      refine ⟨_, rfl, ?_⟩
      intro greek member
      rw [lookup_setItem_of_ne, missing greek member]
      rintro rfl
      simp at member

/-- What is made of a strike begins with it and its legs. -/
theorem processed_strike_ok {key : String} {data : Value} {processed : Dict}
    {confidence : Option Value}
    (body : processed_strike services request context key data =
      .ok (processed, confidence)) :
    ∃ strike ce pe rest, (Value.str key).toFloat = .ok strike ∧
      processed = ("strike", .float strike) :: ("ce", ce) :: ("pe", pe) :: rest ∧
      GreeksNested ce ∧ GreeksNested pe := by
  rw [processed_strike, bind_eq_ok] at body
  obtain ⟨strike, read, body⟩ := body
  simp only [bind_eq_ok] at body
  obtain ⟨ce, -, pe, -, ce_iv_raw, -, pe_iv_raw, -, ce_iv, -, pe_iv, -, ce_leg, call,
    pe_leg, put, calculated, -, body⟩ := body
  have call := transform_leg_greeksNested call
  have put := transform_leg_greeksNested put
  cases calculated with
  | false =>
      obtain ⟨rfl, -⟩ := Prod.mk.inj (Except.ok.inj body)
      exact ⟨strike, ce_leg, pe_leg, [], read, rfl, call, put⟩
  | true =>
      simp only [if_true, bind_eq_ok] at body
      obtain ⟨ce_leg, call_greeks, pe_leg, put_greeks, body⟩ := body
      have call := leg_with_greeks_greeksNested call call_greeks
      have put := leg_with_greeks_greeksNested put put_greeks
      split at body
      · simp only [bind_eq_ok] at body
        obtain ⟨input, -, result, -, time_decay, -, body⟩ := body
        obtain ⟨rfl, -⟩ := Prod.mk.inj (Except.ok.inj body)
        exact ⟨strike, ce_leg, pe_leg, _, read, rfl, call, put⟩
      · obtain ⟨rfl, -⟩ := Prod.mk.inj (Except.ok.inj body)
        exact ⟨strike, ce_leg, pe_leg, [], read, rfl, call, put⟩

theorem kept_strike {entry : String × Value} {kept : Dict}
    (passed : Kept services request context entry kept) :
    ∃ strike, (Value.str entry.1).toFloat = .ok strike ∧
      lookup? "strike" kept = some (.float strike) := by
  obtain ⟨processed, confidence, ratio, body, -, rfl⟩ := passed
  obtain ⟨strike, ce, pe, rest, read, rfl, -, -⟩ := processed_strike_ok body
  exact ⟨strike, read, rfl⟩

/-- The legs that are kept have no Greek of their own. -/
theorem kept_legs {entry : String × Value} {kept : Dict}
    (passed : Kept services request context entry kept) :
    ∀ side ∈ ["ce", "pe"], ∃ leg, lookup? side kept = some leg ∧ GreeksNested leg := by
  obtain ⟨processed, confidence, ratio, body, -, rfl⟩ := passed
  obtain ⟨strike, ce, pe, rest, -, rfl, call, put⟩ := processed_strike_ok body
  intro side member
  simp only [List.mem_cons, List.not_mem_nil, or_false] at member
  rcases member with rfl | rfl
  · exact ⟨ce, rfl, call⟩
  · exact ⟨pe, rfl, put⟩

end Kept

/-! ## The strikes that are listed -/

theorem sorted_strikes_perm {oc : Dict} {strikes : List Float}
    (sorted : sorted_strikes oc = .ok strikes) :
    ∃ read, oc.mapM (fun entry => (Value.str entry.1).toFloat) = .ok read ∧
      strikes.Perm read := by
  rw [sorted_strikes, bind_eq_ok] at sorted
  obtain ⟨read, mapped, sorted⟩ := sorted
  obtain rfl := Except.ok.inj sorted
  exact ⟨read, mapped, List.perm_insertionSort _ read⟩

theorem length_sorted_strikes {oc : Dict} {strikes : List Float}
    (sorted : sorted_strikes oc = .ok strikes) : strikes.length = oc.length := by
  obtain ⟨read, mapped, same⟩ := sorted_strikes_perm sorted
  rw [same.length_eq, (Traversal.mapM_ok_iff.mp mapped).length_eq]

theorem mem_sorted_strikes {oc : Dict} {strikes : List Float}
    (sorted : sorted_strikes oc = .ok strikes) {strike : Float} :
    strike ∈ strikes ↔ ∃ entry ∈ oc, (Value.str entry.1).toFloat = .ok strike := by
  obtain ⟨read, mapped, same⟩ := sorted_strikes_perm sorted
  rw [same.mem_iff]
  have each := Traversal.mapM_ok_iff.mp mapped
  clear mapped same sorted
  induction each with
  | nil => simp
  | cons first _ ih =>
      rw [List.mem_cons, List.exists_mem_cons_iff, first, Except.ok.injEq]
      exact or_congr eq_comm ih

/-! ## The result -/

def result_oc (result : Dict) : Dict :=
  match lookup? "oc" result with
  | some (.dict entries) => entries
  | _ => []

def result_strikes (result : Dict) : List Value :=
  match lookup? "strikes" result with
  | some (.list strikes) => strikes
  | _ => []

section Returned

variable {services : Services} {request : Request} {chain_data oc result : Dict}

/-- What the result holds, as far as the routes read it. -/
theorem get_live_data_ok
    (returned : get_live_data services request chain_data oc = .ok result) :
    ∃ context strikes atm,
      read_context services request chain_data oc = .ok context ∧
      sorted_strikes oc = .ok strikes ∧
      atm_strike context.spot strikes = .ok atm ∧
      result_oc result = (oc.foldl (process services request context) ([], [])).1 ∧
      result_strikes result = strikes.map (fun s => .str (text s)) ∧
      lookup? "oc" result = some (.dict (result_oc result)) ∧
      lookup? "atm" result = none := by
  simp only [get_live_data, bind_eq_ok] at returned
  obtain ⟨context, read, strikes, sorted, atm, nearest, _, -, _, -, _, -, returned⟩ :=
    returned
  obtain rfl := Except.ok.inj returned
  exact ⟨context, strikes, atm, read, sorted, nearest, rfl, rfl, rfl, rfl⟩

/-- The entries of the result have legs without Greeks of their own. -/
theorem legs_of_returned
    (returned : get_live_data services request chain_data oc = .ok result)
    {entry : String × Value} (member : entry ∈ result_oc result) :
    ∃ kept, entry.2 = .dict kept ∧
      ∀ side ∈ ["ce", "pe"], ∃ leg, lookup? side kept = some leg ∧ GreeksNested leg := by
  obtain ⟨context, _, _, -, -, -, kept_oc, -⟩ := get_live_data_ok returned
  rw [kept_oc] at member
  rcases mem_processed member with initial | ⟨data, kept, -, held, passed⟩
  · cases initial
  · exact ⟨kept, held, kept_legs passed⟩

end Returned

/-- Every listed strike is a key, and the strike of every entry is listed. -/
structure SelfConsistent (result : Dict) : Prop where
  keyed : ∀ s ∈ result_strikes result, ∃ key ∈ (result_oc result).map Prod.fst,
    s = .str key
  listed : ∀ entry ∈ result_oc result, ∃ strike,
    entry.2.get "strike" .null = .ok (.float strike) ∧
      .str (text strike) ∈ result_strikes result

/-- The entry passes through the loop of the call. -/
def WellFormed (services : Services) (request : Request) (chain_data oc : Dict)
    (entry : String × Value) : Prop :=
  ∃ context kept, read_context services request chain_data oc = .ok context ∧
    Kept services request context entry kept

/-- The call answers with a self-consistent result, in which a malformed entry
changes nothing. -/
def Serves (services : Services) (request : Request) (chain_data oc : Dict) : Prop :=
  ∃ result, get_live_data services request chain_data oc = .ok result ∧
    SelfConsistent result ∧
    ∀ entry ∈ oc, ¬ WellFormed services request chain_data oc entry →
      ∃ other, get_live_data services request chain_data
          (oc.filter (fun kept => kept.1 ≠ entry.1)) = .ok other ∧
        result_oc result = result_oc other ∧
        result_strikes result = result_strikes other

section Serves

variable {services : Services} {request : Request} {chain_data oc result : Dict}

/-- The strikes of a result show how many entries the chain has. -/
theorem length_result_strikes
    (returned : get_live_data services request chain_data oc = .ok result) :
    (result_strikes result).length = oc.length := by
  obtain ⟨context, strikes, atm, -, sorted, -, -, listed, -⟩ := get_live_data_ok returned
  rw [listed, List.length_map, length_sorted_strikes sorted]

theorem listed_of_returned
    (returned : get_live_data services request chain_data oc = .ok result) :
    ∀ entry ∈ result_oc result, ∃ strike,
      entry.2.get "strike" .null = .ok (.float strike) ∧
        .str (text strike) ∈ result_strikes result := by
  obtain ⟨context, strikes, atm, -, sorted, -, kept_oc, listed, -⟩ :=
    get_live_data_ok returned
  intro entry member
  rw [kept_oc] at member
  rcases mem_processed member with initial | ⟨data, kept, among, same, passed⟩
  · simp at initial
  · obtain ⟨strike, read, found⟩ := kept_strike passed
    refine ⟨strike, ?_, ?_⟩
    · rw [same]
      exact get_of_lookup found .null
    · rw [listed]
      apply List.mem_map_of_mem
      exact (mem_sorted_strikes sorted).mpr ⟨_, among, read⟩

theorem keyed_iff
    (returned : get_live_data services request chain_data oc = .ok result)
    (wellFormed : ∀ entry ∈ oc, WellFormed services request chain_data oc entry) :
    (∀ s ∈ result_strikes result, ∃ key ∈ (result_oc result).map Prod.fst,
        s = .str key) ↔
      ∀ entry ∈ oc, ∃ strike, (Value.str entry.1).toFloat = .ok strike ∧
        text strike ∈ oc.map Prod.fst := by
  obtain ⟨context, strikes, atm, read, sorted, -, kept_oc, listed, -⟩ :=
    get_live_data_ok returned
  have all_kept : ∀ entry ∈ oc, ∃ kept, Kept services request context entry kept := by
    intro entry member
    obtain ⟨other, kept, again, passed⟩ := wellFormed entry member
    obtain rfl : context = other := Except.ok.inj (read.symm.trans again)
    exact ⟨kept, passed⟩
  have keys : ∀ key, key ∈ (result_oc result).map Prod.fst ↔ key ∈ oc.map Prod.fst := by
    intro key
    rw [kept_oc, mem_keys_processed all_kept]
    simp
  simp only [keys]
  constructor
  · intro keyed entry member
    obtain ⟨kept, passed⟩ := all_kept entry member
    obtain ⟨strike, parsed, -⟩ := kept_strike passed
    refine ⟨strike, parsed, ?_⟩
    have present : .str (text strike) ∈ result_strikes result := by
      rw [listed]
      apply List.mem_map_of_mem
      exact (mem_sorted_strikes sorted).mpr ⟨entry, member, parsed⟩
    obtain ⟨key, among, same⟩ := keyed _ present
    rwa [Value.str.inj same]
  · intro spelled s member
    rw [listed, List.mem_map] at member
    obtain ⟨strike, among, rfl⟩ := member
    obtain ⟨entry, present, parsed⟩ := (mem_sorted_strikes sorted).mp among
    obtain ⟨other, again, key⟩ := spelled entry present
    obtain rfl : strike = other := Except.ok.inj (parsed.symm.trans again)
    exact ⟨text strike, key, rfl⟩

/-- The claim on the result holds exactly when every entry is well formed and
every key has, spelled as its own number, an entry. -/
theorem live_data_serves_iff :
    Serves services request chain_data oc ↔
      (∃ result, get_live_data services request chain_data oc = .ok result) ∧
      (∀ entry ∈ oc, WellFormed services request chain_data oc entry) ∧
      ∀ entry ∈ oc, ∃ strike, (Value.str entry.1).toFloat = .ok strike ∧
        text strike ∈ oc.map Prod.fst := by
  constructor
  · rintro ⟨result, returned, consistent, isolated⟩
    have wellFormed : ∀ entry ∈ oc, WellFormed services request chain_data oc entry := by
      intro entry member
      by_contra malformed
      obtain ⟨other, without, -, same⟩ := isolated entry member malformed
      have shorter : (oc.filter (fun kept => kept.1 ≠ entry.1)).length < oc.length :=
        List.length_filter_lt_length_iff_exists.mpr ⟨entry, member, by simp⟩
      rw [← length_result_strikes without, ← length_result_strikes returned, same]
        at shorter
      exact lt_irrefl _ shorter
    exact ⟨⟨result, returned⟩, wellFormed,
      (keyed_iff returned wellFormed).mp consistent.keyed⟩
  · rintro ⟨⟨result, returned⟩, wellFormed, spelled⟩
    refine ⟨result, returned, ⟨?_, listed_of_returned returned⟩, ?_⟩
    · exact (keyed_iff returned wellFormed).mpr spelled
    · intro entry member malformed
      exact absurd (wellFormed entry member) malformed

end Serves

def plain_reversal : ReversalResult where
  strike_price := .null
  reversal := .null
  wkly_reversal := .null
  rs := .null
  rr := .null
  ss := .null
  sr_diff := .null
  fut_reversal := .null
  ce_tv := .null
  pe_tv := .null
  price_range := .null
  trading_signals := ⟨.null, .null, .null, .null⟩
  market_regimes := .null
  recommended_strategy := .null
  alert := .null
  confidence := .int 0

/-- Calculators that answer with nothing. -/
def plain_services : Services where
  get_instrument_type _ := .str "IDX"
  parse_expiry_to_days _ := .ok (.int 0)
  HFT_USE_GREEKS := true
  calculate_all_greeks _ _ _ _ _ := .ok []
  calculate_reversal _ := .ok plain_reversal
  weekly_theta_decay _ := .ok .null
  calculate_metadata _ _ := .ok (.dict [])
  calculate_profiles _ _ _ := .ok .null
  get_ist_isoformat := ""

def bare_request : Request where
  symbol := "NIFTY"
  expiry := ""
  include_greeks := false
  include_reversal := false
  include_profiles := false

/-- The key of a strike as the adapter writes it. -/
theorem not_serves_whole_key :
    ¬ Serves plain_services bare_request [("spot", .dict [("ltp", .float 26010)])]
      [("26000", .dict [("ce", .dict []), ("pe", .dict [])])] := by
  rintro ⟨result, returned, ⟨keyed, -⟩, -⟩
  have seen : (get_live_data plain_services bare_request
      [("spot", .dict [("ltp", .float 26010)])]
      [("26000", .dict [("ce", .dict []), ("pe", .dict [])])]).toOption.map
        (fun result => (result_strikes result, (result_oc result).map Prod.fst)) =
      some ([.str "26000.0"], ["26000"]) := by
    decide +kernel
  rw [returned] at seen
  obtain ⟨strikes, keys⟩ := Prod.mk.inj (Option.some.inj seen)
  rw [strikes, keys] at keyed
  obtain ⟨key, member, same⟩ := keyed _ List.mem_cons_self
  rw [List.mem_singleton] at member
  rw [member] at same
  exact absurd same (by decide)

end LiveData

end HftEngine.Backend
