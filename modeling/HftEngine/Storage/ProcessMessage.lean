import HftEngine.Lib.Json.Write
import HftEngine.Lib.Calendar
import HftEngine.Lib.Python.Number

/-!
# The records of an enriched message

The synchronous part of `process_message`: the records that it appends to the
buffers until a conversion raises, and the rows that `flush_buffers` prepares of
them.  A record has the type of its JSON columns as a parameter: values in the
buffers, texts in the rows.
-/

namespace HftEngine.Storage

open Py Json

/-- What `process_message` takes from the clock and from Python: the two local
times of the same instant, `str`, and `datetime.fromisoformat` with the zone
taken off after the conversion to UTC. -/
structure Runtime where
  ist_now : Calendar.DateTime
  utc_now : Calendar.DateTime
  str : Value → String
  fromisoformat : Value → Result Calendar.DateTime

/-- What is documented of `fromisoformat`, for one time. -/
def Runtime.Reads (runtime : Runtime) (moment : Calendar.DateTime) : Prop :=
  runtime.fromisoformat (.str (moment.isoformat "+00:00")) = .ok moment

structure MarketRecord (Json : Type) where
  timestamp : Calendar.DateTime
  trade_date : Calendar.Date
  symbol_id : Value
  exchange : Value
  segment : Value
  ltp : Float
  volume : ℤ := 0
  oi : ℤ
  spot_change : Float
  spot_change_pct : Float
  total_call_oi : ℤ
  total_put_oi : ℤ
  pcr_ratio : Float
  atm_iv : Float
  atm_iv_change : Float
  max_pain_strike : Float
  days_to_expiry : ℤ
  lot_size : ℤ
  tick_size : Float
  raw_data : Json
  gex_analysis : Json
  iv_skew_analysis : Json
  pcr_analysis : Json
  market_wide_analysis : Json

structure OptionRecord (Json : Type) where
  timestamp : Calendar.DateTime
  trade_date : Calendar.Date
  symbol_id : Value
  expiry : Value
  strike_price : Float
  option_type : Value
  ltp : Float
  bid : Option Float
  ask : Option Float
  mid_price : Option Float
  prev_close : Float
  price_change : Float
  price_change_pct : Float
  avg_traded_price : Float
  volume : ℤ
  prev_volume : ℤ
  volume_change : ℤ
  volume_change_pct : Float
  oi : ℤ
  prev_oi : ℤ
  oi_change : ℤ
  oi_change_pct : Float
  delta : Float
  gamma : Float
  theta : Float
  vega : Float
  rho : Float
  iv : Option Float
  bid_qty : ℤ
  ask_qty : ℤ
  theoretical_price : Option Float
  intrinsic_value : Float
  time_value : Option Float
  moneyness : Float
  moneyness_type : Value
  buildup_type : Value
  buildup_name : Value
  reversal_price : Option Float
  support_price : Option Float
  resistance_price : Option Float
  resistance_range_price : Option Float
  weekly_reversal_price : Option Float
  future_reversal_price : Option Float
  is_liquid : Value
  is_valid : Value
  order_flow_analysis : Json
  smart_money_analysis : Json
  liquidity_analysis : Json
  oi_pct : Option Float
  volume_pct : Option Float
  oichng_pct : Option Float
  oi_rank : Option ℤ

/-! ## Analyses -/

/-- The status of the analyses of the whole market. -/
def market_wide_analysis (analyses : Value) : Result Value := do
  let order_flow ← analyses.get "order_flow" (.dict [])
  let order_flow_status ← order_flow.get "market_status" .null
  let high_toxicity_count ← order_flow.get "high_toxicity_count" .null
  let smart_money ← analyses.get "smart_money" (.dict [])
  let smart_money_recommendation ← smart_money.get "recommendation" .null
  let liquidity_stress ← analyses.get "liquidity_stress" (.dict [])
  let liquidity_stress_level ← liquidity_stress.get "stress_level" .null
  .ok (.dict
    [("order_flow_status", order_flow_status),
     ("high_toxicity_count", high_toxicity_count),
     ("smart_money_recommendation", smart_money_recommendation),
     ("liquidity_stress_level", liquidity_stress_level)])

def extract_order_flow (analyses : Value) (strike_key : String) : Result Value := do
  let order_flow ← analyses.get "order_flow" (.dict [])
  let strikes ← order_flow.get "strikes" (.dict [])
  let strike_data ← strikes.get strike_key .null
  .ok (strike_data.or .null)

/-! ## Times -/

def message_time (runtime : Runtime) (timestamp_str : Value) :
    Result Calendar.DateTime :=
  if timestamp_str.truthy then
    match runtime.fromisoformat timestamp_str with
    | .error .valueError | .error .typeError => .ok runtime.ist_now
    | read => read
  else .ok runtime.utc_now

/-- A digit between two others. -/
def digitIn (low high : ℕ) (c : Char) : Option ℕ :=
  if c.isDigit && low ≤ c.toNat - 48 && c.toNat - 48 ≤ high then some (c.toNat - 48)
  else none

/-- `%m`: `1[0-2]|0[1-9]|[1-9]`. -/
def month? : List Char → Option ℕ
  | ['1', c] => (digitIn 0 2 c).map (10 + ·)
  | ['0', c] => digitIn 1 9 c
  | [c] => digitIn 1 9 c
  | _ => none

/-- `%d`: `3[0-1]|[1-2]\d|0[1-9]|[1-9]| [1-9]`, where `\d` is any decimal digit. -/
def day? : List Char → Option ℕ
  | ['3', c] => (digitIn 0 1 c).map (30 + ·)
  | ['2', c] => (decimal? c).map (20 + ·)
  | ['1', c] => (decimal? c).map (10 + ·)
  | ['0', c] => digitIn 1 9 c
  | [' ', c] => digitIn 1 9 c
  | [c] => digitIn 1 9 c
  | _ => none

/-- `datetime.strptime(text, "%Y-%m-%d")`; none is a `ValueError`. -/
def strptime (text : String) : Option Calendar.Date :=
  match text.toList with
  | a :: b :: c :: d :: '-' :: rest => do
      let year := 1000 * (← decimal? a) + 100 * (← decimal? b) + 10 * (← decimal? c) +
        (← decimal? d)
      let (month, rest) := rest.span (· ≠ '-')
      Calendar.Date.ofParts? year (← month? month) (← day? (rest.drop 1))
  | _ => none

/-- A date stands for ten o'clock UTC on it. -/
def expiry_time (expiry_val : Value) : Value :=
  match expiry_val with
  | .str text =>
      match strptime text with
      | some date =>
          .int (Calendar.DateTime.timestamp 0
            ⟨date, 36000, 0, by decide, Calendar.DateTime.whole_second⟩)
      | none => .str text
  | value => value

/-! ## Records -/

def market_record (timestamp : Calendar.DateTime) (symbol_id context analyses : Value) :
    Result (MarketRecord Value) := do
  let gex_analysis ← analyses.get "gex" .null
  let iv_skew_analysis ← analyses.get "iv_skew" .null
  let pcr_analysis ← analyses.get "pcr" .null
  let market_wide_analysis ← market_wide_analysis analyses
  let exchange ← context.get "exchange" (.str "NSE")
  let segment ← context.get "segment" (.str "D")
  let ltp ← floatOf context "spot_price" (.int 0)
  let oi ← (← (← context.get "total_call_oi" (.int 0)).add
    (← context.get "total_put_oi" (.int 0))).toInt
  let spot_change ← floatOf context "spot_change" (.int 0)
  let spot_change_pct ← floatOf context "spot_change_pct" (.int 0)
  let total_call_oi ← intOf context "total_call_oi" (.int 0)
  let total_put_oi ← intOf context "total_put_oi" (.int 0)
  let pcr_ratio ← floatOf context "pcr_ratio" (.int 0)
  let atm_iv ← floatOf context "atm_iv" (.int 0)
  let atm_iv_change ← floatOf context "atm_iv_change" (.int 0)
  let max_pain_strike ← floatOf context "max_pain_strike" (.int 0)
  let days_to_expiry ← intOf context "days_to_expiry" (.int 0)
  let lot_size ← intOf context "lot_size" (.int 75)
  let tick_size ← floatOf context "tick_size" (.float 0.05)
  .ok
    { timestamp, trade_date := timestamp.date, symbol_id, exchange, segment, ltp, oi,
      spot_change, spot_change_pct, total_call_oi, total_put_oi, pcr_ratio, atm_iv,
      atm_iv_change, max_pain_strike, days_to_expiry, lot_size, tick_size,
      raw_data := context, gex_analysis, iv_skew_analysis, pcr_analysis,
      market_wide_analysis }

def option_record (runtime : Runtime) (timestamp : Calendar.DateTime)
    (symbol_id expiry analyses option : Value) : Result (OptionRecord Value) := do
  let strike ← option.get "strike" (.int 0)
  let option_type ← option.get "option_type" (.str "CE")
  let strike_key := runtime.str strike ++ "_" ++ runtime.str option_type
  let strike_price ← floatOf option "strike" (.int 0)
  let ltp ← floatOf option "ltp" (.int 0)
  let bid ← optionalFloatOf option "bid"
  let ask ← optionalFloatOf option "ask"
  let mid_price ← optionalFloatOf option "mid_price"
  let prev_close ← floatOf option "prev_close" (.int 0)
  let price_change ← floatOf option "price_change" (.int 0)
  let price_change_pct ← floatOf option "price_change_pct" (.int 0)
  let avg_traded_price ← floatOf option "avg_traded_price" (.int 0)
  let volume ← intOf option "volume" (.int 0)
  let prev_volume ← intOf option "prev_volume" (.int 0)
  let volume_change ← intOf option "volume_change" (.int 0)
  let volume_change_pct ← floatOf option "volume_change_pct" (.int 0)
  let oi ← intOf option "oi" (.int 0)
  let prev_oi ← intOf option "prev_oi" (.int 0)
  let oi_change ← ((← option.get "change_oi" (.int 0)).or
    (← option.get "oi_change" (.int 0))).toInt
  let oi_change_pct ← floatOf option "oi_change_pct" (.int 0)
  let delta ← floatOf option "delta" (.int 0)
  let gamma ← floatOf option "gamma" (.int 0)
  let theta ← floatOf option "theta" (.int 0)
  let vega ← floatOf option "vega" (.int 0)
  let rho ← floatOf option "rho" (.int 0)
  let iv ← optionalFloatOf option "iv"
  let bid_qty ← intOf option "bid_qty" (.int 0)
  let ask_qty ← intOf option "ask_qty" (.int 0)
  let theoretical_price ← optionalFloatOf option "theoretical_price"
  let intrinsic_value ← floatOf option "intrinsic_value" (.int 0)
  let time_value ← optionalFloatOf option "time_value"
  let moneyness ← floatOf option "moneyness" (.int 0)
  let moneyness_type ← option.get "moneyness_type" (.str "OTM")
  let buildup_type ← option.get "buildup_type" (.str "")
  let buildup_name ← option.get "buildup_name" (.str "")
  let reversal_price ← optionalFloatOf option "reversal_price"
  let support_price ← optionalFloatOf option "support_price"
  let resistance_price ← optionalFloatOf option "resistance_price"
  let resistance_range_price ← optionalFloatOf option "resistance_range_price"
  let weekly_reversal_price ← optionalFloatOf option "weekly_reversal_price"
  let future_reversal_price ← optionalFloatOf option "future_reversal_price"
  let is_liquid ← option.get "is_liquid" (.bool true)
  let is_valid ← option.get "is_valid" (.bool true)
  let order_flow_analysis ← extract_order_flow analyses strike_key
  let oi_pct ← optionalFloatOf option "oi_pct"
  let volume_pct ← optionalFloatOf option "volume_pct"
  let oichng_pct ← optionalFloatOf option "oichng_pct"
  let oi_rank ← optionalIntOf option "oi_rank"
  .ok
    { timestamp, trade_date := timestamp.date, symbol_id, expiry, strike_price,
      option_type, ltp, bid, ask, mid_price, prev_close, price_change,
      price_change_pct, avg_traded_price, volume, prev_volume, volume_change,
      volume_change_pct, oi, prev_oi, oi_change, oi_change_pct, delta, gamma, theta,
      vega, rho, iv, bid_qty, ask_qty, theoretical_price, intrinsic_value, time_value,
      moneyness, moneyness_type, buildup_type, buildup_name, reversal_price,
      support_price, resistance_price, resistance_range_price, weekly_reversal_price,
      future_reversal_price, is_liquid, is_valid, order_flow_analysis
      smart_money_analysis := .null
      liquidity_analysis := .null
      oi_pct, volume_pct, oichng_pct, oi_rank }

/-! ## The message -/

/-- What is appended to the two buffers, and whether a conversion raised. -/
structure Buffered where
  market : List (MarketRecord Value)
  option : List (OptionRecord Value)
  raised : Bool

def Buffered.failed (market : List (MarketRecord Value)) : Buffered :=
  ⟨market, [], true⟩

/-- The options up to the first that raises. -/
def append_options (market : List (MarketRecord Value))
    (record : Value → Result (OptionRecord Value)) : List Value → Buffered
  | [] => ⟨market, [], false⟩
  | option :: options =>
      match record option with
      | .error _ => .failed market
      | .ok first =>
          let rest := append_options market record options
          ⟨rest.market, first :: rest.option, rest.raised⟩

/-- The parts of a message, before anything is appended. -/
structure Parts where
  context : Value
  options : Value
  symbol_id : Value
  timestamp : Calendar.DateTime
  analyses : Value

/-- `left or right`, where the right one may raise. -/
def orElse (left : Value) (right : Result Value) : Result Value :=
  if left.truthy then .ok left else right

def parts (runtime : Runtime) (msg : Value) : Result Parts := do
  let context ← msg.get "context" (.dict [])
  let options ← msg.get "options" (.list [])
  let symbol_id ← orElse (← msg.get "symbol_id" .null) (context.get "symbol_id" .null)
  let timestamp_str ← msg.get "timestamp" .null
  let timestamp ← message_time runtime timestamp_str
  let analyses ← msg.get "analyses" (.dict [])
  .ok { context, options, symbol_id, timestamp, analyses }

def market_records (parts : Parts) : Result (List (MarketRecord Value)) :=
  if parts.context.truthy && parts.symbol_id.truthy then
    (fun record => [record]) <$>
      market_record parts.timestamp parts.symbol_id parts.context parts.analyses
  else .ok []

/-- The expiry of the message, and what the loop over its options goes through. -/
def option_loop (msg : Value) (parts : Parts) : Result (Value × List Value) := do
  let expiry_val ← orElse (← msg.get "expiry" .null) (parts.context.get "expiry" .null)
  let options ← parts.options.iterate
  .ok (expiry_time expiry_val, options)

def process_message (runtime : Runtime) (msg : Value) : Buffered :=
  match parts runtime msg with
  | .error _ => .failed []
  | .ok parts =>
      match market_records parts with
      | .error _ => .failed []
      | .ok market =>
          match option_loop msg parts with
          | .error _ => .failed market
          | .ok (expiry, options) =>
              append_options market
                (option_record runtime parts.timestamp parts.symbol_id expiry
                  parts.analyses) options

/-! ## Rows -/

/-- `json.dumps(value) if value else None`. -/
def json_column (value : Value) : Option String :=
  if value.truthy then some (dumps value) else none

def prepared_market (record : MarketRecord Value) : MarketRecord (Option String) :=
  { record with
    raw_data := json_column record.raw_data
    gex_analysis := json_column record.gex_analysis
    iv_skew_analysis := json_column record.iv_skew_analysis
    pcr_analysis := json_column record.pcr_analysis
    market_wide_analysis := json_column record.market_wide_analysis }

def prepared_option (record : OptionRecord Value) : OptionRecord (Option String) :=
  { record with
    order_flow_analysis := json_column record.order_flow_analysis
    smart_money_analysis := json_column record.smart_money_analysis
    liquidity_analysis := json_column record.liquidity_analysis }

end HftEngine.Storage
