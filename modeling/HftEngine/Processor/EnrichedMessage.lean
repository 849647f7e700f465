import HftEngine.Processor.Models
import HftEngine.Lib.Json.Write

/-!
# The enriched message

The analyses that `process_message` gathers and the message that
`_build_enriched_message` makes of them and of the cleaned data.  What an
analyzer computes is left open: it returns a dictionary or raises, in which case
its task contributes nothing.  An int that an analyzer leaves in a field of
type float counts as that float.
-/

namespace HftEngine.Processor

open Py Json

structure Cleaned where
  context : CleanedGlobalContext
  futures : Option CleanedFuturesData
  options : List CleanedOptionData

/-! ## Analyses -/

inductive Analysis where
  | futures_basis
  | vix_divergence
  | pcr_analysis
  | iv_skew
  | gamma_exposure
  deriving DecidableEq, Repr

def Analysis.key : Analysis → String
  | .futures_basis => "futures_basis"
  | .vix_divergence => "vix_divergence"
  | .pcr_analysis => "pcr_analysis"
  | .iv_skew => "iv_skew"
  | .gamma_exposure => "gamma_exposure"

/-- The tasks in the order in which they are started. -/
def Analysis.tasks : List Analysis :=
  [.futures_basis, .vix_divergence, .pcr_analysis, .iv_skew, .gamma_exposure]

/-- The settings that enable an analysis, and what the analyzers return for the
message; none where one raises. -/
structure Analyzers where
  enabled : Analysis → Bool
  analyze : Analysis → Option Dict

/-- An analysis is run when it is enabled; the futures basis needs futures. -/
def Analyzers.started (analyzers : Analyzers) (cleaned : Cleaned)
    (analysis : Analysis) : Bool :=
  analyzers.enabled analysis &&
    (analysis ≠ .futures_basis || cleaned.futures.isSome)

/-- The results that were gathered, under their keys. -/
def analyses (analyzers : Analyzers) (cleaned : Cleaned) : Dict :=
  (Analysis.tasks.filter (analyzers.started cleaned)).filterMap (fun analysis =>
    (analyzers.analyze analysis).map (fun result => (analysis.key, .dict result)))

/-! ## Dictionaries of the models -/

def OptionType.text : OptionType → String
  | .CE => "CE"
  | .PE => "PE"

/-- The time of the context is already the text that replaces it. -/
def CleanedGlobalContext.model_dump (context : CleanedGlobalContext) : Dict :=
  [("symbol", .str context.symbol),
   ("symbol_id", .int context.symbol_id),
   ("spot_price", .float context.spot_price),
   ("spot_change", .float context.spot_change),
   ("spot_change_pct", .float context.spot_change_pct),
   ("total_call_oi", .int context.total_call_oi),
   ("total_put_oi", .int context.total_put_oi),
   ("pcr_ratio", .float context.pcr_ratio),
   ("atm_iv", .float context.atm_iv),
   ("atm_iv_change", .float context.atm_iv_change),
   ("max_pain_strike", .float context.max_pain_strike),
   ("days_to_expiry", .int context.days_to_expiry),
   ("lot_size", .int context.lot_size),
   ("tick_size", .float context.tick_size),
   ("exchange", .str context.exchange),
   ("segment", .str context.segment),
   ("probe_id", orNull .str context.probe_id),
   ("timestamp", .str (context.timestamp.isoformat "+00:00"))]

def CleanedFuturesData.model_dump (futures : CleanedFuturesData) : Dict :=
  [("symbol", .str futures.symbol),
   ("ltp", .float futures.ltp),
   ("prev_close", .float futures.prev_close),
   ("price_change", .float futures.price_change),
   ("price_change_pct", .float futures.price_change_pct),
   ("volume", .int futures.volume),
   ("prev_volume", .int futures.prev_volume),
   ("volume_change", .int futures.volume_change),
   ("volume_change_pct", .float futures.volume_change_pct),
   ("oi", .int futures.oi),
   ("oi_change", .int futures.oi_change),
   ("oi_change_pct", .float futures.oi_change_pct),
   ("lot_size", .int futures.lot_size),
   ("tick_size", .float futures.tick_size)]

def CleanedOptionData.model_dump (opt : CleanedOptionData) : Dict :=
  [("strike", .float opt.strike),
   ("option_type", .str opt.option_type.text),
   ("ltp", orNull .float opt.ltp),
   ("bid", orNull .float opt.bid),
   ("ask", orNull .float opt.ask),
   ("mid_price", orNull .float opt.mid_price),
   ("bid_qty", .int opt.bid_qty),
   ("ask_qty", .int opt.ask_qty),
   ("prev_close", .float opt.prev_close),
   ("price_change", .float opt.price_change),
   ("price_change_pct", .float opt.price_change_pct),
   ("avg_traded_price", .float opt.avg_traded_price),
   ("volume", .int opt.volume),
   ("prev_volume", .int opt.prev_volume),
   ("volume_change", .int opt.volume_change),
   ("volume_change_pct", .float opt.volume_change_pct),
   ("oi", .int opt.oi),
   ("prev_oi", .int opt.prev_oi),
   ("oi_change", .int opt.oi_change),
   ("oi_change_pct", .float opt.oi_change_pct),
   ("delta", .float opt.delta),
   ("gamma", .float opt.gamma),
   ("theta", .float opt.theta),
   ("vega", .float opt.vega),
   ("rho", .float opt.rho),
   ("iv", orNull .float opt.iv),
   ("theoretical_price", orNull .float opt.theoretical_price),
   ("intrinsic_value", .float opt.intrinsic_value),
   ("time_value", orNull .float opt.time_value),
   ("moneyness", .float opt.moneyness),
   ("moneyness_type", .str opt.moneyness_type),
   ("buildup_type", .str opt.buildup_type),
   ("buildup_name", .str opt.buildup_name),
   ("reversal_price", orNull .float opt.reversal_price),
   ("support_price", orNull .float opt.support_price),
   ("resistance_price", orNull .float opt.resistance_price),
   ("resistance_range_price", orNull .float opt.resistance_range_price),
   ("weekly_reversal_price", orNull .float opt.weekly_reversal_price),
   ("future_reversal_price", orNull .float opt.future_reversal_price),
   ("oi_pct", orNull .float opt.oi_pct),
   ("volume_pct", orNull .float opt.volume_pct),
   ("oichng_pct", orNull .float opt.oichng_pct),
   ("oi_rank", orNull .int opt.oi_rank),
   ("is_liquid", .bool opt.is_liquid),
   ("is_valid", .bool opt.is_valid)]

/-- `oi_change` is named `change_oi` in the message. -/
def opt_dict (opt : CleanedOptionData) : Dict :=
  let (oi_change, rest) := Dict.pop opt.model_dump "oi_change" (.int 0)
  setItem "change_oi" oi_change rest

/-! ## The message -/

def illiquid_pct (illiquid_count total_options : ℕ) : Result Value :=
  if total_options = 0 then .ok (.int 0)
  else do
    let ratio ← trueDivide illiquid_count total_options
    .ok (.float (roundTo 2 (ratio * 100)))

/-- `now` is the time of the processing in India. -/
def build_enriched_message (cleaned : Cleaned) (analyses : Dict) (expiry : String)
    (now : Calendar.DateTime) : Result Value := do
  let illiquid_count := (cleaned.options.filter (fun opt => !opt.is_liquid)).length
  let invalid_count := (cleaned.options.filter (fun opt => !opt.is_valid)).length
  let illiquid_pct ← illiquid_pct illiquid_count cleaned.options.length
  let timestamp := cleaned.context.timestamp
  .ok (.dict
    [("symbol", .str cleaned.context.symbol),
     ("symbol_id", .int cleaned.context.symbol_id),
     ("expiry", .str expiry),
     ("timestamp", .str (timestamp.isoformat "+00:00")),
     ("trade_date", .str timestamp.date.isoformat),
     ("processing_timestamp", .str (now.isoformat "+05:30")),
     ("context", .dict cleaned.context.model_dump),
     ("futures", orNull (fun futures => .dict futures.model_dump) cleaned.futures),
     ("options", .list (cleaned.options.map (fun opt => .dict (opt_dict opt)))),
     ("analyses", .dict (analyses.map (fun entry =>
       (entry.1, asText entry.2)))),
     ("data_quality", .dict
       [("total_options", .int cleaned.options.length),
        ("illiquid_options", .int illiquid_count),
        ("invalid_options", .int invalid_count),
        ("illiquid_pct", illiquid_pct)])])

end HftEngine.Processor
