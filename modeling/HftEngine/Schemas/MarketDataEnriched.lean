import HftEngine.Lib.Avro

/-!
# The Avro schema of enriched market data
-/

namespace HftEngine.Schemas

open Avro

def context_data : List (String × Schema) :=
  [("symbol", .string),
   ("symbol_id", .int),
   ("spot_price", .double),
   ("spot_change", .nullable .double),
   ("spot_change_pct", .nullable .double),
   ("total_call_oi", .long),
   ("total_put_oi", .long),
   ("pcr_ratio", .double),
   ("atm_iv", .nullable .double),
   ("atm_iv_change", .nullable .double),
   ("days_to_expiry", .int),
   ("lot_size", .int),
   ("tick_size", .nullable .double),
   ("max_pain_strike", .nullable .double),
   ("exchange", .nullable .string),
   ("segment", .nullable .string),
   ("timestamp", .nullable .string),
   ("probe_id", .nullable .string)]

def futures_data : List (String × Schema) :=
  [("symbol", .string),
   ("ltp", .double),
   ("prev_close", .nullable .double),
   ("price_change", .nullable .double),
   ("price_change_pct", .nullable .double),
   ("volume", .nullable .long),
   ("prev_volume", .nullable .long),
   ("volume_change", .nullable .long),
   ("volume_change_pct", .nullable .double),
   ("oi", .nullable .long),
   ("oi_change", .nullable .long),
   ("oi_change_pct", .nullable .double),
   ("lot_size", .nullable .int),
   ("tick_size", .nullable .double)]

def option_data : List (String × Schema) :=
  [("strike", .double),
   ("option_type", .string),
   ("ltp", .double),
   ("bid", .nullable .double),
   ("ask", .nullable .double),
   ("mid_price", .nullable .double),
   ("bid_qty", .nullable .int),
   ("ask_qty", .nullable .int),
   ("prev_close", .nullable .double),
   ("price_change", .nullable .double),
   ("price_change_pct", .nullable .double),
   ("avg_traded_price", .nullable .double),
   ("volume", .long),
   ("prev_volume", .nullable .long),
   ("volume_change", .nullable .long),
   ("volume_change_pct", .nullable .double),
   ("oi", .long),
   ("prev_oi", .nullable .long),
   ("change_oi", .long),
   ("oi_change_pct", .nullable .double),
   ("iv", .nullable .double),
   ("delta", .nullable .double),
   ("gamma", .nullable .double),
   ("theta", .nullable .double),
   ("vega", .nullable .double),
   ("rho", .nullable .double),
   ("theoretical_price", .nullable .double),
   ("bsm_price", .nullable .double),
   ("intrinsic_value", .nullable .double),
   ("time_value", .nullable .double),
   ("moneyness", .nullable .double),
   ("moneyness_type", .nullable .string),
   ("buildup_type", .nullable .string),
   ("buildup_name", .nullable .string),
   ("reversal_price", .nullable .double),
   ("support_price", .nullable .double),
   ("resistance_price", .nullable .double),
   ("resistance_range_price", .nullable .double),
   ("weekly_reversal_price", .nullable .double),
   ("future_reversal_price", .nullable .double),
   ("oi_pct", .nullable .double),
   ("volume_pct", .nullable .double),
   ("oichng_pct", .nullable .double),
   ("oi_rank", .nullable .int),
   ("is_liquid", .boolean),
   ("is_valid", .boolean)]

def data_quality : List (String × Schema) :=
  [("total_options", .int),
   ("illiquid_options", .int),
   ("invalid_options", .int),
   ("illiquid_pct", .double)]

def market_data_enriched : List (String × Schema) :=
  [("symbol", .string),
   ("symbol_id", .int),
   ("expiry", .string),
   ("timestamp", .string),
   ("trade_date", .nullable .string),
   ("processing_timestamp", .string),
   ("context", .record context_data),
   ("futures", .nullable (.record futures_data)),
   ("options", .array (.record option_data)),
   ("analyses", .map .string),
   ("data_quality", .record data_quality)]

end HftEngine.Schemas
