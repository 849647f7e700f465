import HftEngine.Lib.Avro

/-!
# The Avro schema of raw market data
-/

namespace HftEngine.Schemas

open Avro

def global_context : List (String × Schema) :=
  [("spot_ltp", .nullable .double),
   ("spot_volume", .nullable .long),
   ("spot_change", .nullable .double),
   ("spot_pct_change", .nullable .double),
   ("atm_iv", .nullable .double),
   ("atm_iv_pct_change", .nullable .double),
   ("total_call_oi", .nullable .long),
   ("total_put_oi", .nullable .long),
   ("pcr_ratio", .nullable .double),
   ("option_lot_size", .nullable .int),
   ("days_to_expiry", .nullable .int),
   ("max_pain_strike", .nullable .double),
   ("probe_id", .nullable .string)]

def market_data_raw : List (String × Schema) :=
  [("symbol", .string),
   ("symbol_id", .int),
   ("segment_id", .int),
   ("expiry", .string),
   ("timestamp", .string),
   ("option_chain", .map .string),
   ("futures_list", .map .string),
   ("global_context", .record global_context)]

end HftEngine.Schemas
