import HftEngine.Lib.Json.Write
import HftEngine.Lib.Calendar

/-!
# The raw message of an instrument

`process_instrument` after the option chain has been fetched.  The option chain
and the list of futures become Avro maps of texts: a text is kept as it is, and
every other value is written as JSON.
-/

namespace HftEngine.Ingestion

open Py Json

/-- `option_chain_serialized` and `futures_list_serialized`. -/
def serialized (entries : Dict) : Dict :=
  entries.map (fun entry => (entry.1, asText entry.2))

/-- The same of what the API sent: only dictionaries have items. -/
def serialized_items : Value → Result Value
  | .dict entries => .ok (.dict (serialized entries))
  | _ => .error .attributeError

structure Instrument where
  symbol : Value
  symbol_id : Value
  segment_id : Value

def global_context (data : Dict) : Value :=
  .dict
    [("spot_ltp", Dict.get data "sltp" .null),
     ("spot_volume", Dict.get data "svol" .null),
     ("spot_change", Dict.get data "SChng" .null),
     ("spot_pct_change", Dict.get data "SPerChng" .null),
     ("atm_iv", Dict.get data "atmiv" .null),
     ("atm_iv_pct_change", Dict.get data "aivperchng" .null),
     ("total_call_oi", Dict.get data "OIC" .null),
     ("total_put_oi", Dict.get data "OIP" .null),
     ("pcr_ratio", Dict.get data "Rto" .null),
     ("option_lot_size", Dict.get data "olot" .null),
     ("days_to_expiry", Dict.get data "dte" .null),
     ("max_pain_strike", Dict.get data "mxpn_strk" .null)]

/-- The message that is sent; none where the chain is empty. -/
def message (instrument : Instrument) (expiry_date : Calendar.Date)
    (now : Calendar.DateTime) (data : Dict) : Result (Option Value) := do
  let chain_data := Dict.get data "oc" (.dict [])
  if chain_data.truthy then
    let option_chain ← serialized_items chain_data
    let futures_list ← serialized_items (Dict.get data "fl" (.dict []))
    .ok (some (.dict
      [("symbol", instrument.symbol),
       ("symbol_id", instrument.symbol_id),
       ("segment_id", instrument.segment_id),
       ("expiry", .str expiry_date.isoformat),
       ("timestamp", .str (now.isoformat "+05:30")),
       ("option_chain", option_chain),
       ("futures_list", futures_list),
       ("global_context", global_context data)]))
  else .ok none

end HftEngine.Ingestion
