import HftEngine.Processor.Models
import HftEngine.Schemas.MarketDataRaw

/-!
# The global context of a raw message

`DataCleaner._extract_global_context` reads every field with `get` and a
default, which a key that is present with the value null does not take.
-/

namespace HftEngine.Processor

open Py Avro Schemas

def extract_global_context (pydantic : Pydantic) (now : Calendar.DateTime)
    (raw_data : Value) : Result CleanedGlobalContext := do
  let gc ← raw_data.get "global_context" (.dict [])
  let symbol ← raw_data.get "symbol" (.str "NIFTY")
  let symbol_id ← intOf raw_data "symbol_id" (.int 0)
  let spot_price ← floatOf gc "spot_ltp" (.int 0)
  let spot_change ← floatOf gc "spot_change" (.int 0)
  let spot_change_pct ← floatOf gc "spot_pct_change" (.int 0)
  let total_call_oi ← intOf gc "total_call_oi" (.int 0)
  let total_put_oi ← intOf gc "total_put_oi" (.int 0)
  let pcr_ratio ← floatOf gc "pcr_ratio" (.int 0)
  let atm_iv ← floatOf gc "atm_iv" (.int 0)
  let atm_iv_change ← floatOf gc "atm_iv_pct_change" (.int 0)
  let max_pain_strike ← floatOf gc "max_pain_strike" (.int 0)
  let days_to_expiry ← intOf gc "days_to_expiry" (.int 0)
  let lot_size ← intOf gc "option_lot_size" (.int 75)
  let tick_size ← floatOf gc "option_tick_size" (.float 0.05)
  let exchange ← gc.get "exchange" (.str "NSE")
  let segment ← gc.get "segment" (.str "D")
  let probe_id ← gc.get "probe_id" .null
  let symbol ← pydantic.strField symbol
  let exchange ← pydantic.strField exchange
  let segment ← pydantic.strField segment
  let probe_id ← pydantic.optionalStrField probe_id
  .ok
    { symbol, symbol_id, spot_price, spot_change, spot_change_pct, total_call_oi,
      total_put_oi, pcr_ratio, atm_iv, atm_iv_change, max_pain_strike,
      days_to_expiry, lot_size, tick_size, exchange, segment, probe_id,
      timestamp := now }

/-! ## Nulls and defaults -/

/-- The fields that `extract_global_context` converts to a number. -/
def numeric_fields : List String :=
  ["spot_ltp", "spot_change", "spot_pct_change", "total_call_oi", "total_put_oi",
   "pcr_ratio", "atm_iv", "atm_iv_pct_change", "max_pain_strike",
   "days_to_expiry", "option_lot_size"]

/-- The global context of the message has null, or nothing, for the field. -/
def IsNull (raw_data : Value) (name : String) : Prop :=
  ∃ gc, raw_data.get "global_context" (.dict []) = .ok gc ∧
    gc.get name .null = .ok .null

structure TakesDefaults (raw_data : Value) (context : CleanedGlobalContext) :
    Prop where
  spot_price : IsNull raw_data "spot_ltp" → context.spot_price = 0
  spot_change : IsNull raw_data "spot_change" → context.spot_change = 0
  spot_change_pct : IsNull raw_data "spot_pct_change" → context.spot_change_pct = 0
  total_call_oi : IsNull raw_data "total_call_oi" → context.total_call_oi = 0
  total_put_oi : IsNull raw_data "total_put_oi" → context.total_put_oi = 0
  pcr_ratio : IsNull raw_data "pcr_ratio" → context.pcr_ratio = 0
  atm_iv : IsNull raw_data "atm_iv" → context.atm_iv = 0
  atm_iv_change : IsNull raw_data "atm_iv_pct_change" → context.atm_iv_change = 0
  max_pain_strike : IsNull raw_data "max_pain_strike" → context.max_pain_strike = 0
  days_to_expiry : IsNull raw_data "days_to_expiry" → context.days_to_expiry = 0
  lot_size : IsNull raw_data "option_lot_size" → context.lot_size = 75
  tick_size : IsNull raw_data "option_tick_size" → context.tick_size = 0.05

section Fields

variable {gc : Dict} (conforms : ConformsFields global_context gc)
include conforms

/-- A field of the schema that is null is read as null, whatever the default. -/
theorem get_null {name : String} {schema : Schema}
    (field : (name, schema) ∈ global_context)
    (isNull : (Value.dict gc).get name .null = .ok .null) (default : Value) :
    (Value.dict gc).get name default = .ok .null := by
  obtain ⟨value, found, -⟩ := conforms.lookup (by decide) field
  rw [get_of_lookup found] at isNull ⊢
  exact isNull

theorem floatOf_double {name : String}
    (field : (name, .nullable .double) ∈ global_context)
    (notNull : (Value.dict gc).get name .null ≠ .ok .null) :
    ∃ x, ∀ default, floatOf (.dict gc) name default = .ok x := by
  obtain ⟨value, found, typed⟩ := conforms.lookup (by decide) field
  rcases typed with rfl | ⟨x, rfl⟩
  · exact absurd (get_of_lookup found .null) notNull
  · refine ⟨x, fun default => ?_⟩
    simp only [floatOf, get_of_lookup found]
    rfl

theorem intOf_long {name : String} {schema : Schema}
    (integral : schema = .int ∨ schema = .long)
    (field : (name, .nullable schema) ∈ global_context)
    (notNull : (Value.dict gc).get name .null ≠ .ok .null) :
    ∃ n, ∀ default, intOf (.dict gc) name default = .ok n := by
  obtain ⟨value, found, typed⟩ := conforms.lookup (by decide) field
  have read : value = .null ∨ ∃ n, value = .int n := by
    rcases integral with rfl | rfl
    · exact typed.imp_right (fun ⟨n, same, _⟩ => ⟨n, same⟩)
    · exact typed.imp_right (fun ⟨n, same, _⟩ => ⟨n, same⟩)
  rcases read with rfl | ⟨n, rfl⟩
  · exact absurd (get_of_lookup found .null) notNull
  · refine ⟨n, fun default => ?_⟩
    simp only [intOf, get_of_lookup found]
    rfl

end Fields

/-- What the fixed part of a raw message holds. -/
theorem raw_fields {raw_data : Value}
    (conforms : Conforms (.record market_data_raw) raw_data) :
    ∃ symbol symbol_id gc, ConformsFields global_context gc ∧
      (∀ default, raw_data.get "symbol" default = .ok (.str symbol)) ∧
      (∀ default, raw_data.get "symbol_id" default = .ok (.int symbol_id)) ∧
      ∀ default, raw_data.get "global_context" default = .ok (.dict gc) := by
  obtain ⟨entries, rfl, fields⟩ := conforms
  have distinct : (market_data_raw.map Prod.fst).Nodup := by decide
  obtain ⟨_, symbol_at, symbol, rfl⟩ := fields.lookup distinct
    (show ("symbol", Schema.string) ∈ market_data_raw by simp [market_data_raw])
  obtain ⟨_, symbol_id_at, symbol_id, rfl, -⟩ := fields.lookup distinct
    (show ("symbol_id", Schema.int) ∈ market_data_raw by simp [market_data_raw])
  obtain ⟨_, gc_at, gc, rfl, gc_fields⟩ := fields.lookup distinct
    (show ("global_context", Schema.record global_context) ∈ market_data_raw by
      simp [market_data_raw])
  exact ⟨symbol, symbol_id, gc, gc_fields, get_of_lookup symbol_at,
    get_of_lookup symbol_id_at, get_of_lookup gc_at⟩

theorem probe_id_read {pydantic : Pydantic} (documented : pydantic.Documented)
    {gc : Dict} (conforms : ConformsFields global_context gc) :
    ∃ value probe_id, (Value.dict gc).get "probe_id" .null = .ok value ∧
      pydantic.optionalStrField value = .ok probe_id := by
  obtain ⟨value, found, typed⟩ := conforms.lookup (by decide)
    (show ("probe_id", Schema.nullable .string) ∈ global_context by
      simp [global_context])
  rcases typed with rfl | ⟨s, rfl⟩
  · exact ⟨.null, none, get_of_lookup found .null, rfl⟩
  · refine ⟨.str s, some s, get_of_lookup found .null, ?_⟩
    simp only [Pydantic.optionalStrField, Pydantic.strField, documented.str_str]
    rfl

theorem numeric_field_mem :
    ∀ name ∈ numeric_fields, ∃ schema, (name, schema) ∈ global_context := by
  simp [numeric_fields, global_context]

section Extraction

variable {pydantic : Pydantic} {now : Calendar.DateTime} {raw_data : Value} {gc : Dict}

/-- An extraction that returns has converted every numeric field. -/
theorem not_null_of_extract {context : CleanedGlobalContext}
    (fields : ConformsFields global_context gc)
    (gc_at : ∀ default, raw_data.get "global_context" default = .ok (.dict gc))
    (extracted : extract_global_context pydantic now raw_data = .ok context)
    {name : String} (among : name ∈ numeric_fields) :
    (Value.dict gc).get name .null ≠ .ok .null := by
  intro isNull
  simp only [extract_global_context, bind_eq_ok, gc_at, Except.ok.injEq,
    exists_eq_left'] at extracted
  obtain ⟨-, -, -, -, _, spot_price, _, spot_change, _, spot_change_pct, _,
    total_call_oi, _, total_put_oi, _, pcr_ratio, _, atm_iv, _, atm_iv_change,
    _, max_pain_strike, _, days_to_expiry, _, lot_size, -⟩ := extracted
  have converted : ∀ name ∈ numeric_fields,
      (∃ x default, floatOf (.dict gc) name default = .ok x) ∨
        ∃ n default, intOf (.dict gc) name default = .ok n := by
    simp only [numeric_fields, List.forall_mem_cons, List.not_mem_nil,
      false_implies, implies_true, and_true]
    exact ⟨.inl ⟨_, _, spot_price⟩, .inl ⟨_, _, spot_change⟩,
      .inl ⟨_, _, spot_change_pct⟩, .inr ⟨_, _, total_call_oi⟩,
      .inr ⟨_, _, total_put_oi⟩, .inl ⟨_, _, pcr_ratio⟩, .inl ⟨_, _, atm_iv⟩,
      .inl ⟨_, _, atm_iv_change⟩, .inl ⟨_, _, max_pain_strike⟩,
      .inr ⟨_, _, days_to_expiry⟩, .inr ⟨_, _, lot_size⟩⟩
  obtain ⟨schema, field⟩ := numeric_field_mem name among
  rcases converted name among with ⟨x, default, read⟩ | ⟨n, default, read⟩
  · simp [floatOf, get_null fields field isNull, bind_eq_ok, Value.toFloat] at read
  · simp [intOf, get_null fields field isNull, bind_eq_ok, Value.toInt] at read

/-- Where no numeric field is null the extraction returns; the schema has no tick
size, so that its default is taken. -/
theorem extract_of_not_null (documented : pydantic.Documented)
    (conforms : Conforms (.record market_data_raw) raw_data)
    (notNull : ∀ name ∈ numeric_fields, ¬IsNull raw_data name) :
    ∃ context, extract_global_context pydantic now raw_data = .ok context ∧
      context.tick_size = 0.05 := by
  obtain ⟨symbol, symbol_id, gc, fields, symbol_at, symbol_id_at, gc_at⟩ :=
    raw_fields conforms
  simp only [IsNull, gc_at, Except.ok.injEq, exists_eq_left', numeric_fields,
    List.forall_mem_cons, List.not_mem_nil, false_implies, implies_true,
    and_true] at notNull
  obtain ⟨spot_ltp, spot_change, spot_pct_change, total_call_oi, total_put_oi,
    pcr_ratio, atm_iv, atm_iv_pct_change, max_pain_strike, days_to_expiry,
    option_lot_size⟩ := notNull
  obtain ⟨_, spot_ltp_at⟩ :=
    floatOf_double fields (by simp [global_context]) spot_ltp
  obtain ⟨_, spot_change_at⟩ :=
    floatOf_double fields (by simp [global_context]) spot_change
  obtain ⟨_, spot_pct_change_at⟩ :=
    floatOf_double fields (by simp [global_context]) spot_pct_change
  obtain ⟨_, total_call_oi_at⟩ :=
    intOf_long fields (.inr rfl) (by simp [global_context]) total_call_oi
  obtain ⟨_, total_put_oi_at⟩ :=
    intOf_long fields (.inr rfl) (by simp [global_context]) total_put_oi
  obtain ⟨_, pcr_ratio_at⟩ :=
    floatOf_double fields (by simp [global_context]) pcr_ratio
  obtain ⟨_, atm_iv_at⟩ :=
    floatOf_double fields (by simp [global_context]) atm_iv
  obtain ⟨_, atm_iv_pct_change_at⟩ :=
    floatOf_double fields (by simp [global_context]) atm_iv_pct_change
  obtain ⟨_, max_pain_strike_at⟩ :=
    floatOf_double fields (by simp [global_context]) max_pain_strike
  obtain ⟨_, days_to_expiry_at⟩ :=
    intOf_long fields (.inl rfl) (by simp [global_context]) days_to_expiry
  obtain ⟨_, option_lot_size_at⟩ :=
    intOf_long fields (.inl rfl) (by simp [global_context]) option_lot_size
  have absent : ∀ {name}, name ∉ global_context.map Prod.fst →
      ∀ default, (Value.dict gc).get name default = .ok default :=
    fun missing => get_of_lookup_none (fields.matched.lookup_none missing)
  have tick_size_at : floatOf (.dict gc) "option_tick_size" (.float 0.05) =
      .ok 0.05 := by
    simp only [floatOf, absent (show "option_tick_size" ∉ _ by decide)]
    rfl
  have symbol_id_read : intOf raw_data "symbol_id" (.int 0) = .ok symbol_id := by
    simp only [intOf, symbol_id_at]
    rfl
  obtain ⟨_, _, probe_id_at, coerced⟩ := probe_id_read documented fields
  simp only [extract_global_context, gc_at, symbol_at, symbol_id_read,
    spot_ltp_at, spot_change_at, spot_pct_change_at, total_call_oi_at,
    total_put_oi_at, pcr_ratio_at, atm_iv_at, atm_iv_pct_change_at,
    max_pain_strike_at, days_to_expiry_at, option_lot_size_at, tick_size_at,
    absent (show "exchange" ∉ _ by decide),
    absent (show "segment" ∉ _ by decide), probe_id_at, Pydantic.strField,
    documented.str_str, coerced, bind, Except.bind]
  exact ⟨_, rfl, rfl⟩

end Extraction

/-- The extraction returns, with the defaults in place, exactly for the messages
without a null among the fields it converts. -/
theorem extract_takes_defaults_iff {pydantic : Pydantic}
    (documented : pydantic.Documented) (now : Calendar.DateTime)
    {raw_data : Value} (conforms : Conforms (.record market_data_raw) raw_data) :
    (∃ context, extract_global_context pydantic now raw_data = .ok context ∧
        TakesDefaults raw_data context) ↔
      ∀ name ∈ numeric_fields, ¬ IsNull raw_data name := by
  constructor
  · rintro ⟨context, extracted, -⟩ name among ⟨given, given_at, isNull⟩
    obtain ⟨_, _, gc, fields, -, -, gc_at⟩ := raw_fields conforms
    obtain rfl : .dict gc = given := Except.ok.inj ((gc_at _).symm.trans given_at)
    exact not_null_of_extract fields gc_at extracted among isNull
  · intro notNull
    obtain ⟨context, extracted, tick_size⟩ :=
      extract_of_not_null documented conforms notNull
    refine ⟨context, extracted, ?_⟩
    -- No numeric field is null, so only the tick size has a default to take.
    constructor <;> intro isNull
    case tick_size => exact tick_size
    all_goals exact absurd isNull (notNull _ (by simp [numeric_fields]))

/-- A message of an instrument, with one field of its context left open. -/
def niftyMessage (spot_change : Value) : Value :=
  .dict
    [("symbol", .str "NIFTY"), ("symbol_id", .int 13), ("segment_id", .int 0),
     ("expiry", .str "2025-06-05"), ("timestamp", .str "2025-06-02T10:00:00+05:30"),
     ("option_chain", .dict []), ("futures_list", .dict []),
     ("global_context", .dict
       [("spot_ltp", .float 24750), ("spot_volume", .null),
        ("spot_change", spot_change), ("spot_pct_change", .float 0.25),
        ("atm_iv", .float 14.5), ("atm_iv_pct_change", .float 0),
        ("total_call_oi", .int 1200), ("total_put_oi", .int 900),
        ("pcr_ratio", .float 0.75), ("option_lot_size", .int 75),
        ("days_to_expiry", .int 3), ("max_pain_strike", .float 24700),
        ("probe_id", .null)])]

theorem niftyMessage_conforms {spot_change : Value}
    (typed : Conforms (.nullable .double) spot_change) :
    Conforms (.record market_data_raw) (niftyMessage spot_change) := by
  unfold Conforms at typed
  simp only [Conforms, ConformsFields, ConformsField, market_data_raw,
    global_context]
  exact ⟨_, rfl, _, _, rfl, ⟨_, rfl⟩, _, _, rfl, ⟨_, rfl, rfl⟩, _, _, rfl,
    ⟨_, rfl, rfl⟩, _, _, rfl, ⟨_, rfl⟩, _, _, rfl, ⟨_, rfl⟩, _, _, rfl,
    ⟨_, rfl, by simp⟩, _, _, rfl, ⟨_, rfl, by simp⟩, _, _, rfl,
    ⟨_, rfl, _, _, rfl, .inr ⟨_, rfl⟩, _, _, rfl, .inl rfl, _, _, rfl, typed,
      _, _, rfl, .inr ⟨_, rfl⟩, _, _, rfl, .inr ⟨_, rfl⟩, _, _, rfl,
      .inr ⟨_, rfl⟩, _, _, rfl, .inr ⟨_, rfl, rfl⟩, _, _, rfl,
      .inr ⟨_, rfl, rfl⟩, _, _, rfl, .inr ⟨_, rfl⟩, _, _, rfl,
      .inr ⟨_, rfl, rfl⟩, _, _, rfl, .inr ⟨_, rfl, rfl⟩, _, _, rfl,
      .inr ⟨_, rfl⟩, _, _, rfl, .inl rfl, rfl⟩, rfl⟩

theorem extract_takes_defaults_iff_nifty :
    (∃ context, extract_global_context exactPydantic noon
          (niftyMessage (.float 61.5)) = .ok context ∧
        TakesDefaults (niftyMessage (.float 61.5)) context) ↔
      ∀ name ∈ numeric_fields, ¬ IsNull (niftyMessage (.float 61.5)) name :=
  extract_takes_defaults_iff exactPydantic_documented noon
    (niftyMessage_conforms (.inr ⟨_, rfl⟩))

/-- A change that is null raises instead of becoming 0. -/
theorem extract_takes_defaults_fails :
    Conforms (.record market_data_raw) (niftyMessage .null) ∧
      extract_global_context exactPydantic noon (niftyMessage .null) =
        .error .typeError :=
  ⟨niftyMessage_conforms (.inl rfl), rfl⟩

end HftEngine.Processor
