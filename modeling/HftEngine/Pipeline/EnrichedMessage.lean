import HftEngine.Processor.EnrichedMessage
import HftEngine.Schemas.MarketDataEnriched
import HftEngine.Storage.ProcessMessage

/-!
# An enriched message from the processor to storage

What storage receives of a message that the processor built, and the records
that it buffers for it.  The transport is any that keeps to the schema.
-/

namespace HftEngine.Pipeline

open Py Json Avro Schemas Processor Storage

/-! ## Options -/

/-- The entries in the order of the schema. -/
def received_option (opt : CleanedOptionData) : Dict :=
  [("strike", .float opt.strike),
   ("option_type", .str opt.option_type.text),
   ("ltp", orNull .float opt.ltp),
   ("bid", orNull .float opt.bid),
   ("ask", orNull .float opt.ask),
   ("mid_price", orNull .float opt.mid_price),
   ("bid_qty", .int opt.bid_qty),
   ("ask_qty", .int opt.ask_qty),
   ("prev_close", .float opt.prev_close),
   ("price_change", .float opt.price_change),
   ("price_change_pct", .float opt.price_change_pct),
   ("avg_traded_price", .float opt.avg_traded_price),
   ("volume", .int opt.volume),
   ("prev_volume", .int opt.prev_volume),
   ("volume_change", .int opt.volume_change),
   ("volume_change_pct", .float opt.volume_change_pct),
   ("oi", .int opt.oi),
   ("prev_oi", .int opt.prev_oi),
   ("change_oi", .int opt.oi_change),
   ("oi_change_pct", .float opt.oi_change_pct),
   ("iv", orNull .float opt.iv),
   ("delta", .float opt.delta),
   ("gamma", .float opt.gamma),
   ("theta", .float opt.theta),
   ("vega", .float opt.vega),
   ("rho", .float opt.rho),
   ("theoretical_price", orNull .float opt.theoretical_price),
   ("bsm_price", .null),
   ("intrinsic_value", .float opt.intrinsic_value),
   ("time_value", orNull .float opt.time_value),
   ("moneyness", .float opt.moneyness),
   ("moneyness_type", .str opt.moneyness_type),
   ("buildup_type", .str opt.buildup_type),
   ("buildup_name", .str opt.buildup_name),
   ("reversal_price", orNull .float opt.reversal_price),
   ("support_price", orNull .float opt.support_price),
   ("resistance_price", orNull .float opt.resistance_price),
   ("resistance_range_price", orNull .float opt.resistance_range_price),
   ("weekly_reversal_price", orNull .float opt.weekly_reversal_price),
   ("future_reversal_price", orNull .float opt.future_reversal_price),
   ("oi_pct", orNull .float opt.oi_pct),
   ("volume_pct", orNull .float opt.volume_pct),
   ("oichng_pct", orNull .float opt.oichng_pct),
   ("oi_rank", orNull .int opt.oi_rank),
   ("is_liquid", .bool opt.is_liquid),
   ("is_valid", .bool opt.is_valid)]

theorem taken_option (opt : CleanedOptionData) :
    option_data.map (fun field => (field.1, Dict.get (opt_dict opt) field.1 .null)) =
      received_option opt := rfl

theorem plain_option {opt : CleanedOptionData} {ltp : Float}
    (priced : opt.ltp = some ltp) :
    Matched (fun field value => Plain field.2 value = true) option_data
      (received_option opt) := by
  have price : Plain .double (orNull .float opt.ltp) = true := by
    rw [priced]
    rfl
  have float (x : Option Float) : Plain (.nullable .double) (orNull .float x) = true :=
    plain_orNull (fun _ => rfl) x
  have int (n : Option ℤ) : Plain (.nullable .int) (orNull .int n) = true :=
    plain_orNull (fun _ => rfl) n
  repeat first
    | exact .nil
    | refine .cons ⟨rfl, rfl⟩ ?_
    | refine .cons ⟨rfl, float _⟩ ?_
    | refine .cons ⟨rfl, int _⟩ ?_
    | refine .cons ⟨rfl, price⟩ ?_

/-- The price of an option is no nullable field of the schema. -/
theorem reads_option {opt : CleanedOptionData} {received : Value}
    (reads : Reads (.record option_data) (.dict (opt_dict opt)) received) :
    received = .dict (received_option opt) ∧ ∃ ltp, opt.ltp = some ltp := by
  obtain ⟨entries, rfl, fields⟩ := reads
  have priced : ∃ ltp, opt.ltp = some ltp := by
    have field : ("ltp", Schema.double) ∈ option_data := by simp [option_data]
    obtain ⟨value, _, read⟩ := fields.lookup (by decide) field
    change Reads .double (orNull .float opt.ltp) value at read
    cases price : opt.ltp with
    | none =>
        rw [price] at read
        exact read.elim
    | some ltp => exact ⟨ltp, rfl⟩
  obtain ⟨ltp, price⟩ := priced
  have same := ReadsFields.plain fields (taken_option opt) (plain_option price)
  exact ⟨congrArg Value.dict same, ltp, price⟩

/-- `float(x) if x else None`. -/
abbrev nonzero (value : Option Float) : Option Float :=
  value.filter (fun x => !(x == 0))

/-- `int(n) if n else None`. -/
abbrev nonzero_rank (value : Option ℤ) : Option ℤ :=
  value.filter (fun n => n ≠ 0)

/-- The record of an option with a price, when there is no order flow. -/
def stored_option (timestamp : Calendar.DateTime) (symbol_id expiry : Value)
    (opt : CleanedOptionData) (ltp : Float) : OptionRecord Value where
  timestamp
  trade_date := timestamp.date
  symbol_id
  expiry
  strike_price := opt.strike
  option_type := .str opt.option_type.text
  ltp
  bid := nonzero opt.bid
  ask := nonzero opt.ask
  mid_price := nonzero opt.mid_price
  prev_close := opt.prev_close
  price_change := opt.price_change
  price_change_pct := opt.price_change_pct
  avg_traded_price := opt.avg_traded_price
  volume := opt.volume
  prev_volume := opt.prev_volume
  volume_change := opt.volume_change
  volume_change_pct := opt.volume_change_pct
  oi := opt.oi
  prev_oi := opt.prev_oi
  oi_change := opt.oi_change
  oi_change_pct := opt.oi_change_pct
  delta := opt.delta
  gamma := opt.gamma
  theta := opt.theta
  vega := opt.vega
  rho := opt.rho
  iv := nonzero opt.iv
  bid_qty := opt.bid_qty
  ask_qty := opt.ask_qty
  theoretical_price := nonzero opt.theoretical_price
  intrinsic_value := opt.intrinsic_value
  time_value := nonzero opt.time_value
  moneyness := opt.moneyness
  moneyness_type := .str opt.moneyness_type
  buildup_type := .str opt.buildup_type
  buildup_name := .str opt.buildup_name
  reversal_price := nonzero opt.reversal_price
  support_price := nonzero opt.support_price
  resistance_price := nonzero opt.resistance_price
  resistance_range_price := nonzero opt.resistance_range_price
  weekly_reversal_price := nonzero opt.weekly_reversal_price
  future_reversal_price := nonzero opt.future_reversal_price
  is_liquid := .bool opt.is_liquid
  is_valid := .bool opt.is_valid
  order_flow_analysis := .null
  smart_money_analysis := .null
  liquidity_analysis := .null
  oi_pct := nonzero opt.oi_pct
  volume_pct := nonzero opt.volume_pct
  oichng_pct := nonzero opt.oichng_pct
  oi_rank := nonzero_rank opt.oi_rank

theorem or_int (n : ℤ) : (Value.int n).or (.int 0) = .int n := by
  by_cases zero : n = 0
  · simp [Value.or, Value.truthy, zero]
  · simp [Value.or, Value.truthy, zero]

theorem option_record_received (runtime : Runtime) (timestamp : Calendar.DateTime)
    (symbol_id expiry : Value) {analyses : Value}
    (noFlow : ∀ strike_key, extract_order_flow analyses strike_key = .ok .null)
    {opt : CleanedOptionData} {ltp : Float} (priced : opt.ltp = some ltp) :
    option_record runtime timestamp symbol_id expiry analyses
        (.dict (received_option opt)) =
      .ok (stored_option timestamp symbol_id expiry opt ltp) := by
  have ltp_found : lookup? "ltp" (received_option opt) = some (.float ltp) := by
    change some (orNull .float opt.ltp) = _
    rw [priced]
    rfl
  have oi_change :
      ((Value.int opt.oi_change).or (.int 0)).toInt = .ok opt.oi_change := by
    rw [or_int]
    rfl
  unfold option_record
  iterate 2 refine bind_step (get_of_lookup rfl _) ?_
  refine bind_step (floatOf_found rfl _) ?_
  apply bind_step (floatOf_found ltp_found _)
  iterate 3 refine bind_step (optionalFloatOf_found rfl) ?_
  iterate 4 refine bind_step (floatOf_found rfl _) ?_
  iterate 3 refine bind_step (intOf_found rfl _) ?_
  refine bind_step (floatOf_found rfl _) ?_
  iterate 2 refine bind_step (intOf_found rfl _) ?_
  refine bind_step (get_of_lookup rfl _) ?_
  refine bind_step (get_of_lookup_none rfl _) ?_
  apply bind_step oi_change
  iterate 6 refine bind_step (floatOf_found rfl _) ?_
  refine bind_step (optionalFloatOf_found rfl) ?_
  iterate 2 refine bind_step (intOf_found rfl _) ?_
  refine bind_step (optionalFloatOf_found rfl) ?_
  refine bind_step (floatOf_found rfl _) ?_
  refine bind_step (optionalFloatOf_found rfl) ?_
  refine bind_step (floatOf_found rfl _) ?_
  iterate 3 refine bind_step (get_of_lookup rfl _) ?_
  iterate 6 refine bind_step (optionalFloatOf_found rfl) ?_
  iterate 2 refine bind_step (get_of_lookup rfl _) ?_
  apply bind_step (noFlow _)
  iterate 3 refine bind_step (optionalFloatOf_found rfl) ?_
  refine bind_step (optionalIntOf_found rfl) ?_
  rfl

/-! ## The context -/

/-- The entries in the order of the schema. -/
def received_context (context : CleanedGlobalContext) : Dict :=
  [("symbol", .str context.symbol),
   ("symbol_id", .int context.symbol_id),
   ("spot_price", .float context.spot_price),
   ("spot_change", .float context.spot_change),
   ("spot_change_pct", .float context.spot_change_pct),
   ("total_call_oi", .int context.total_call_oi),
   ("total_put_oi", .int context.total_put_oi),
   ("pcr_ratio", .float context.pcr_ratio),
   ("atm_iv", .float context.atm_iv),
   ("atm_iv_change", .float context.atm_iv_change),
   ("days_to_expiry", .int context.days_to_expiry),
   ("lot_size", .int context.lot_size),
   ("tick_size", .float context.tick_size),
   ("max_pain_strike", .float context.max_pain_strike),
   ("exchange", .str context.exchange),
   ("segment", .str context.segment),
   ("timestamp", .str (context.timestamp.isoformat "+00:00")),
   ("probe_id", orNull .str context.probe_id)]

theorem reads_context {context : CleanedGlobalContext} {received : Value}
    (reads : Reads (.record context_data) (.dict context.model_dump) received) :
    received = .dict (received_context context) := by
  obtain ⟨entries, rfl, fields⟩ := reads
  have probe : Plain (.nullable .string) (orNull .str context.probe_id) = true :=
    plain_orNull (fun _ => rfl) context.probe_id
  have plain : Matched (fun field value => Plain field.2 value = true) context_data
      (received_context context) := by
    repeat first
      | exact .nil
      | refine .cons ⟨rfl, rfl⟩ ?_
      | refine .cons ⟨rfl, probe⟩ ?_
  have same : entries = received_context context := ReadsFields.plain fields rfl plain
  rw [same]

/-- The status of the whole market when none of its analyses is there. -/
def no_market_wide_analysis : Value :=
  .dict
    [("order_flow_status", .null),
     ("high_toxicity_count", .null),
     ("smart_money_recommendation", .null),
     ("liquidity_stress_level", .null)]

def stored_market (timestamp : Calendar.DateTime) (context : CleanedGlobalContext)
    (analyses : Dict) : MarketRecord Value where
  timestamp
  trade_date := timestamp.date
  symbol_id := .int context.symbol_id
  exchange := .str context.exchange
  segment := .str context.segment
  ltp := context.spot_price
  oi := context.total_call_oi + context.total_put_oi
  spot_change := context.spot_change
  spot_change_pct := context.spot_change_pct
  total_call_oi := context.total_call_oi
  total_put_oi := context.total_put_oi
  pcr_ratio := context.pcr_ratio
  atm_iv := context.atm_iv
  atm_iv_change := context.atm_iv_change
  max_pain_strike := context.max_pain_strike
  days_to_expiry := context.days_to_expiry
  lot_size := context.lot_size
  tick_size := context.tick_size
  raw_data := .dict (received_context context)
  gex_analysis := Dict.get analyses "gex" .null
  iv_skew_analysis := Dict.get analyses "iv_skew" .null
  pcr_analysis := Dict.get analyses "pcr" .null
  market_wide_analysis := no_market_wide_analysis

/-- No analysis that storage looks into for the whole market or for a strike. -/
structure NoFlow (analyses : Dict) : Prop where
  order_flow : lookup? "order_flow" analyses = none
  smart_money : lookup? "smart_money" analyses = none
  liquidity_stress : lookup? "liquidity_stress" analyses = none

theorem NoFlow.market {analyses : Dict} (noFlow : NoFlow analyses) :
    market_wide_analysis (.dict analyses) = .ok no_market_wide_analysis := by
  simp [market_wide_analysis, Dict.get, noFlow.order_flow, noFlow.smart_money,
    noFlow.liquidity_stress, lookup?, bind, Except.bind, no_market_wide_analysis]

theorem NoFlow.strike {analyses : Dict} (noFlow : NoFlow analyses)
    (strike_key : String) :
    extract_order_flow (.dict analyses) strike_key = .ok .null := by
  simp [extract_order_flow, Dict.get, noFlow.order_flow, lookup?, bind, Except.bind,
    Value.or, Value.truthy]

theorem market_record_received (timestamp : Calendar.DateTime)
    (context : CleanedGlobalContext) {analyses : Dict} (noFlow : NoFlow analyses) :
    market_record timestamp (.int context.symbol_id)
        (.dict (received_context context)) (.dict analyses) =
      .ok (stored_market timestamp context analyses) := by
  unfold market_record
  iterate 3 refine bind_step (get_dict analyses _ _) ?_
  apply bind_step noFlow.market
  iterate 2 refine bind_step (get_of_lookup rfl _) ?_
  refine bind_step (floatOf_found rfl _) ?_
  iterate 2 refine bind_step (get_of_lookup rfl _) ?_
  refine bind_step rfl ?_
  refine bind_step rfl ?_
  iterate 2 refine bind_step (floatOf_found rfl _) ?_
  iterate 2 refine bind_step (intOf_found rfl _) ?_
  iterate 4 refine bind_step (floatOf_found rfl _) ?_
  iterate 2 refine bind_step (intOf_found rfl _) ?_
  refine bind_step (floatOf_found rfl _) ?_
  rfl

/-! ## The message -/

/-- The texts that the analyses were sent as. -/
def received_analyses (produced : Dict) : Dict :=
  produced.map (fun entry => (entry.1, asText entry.2))

def received_parts (cleaned : Cleaned) (produced : Dict) : Parts where
  context := .dict (received_context cleaned.context)
  options := .list (cleaned.options.map (fun opt => .dict (received_option opt)))
  symbol_id := .int cleaned.context.symbol_id
  timestamp := cleaned.context.timestamp
  analyses := .dict (received_analyses produced)

/-- The entries of the message that storage looks into. -/
structure Received (cleaned : Cleaned) (produced : Dict) (expiry : String)
    (entries : Dict) : Prop where
  symbol_id : lookup? "symbol_id" entries = some (.int cleaned.context.symbol_id)
  expiry : lookup? "expiry" entries = some (.str expiry)
  timestamp : lookup? "timestamp" entries =
    some (.str (cleaned.context.timestamp.isoformat "+00:00"))
  context : lookup? "context" entries = some (.dict (received_context cleaned.context))
  options : lookup? "options" entries =
    some (.list (cleaned.options.map (fun opt => .dict (received_option opt))))
  analyses : lookup? "analyses" entries = some (.dict (received_analyses produced))
  priced : ∀ opt ∈ cleaned.options, ∃ ltp, opt.ltp = some ltp

theorem reads_options {options : List CleanedOptionData} {received : Value}
    (reads : Reads (.array (.record option_data))
      (.list (options.map (fun opt => .dict (opt_dict opt)))) received) :
    received = .list (options.map (fun opt => .dict (received_option opt))) ∧
      ∀ opt ∈ options, ∃ ltp, opt.ltp = some ltp := by
  obtain ⟨items, rfl, related⟩ := reads
  rw [List.forall₂_map_left_iff] at related
  suffices same : items = options.map (fun opt => .dict (received_option opt)) ∧
      ∀ opt ∈ options, ∃ ltp, opt.ltp = some ltp from
    ⟨congrArg Value.list same.1, same.2⟩
  induction related with
  | nil => exact ⟨rfl, by simp⟩
  | cons head _ ih =>
      obtain ⟨rfl, price⟩ := reads_option head
      obtain ⟨rfl, prices⟩ := ih
      exact ⟨rfl, List.forall_mem_cons.mpr ⟨price, prices⟩⟩

theorem asText_text (value : Value) : ∃ s, asText value = .str s := by
  cases value <;> exact ⟨_, rfl⟩

theorem Received.of_reads {cleaned : Cleaned} {produced : Dict} {expiry : String}
    {now : Calendar.DateTime} {message msg : Value}
    (built : build_enriched_message cleaned produced expiry now = .ok message)
    (reads : Reads (.record market_data_enriched) message msg) :
    ∃ entries, msg = .dict entries ∧ Received cleaned produced expiry entries := by
  obtain ⟨pct, _, made⟩ := bind_eq_ok.mp built
  cases made
  obtain ⟨entries, rfl, fields⟩ := reads
  have distinct : (market_data_enriched.map Prod.fst).Nodup := by decide
  have found {name : String} {schema : Schema}
      (field : (name, schema) ∈ market_data_enriched) := fields.lookup distinct field
  refine ⟨entries, rfl, ?_⟩
  obtain ⟨_, symbol_id, rfl⟩ := found (show ("symbol_id", .int) ∈ _ by
    simp [market_data_enriched])
  obtain ⟨_, expiry, rfl⟩ := found (show ("expiry", .string) ∈ _ by
    simp [market_data_enriched])
  obtain ⟨_, timestamp, rfl⟩ := found (show ("timestamp", .string) ∈ _ by
    simp [market_data_enriched])
  obtain ⟨_, context, read⟩ := found (show ("context", .record context_data) ∈ _ by
    simp [market_data_enriched])
  obtain rfl := reads_context read
  obtain ⟨_, options, read⟩ := found
    (show ("options", .array (.record option_data)) ∈ _ by simp [market_data_enriched])
  obtain ⟨rfl, priced⟩ := reads_options read
  obtain ⟨_, analyses, read⟩ := found (show ("analyses", .map .string) ∈ _ by
    simp [market_data_enriched])
  obtain rfl := Reads.map_string read (by
    intro entry member
    obtain ⟨_, _, rfl⟩ := List.mem_map.mp member
    exact asText_text _)
  exact { symbol_id, expiry, timestamp, context, options, analyses, priced }

/-- What an expiry is stored as; the context holds none. -/
def stored_expiry (expiry : String) : Value :=
  expiry_time (if (Value.str expiry).truthy then .str expiry else .null)

/-- What the options are appended as; each has a price. -/
def stored_options (cleaned : Cleaned) (expiry : String) : List (OptionRecord Value) :=
  cleaned.options.filterMap (fun opt => opt.ltp.map
    (stored_option cleaned.context.timestamp (.int cleaned.context.symbol_id)
      (stored_expiry expiry) opt))

theorem append_options_received (market : List (MarketRecord Value)) (runtime : Runtime)
    (timestamp : Calendar.DateTime) (symbol_id expiry : Value) {analyses : Value}
    (noFlow : ∀ strike_key, extract_order_flow analyses strike_key = .ok .null)
    {options : List CleanedOptionData}
    (priced : ∀ opt ∈ options, ∃ ltp, opt.ltp = some ltp) :
    append_options market (option_record runtime timestamp symbol_id expiry analyses)
        (options.map (fun opt => .dict (received_option opt))) =
      ⟨market, options.filterMap (fun opt => opt.ltp.map
        (stored_option timestamp symbol_id expiry opt)), false⟩ := by
  induction options with
  | nil => rfl
  | cons opt options ih =>
      obtain ⟨⟨ltp, price⟩, prices⟩ := List.forall_mem_cons.mp priced
      simp only [List.map_cons, append_options, ih prices,
        option_record_received runtime timestamp symbol_id expiry noFlow price]
      simp [price]

section Buffered

variable {cleaned : Cleaned} {produced : Dict} {expiry : String} {entries : Dict}
  {runtime : Runtime}

theorem parts_received (received : Received cleaned produced expiry entries)
    (reads : runtime.Reads cleaned.context.timestamp) :
    parts runtime (.dict entries) = .ok (received_parts cleaned produced) := by
  have symbol_id : orElse (.int cleaned.context.symbol_id)
      ((Value.dict (received_context cleaned.context)).get "symbol_id" .null) =
        .ok (.int cleaned.context.symbol_id) := by
    unfold orElse
    split
    · rfl
    · rfl
  have timestamp : message_time runtime
      (.str (cleaned.context.timestamp.isoformat "+00:00")) =
        .ok cleaned.context.timestamp := by
    rw [Runtime.Reads] at reads
    simp [message_time, Value.truthy, reads]
  unfold parts
  apply bind_step (get_of_lookup received.context _)
  apply bind_step (get_of_lookup received.options _)
  apply bind_step (get_of_lookup received.symbol_id _)
  apply bind_step symbol_id
  apply bind_step (get_of_lookup received.timestamp _)
  apply bind_step timestamp
  apply bind_step (get_of_lookup received.analyses _)
  rfl

/-- A symbol whose id is 0 has no snapshot. -/
def stored_markets (cleaned : Cleaned) (analyses : Dict) : List (MarketRecord Value) :=
  if (Value.int cleaned.context.symbol_id).truthy then
    [stored_market cleaned.context.timestamp cleaned.context analyses]
  else []

theorem process_message_received (received : Received cleaned produced expiry entries)
    (reads : runtime.Reads cleaned.context.timestamp)
    (noFlow : NoFlow (received_analyses produced)) :
    process_message runtime (.dict entries) =
      ⟨stored_markets cleaned (received_analyses produced),
        stored_options cleaned expiry, false⟩ := by
  have expiry_val : orElse (.str expiry)
      ((Value.dict (received_context cleaned.context)).get "expiry" .null) =
        .ok (if (Value.str expiry).truthy then .str expiry else .null) := by
    unfold orElse
    split
    · rfl
    · rfl
  have loop : option_loop (.dict entries) (received_parts cleaned produced) = .ok
      (stored_expiry expiry,
        cleaned.options.map (fun opt => .dict (received_option opt))) := by
    unfold option_loop
    apply bind_step (get_of_lookup received.expiry _)
    apply bind_step expiry_val
    rfl
  have market : market_records (received_parts cleaned produced) =
      .ok (stored_markets cleaned (received_analyses produced)) := by
    have context : (Value.dict (received_context cleaned.context)).truthy = true := rfl
    unfold market_records stored_markets received_parts
    rw [context, Bool.true_and, market_record_received _ _ noFlow]
    split
    · rfl
    · rfl
  unfold process_message
  rw [parts_received received reads]
  simp only [market, loop]
  exact append_options_received _ _ _ _ _ noFlow.strike received.priced

end Buffered

/-! ## Messages that the processor emits -/

/-- The result that the processor adds to the message for an analysis. -/
def produced (analyzers : Analyzers) (cleaned : Cleaned) (analysis : Analysis) :
    Option Dict :=
  if analyzers.started cleaned analysis then analyzers.analyze analysis else none

theorem mem_analyses {analyzers : Analyzers} {cleaned : Cleaned}
    {entry : String × Value} (member : entry ∈ analyses analyzers cleaned) :
    ∃ analysis result, produced analyzers cleaned analysis = some result ∧
      entry = (analysis.key, .dict result) := by
  obtain ⟨analysis, task, found⟩ := List.mem_filterMap.mp member
  obtain ⟨result, analyzed, rfl⟩ := Option.map_eq_some_iff.mp found
  have started := (List.mem_filter.mp task).2
  exact ⟨analysis, result, (if_pos started).trans analyzed, rfl⟩

/-- A key is missing from the message unless an analysis with it was produced. -/
theorem lookup_received_none {analyzers : Analyzers} {cleaned : Cleaned} {key : String}
    (other : ∀ analysis : Analysis, analysis.key = key →
      produced analyzers cleaned analysis = none) :
    lookup? key (received_analyses (analyses analyzers cleaned)) = none := by
  apply lookup_eq_none
  intro entry member same
  obtain ⟨sent, among, rfl⟩ := List.mem_map.mp member
  obtain ⟨analysis, result, found, rfl⟩ := mem_analyses among
  rw [other analysis same] at found
  cases found

theorem lookup_received_unknown (analyzers : Analyzers) (cleaned : Cleaned)
    {key : String} (unknown : ∀ analysis : Analysis, analysis.key ≠ key) :
    lookup? key (received_analyses (analyses analyzers cleaned)) = none :=
  lookup_received_none (fun analysis same => absurd same (unknown analysis))

theorem noFlow_analyses (analyzers : Analyzers) (cleaned : Cleaned) :
    NoFlow (received_analyses (analyses analyzers cleaned)) where
  order_flow := lookup_received_unknown _ _
    (by intro analysis; cases analysis <;> decide)
  smart_money := lookup_received_unknown _ _
    (by intro analysis; cases analysis <;> decide)
  liquidity_stress :=
    lookup_received_unknown _ _ (by intro analysis; cases analysis <;> decide)

/-- A message from its cleaned data to what storage received. -/
structure Emitted (analyzers : Analyzers) (hop : Value → Option Value)
    (runtime : Runtime) (cleaned : Cleaned) (expiry : String) (msg : Value) : Prop where
  documented : Documented (.record market_data_enriched) hop
  sent : ∃ now message,
    build_enriched_message cleaned (analyses analyzers cleaned) expiry now =
      .ok message ∧
      hop message = some msg
  reads : runtime.Reads cleaned.context.timestamp

theorem Emitted.process_message {analyzers : Analyzers} {hop : Value → Option Value}
    {runtime : Runtime} {cleaned : Cleaned} {expiry : String} {msg : Value}
    (emitted : Emitted analyzers hop runtime cleaned expiry msg) :
    process_message runtime msg =
        ⟨stored_markets cleaned (received_analyses (analyses analyzers cleaned)),
          stored_options cleaned expiry, false⟩ ∧
      ∀ opt ∈ cleaned.options, ∃ ltp, opt.ltp = some ltp := by
  obtain ⟨documented, ⟨now, message, built, hopped⟩, reads⟩ := emitted
  obtain ⟨entries, rfl, received⟩ :=
    Received.of_reads built (documented message msg hopped)
  exact ⟨process_message_received received reads (noFlow_analyses analyzers cleaned),
    received.priced⟩

/-! ## A message at noon -/

/-- What the processor sends, as storage receives it through a transport that
takes nothing but the types of the schema. -/
def transcoded : Value → Option Value :=
  transcode (.record market_data_enriched)

def delivered (analyzers : Analyzers) (cleaned : Cleaned) (expiry : String)
    (now : Calendar.DateTime) : Option Value :=
  (build_enriched_message cleaned (analyses analyzers cleaned) expiry
    now).toOption.bind transcoded

theorem Emitted.of_delivered {analyzers : Analyzers} {runtime : Runtime}
    {cleaned : Cleaned}
    {expiry : String} {now : Calendar.DateTime}
    (reads : runtime.Reads cleaned.context.timestamp)
    (arrives : (delivered analyzers cleaned expiry now).isSome = true) :
    ∃ msg, Emitted analyzers transcoded runtime cleaned expiry msg := by
  obtain ⟨msg, arrived⟩ := Option.isSome_iff_exists.mp arrives
  obtain ⟨message, built, hopped⟩ := Option.bind_eq_some_iff.mp arrived
  have returned :
      build_enriched_message cleaned (analyses analyzers cleaned) expiry now =
      .ok message := by
    cases result :
        build_enriched_message cleaned (analyses analyzers cleaned) expiry now with
    | error _ =>
        rw [result] at built
        cases built
    | ok other =>
        rw [result] at built
        cases built
        rfl
  exact ⟨msg, transcode_documented _, ⟨now, message, returned, hopped⟩, reads⟩

def noonMessage (options : List CleanedOptionData) : Cleaned where
  context :=
    { symbol := "NIFTY", symbol_id := 13, spot_price := 24010.5, spot_change := 0
      spot_change_pct := 0, total_call_oi := 100, total_put_oi := 200, pcr_ratio := 2
      atm_iv := 12, atm_iv_change := 0, max_pain_strike := 24000, days_to_expiry := 3
      lot_size := 75, tick_size := 0.05, exchange := "NSE", segment := "D"
      probe_id := none, timestamp := noon }
  futures := none
  options

def noonRuntime : Runtime where
  ist_now := noon
  utc_now := noon
  str value := match value with
    | .float x => String.ofList (floatText x)
    | .str s => s
    | _ => ""
  fromisoformat value :=
    if value = .str (noon.isoformat "+00:00") then .ok noon else .error .valueError

theorem noonRuntime_reads (options : List CleanedOptionData) :
    noonRuntime.Reads (noonMessage options).context.timestamp := by
  simp [Runtime.Reads, noonRuntime, noonMessage]

end HftEngine.Pipeline
