import HftEngine.Lib.Traversal
import HftEngine.Storage.ProcessMessage

/-!
# A message between its records

`process_message` appends the market record before it goes through the options, and
its handler catches what a conversion raises.  So a message of which some
conversion raises leaves in the buffers the records that came before it.
-/

namespace HftEngine.Storage

open Py

/-- `market_buffer` and `option_buffer`. -/
structure Buffers where
  market : List (MarketRecord Value)
  option : List (OptionRecord Value)

namespace Buffers

def append (before : Buffers) (market : List (MarketRecord Value))
    (option : List (OptionRecord Value)) : Buffers :=
  ⟨before.market ++ market, before.option ++ option⟩

/-- The buffers before the flush at the end of `process_message`. -/
def after_message (before : Buffers) (runtime : Runtime) (msg : Value) : Buffers :=
  let buffered := process_message runtime msg
  before.append buffered.market buffered.option

theorem append_eq_self {before : Buffers} {market : List (MarketRecord Value)}
    {option : List (OptionRecord Value)} :
    before.append market option = before ↔ market = [] ∧ option = [] := by
  cases before
  simp [append]

end Buffers

/-- Every record of a message; an error if any conversion raises. -/
def records (runtime : Runtime) (msg : Value) :
    Result (List (MarketRecord Value) × List (OptionRecord Value)) := do
  let parts ← parts runtime msg
  let market ← market_records parts
  let (expiry, options) ← option_loop msg parts
  let option ← options.mapM
    (option_record runtime parts.timestamp parts.symbol_id expiry parts.analyses)
  .ok (market, option)

/-- All records of a message are buffered, or a conversion raises and none is. -/
def Atomic (runtime : Runtime) (msg : Value) : Prop :=
  ∀ before : Buffers,
    (∃ market option, records runtime msg = .ok (market, option) ∧
      before.after_message runtime msg = before.append market option) ∨
    (∃ error, records runtime msg = .error error ∧
      before.after_message runtime msg = before)

/-! ## When it is -/

/-- The loop starts and every option converts. -/
def Converts (runtime : Runtime) (msg : Value) (parts : Parts) : Prop :=
  ∃ expiry options, option_loop msg parts = .ok (expiry, options) ∧
    ∀ option ∈ options, ∃ record, option_record runtime parts.timestamp parts.symbol_id
      expiry parts.analyses option = .ok record

/-- The loop does not start, or its first option raises. -/
def FailsFirst (runtime : Runtime) (msg : Value) (parts : Parts) : Prop :=
  ∀ expiry options, option_loop msg parts = .ok (expiry, options) →
    ∃ first rest error, options = first :: rest ∧
      option_record runtime parts.timestamp parts.symbol_id expiry parts.analyses first =
        .error error

/-- What raises comes before the first record: no option raises after a market record,
nor after an option that converts. -/
def RaisesBeforeRecords (runtime : Runtime) (msg : Value) : Prop :=
  ∀ parts, Storage.parts runtime msg = .ok parts →
    Converts runtime msg parts ∨
    if parts.context.truthy && parts.symbol_id.truthy then
      ∃ error, market_record parts.timestamp parts.symbol_id parts.context
        parts.analyses = .error error
    else FailsFirst runtime msg parts

section Options

variable {market : List (MarketRecord Value)} {record : Value → Result (OptionRecord Value)}

theorem append_options_of_mapM (market : List (MarketRecord Value)) {options : List Value}
    {all : List (OptionRecord Value)} (converted : options.mapM record = .ok all) :
    append_options market record options = ⟨market, all, false⟩ := by
  induction options generalizing all with
  | nil =>
      obtain rfl : [] = all := Except.ok.inj converted
      rfl
  | cons option options ih =>
      rw [List.mapM_cons, bind_eq_ok] at converted
      obtain ⟨first, head, converted⟩ := converted
      rw [bind_eq_ok] at converted
      obtain ⟨rest, tail, finished⟩ := converted
      obtain rfl : first :: rest = all := Except.ok.inj finished
      rw [append_options, head]
      dsimp only
      rw [ih tail]

theorem append_options_market (options : List Value) :
    (append_options market record options).market = market := by
  induction options with
  | nil => rfl
  | cons option options ih =>
      rw [append_options]
      cases record option with
      | error error => rfl
      | ok first => exact ih

/-- When an option raises, nothing was appended only if it was the first. -/
theorem append_options_nil_iff {options : List Value} {error : Error}
    (raised : options.mapM record = .error error) :
    (append_options market record options).option = [] ↔
      ∃ first rest error, options = first :: rest ∧ record first = .error error := by
  cases options with
  | nil => cases raised
  | cons first rest =>
      rw [append_options]
      cases head : record first with
      | error error =>
          simp only [Buffered.failed, true_iff]
          exact ⟨first, rest, error, rfl, head⟩
      | ok converted =>
          simp only [reduceCtorEq, false_iff]
          intro ⟨other, others, error, same, raises⟩
          obtain ⟨rfl, rfl⟩ := List.cons.inj same
          rw [head] at raises
          cases raises

end Options

theorem market_records_eq_nil_iff {parts : Parts} {market : List (MarketRecord Value)}
    (returned : market_records parts = .ok market) :
    market = [] ↔ (parts.context.truthy && parts.symbol_id.truthy) = false := by
  rw [market_records] at returned
  cases shown : parts.context.truthy && parts.symbol_id.truthy with
  | false =>
      rw [shown] at returned
      simpa using (Except.ok.inj returned).symm
  | true =>
      rw [shown] at returned
      cases made : market_record parts.timestamp parts.symbol_id parts.context
          parts.analyses with
      | error error =>
          rw [made] at returned
          cases returned
      | ok record =>
          rw [made] at returned
          obtain rfl : [record] = market := Except.ok.inj returned
          simp

/-! ## The condition -/

section Condition

variable {runtime : Runtime} {msg : Value}

/-- Where something raises, a message is atomic if nothing was appended. -/
theorem atomic_iff_of_error {error : Error} (raised : records runtime msg = .error error) :
    Atomic runtime msg ↔
      (process_message runtime msg).market = [] ∧
        (process_message runtime msg).option = [] := by
  constructor
  · intro atomic
    rcases atomic ⟨[], []⟩ with ⟨_, _, returned, _⟩ | ⟨_, _, unchanged⟩
    · rw [raised] at returned
      cases returned
    · exact Buffers.append_eq_self.mp unchanged
  · intro nothing before
    exact .inr ⟨error, raised, Buffers.append_eq_self.mpr nothing⟩

theorem atomic_of_ok {market : List (MarketRecord Value)} {option : List (OptionRecord Value)}
    (returned : records runtime msg = .ok (market, option))
    (buffered : process_message runtime msg = ⟨market, option, false⟩) :
    Atomic runtime msg := by
  intro before
  refine .inl ⟨market, option, returned, ?_⟩
  rw [Buffers.after_message, buffered]

variable {parts : Parts} {market : List (MarketRecord Value)}

/-- A message whose parts and market record are made, up to the loop. -/
theorem atomic_iff_of_market (divided : Storage.parts runtime msg = .ok parts)
    (made : market_records parts = .ok market) :
    Atomic runtime msg ↔
      Converts runtime msg parts ∨ (market = [] ∧ FailsFirst runtime msg parts) := by
  cases loop : option_loop msg parts with
  | error error =>
      have raised : records runtime msg = .error error := by
        simp [records, divided, made, loop, bind, Except.bind]
      have buffered : process_message runtime msg = .failed market := by
        simp [process_message, divided, made, loop]
      have stuck : ¬Converts runtime msg parts := by
        intro ⟨expiry, options, started, _⟩
        rw [loop] at started
        cases started
      have fails : FailsFirst runtime msg parts := by
        intro expiry options started
        rw [loop] at started
        cases started
      rw [atomic_iff_of_error raised, buffered]
      simp [stuck, fails, Buffered.failed]
  | ok started =>
      obtain ⟨expiry, options⟩ := started
      let record := option_record runtime parts.timestamp parts.symbol_id expiry
        parts.analyses
      have buffered : process_message runtime msg = append_options market record options := by
        simp [process_message, divided, made, loop, record]
      have converts : Converts runtime msg parts ↔
          ∃ all, options.mapM record = .ok all := by
        rw [Traversal.mapM_returns_iff]
        simp [Converts, loop, record]
      have fails : FailsFirst runtime msg parts ↔
          ∃ first rest error, options = first :: rest ∧ record first = .error error := by
        simp [FailsFirst, loop, record]
      cases mapped : options.mapM record with
      | error error =>
          have raised : records runtime msg = .error error := by
            simp [records, divided, made, loop, bind, Except.bind, mapped, record]
          rw [atomic_iff_of_error raised, buffered, append_options_market,
            append_options_nil_iff mapped, converts, fails, mapped]
          simp
      | ok all =>
          have returned : records runtime msg = .ok (market, all) := by
            simp [records, divided, made, loop, bind, Except.bind, mapped, record]
          have whole := append_options_of_mapM market mapped
          rw [converts]
          exact iff_of_true (atomic_of_ok returned (buffered.trans whole))
            (.inl ⟨all, mapped⟩)

/-- A message is atomic if and only if what raises comes before its first record. -/
theorem atomic_iff : Atomic runtime msg ↔ RaisesBeforeRecords runtime msg := by
  cases divided : Storage.parts runtime msg with
  | error error =>
      have raised : records runtime msg = .error error := by
        simp [records, divided, bind, Except.bind]
      have buffered : process_message runtime msg = .failed [] := by
        simp [process_message, divided]
      rw [atomic_iff_of_error raised, buffered]
      simp [RaisesBeforeRecords, divided, Buffered.failed]
  | ok parts =>
      have condition : RaisesBeforeRecords runtime msg ↔
          (Converts runtime msg parts ∨
            if parts.context.truthy && parts.symbol_id.truthy then
              ∃ error, market_record parts.timestamp parts.symbol_id parts.context
                parts.analyses = .error error
            else FailsFirst runtime msg parts) := by
        simp [RaisesBeforeRecords, divided]
      rw [condition]
      cases made : market_records parts with
      | error error =>
          have raised : records runtime msg = .error error := by
            simp [records, divided, made, bind, Except.bind]
          have buffered : process_message runtime msg = .failed [] := by
            simp [process_message, divided, made]
          rw [atomic_iff_of_error raised, buffered]
          refine iff_of_true ⟨rfl, rfl⟩ (.inr ?_)
          rw [market_records] at made
          split at made
          · rename_i shown
            rw [if_pos shown]
            cases fresh : market_record parts.timestamp parts.symbol_id parts.context
                parts.analyses with
            | error cause => exact ⟨cause, rfl⟩
            | ok record =>
                rw [fresh] at made
                cases made
          · cases made
      | ok market =>
          rw [atomic_iff_of_market divided made, market_records_eq_nil_iff made]
          cases shown : parts.context.truthy && parts.symbol_id.truthy with
          | false => simp
          | true =>
              rw [market_records, shown] at made
              cases fresh : market_record parts.timestamp parts.symbol_id parts.context
                  parts.analyses with
              | error cause =>
                  rw [fresh] at made
                  cases made
              | ok record => simp

end Condition

/-! ## A null Greek -/

/-- An option that the schema admits: its Greeks are null. -/
def option_without_greeks : Dict :=
  [("strike", .float 24000), ("option_type", .str "CE"), ("ltp", .float 112.5),
   ("bid", .null), ("ask", .null), ("mid_price", .null), ("bid_qty", .int 75),
   ("ask_qty", .int 150), ("prev_close", .float 98), ("price_change", .float 14.5),
   ("price_change_pct", .float 14.8), ("avg_traded_price", .float 105.25),
   ("volume", .int 1200), ("prev_volume", .int 900), ("volume_change", .int 300),
   ("volume_change_pct", .float 33.3), ("oi", .int 5000), ("prev_oi", .int 4000),
   ("change_oi", .int 1000), ("oi_change_pct", .float 25), ("iv", .null),
   ("delta", .null), ("gamma", .null), ("theta", .null), ("vega", .null),
   ("rho", .null), ("theoretical_price", .null), ("bsm_price", .null),
   ("intrinsic_value", .float 10.5), ("time_value", .null), ("moneyness", .float 1),
   ("moneyness_type", .str "ITM"), ("buildup_type", .str "LB"),
   ("buildup_name", .str "LONG BUILDUP"), ("reversal_price", .null),
   ("support_price", .null), ("resistance_price", .null),
   ("resistance_range_price", .null), ("weekly_reversal_price", .null),
   ("future_reversal_price", .null), ("oi_pct", .null), ("volume_pct", .null),
   ("oichng_pct", .null), ("oi_rank", .null), ("is_liquid", .bool true),
   ("is_valid", .bool true)]

def quoted_context : Dict :=
  [("symbol", .str "NIFTY"), ("symbol_id", .int 13), ("spot_price", .float 24010.5),
   ("spot_change", .float 12), ("spot_change_pct", .float 0.05),
   ("total_call_oi", .int 5000), ("total_put_oi", .int 4000),
   ("pcr_ratio", .float 0.8), ("atm_iv", .float 12.5), ("atm_iv_change", .float 0),
   ("days_to_expiry", .int 3), ("lot_size", .int 75), ("tick_size", .float 0.05),
   ("max_pain_strike", .float 24000), ("exchange", .str "NSE"), ("segment", .str "D"),
   ("timestamp", .null), ("probe_id", .null)]

def message_without_greeks : Dict :=
  [("symbol", .str "NIFTY"), ("symbol_id", .int 13), ("expiry", .str "2026-01-29"),
   ("timestamp", .str "2026-01-26T12:00:00+00:00"), ("trade_date", .null),
   ("processing_timestamp", .str "2026-01-26T12:00:00+00:00"),
   ("context", .dict quoted_context), ("futures", .null),
   ("options", .list [.dict option_without_greeks]), ("analyses", .dict []),
   ("data_quality", .dict
      [("total_options", .int 1), ("illiquid_options", .int 0), ("invalid_options", .int 0),
       ("illiquid_pct", .float 0)])]

/-- Half past twelve on a Monday, UTC. -/
def monday_half_past_twelve : Calendar.DateTime where
  date := ⟨2026, 1, 26, by decide, by decide⟩
  second := 45000
  microsecond := 0
  second_lt := by decide
  microsecond_lt := Calendar.DateTime.whole_second

def monday : Runtime where
  ist_now := monday_half_past_twelve
  utc_now := monday_half_past_twelve
  str _ := ""
  fromisoformat _ := .ok monday_half_past_twelve

/-- The market record is appended, and `float(None)` raises for the delta. -/
theorem not_atomic_without_greeks : ¬Atomic monday (.dict message_without_greeks) := by
  intro atomic
  have raises : (records monday (.dict message_without_greeks)).isOk = false := by
    decide
  have appended :
      (process_message monday (.dict message_without_greeks)).market.length = 1 := by
    decide
  rcases atomic ⟨[], []⟩ with ⟨_, _, returned, _⟩ | ⟨_, _, unchanged⟩
  · rw [returned] at raises
    cases raises
  · rw [(Buffers.append_eq_self.mp unchanged).1] at appended
    cases appended

end HftEngine.Storage
