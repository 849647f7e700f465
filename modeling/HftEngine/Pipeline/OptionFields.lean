import HftEngine.Pipeline.EnrichedMessage

/-!
# The nullable numbers of an option from the processor to storage

Storage tests each of them for truth, and so takes a zero for a missing value.
Whatever is not zero is stored as it was sent.
-/

namespace HftEngine.Pipeline

open Py Avro Schemas Processor Storage

/-- The nullable fields of type float that are stored. -/
def sent_floats (opt : CleanedOptionData) : List (Option Float) :=
  [opt.bid, opt.ask, opt.mid_price, opt.iv, opt.theoretical_price, opt.time_value,
   opt.reversal_price, opt.support_price, opt.resistance_price,
   opt.resistance_range_price, opt.weekly_reversal_price, opt.future_reversal_price,
   opt.oi_pct, opt.volume_pct, opt.oichng_pct]

def stored_floats (record : OptionRecord Value) : List (Option Float) :=
  [record.bid, record.ask, record.mid_price, record.iv, record.theoretical_price,
   record.time_value, record.reversal_price, record.support_price,
   record.resistance_price, record.resistance_range_price,
   record.weekly_reversal_price, record.future_reversal_price, record.oi_pct,
   record.volume_pct, record.oichng_pct]

/-- Every nullable number is stored as it was sent, and null as null. -/
structure Survives (opt : CleanedOptionData) (record : OptionRecord Value) : Prop where
  floats : stored_floats record = sent_floats opt
  oi_rank : record.oi_rank = opt.oi_rank

/-- No nullable number is there and zero. -/
structure NoZero (opt : CleanedOptionData) : Prop where
  floats : ∀ x : Float, some x ∈ sent_floats opt → (x == 0) = false
  oi_rank : opt.oi_rank ≠ some 0

theorem nonzero_eq_self {value : Option Float} :
    nonzero value = value ↔ ∀ x, value = some x → (x == 0) = false := by
  cases value with
  | none => simp
  | some x => simp [Option.filter]

theorem nonzero_rank_eq_self {value : Option ℤ} :
    nonzero_rank value = value ↔ value ≠ some 0 := by
  cases value with
  | none => simp
  | some n => simp [Option.filter]

theorem survives_stored_iff (timestamp : Calendar.DateTime) (symbol_id expiry : Value)
    (opt : CleanedOptionData) (ltp : Float) :
    Survives opt (stored_option timestamp symbol_id expiry opt ltp) ↔ NoZero opt := by
  have floats : stored_floats (stored_option timestamp symbol_id expiry opt ltp) =
      (sent_floats opt).map nonzero := rfl
  have kept : (sent_floats opt).map nonzero = sent_floats opt ↔
      ∀ x : Float, some x ∈ sent_floats opt → (x == 0) = false := by
    have pointwise : (sent_floats opt).map nonzero = (sent_floats opt).map id ↔
        ∀ value ∈ sent_floats opt, nonzero value = value := List.map_inj_left
    rw [List.map_id] at pointwise
    apply pointwise.trans
    constructor
    · intro same x member
      exact nonzero_eq_self.mp (same _ member) x rfl
    · intro nonzero value member
      apply nonzero_eq_self.mpr
      intro x same
      exact nonzero x (same ▸ member)
  constructor
  · intro survives
    constructor
    · exact kept.mp (floats.symm.trans survives.floats)
    · exact nonzero_rank_eq_self.mp survives.oi_rank
  · intro noZero
    constructor
    · exact floats.trans (kept.mpr noZero.floats)
    · exact nonzero_rank_eq_self.mpr noZero.oi_rank

theorem survive_stored_iff (timestamp : Calendar.DateTime) (symbol_id expiry : Value)
    {options : List CleanedOptionData}
    (priced : ∀ opt ∈ options, ∃ ltp, opt.ltp = some ltp) :
    List.Forall₂ Survives options (options.filterMap (fun opt => opt.ltp.map
      (stored_option timestamp symbol_id expiry opt))) ↔
        ∀ opt ∈ options, NoZero opt := by
  induction options with
  | nil => simp
  | cons opt options ih =>
      obtain ⟨⟨ltp, price⟩, prices⟩ := List.forall_mem_cons.mp priced
      simp only [List.filterMap_cons, price, Option.map_some, List.forall₂_cons,
        List.forall_mem_cons]
      exact and_congr (survives_stored_iff timestamp symbol_id expiry opt ltp)
        (ih prices)

/-- The numbers of all options survive exactly when none of them is zero. -/
theorem options_survive_iff {analyzers : Analyzers} {hop : Value → Option Value}
    {runtime : Runtime} {cleaned : Cleaned} {expiry : String} {msg : Value}
    (emitted : Emitted analyzers hop runtime cleaned expiry msg) :
    List.Forall₂ Survives cleaned.options (process_message runtime msg).option ↔
      ∀ opt ∈ cleaned.options, NoZero opt := by
  obtain ⟨processed, priced⟩ := emitted.process_message
  rw [processed]
  exact survive_stored_iff _ _ _ priced

def noAnalyzers : Analyzers where
  enabled _ := false
  analyze _ := none

/-- A call at the strike 24000 with this time value. -/
def callWith (time_value : Float) : CleanedOptionData where
  strike := 24000
  option_type := .CE
  ltp := some 10.5
  time_value := some time_value

theorem options_survive_iff_call : ∃ msg,
    Emitted noAnalyzers transcoded noonRuntime (noonMessage [callWith 3.5])
        "2025-06-05" msg ∧
      (List.Forall₂ Survives [callWith 3.5] (process_message noonRuntime msg).option ↔
        ∀ opt ∈ [callWith 3.5], NoZero opt) := by
  have arrives :
      (delivered noAnalyzers (noonMessage [callWith 3.5]) "2025-06-05"
        noon).isSome = true := by
    with_unfolding_all decide
  obtain ⟨msg, emitted⟩ := Emitted.of_delivered (noonRuntime_reads _) arrives
  exact ⟨msg, emitted, options_survive_iff emitted⟩

/-- A time value of zero is stored as a missing one. -/
theorem options_survive_fails : ∃ msg,
    Emitted noAnalyzers transcoded noonRuntime (noonMessage [callWith 0])
        "2025-06-05" msg ∧
      ¬List.Forall₂ Survives [callWith 0] (process_message noonRuntime msg).option := by
  have arrives :
      (delivered noAnalyzers (noonMessage [callWith 0]) "2025-06-05"
        noon).isSome = true := by
    decide
  obtain ⟨msg, emitted⟩ := Emitted.of_delivered (noonRuntime_reads _) arrives
  refine ⟨msg, emitted, ?_⟩
  obtain ⟨processed, priced⟩ := emitted.process_message
  rw [processed]
  intro survive
  have noZero := (survive_stored_iff _ _ _ priced).mp survive _ List.mem_cons_self
  have nonzero := noZero.floats 0 (by simp [sent_floats, callWith])
  exact absurd nonzero (by decide)

end HftEngine.Pipeline
