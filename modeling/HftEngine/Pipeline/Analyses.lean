import HftEngine.Pipeline.EnrichedMessage

/-!
# The analyses of a message from the processor to storage

Storage has a column for three of the analyses.  It looks for two of them under
keys that the processor does not write, and encodes the third a second time.
-/

namespace HftEngine.Pipeline

open Py Json Avro Schemas Processor Storage

/-- The analyses that storage persists, with their columns. -/
inductive Persisted : Analysis → (MarketRecord (Option String) → Option String) → Prop
  | gex : Persisted .gamma_exposure MarketRecord.gex_analysis
  | iv_skew : Persisted .iv_skew MarketRecord.iv_skew_analysis
  | pcr : Persisted .pcr_analysis MarketRecord.pcr_analysis

/-- One payload for a result that was produced, which decodes to it, and none when
none was produced. -/
def Agrees (result : Option Dict) (payloads : List String) : Prop :=
  match result with
  | some result => ∃ text, payloads = [text] ∧ loads text = .ok (.dict result)
  | none => payloads = []

def AnalysesAgree (analyzers : Analyzers) (cleaned : Cleaned)
    (rows : List (MarketRecord (Option String))) : Prop :=
  ∀ analysis column, Persisted analysis column →
    Agrees (produced analyzers cleaned analysis) (rows.filterMap column)

/-- The key under which storage looks for what it puts into a column; nothing is
there unless the analysis was produced. -/
theorem Persisted.key {analysis : Analysis}
    {column : MarketRecord (Option String) → Option String}
    (persisted : Persisted analysis column) :
    ∃ key,
      (∀ timestamp context analyses,
        column (prepared_market (stored_market timestamp context analyses)) =
          json_column (Dict.get analyses key .null)) ∧
      ∀ other : Analysis, other.key = key → other = analysis := by
  cases persisted with
  | gex =>
      refine ⟨"gex", fun _ _ _ => rfl, ?_⟩
      intro other same
      cases other <;> exact absurd same (by decide)
  | iv_skew =>
      refine ⟨"iv_skew", fun _ _ _ => rfl, ?_⟩
      intro other same
      cases other <;> first
        | rfl
        | exact absurd same (by decide)
  | pcr =>
      refine ⟨"pcr", fun _ _ _ => rfl, ?_⟩
      intro other same
      cases other <;> exact absurd same (by decide)

/-- What storage receives is a text, and its encoding decodes to that text. -/
theorem payload_not_dict {analyses : Dict} {key text : String}
    (payload : json_column (Dict.get (received_analyses analyses) key .null) =
      some text)
    (result : Dict) : loads text ≠ .ok (.dict result) := by
  have received : Dict.get (received_analyses analyses) key .null = .null ∨
      ∃ s, Dict.get (received_analyses analyses) key .null = .str s := by
    induction analyses with
    | nil => exact .inl rfl
    | cons entry analyses ih =>
        obtain ⟨name, value⟩ := entry
        by_cases same : name = key
        · right
          obtain ⟨s, sent⟩ := asText_text value
          refine ⟨s, ?_⟩
          simp [received_analyses, Dict.get, lookup?, same, sent]
        · have later :
              Dict.get (received_analyses ((name, value) :: analyses)) key .null =
              Dict.get (received_analyses analyses) key .null := by
            simp [received_analyses, Dict.get, lookup?, same]
          rw [later] at payload ⊢
          exact ih payload
  rcases received with missing | ⟨s, found⟩
  · rw [missing] at payload
    cases payload
  · rw [found] at payload
    unfold json_column at payload
    split at payload
    · cases payload
      rw [loads_dumps (.str s) trivial]
      simp
    · cases payload

/-- The payloads of the snapshot of a message, if it has one. -/
theorem payloads_stored (cleaned : Cleaned) (analyses : Dict) {key : String}
    {column : MarketRecord (Option String) → Option String}
    (found : ∀ timestamp context analyses,
      column (prepared_market (stored_market timestamp context analyses)) =
        json_column (Dict.get analyses key .null)) :
    ((stored_markets cleaned analyses).map prepared_market).filterMap column =
      if (Value.int cleaned.context.symbol_id).truthy then
        (json_column (Dict.get analyses key .null)).toList
      else [] := by
  unfold stored_markets
  split
  · rw [List.map_singleton, List.filterMap_cons, found]
    cases json_column (Dict.get analyses key .null) <;> rfl
  · rfl

/-- A result never agrees with what is stored for it. -/
theorem agrees_iff {analyzers : Analyzers} {cleaned : Cleaned} {analysis : Analysis}
    {column : MarketRecord (Option String) → Option String}
    (persisted : Persisted analysis column) :
    Agrees (produced analyzers cleaned analysis)
        (((stored_markets cleaned (received_analyses (analyses analyzers cleaned))).map
          prepared_market).filterMap column) ↔
      produced analyzers cleaned analysis = none := by
  obtain ⟨key, found, own⟩ := persisted.key
  rw [payloads_stored _ _ found]
  constructor
  · intro agrees
    cases outcome : produced analyzers cleaned analysis with
    | none => rfl
    | some result =>
        rw [outcome] at agrees
        obtain ⟨text, payloads, decoded⟩ := agrees
        split at payloads
        · rw [Option.toList_eq_singleton_iff] at payloads
          exact absurd decoded (payload_not_dict payloads result)
        · cases payloads
  · intro missing
    have absent : lookup? key (received_analyses (analyses analyzers cleaned)) = none :=
      lookup_received_none (fun other same => own other same ▸ missing)
    rw [missing, Agrees, Dict.get, absent]
    split
    · rfl
    · rfl

/-- Storage agrees with the processor exactly when the processor produced none of
the analyses that storage persists. -/
theorem analyses_agree_iff {analyzers : Analyzers} {hop : Value → Option Value}
    {runtime : Runtime} {cleaned : Cleaned} {expiry : String} {msg : Value}
    (emitted : Emitted analyzers hop runtime cleaned expiry msg) :
    AnalysesAgree analyzers cleaned
        ((process_message runtime msg).market.map prepared_market) ↔
      ∀ analysis ∈ [Analysis.gamma_exposure, .iv_skew, .pcr_analysis],
        produced analyzers cleaned analysis = none := by
  obtain ⟨processed, _⟩ := emitted.process_message
  rw [processed]
  constructor
  · intro agree
    have missing {analysis : Analysis}
        {column : MarketRecord (Option String) → Option String}
        (persisted : Persisted analysis column) :=
      (agrees_iff persisted).mp (agree analysis column persisted)
    simp [missing .gex, missing .iv_skew, missing .pcr]
  · intro missing analysis column persisted
    apply (agrees_iff persisted).mpr
    apply missing
    cases persisted <;> simp

/-- The gamma exposure alone, with one of its entries. -/
def gammaAnalyzers (enabled : Bool) : Analyzers where
  enabled analysis := enabled && analysis = .gamma_exposure
  analyze _ := some [("total_market_gex", .float 1.5)]

theorem analyses_agree_iff_disabled : ∃ msg,
    Emitted (gammaAnalyzers false) transcoded noonRuntime (noonMessage []) "2025-06-05"
        msg ∧
      (AnalysesAgree (gammaAnalyzers false) (noonMessage [])
          ((process_message noonRuntime msg).market.map prepared_market) ↔
        ∀ analysis ∈ [Analysis.gamma_exposure, .iv_skew, .pcr_analysis],
          produced (gammaAnalyzers false) (noonMessage []) analysis = none) := by
  have arrives : (delivered (gammaAnalyzers false) (noonMessage []) "2025-06-05"
      noon).isSome = true := by
    decide
  obtain ⟨msg, emitted⟩ := Emitted.of_delivered (noonRuntime_reads _) arrives
  exact ⟨msg, emitted, analyses_agree_iff emitted⟩

/-- The payload of the gamma exposure is not stored at all. -/
theorem analyses_agree_fails : ∃ msg,
    Emitted (gammaAnalyzers true) transcoded noonRuntime (noonMessage []) "2025-06-05"
        msg ∧
      ¬AnalysesAgree (gammaAnalyzers true) (noonMessage [])
          ((process_message noonRuntime msg).market.map prepared_market) := by
  have arrives : (delivered (gammaAnalyzers true) (noonMessage []) "2025-06-05"
      noon).isSome = true := by
    decide
  obtain ⟨msg, emitted⟩ := Emitted.of_delivered (noonRuntime_reads _) arrives
  refine ⟨msg, emitted, ?_⟩
  obtain ⟨processed, _⟩ := emitted.process_message
  rw [processed]
  intro agree
  have missing := (agrees_iff .gex).mp (agree _ _ .gex)
  cases missing

end HftEngine.Pipeline
