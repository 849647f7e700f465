import HftEngine.Lib.KeyedWrites
import HftEngine.Lib.Ranking
import HftEngine.Lib.Traversal
import HftEngine.Processor.Models

/-!
# Percentages of the open interest

`PercentageAnalyzer`, and what `process_message` passes to it.  A strike is the
key of its percentages, and of two options at one strike the later one counts.
-/

namespace HftEngine.Processor

open Py

/-- The values of one option. -/
structure Percentages where
  oi_pct : Float
  volume_pct : Float
  oichng_pct : Float
  oi_rank : ℕ

/-- The strikes within `visible_range`, which is 10, steps of ATM. -/
def in_visible_range (atm_strike step_size strike : Float) : Prop :=
  atm_strike - step_size * 10 ≤ strike ∧ strike ≤ atm_strike + step_size * 10

instance (atm_strike step_size strike : Float) :
    Decidable (in_visible_range atm_strike step_size strike) :=
  inferInstanceAs (Decidable (_ ∧ _))

/-- `max(values) or 1`, and 1 when there are none. -/
def max_or_one (values : List ℤ) : ℤ :=
  match values.max? with
  | some greatest => if greatest = 0 then 1 else greatest
  | none => 1

/-- What counts as 100 percent. -/
structure References where
  max_oi : ℤ
  max_volume : ℤ
  max_oichng : ℤ

def references (valid_data : List CleanedOptionData) : References where
  max_oi := max_or_one (valid_data.map (·.oi))
  max_volume := max_or_one (valid_data.map (·.volume))
  max_oichng := max_or_one ((valid_data.map (·.oi_change)).filter (0 < ·))

def percentage (value reference : ℤ) : Result Float :=
  if 0 < reference then do
    let ratio ← trueDivide value reference.toNat
    .ok (ratio * 100)
  else .ok 0

def rank_map (data : List CleanedOptionData) : List (Float × ℕ) :=
  (Ranking.ranks (·.oi) (data.filter (0 < ·.oi))).map (fun ranked =>
    (ranked.1.strike, ranked.2))

/-- The value that was written last under a strike. -/
def last_written {α : Type} (writes : List (Float × α)) : Float → Option α :=
  KeyedWrites.play (fun _ => none) writes

/-- A decrease of the open interest counts by its absolute value. -/
def percentages_of (references : References) (ranks : List (Float × ℕ))
    (d : CleanedOptionData) : Result Percentages := do
  let oi_pct ← percentage d.oi references.max_oi
  let volume_pct ← percentage d.volume references.max_volume
  let oichng_pct ← percentage |d.oi_change| references.max_oichng
  .ok
    { oi_pct := roundTo 2 oi_pct
      volume_pct := roundTo 2 volume_pct
      oichng_pct := roundTo 2 oichng_pct
      oi_rank := (last_written ranks d.strike).getD 0 }

/-- The options that are valid for 100 percent. -/
def valid_data (options : List CleanedOptionData) (atm_strike step_size : Float) :
    List CleanedOptionData :=
  options.filter (fun d => in_visible_range atm_strike step_size d.strike)

/-- The percentages of the options of one side, with their strikes. -/
def calculate_side_percentages (options : List CleanedOptionData)
    (atm_strike step_size : Float) : Result (List (Float × Percentages)) :=
  match valid_data options atm_strike step_size with
  | [] => .ok (options.map (fun d => (d.strike, ⟨0, 0, 0, 0⟩)))
  | valid => options.mapM (fun d => do
      let percentages ← percentages_of (references valid) (rank_map options) d
      .ok (d.strike, percentages))

def side (option_type : OptionType) (options : List CleanedOptionData) :
    List CleanedOptionData :=
  options.filter (fun opt => opt.option_type = option_type)

/-- The percentages of each strike and type. -/
def analyze (options : List CleanedOptionData) (atm_strike step_size : Float) :
    Result (OptionType → Float → Option Percentages) := do
  if options.isEmpty ∨ atm_strike == 0 then .ok (fun _ _ => none)
  else
    let ce_percentages ←
      calculate_side_percentages (side .CE options) atm_strike step_size
    let pe_percentages ←
      calculate_side_percentages (side .PE options) atm_strike step_size
    .ok (fun
      | .CE => last_written ce_percentages
      | .PE => last_written pe_percentages)

/-- The option with its percentages, which are 0 when there are none. -/
def CleanedOptionData.enriched (opt : CleanedOptionData)
    (pct_data : Option Percentages) : CleanedOptionData :=
  let pct_data := pct_data.getD ⟨0, 0, 0, 0⟩
  { opt with
    oi_pct := some pct_data.oi_pct
    volume_pct := some pct_data.volume_pct
    oichng_pct := some pct_data.oichng_pct
    oi_rank := some pct_data.oi_rank }

@[simp] theorem CleanedOptionData.enriched_strike (opt : CleanedOptionData)
    (pct_data : Option Percentages) : (opt.enriched pct_data).strike = opt.strike := rfl

@[simp] theorem CleanedOptionData.enriched_option_type (opt : CleanedOptionData)
    (pct_data : Option Percentages) :
    (opt.enriched pct_data).option_type = opt.option_type := rfl

def enrich_options (options : List CleanedOptionData) (atm_strike step_size : Float) :
    Result (List CleanedOptionData) := do
  let percentages ← analyze options atm_strike step_size
  .ok (options.map (fun opt => opt.enriched (percentages opt.option_type opt.strike)))

/-! ## What the main loop passes -/

/-- `tick_size or 50`. -/
def CleanedGlobalContext.step_size (context : CleanedGlobalContext) : Float :=
  if context.tick_size == 0 then 50 else context.tick_size

def CleanedGlobalContext.atm_strike (context : CleanedGlobalContext) :
    Result Float := do
  let steps ← round (context.spot_price / context.step_size)
  let steps ← ofInt steps
  .ok (steps * context.step_size)

/-- The options of a message after the fourth step of its processing. -/
def calculate_percentages (context : CleanedGlobalContext)
    (options : List CleanedOptionData) : Result (List CleanedOptionData) := do
  let atm_strike ← context.atm_strike
  enrich_options options atm_strike context.step_size

/-! ## What each option is given -/

theorem max_or_one_eq {values : List ℤ} {greatest : ℤ} (member : greatest ∈ values)
    (bound : ∀ value ∈ values, value ≤ greatest) :
    max_or_one values = if greatest = 0 then 1 else greatest := by
  have found : values.max? = some greatest := List.max?_eq_some_iff.mpr ⟨member, bound⟩
  rw [max_or_one, found]

theorem last_written_of_mem {α : Type} {writes : List (Float × α)}
    (distinct : (writes.map Prod.fst).Nodup) {strike : Float} {value : α}
    (member : (strike, value) ∈ writes) : last_written writes strike = some value :=
  KeyedWrites.play_of_mem _ distinct member

section Side

variable {options : List CleanedOptionData} {atm_strike step_size : Float}
  {writes : List (Float × Percentages)}

/-- What is written for each option, in their order. -/
theorem side_writes
    (calculated : calculate_side_percentages options atm_strike step_size =
      .ok writes) :
    List.Forall₂ (fun d write => write.1 = d.strike ∧
      if valid_data options atm_strike step_size = [] then write.2 = ⟨0, 0, 0, 0⟩
      else percentages_of (references (valid_data options atm_strike step_size))
        (rank_map options) d = .ok write.2) options writes := by
  unfold calculate_side_percentages at calculated
  split at calculated
  case h_1 none_valid =>
    obtain rfl := Except.ok.inj calculated
    rw [List.forall₂_map_right_iff, List.forall₂_same]
    intro d member
    simp [none_valid]
  case h_2 some_valid =>
    apply (Traversal.mapM_ok_iff.mp calculated).imp
    intro d write mapped
    obtain ⟨percentages, computed, made⟩ := bind_eq_ok.mp mapped
    obtain rfl := Except.ok.inj made
    refine ⟨rfl, ?_⟩
    rw [if_neg some_valid]
    exact computed

theorem side_spec
    (calculated : calculate_side_percentages options atm_strike step_size = .ok writes)
    (distinct : (options.map (·.strike)).Nodup) {d : CleanedOptionData}
    (member : d ∈ options) :
    ∃ percentages, last_written writes d.strike = some percentages ∧
      if valid_data options atm_strike step_size = [] then percentages = ⟨0, 0, 0, 0⟩
      else percentages_of (references (valid_data options atm_strike step_size))
        (rank_map options) d = .ok percentages := by
  have written := side_writes calculated
  have strikes : options.map (·.strike) = writes.map Prod.fst := by
    rw [← List.forall₂_eq_eq_eq, List.forall₂_map_left_iff, List.forall₂_map_right_iff]
    exact written.imp (fun _ _ related => related.1.symm)
  obtain ⟨⟨_, percentages⟩, among, rfl, computed⟩ := Traversal.exists_right written member
  exact ⟨percentages, last_written_of_mem (strikes ▸ distinct) among, computed⟩

end Side

/-- Where ATM is 0 there are no percentages. -/
theorem analyze_zero {options : List CleanedOptionData} {atm_strike step_size : Float}
    (zero : (atm_strike == 0) = true) :
    analyze options atm_strike step_size = .ok (fun _ _ => none) :=
  if_pos (.inr zero)

/-- The percentages of a side that has an option. -/
theorem analyze_side {options : List CleanedOptionData} {atm_strike step_size : Float}
    {percentages : OptionType → Float → Option Percentages}
    (analyzed : analyze options atm_strike step_size = .ok percentages)
    (nonzero : (atm_strike == 0) = false) (nonempty : options ≠ [])
    (option_type : OptionType) :
    ∃ writes, calculate_side_percentages (side option_type options) atm_strike
        step_size = .ok writes ∧
      percentages option_type = last_written writes := by
  have computes : ¬(options.isEmpty ∨ (atm_strike == 0) = true) := by
    simp [nonzero, nonempty]
  rw [analyze, if_neg computes] at analyzed
  obtain ⟨ce_percentages, ce, analyzed⟩ := bind_eq_ok.mp analyzed
  obtain ⟨pe_percentages, pe, analyzed⟩ := bind_eq_ok.mp analyzed
  obtain rfl := Except.ok.inj analyzed
  cases option_type with
  | CE => exact ⟨ce_percentages, ce, rfl⟩
  | PE => exact ⟨pe_percentages, pe, rfl⟩

theorem mem_side {options : List CleanedOptionData} {option_type : OptionType}
    {opt : CleanedOptionData} :
    opt ∈ side option_type options ↔ opt ∈ options ∧ opt.option_type = option_type := by
  rw [side, List.mem_filter, decide_eq_true_iff]

/-- A side has one option at a strike when the chain has one of each type. -/
theorem nodup_side {options : List CleanedOptionData}
    (distinct : (options.map (fun opt => (opt.strike, opt.option_type))).Nodup)
    (option_type : OptionType) :
    ((side option_type options).map (·.strike)).Nodup := by
  have apart := (List.pairwise_map.mp distinct).filter
    (fun opt => opt.option_type = option_type)
  apply List.pairwise_map.mpr
  apply apart.imp_of_mem
  intro first second first_member second_member different same
  obtain ⟨-, rfl⟩ := mem_side.mp first_member
  obtain ⟨-, same_type⟩ := mem_side.mp second_member
  exact different (Prod.ext same same_type.symm)

section Enriched

variable {options enriched : List CleanedOptionData} {atm_strike step_size : Float}

theorem mem_enriched
    (processed : enrich_options options atm_strike step_size = .ok enriched)
    {opt : CleanedOptionData} :
    opt ∈ enriched ↔
      ∃ percentages, analyze options atm_strike step_size = .ok percentages ∧
      ∃ original ∈ options, opt = original.enriched
        (percentages original.option_type original.strike) := by
  obtain ⟨percentages, analyzed, made⟩ := bind_eq_ok.mp processed
  obtain rfl := Except.ok.inj made
  simp [analyzed, eq_comm]

theorem enriched_zero
    (processed : enrich_options options atm_strike step_size = .ok enriched)
    (zero : (atm_strike == 0) = true) {opt : CleanedOptionData}
    (member : opt ∈ enriched) :
    ∃ original ∈ options, opt = original.enriched none := by
  obtain ⟨percentages, analyzed, original, among, rfl⟩ :=
    (mem_enriched processed).mp member
  rw [analyze_zero zero, Except.ok.injEq] at analyzed
  subst analyzed
  exact ⟨original, among, rfl⟩

/-- What an option of a chain with one option of each type at a strike is given. -/
theorem enriched_spec
    (processed : enrich_options options atm_strike step_size = .ok enriched)
    (distinct : (options.map (fun opt => (opt.strike, opt.option_type))).Nodup)
    (nonzero : (atm_strike == 0) = false) {opt : CleanedOptionData}
    (member : opt ∈ enriched) :
    ∃ original ∈ options, ∃ pct_data, opt = original.enriched (some pct_data) ∧
      if valid_data (side original.option_type options) atm_strike step_size = [] then
        pct_data = ⟨0, 0, 0, 0⟩
      else percentages_of
        (references
          (valid_data (side original.option_type options) atm_strike step_size))
        (rank_map (side original.option_type options)) original = .ok pct_data := by
  obtain ⟨percentages, analyzed, original, among, rfl⟩ :=
    (mem_enriched processed).mp member
  obtain ⟨writes, calculated, written⟩ := analyze_side analyzed nonzero
    (List.ne_nil_of_mem among) original.option_type
  obtain ⟨pct_data, found, computed⟩ := side_spec calculated
    (nodup_side distinct original.option_type) (mem_side.mpr ⟨among, rfl⟩)
  exact ⟨original, among, pct_data, by rw [written, found], computed⟩

end Enriched

end HftEngine.Processor
