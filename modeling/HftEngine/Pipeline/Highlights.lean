import HftEngine.Frontend.PercentageHighlights
import HftEngine.Processor.Percentages

/-!
# The percentages of the processor and of the frontend

Both compare the counts of a strike with a largest count, and rank them.  They
choose among different strikes: the processor takes those within ten steps of
ATM, the frontend those that are out of the money or at most two steps of 50 in
it, and the processor rounds to two decimals.
-/

namespace HftEngine.Pipeline

open Py Processor Frontend

def sideOf : OptionType → Side
  | .CE => .ce
  | .PE => .pe

/-- The count of an option that a column of the frontend shows. -/
def count (column : Column) (opt : CleanedOptionData) : ℤ :=
  match column with
  | .volume => opt.volume
  | .oi => opt.oi
  | .oichng => opt.oi_change

/-- The percentage that the processor has for a column. -/
def pct_of (column : Column) (opt : CleanedOptionData) : Option Float :=
  match column with
  | .volume => opt.volume_pct
  | .oi => opt.oi_pct
  | .oichng => opt.oichng_pct

/-- The frontend shows the strikes of the chain, with the counts of its options. -/
structure SameChain (options : List CleanedOptionData) (optionData : OptionData)
    (visibleStrikes : List Float) : Prop where
  distinct : (options.map (fun opt => (opt.strike, opt.option_type))).Nodup
  visible : visibleStrikes.Nodup
  shown : ∀ opt ∈ options, opt.strike ∈ visibleStrikes
  counts : ∀ opt ∈ options, ∀ column,
    rawValue optionData opt.strike column (sideOf opt.option_type) = count column opt
  others : ∀ strike ∈ visibleStrikes, ∀ option_type,
    (∀ opt ∈ options, opt.option_type = option_type → opt.strike ≠ strike) →
    ∀ column, rawValue optionData strike column (sideOf option_type) = 0
  exactly : ∀ opt ∈ options, ∀ column, |count column opt| ≤ 2 ^ 53

/-- The processor and the frontend give an option the same. -/
def Agree (enriched : List CleanedOptionData) (optionData : OptionData)
    (visibleStrikes : List Float) (atm_strike : Float) : Prop :=
  ∀ opt ∈ enriched, ∀ column highlight,
    usePercentageHighlights visibleStrikes optionData atm_strike column
      (sideOf opt.option_type) opt.strike = some highlight →
    pct_of column opt = some highlight.pct ∧
      (column = .oi → opt.oi_rank = some (highlight.rank : ℤ))

/-! ## References -/

def reference_of (column : Column) (references : References) : ℤ :=
  match column with
  | .volume => references.max_volume
  | .oi => references.max_oi
  | .oichng => references.max_oichng

/-- What is 100 percent in the processor. -/
def processor_reference (options : List CleanedOptionData)
    (atm_strike step_size : Float)
    (option_type : OptionType) (column : Column) : Option ℤ :=
  let valid := valid_data (side option_type options) atm_strike step_size
  if atm_strike == 0 ∨ valid = [] then none
  else some (reference_of column (references valid))

/-- What is 100 percent in the frontend. -/
def frontend_reference (visibleStrikes : List Float) (optionData : OptionData)
    (atm_strike : Float) (option_type : OptionType) (column : Column) : Option ℤ :=
  let reference := maxValue
    (items visibleStrikes optionData atm_strike column (sideOf option_type))
  if reference = 0 then none else some reference

/-! ## Ranks -/

variable {options : List CleanedOptionData} {optionData : OptionData}
  {visibleStrikes : List Float}

theorem rankValue_oi (same : SameChain options optionData visibleStrikes)
    {opt : CleanedOptionData} (member : opt ∈ options) :
    rankValue optionData .oi (sideOf opt.option_type) opt.strike = opt.oi :=
  same.counts opt member .oi

/-- Lists of different items that have the counted ones in common. -/
theorem countP_eq_of_nodup {α : Type} {p : α → Bool} {few many : List α}
    (few_distinct : few.Nodup) (many_distinct : many.Nodup)
    (same : ∀ x, p x = true → (x ∈ few ↔ x ∈ many)) : few.countP p = many.countP p := by
  have perm : (few.filter p).Perm (many.filter p) := by
    rw [List.perm_ext_iff_of_nodup (few_distinct.filter p) (many_distinct.filter p)]
    intro x
    simp only [List.mem_filter]
    exact and_congr_left (same x)
  rw [List.countP_eq_length_filter, List.countP_eq_length_filter, perm.length_eq]

/-- The processor and the frontend count the same larger values. -/
theorem countP_same (same : SameChain options optionData visibleStrikes)
    (option_type : OptionType) (bound : ℤ) :
    (side option_type options).countP (fun opt => bound < opt.oi ∧ 0 < opt.oi) =
      visibleStrikes.countP (fun strike =>
        bound < rankValue optionData .oi (sideOf option_type) strike ∧
          0 < rankValue optionData .oi (sideOf option_type) strike) := by
  have by_strike : (side option_type options).countP
        (fun opt => bound < opt.oi ∧ 0 < opt.oi) =
      ((side option_type options).map (·.strike)).countP (fun strike =>
        bound < rankValue optionData .oi (sideOf option_type) strike ∧
          0 < rankValue optionData .oi (sideOf option_type) strike) := by
    rw [List.countP_map]
    apply List.countP_congr
    intro opt member
    obtain ⟨among, rfl⟩ := mem_side.mp member
    simp [rankValue_oi same among]
  rw [by_strike]
  apply countP_eq_of_nodup (nodup_side same.distinct option_type) same.visible
  intro strike counted
  constructor
  · intro member
    obtain ⟨opt, among, rfl⟩ := List.mem_map.mp member
    exact same.shown opt (mem_side.mp among).1
  · intro member
    by_contra absent
    have nothing := same.others strike member option_type (by
      intro opt among same_type here
      exact absent (List.mem_map.mpr ⟨opt, mem_side.mpr ⟨among, same_type⟩, here⟩)) .oi
    simp [rankValue, value, nothing] at counted

/-- A rank in the processor is one more than the number of larger values. -/
theorem oi_rank_eq {side_options : List CleanedOptionData} {strike : Float} {rank : ℕ}
    (read : last_written (rank_map side_options) strike = some rank) :
    ∃ opt ∈ side_options, opt.strike = strike ∧
      rank =
        side_options.countP (fun other => opt.oi < other.oi ∧ 0 < other.oi) + 1 := by
  obtain ⟨opt, member, here, counted⟩ := Ranking.read_rank read
  refine ⟨opt, List.mem_of_mem_filter member, here, ?_⟩
  rw [counted, Ranking.above, List.countP_filter]
  congr 2
  funext other
  exact (Bool.decide_and _ _).symm

theorem ranks_agree (same : SameChain options optionData visibleStrikes)
    {opt : CleanedOptionData} (member : opt ∈ options) {atm_strike : Float} {rank : ℕ}
    (read : last_written (rank_map (side opt.option_type options)) opt.strike =
      some rank)
    (ranked : rankOf (items visibleStrikes optionData atm_strike .oi
      (sideOf opt.option_type)) opt.strike ≠ 0) :
    rank = rankOf (items visibleStrikes optionData atm_strike .oi
      (sideOf opt.option_type)) opt.strike := by
  obtain ⟨other, among, here, counted⟩ := oi_rank_eq read
  obtain ⟨other_member, same_type⟩ := mem_side.mp among
  obtain rfl : other = opt :=
    List.inj_on_of_nodup_map same.distinct other_member member (Prod.ext here same_type)
  rw [counted, rankOf_eq ranked, rankValue_oi same member, countP_same same]

/-! ## Percentages -/

/-- Where the processor's quotient does not overflow it is the frontend's. -/
theorem percentage_eq {reference value : ℤ} {x : Float} (positive : 0 < reference)
    (computed : percentage value reference = .ok x) :
    x = quotient value reference * 100 := by
  rw [percentage, if_pos positive, bind_eq_ok] at computed
  obtain ⟨ratio, divided, computed⟩ := computed
  obtain rfl := Except.ok.inj computed
  simp only [trueDivide] at divided
  split at divided
  · contradiction
  · rw [quotient, ← Except.ok.inj divided]

/-- The count of which a percentage is the share. -/
def shared_count (column : Column) (opt : CleanedOptionData) : ℤ :=
  match column with
  | .oichng => |opt.oi_change|
  | .volume | .oi => count column opt

theorem frontend_pct (same : SameChain options optionData visibleStrikes)
    {opt : CleanedOptionData} (member : opt ∈ options) (column : Column)
    (atm_strike : Float) (reference : ℤ) :
    pct column reference (item optionData atm_strike column (sideOf opt.option_type)
        opt.strike) =
      quotient (shared_count column opt) reference * 100 := by
  have counted := same.counts opt member column
  cases column with
  | volume => rw [pct_other (by decide), counted, shared_count]
  | oi => rw [pct_other (by decide), counted, shared_count]
  | oichng =>
      rw [pct_oichng, counted]
      rfl

/-- The percentage of a column, from the references of the side. -/
theorem processor_pct {references : References} {ranks : List (Float × ℕ)}
    {opt : CleanedOptionData} {pct_data : Percentages}
    (computed : percentages_of references ranks opt = .ok pct_data) (column : Column) :
    ∃ x, percentage (shared_count column opt) (reference_of column references) = .ok x ∧
      pct_of column (opt.enriched (some pct_data)) = some (roundTo 2 x) := by
  obtain ⟨oi_pct, oi, computed⟩ := bind_eq_ok.mp computed
  obtain ⟨volume_pct, volume, computed⟩ := bind_eq_ok.mp computed
  obtain ⟨oichng_pct, oichng, computed⟩ := bind_eq_ok.mp computed
  obtain rfl := Except.ok.inj computed
  cases column with
  | volume => exact ⟨volume_pct, volume, rfl⟩
  | oi => exact ⟨oi_pct, oi, rfl⟩
  | oichng => exact ⟨oichng_pct, oichng, rfl⟩

/-- A rank other than 0 is read of the ranks of the side. -/
theorem oi_rank_read {valid : List CleanedOptionData} {ranks : List (Float × ℕ)}
    {opt : CleanedOptionData} {pct_data : Percentages}
    (given : if valid = [] then pct_data = ⟨0, 0, 0, 0⟩
      else percentages_of (references valid) ranks opt = .ok pct_data)
    (nonzero : pct_data.oi_rank ≠ 0) :
    ∃ rank, last_written ranks opt.strike = some rank ∧ pct_data.oi_rank = rank := by
  split at given
  case isTrue =>
    subst given
    contradiction
  case isFalse =>
    obtain ⟨oi_pct, -, given⟩ := bind_eq_ok.mp given
    obtain ⟨volume_pct, -, given⟩ := bind_eq_ok.mp given
    obtain ⟨oichng_pct, -, given⟩ := bind_eq_ok.mp given
    obtain rfl := Except.ok.inj given
    cases read : last_written ranks opt.strike with
    | none => simp [read] at nonzero
    | some rank => exact ⟨rank, rfl, by simp⟩

theorem processor_reference_some {atm_strike step_size : Float}
    {option_type : OptionType}
    {column : Column} {reference : ℤ}
    (found : processor_reference options atm_strike step_size option_type column =
      some reference) :
    (atm_strike == 0) = false ∧
      valid_data (side option_type options) atm_strike step_size ≠ [] ∧
      reference_of column (references (valid_data (side option_type options) atm_strike
        step_size)) = reference := by
  simp only [processor_reference] at found
  split at found
  case isTrue => contradiction
  case isFalse present =>
    rw [not_or] at present
    exact ⟨eq_false_of_ne_true present.1, present.2, Option.some.inj found⟩

theorem frontend_reference_some {atm_strike : Float} {option_type : OptionType}
    {column : Column} {reference : ℤ}
    (found :
      frontend_reference visibleStrikes optionData atm_strike option_type column =
      some reference) :
    maxValue (items visibleStrikes optionData atm_strike column (sideOf option_type)) =
      reference ∧ 0 < reference := by
  simp only [frontend_reference] at found
  split at found
  case isTrue => contradiction
  case isFalse nonzero =>
    obtain rfl := Option.some.inj found
    exact ⟨rfl, maxValue_pos nonzero⟩

/-- Against one reference the percentages of the processor are those of the
frontend to two decimals, and ranks that both give are the same. -/
theorem highlights_agree {enriched : List CleanedOptionData}
    {atm_strike step_size : Float}
    (same : SameChain options optionData visibleStrikes)
    (processed : enrich_options options atm_strike step_size = .ok enriched)
    {opt : CleanedOptionData} (member : opt ∈ enriched) (column : Column) :
    ∃ highlight,
      usePercentageHighlights visibleStrikes optionData atm_strike column
        (sideOf opt.option_type) opt.strike = some highlight ∧
      (∀ reference,
        processor_reference options atm_strike step_size opt.option_type column =
          some reference →
        frontend_reference visibleStrikes optionData atm_strike opt.option_type column =
          some reference →
        pct_of column opt = some (roundTo 2 highlight.pct)) ∧
      (column = .oi → ∀ rank, opt.oi_rank = some rank → rank ≠ 0 → highlight.rank ≠ 0 →
        rank = highlight.rank) := by
  cases zero : (atm_strike == 0) with
  | true =>
      obtain ⟨original, among, rfl⟩ := enriched_zero processed zero member
      refine ⟨_, usePercentageHighlights_eq same.visible (same.shown original among),
        ?_, ?_⟩
      · intro reference processor
        obtain ⟨nonzero, -⟩ := processor_reference_some processor
        rw [zero] at nonzero
        contradiction
      · intro _ rank given nonzero
        exact absurd (Option.some.inj given).symm nonzero
  | false =>
      obtain ⟨original, among, pct_data, rfl, given⟩ :=
        enriched_spec processed same.distinct zero member
      simp only [CleanedOptionData.enriched_option_type,
        CleanedOptionData.enriched_strike]
      refine ⟨_, usePercentageHighlights_eq same.visible (same.shown original among),
        ?_, ?_⟩
      · intro reference processor frontend
        obtain ⟨-, valid, reference_eq⟩ := processor_reference_some processor
        obtain ⟨shown, positive⟩ := frontend_reference_some frontend
        rw [if_neg valid] at given
        obtain ⟨x, computed, pct⟩ := processor_pct given column
        rw [reference_eq] at computed
        rw [pct, shown, if_neg positive.ne', percentage_eq positive computed,
          ← frontend_pct same among column atm_strike reference]
      · rintro rfl rank given_rank nonzero ranked
        obtain rfl := Option.some.inj given_rank
        obtain ⟨assigned, read, same_rank⟩ := oi_rank_read given
          (fun zero => nonzero (congrArg Nat.cast zero))
        split at ranked
        case isTrue => contradiction
        case isFalse valid =>
          have equal := ranks_agree same among read ranked
          rw [if_neg valid]
          exact congrArg Nat.cast (same_rank.trans equal)

/-- A chain of two calls. -/
def two_calls (first second : Float) (first_oi second_oi : ℤ) :
    List CleanedOptionData :=
  [{ strike := first, option_type := .CE, oi := first_oi },
   { strike := second, option_type := .CE, oi := second_oi }]

def shown_counts (opt : CleanedOptionData) : SideData where
  volume := some opt.volume
  OI := some opt.oi
  oichng := some opt.oi_change

/-- The chain as the frontend gets it. -/
def shown_chain (options : List CleanedOptionData) : OptionData := fun strike side =>
  (options.find? (fun opt => opt.strike = strike ∧ sideOf opt.option_type = side)).map
    shown_counts

theorem orElse_zero (n : ℤ) : orElse (some n) 0 = n := by
  by_cases zero : n = 0
  · rw [zero]
    rfl
  · exact if_neg zero

/-- What is read of the option that is found at a strike. -/
theorem rawValue_shown {options : List CleanedOptionData} {opt : CleanedOptionData}
    (found : options.find? (fun other =>
      other.strike = opt.strike ∧ sideOf other.option_type = sideOf opt.option_type) =
        some opt) (column : Column) :
    rawValue (shown_chain options) opt.strike column (sideOf opt.option_type) =
      count column opt := by
  have shown : shown_chain options opt.strike (sideOf opt.option_type) =
      some (shown_counts opt) := by
    rw [shown_chain, found]
    rfl
  unfold rawValue
  rw [shown]
  cases column with
  | volume => exact orElse_zero opt.volume
  | oi => exact orElse_zero opt.oi
  | oichng => exact orElse_zero opt.oi_change

theorem two_calls_same {first second : Float} (different : first ≠ second)
    {first_oi second_oi : ℤ} (first_exact : |first_oi| ≤ 2 ^ 53)
    (second_exact : |second_oi| ≤ 2 ^ 53) :
    SameChain (two_calls first second first_oi second_oi)
      (shown_chain (two_calls first second first_oi second_oi)) [first, second] where
  distinct := by simp [two_calls, different]
  visible := by simp [different]
  shown := by simp [two_calls]
  counts := by
    intro opt member column
    apply rawValue_shown
    simp only [two_calls, List.mem_cons, List.not_mem_nil, or_false] at member
    rcases member with rfl | rfl
    · simp [two_calls]
    · simp [two_calls, different]
  others := by
    intro strike member option_type absent column
    have missing : shown_chain (two_calls first second first_oi second_oi) strike
        (sideOf option_type) = none := by
      rw [shown_chain, Option.map_eq_none_iff, List.find?_eq_none]
      intro opt among
      cases option_type with
      | CE =>
          have apart := absent opt among
          simp only [two_calls, List.mem_cons, List.not_mem_nil, or_false] at among
          rcases among with rfl | rfl
          · simpa using apart rfl
          · simpa using apart rfl
      | PE =>
          simp only [two_calls, List.mem_cons, List.not_mem_nil, or_false] at among
          rcases among with rfl | rfl
          · simp [sideOf]
          · simp [sideOf]
    unfold rawValue
    rw [missing]
    cases column with
    | volume => rfl
    | oi => rfl
    | oichng => rfl
  exactly := by
    intro opt member column
    simp only [two_calls, List.mem_cons, List.not_mem_nil, or_false] at member
    rcases member with rfl | rfl
    · cases column with
      | oi => exact first_exact
      | volume => exact (by decide : |(0 : ℤ)| ≤ 2 ^ 53)
      | oichng => exact (by decide : |(0 : ℤ)| ≤ 2 ^ 53)
    · cases column with
      | oi => exact second_exact
      | volume => exact (by decide : |(0 : ℤ)| ≤ 2 ^ 53)
      | oichng => exact (by decide : |(0 : ℤ)| ≤ 2 ^ 53)

theorem highlights_agree_quarter :
    ∃ enriched, enrich_options (two_calls 24000 24050 4 1) 24000 50 = .ok enriched ∧
      ∃ opt ∈ enriched, ∃ highlight,
        usePercentageHighlights [24000, 24050] (shown_chain (two_calls 24000 24050 4 1))
          24000 .oi .ce opt.strike = some highlight ∧
        pct_of .oi opt = some (roundTo 2 highlight.pct) := by
  have same : SameChain (two_calls 24000 24050 4 1)
      (shown_chain (two_calls 24000 24050 4 1)) [24000, 24050] :=
    two_calls_same (by decide) (by decide) (by decide)
  have processed : enrich_options (two_calls 24000 24050 4 1) 24000 50 = .ok _ := rfl
  refine ⟨_, processed, _, List.mem_cons_of_mem _ List.mem_cons_self, ?_⟩
  obtain ⟨highlight, shown, against, -⟩ := highlights_agree same processed
    (List.mem_cons_of_mem _ List.mem_cons_self) .oi
  exact ⟨highlight, shown, against 4 (by decide) (by decide)⟩

/-- The calls of a chain with 24000 at the money are not given the same. -/
def Disagree (first second : Float) (first_oi second_oi : ℤ) : Prop :=
  let chain := two_calls first second first_oi second_oi
  SameChain chain (shown_chain chain) [first, second] ∧
    ∃ enriched, enrich_options chain 24000 50 = .ok enriched ∧
      ¬Agree enriched (shown_chain chain) [first, second] 24000

/-- The largest open interest is ten steps in the money, or a percentage has more
than two decimals. -/
theorem highlights_disagree :
    Disagree 23500 24000 300 100 ∧ Disagree 24000 24050 3 1 := by
  constructor
  · refine ⟨two_calls_same (by decide) (by decide) (by decide), _, rfl, ?_⟩
    intro agree
    have both := agree _ (List.mem_cons_of_mem _ List.mem_cons_self) .oi _ rfl
    exact absurd both.1 (by decide +kernel)
  · refine ⟨two_calls_same (by decide) (by decide) (by decide), _, rfl, ?_⟩
    intro agree
    have both := agree _ (List.mem_cons_of_mem _ List.mem_cons_self) .oi _ rfl
    exact absurd both.1 (by decide +kernel)

end HftEngine.Pipeline
