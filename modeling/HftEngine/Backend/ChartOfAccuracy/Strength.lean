import HftEngine.Backend.ChartOfAccuracy
import Mathlib.Tactic.FieldSimp
import Mathlib.Tactic.Linarith

/-!
# What the strength of a side rests on

`_detect_strength` writes percentages and scores into the dictionaries that it is given
and reads them back.  What it finds depends on the fields of the options alone, on these
only up to a factor for each, and on their order only where scores are equal.
-/

namespace HftEngine.Backend.ChartOfAccuracy

/-! ## Annotated dictionaries -/

/-- The dictionary of an option, with what earlier runs may have written into it. -/
structure Entry where
  option : OptionContract
  oi_pct : Option ℚ := none
  oichng_pct : Option ℚ := none
  volume_pct : Option ℚ := none
  gamma_pct : Option ℚ := none
  combined_score : Option ℚ := none
  competitor_score : Option ℚ := none

def Entry.annotate (reference : Maxima) (opt : Entry) : Entry :=
  let oi_pct := percentage opt.option.oi reference.max_oi
  let oichng_pct := percentage |opt.option.oi_change| reference.max_oichng
  let volume_pct := percentage opt.option.volume reference.max_volume
  let gamma_pct := percentage |opt.option.gamma| reference.max_gamma
  let weighted_score :=
    oichng_pct * WEIGHT_OI_CHANGE + oi_pct * WEIGHT_OI + volume_pct * WEIGHT_VOLUME
  let gamma_bonus := if 50 < gamma_pct then gamma_pct * GAMMA_BONUS_WEIGHT else 0
  { opt with
    oi_pct := some oi_pct
    oichng_pct := some oichng_pct
    volume_pct := some volume_pct
    gamma_pct := some gamma_pct
    combined_score := some (weighted_score + gamma_bonus) }

/-- Whether the entry is a competitor, by what is written into it. -/
def Entry.Competes (wtt_threshold strike100 : ℚ) (opt : Entry) : Prop :=
  opt.option.strike ≠ strike100 ∧
    (wtt_threshold ≤ opt.oi_pct.getD 0 ∨ wtt_threshold ≤ opt.oichng_pct.getD 0 ∨
      wtt_threshold ≤ opt.volume_pct.getD 0)

instance (wtt_threshold strike100 : ℚ) (opt : Entry) :
    Decidable (opt.Competes wtt_threshold strike100) :=
  inferInstanceAs (Decidable (_ ∧ _))

def Entry.compete (opt : Entry) : Entry :=
  { opt with
    competitor_score := some
      (max (max (opt.oi_pct.getD 0) (opt.oichng_pct.getD 0)) (opt.volume_pct.getD 0)) }

/-- What is read back. -/
def Entry.scored (opt : Entry) : Scored where
  option := opt.option
  oi_pct := opt.oi_pct.getD 0
  oichng_pct := opt.oichng_pct.getD 0
  volume_pct := opt.volume_pct.getD 0
  combined_score := opt.combined_score.getD 0

/-- The result, and the list as it is left. -/
def detect_strength_in_place (wtt_threshold : ℚ) (options : List Entry)
    (side : OptionType) : StrengthResult × List Entry :=
  let side_options := options.filter (fun o => o.option.option_type = side)
  let reference := maxima (side_options.map Entry.option)
  if side_options = [] then (empty_result, options)
  else if reference.max_oi = 0 then (empty_result, options)
  else
    let annotated := side_options.map (Entry.annotate reference)
    match Ranking.descending (fun opt => opt.combined_score.getD 0) annotated with
    | [] => (empty_result, options)
    | opt100 :: _ =>
        let competes := Entry.Competes wtt_threshold opt100.option.strike
        let competitors := (annotated.filter (fun opt => competes opt)).map Entry.compete
        let top_competitor :=
          (Ranking.descending (fun opt => opt.competitor_score.getD 0) competitors).head?
        (result_of side opt100.scored (top_competitor.map Entry.scored),
          options.map (fun opt =>
            if opt.option.option_type = side then
              if competes (opt.annotate reference) then (opt.annotate reference).compete
              else opt.annotate reference
            else opt))

section Entries

variable (entries : List Entry)

theorem scores_entries : scores (entries.map Entry.option) =
    (entries.map (Entry.annotate (maxima (entries.map Entry.option)))).map Entry.scored := by
  rw [scores, List.map_map, List.map_map]
  rfl

variable {entries} in
theorem primary_entries (found : (maxima (entries.map Entry.option)).max_oi ≠ 0) :
    primary (entries.map Entry.option) =
      (Ranking.descending (fun opt => opt.combined_score.getD 0)
        (entries.map (Entry.annotate (maxima (entries.map Entry.option))))).head?.map
          Entry.scored := by
  rw [primary, if_neg found, scores_entries, Ranking.descending_map, List.head?_map]
  rfl

theorem top_competitor_entries (wtt_threshold strike100 : ℚ) :
    top_competitor wtt_threshold strike100 (entries.map Entry.option) =
      (Ranking.descending (fun opt => opt.competitor_score.getD 0)
        (((entries.map (Entry.annotate (maxima (entries.map Entry.option)))).filter
          (fun opt => opt.Competes wtt_threshold strike100)).map Entry.compete)).head?.map
            Entry.scored := by
  rw [top_competitor, scores_entries, List.filter_map, Ranking.descending_map,
    Ranking.descending_map, List.head?_map, List.head?_map, Option.map_map]
  rfl

end Entries

section InPlace

variable (wtt_threshold : ℚ) (options : List Entry) (side : OptionType)

/-- What earlier runs have written is not read. -/
theorem detect_strength_in_place_fst :
    (detect_strength_in_place wtt_threshold options side).1 =
      detect_strength wtt_threshold (options.map Entry.option) side := by
  have side_eq : side_options side (options.map Entry.option) =
      (options.filter (fun o => o.option.option_type = side)).map Entry.option :=
    List.filter_map
  rw [detect_strength_in_place, detect_strength, chosen, side_eq]
  generalize options.filter (fun o => o.option.option_type = side) = entries
  dsimp only
  split
  case isTrue none_listed =>
    rw [none_listed]
    rfl
  split
  case isTrue no_interest =>
    rw [primary, if_pos no_interest]
    rfl
  case isFalse found =>
    rw [primary_entries found]
    split
    case h_1 listed =>
      rw [listed]
      rfl
    case h_2 opt100 rest listed =>
      rw [listed, List.head?_cons, Option.map_some, Option.map_some, top_competitor_entries]
      rfl

theorem detect_strength_in_place_snd :
    (detect_strength_in_place wtt_threshold options side).2.map Entry.option =
      options.map Entry.option := by
  rw [detect_strength_in_place]
  dsimp only
  split
  · rfl
  split
  · rfl
  split
  · rfl
  · rw [List.map_map]
    apply List.map_congr_left
    intro opt _
    dsimp only [Function.comp]
    split_ifs
    · rfl
    · rfl
    · rfl

end InPlace

/-! ## Factors -/

/-- A factor for each metric. -/
structure Factors where
  oi : ℚ
  oi_change : ℚ
  volume : ℚ
  gamma : ℚ

structure Factors.Positive (factors : Factors) : Prop where
  oi : 0 < factors.oi
  oi_change : 0 < factors.oi_change
  volume : 0 < factors.volume
  gamma : 0 < factors.gamma

def OptionContract.scale (factors : Factors) (o : OptionContract) : OptionContract :=
  { o with
    oi := factors.oi * o.oi
    oi_change := factors.oi_change * o.oi_change
    volume := factors.volume * o.volume
    gamma := factors.gamma * o.gamma }

def Scored.scale (factors : Factors) (opt : Scored) : Scored :=
  { opt with option := opt.option.scale factors }

/-- Only the raw magnitudes are multiplied. -/
def StrengthResult.scale (factors : Factors) (r : StrengthResult) : StrengthResult :=
  { r with
    oi100 := factors.oi * r.oi100
    oi2nd := r.oi2nd.map (factors.oi * ·)
    oichng100 := factors.oi_change * r.oichng100
    oichng2nd := r.oichng2nd.map (factors.oi_change * ·)
    volume100 := factors.volume * r.volume100
    volume2nd := r.volume2nd.map (factors.volume * ·) }

section Greatest

variable {metric : OptionContract → ℚ} {options : List OptionContract} {value : ℚ}

theorem greatest_eq (attained : ∃ o ∈ options, metric o = value)
    (bound : ∀ o ∈ options, metric o ≤ value) : greatest metric options = value := by
  have largest : (options.map metric).max? = some value := by
    rw [List.max?_eq_some_iff]
    exact ⟨List.mem_map.mpr attained, List.forall_mem_map.mpr bound⟩
  rw [greatest, largest]
  rfl

variable (metric) in
theorem greatest_spec (some_option : options ≠ []) :
    (∃ o ∈ options, metric o = greatest metric options) ∧
      ∀ o ∈ options, metric o ≤ greatest metric options := by
  cases found : (options.map metric).max? with
  | none => exact absurd (List.map_eq_nil_iff.mp (List.max?_eq_none_iff.mp found)) some_option
  | some value =>
      obtain ⟨attained, bound⟩ := List.max?_eq_some_iff.mp found
      rw [greatest, found]
      exact ⟨List.mem_map.mp attained, List.forall_mem_map.mp bound⟩

/-- The greatest value of options of which the metric is multiplied. -/
theorem greatest_mul {scale : OptionContract → OptionContract} {factor : ℚ}
    (positive : 0 < factor) (times : ∀ o, metric (scale o) = factor * metric o) :
    greatest metric (options.map scale) = factor * greatest metric options := by
  by_cases none_listed : options = []
  · subst none_listed
    simp [greatest]
  · obtain ⟨⟨o, member, attained⟩, bound⟩ := greatest_spec metric none_listed
    apply greatest_eq
    · exact ⟨scale o, List.mem_map_of_mem member, by rw [times, attained]⟩
    · intro other mapped
      obtain ⟨other, among, rfl⟩ := List.mem_map.mp mapped
      rw [times]
      exact mul_le_mul_of_nonneg_left (bound other among) positive.le

theorem greatest_perm {others : List OptionContract} (perm : options.Perm others) :
    greatest metric options = greatest metric others := by
  by_cases none_listed : others = []
  · subst none_listed
    rw [List.perm_nil.mp perm]
  · obtain ⟨⟨o, member, attained⟩, bound⟩ := greatest_spec metric none_listed
    exact greatest_eq ⟨o, perm.mem_iff.mpr member, attained⟩
      (fun other among => bound other (perm.mem_iff.mp among))

end Greatest

theorem percentage_mul {factor : ℚ} (positive : 0 < factor) (value reference : ℚ) :
    percentage (factor * value) (factor * reference) = percentage value reference := by
  unfold percentage
  simp only [mul_pos_iff_of_pos_left positive, mul_div_mul_left _ _ positive.ne']

section Scale

variable {factors : Factors} (positive : factors.Positive)

include positive

theorem maxima_scale (options : List OptionContract) :
    maxima (options.map (OptionContract.scale factors)) =
      { max_oi := factors.oi * (maxima options).max_oi
        max_oichng := factors.oi_change * (maxima options).max_oichng
        max_volume := factors.volume * (maxima options).max_volume
        max_gamma := factors.gamma * (maxima options).max_gamma } := by
  simp only [maxima, Maxima.mk.injEq]
  refine ⟨?_, ?_, ?_, ?_⟩
  · exact greatest_mul positive.oi (fun o => rfl)
  · apply greatest_mul positive.oi_change
    intro o
    simp [OptionContract.scale, abs_mul, abs_of_pos positive.oi_change]
  · exact greatest_mul positive.volume (fun o => rfl)
  · apply greatest_mul positive.gamma
    intro o
    simp [OptionContract.scale, abs_mul, abs_of_pos positive.gamma]

theorem scores_scale (options : List OptionContract) :
    scores (options.map (OptionContract.scale factors)) =
      (scores options).map (Scored.scale factors) := by
  rw [scores, maxima_scale positive, scores, List.map_map, List.map_map]
  apply List.map_congr_left
  intro o _
  simp only [Function.comp, score, Scored.scale, OptionContract.scale, abs_mul,
    abs_of_pos positive.oi_change, abs_of_pos positive.gamma, percentage_mul positive.oi,
    percentage_mul positive.oi_change, percentage_mul positive.volume,
    percentage_mul positive.gamma]

theorem primary_scale (options : List OptionContract) :
    primary (options.map (OptionContract.scale factors)) =
      (primary options).map (Scored.scale factors) := by
  have zero : factors.oi * (maxima options).max_oi = 0 ↔ (maxima options).max_oi = 0 :=
    mul_eq_zero_iff_left positive.oi.ne'
  rw [primary, primary, scores_scale positive, Ranking.descending_map, List.head?_map,
    maxima_scale positive]
  simp only [zero]
  split
  · rfl
  · rfl

theorem top_competitor_scale (wtt_threshold strike100 : ℚ) (options : List OptionContract) :
    top_competitor wtt_threshold strike100 (options.map (OptionContract.scale factors)) =
      (top_competitor wtt_threshold strike100 options).map (Scored.scale factors) := by
  rw [top_competitor, top_competitor, scores_scale positive, List.filter_map,
    Ranking.descending_map, List.head?_map]
  rfl

theorem strength_of_scale (side : OptionType) (opt100 second : OptionContract) :
    strength_of side (opt100.scale factors) (second.scale factors) =
      strength_of side opt100 second := by
  have change := positive.oi_change
  have losing : ∀ x, factors.oi_change * x < 0 ↔ x < 0 := by
    intro x
    have scaled := mul_lt_mul_iff_right₀ (b := x) (c := 0) change
    rwa [mul_zero] at scaled
  simp only [strength_of, OptionContract.scale, mul_pos_iff_of_pos_left change, losing,
    mul_lt_mul_iff_right₀ change]

theorem detect_strength_scale (wtt_threshold : ℚ) (options : List OptionContract)
    (side : OptionType) :
    detect_strength wtt_threshold (options.map (OptionContract.scale factors)) side =
      (detect_strength wtt_threshold options side).scale factors := by
  have side_eq : side_options side (options.map (OptionContract.scale factors)) =
      (side_options side options).map (OptionContract.scale factors) :=
    List.filter_map
  rw [detect_strength, detect_strength, chosen, chosen, side_eq, primary_scale positive]
  cases primary (side_options side options) with
  | none => simp [StrengthResult.scale, empty_result]
  | some opt100 =>
      have same : (opt100.scale factors).option.strike = opt100.option.strike := rfl
      simp only [Option.map_some, same, top_competitor_scale positive]
      cases top_competitor wtt_threshold opt100.option.strike (side_options side options) with
      | none => rfl
      | some second =>
          simp only [Option.map_some, result_of, Scored.scale, strength_of_scale positive]
          rfl

end Scale

/-! ## Order -/

/-- Distinct combined scores, and distinct competitor scores. -/
structure Distinct (wtt_threshold : ℚ) (options : List OptionContract) : Prop where
  combined : ((scores options).map (·.combined_score)).Nodup
  competitor : ∀ opt100, primary options = some opt100 →
    (((scores options).filter (fun opt =>
      is_competitor wtt_threshold opt100.option.strike opt)).map competitor_score).Nodup

section Order

variable {options others : List OptionContract} (perm : options.Perm others)

include perm

theorem scores_perm : (scores options).Perm (scores others) := by
  have reference : maxima options = maxima others := by
    simp only [maxima, greatest_perm perm]
  rw [scores, scores, reference]
  exact perm.map _

theorem detect_strength_perm {wtt_threshold : ℚ} {side : OptionType}
    (distinct : Distinct wtt_threshold (side_options side options)) :
    detect_strength wtt_threshold options side = detect_strength wtt_threshold others side := by
  have side_perm : (side_options side options).Perm (side_options side others) :=
    perm.filter _
  have scored := scores_perm side_perm
  have first : primary (side_options side options) = primary (side_options side others) := by
    have interest : (maxima (side_options side options)).max_oi =
        (maxima (side_options side others)).max_oi := greatest_perm side_perm
    rw [primary, primary, interest, Ranking.head?_descending_perm scored distinct.combined]
  rw [detect_strength, detect_strength, chosen, chosen, ← first]
  cases found : primary (side_options side options) with
  | none => rfl
  | some opt100 =>
      have second := Ranking.head?_descending_perm (scored.filter _)
        (distinct.competitor opt100 found)
      simp only [Option.map_some, top_competitor, second]

end Order

/-! ## The primary and its competitors -/

theorem strength_of_ne_strong (side : OptionType) (opt100 second : OptionContract) :
    strength_of side opt100 second ≠ .Strong := by
  unfold strength_of shift
  cases side <;> split_ifs <;> simp

theorem chosen_spec {wtt_threshold : ℚ} {side : OptionType} {options : List OptionContract}
    {opt100 : Scored} {second : Option Scored}
    (taken : chosen wtt_threshold side options = some (opt100, second)) :
    (opt100 ∈ scores (side_options side options) ∧
      ∀ opt ∈ scores (side_options side options), opt.combined_score ≤ opt100.combined_score) ∧
    (second = none ↔ ∀ opt ∈ scores (side_options side options),
      ¬is_competitor wtt_threshold opt100.option.strike opt) := by
  obtain ⟨first, found, same⟩ := Option.map_eq_some_iff.mp taken
  obtain ⟨rfl, rfl⟩ := Prod.mk.inj same
  have first_listed := (Option.ite_none_left_eq_some.mp found).2
  constructor
  · cases listed : Ranking.descending (·.combined_score) (scores (side_options side options)) with
    | nil =>
        rw [listed] at first_listed
        cases first_listed
    | cons best rest =>
        rw [listed] at first_listed
        obtain rfl := Option.some.inj first_listed
        exact Ranking.first_of_descending listed
  · rw [top_competitor, List.head?_eq_none_iff]
    constructor
    · intro none_listed opt member competes
      have competing : opt ∈ (scores (side_options side options)).filter
          (fun opt => is_competitor wtt_threshold first.option.strike opt) :=
        List.mem_filter.mpr ⟨member, decide_eq_true competes⟩
      have among := (Ranking.perm_descending competitor_score _).mem_iff.mpr competing
      rw [none_listed] at among
      cases among
    · intro none_competes
      rw [List.filter_eq_nil_iff.mpr (fun opt member => by simpa using none_competes opt member)]
      rfl

/-- The options of a side, by their scores; `opt100` is the primary. -/
structure Detected (wtt_threshold : ℚ) (options : List OptionContract) (side : OptionType)
    (result : StrengthResult) (opt100 : OptionContract) : Prop where
  member : opt100 ∈ side_options side options
  strike : result.strike100 = opt100.strike
  maximal : ∀ opt ∈ side_options side options,
    (score (maxima (side_options side options)) opt).combined_score ≤
      (score (maxima (side_options side options)) opt100).combined_score
  strong : result.strength = .Strong ↔ ∀ opt ∈ side_options side options,
    opt.strike ≠ opt100.strike →
      percentage opt.oi (maxima (side_options side options)).max_oi < wtt_threshold ∧
      percentage |opt.oi_change| (maxima (side_options side options)).max_oichng <
        wtt_threshold ∧
      percentage opt.volume (maxima (side_options side options)).max_volume < wtt_threshold

theorem not_is_competitor_iff {wtt_threshold strike100 : ℚ} {opt : Scored} :
    ¬is_competitor wtt_threshold strike100 opt ↔ (opt.option.strike ≠ strike100 →
      opt.oi_pct < wtt_threshold ∧ opt.oichng_pct < wtt_threshold ∧
        opt.volume_pct < wtt_threshold) := by
  simp only [is_competitor, not_and, not_or, not_le]

theorem strong_iff (side : OptionType) (opt100 : Scored) (second : Option Scored) :
    (result_of side opt100 second).strength = .Strong ↔ second = none := by
  cases second with
  | none => exact iff_of_true rfl rfl
  | some second =>
      exact iff_of_false (strength_of_ne_strong side _ _) (Option.some_ne_none second)

theorem detected {wtt_threshold : ℚ} {side : OptionType} {options : List OptionContract}
    (interest : (maxima (side_options side options)).max_oi ≠ 0) :
    ∃ opt100, Detected wtt_threshold options side
      (detect_strength wtt_threshold options side) opt100 := by
  have some_option : side_options side options ≠ [] := by
    intro empty
    rw [empty] at interest
    exact interest rfl
  cases taken : chosen wtt_threshold side options with
  | none =>
      have missing := Option.map_eq_none_iff.mp taken
      rw [primary, if_neg interest, List.head?_eq_none_iff] at missing
      have nothing := Ranking.perm_descending (·.combined_score)
        (scores (side_options side options))
      rw [missing, List.nil_perm, scores, List.map_eq_nil_iff] at nothing
      exact absurd nothing some_option
  | some pair =>
      obtain ⟨opt100, second⟩ := pair
      obtain ⟨⟨member, greatest⟩, none_iff⟩ := chosen_spec taken
      obtain ⟨primary, among, rfl⟩ := List.mem_map.mp member
      refine ⟨primary, ?_⟩
      rw [detect_strength, taken]
      constructor
      case member => exact among
      case strike => rfl
      case maximal =>
        intro opt listed
        exact greatest _ (List.mem_map_of_mem listed)
      case strong =>
        rw [strong_iff, none_iff, scores, List.forall_mem_map]
        simp only [not_is_competitor_iff]
        rfl

theorem detect_strength_of_no_interest {wtt_threshold : ℚ} {side : OptionType}
    {options : List OptionContract} (none_open : (maxima (side_options side options)).max_oi = 0) :
    detect_strength wtt_threshold options side = empty_result := by
  rw [detect_strength, chosen, primary, if_pos none_open]
  rfl

/-- With open interest on a side, the primary has the greatest combined score and the side
is strong where no other strike reaches the threshold; without any, it is unknown.  Runs
before, factors, and the order of distinct scores make no difference. -/
theorem detect_strength_in_place_spec (wtt_threshold : ℚ) (options : List Entry)
    (side : OptionType) :
    let contracts := options.map Entry.option
    let interest := (maxima (side_options side contracts)).max_oi
    let result := (detect_strength_in_place wtt_threshold options side).1
    (interest = 0 → result = empty_result) ∧
    (interest ≠ 0 → ∃ opt100, Detected wtt_threshold contracts side result opt100) ∧
    (∀ other_side, (detect_strength_in_place wtt_threshold
      (detect_strength_in_place wtt_threshold options other_side).2 side).1 = result) ∧
    (∀ (factors : Factors) (scaled : List Entry), factors.Positive →
      scaled.map Entry.option = contracts.map (OptionContract.scale factors) →
        (detect_strength_in_place wtt_threshold scaled side).1 = result.scale factors) ∧
    (∀ others : List Entry, options.Perm others →
      Distinct wtt_threshold (side_options side contracts) →
        (detect_strength_in_place wtt_threshold others side).1 = result) := by
  simp only [detect_strength_in_place_fst, detect_strength_in_place_snd]
  refine ⟨?_, ?_, ?_, ?_, ?_⟩
  · exact fun none_open => detect_strength_of_no_interest none_open
  · exact fun interest => detected interest
  · exact fun _ => trivial
  · intro factors scaled positive same
    rw [same, detect_strength_scale positive]
  · intro others perm distinct
    exact (detect_strength_perm (perm.map Entry.option) distinct).symm

/-- A call that was traded and has no open interest. -/
def without_interest : List Entry :=
  [{ option := { strike := 100, option_type := .CE, oi_change := -10, volume := 5 } }]

/-- Its strike is not taken, and the side is not strong though there is no other strike. -/
theorem not_detected_without_interest :
    let contracts := without_interest.map Entry.option
    let result := (detect_strength_in_place 75 without_interest .CE).1
    (∀ opt ∈ side_options .CE contracts, result.strike100 ≠ opt.strike) ∧
      result.strength ≠ .Strong ∧ ∀ opt ∈ side_options .CE contracts, opt.strike = 100 := by
  decide

end HftEngine.Backend.ChartOfAccuracy
