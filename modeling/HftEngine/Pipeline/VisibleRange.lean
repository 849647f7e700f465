import HftEngine.Processor.GlobalContext
import HftEngine.Processor.Percentages
import Mathlib.Data.Rat.Defs

/-!
# The visible range of a raw message

What the percentages of a chain are computed against when the chain comes with
a raw message.  The schema of raw messages has no tick size, so that the tick is
0.05 for every instrument, and the analyzer takes the tick for the strike step.
-/

namespace HftEngine.Pipeline

open Py Avro Schemas Processor

/-! ## Strikes on a grid -/

/-- The number that a double stands for. -/
def exact (x : Float) : Option ℚ :=
  match x.toModel.unpack with
  | .zero _ => some 0
  | .finite sign mantissa exponent _ =>
      let magnitude := (mantissa : ℚ) * 2 ^ exponent
      some (match sign with
        | .positive => magnitude
        | .negative => -magnitude)
  | _ => none

/-- The strike is `k` strike steps above ATM. -/
def StepsFrom (step : ℚ) (atm_strike strike : Float) (k : ℤ) : Prop :=
  ∃ atm, exact atm_strike = some atm ∧ exact strike = some (atm + k * step)

def WithinTen (step : ℚ) (atm_strike strike : Float) : Prop :=
  ∃ k : ℤ, |k| ≤ 10 ∧ StepsFrom step atm_strike strike k

/-- Strikes and ATM on a grid of the strike step, with one option of each type
at a strike. -/
structure Grid (step : ℚ) (atm_strike : Float) (options : List CleanedOptionData) :
    Prop where
  positive : 0 < step
  spaced : ∀ opt ∈ options, ∃ k, StepsFrom step atm_strike opt.strike k
  distinct : (options.map (fun opt => (opt.strike, opt.option_type))).Nodup

/-- An option with the largest open interest of its type within ten steps. -/
structure Top (step : ℚ) (atm_strike : Float) (options : List CleanedOptionData)
    (top : CleanedOptionData) : Prop where
  member : top ∈ options
  within : WithinTen step atm_strike top.strike
  greatest : ∀ opt ∈ options, opt.option_type = top.option_type →
    WithinTen step atm_strike opt.strike → opt.oi ≤ top.oi

/-! ## What is claimed of the range, and when it holds -/

/-- `pct` is the share of `greatest` in percent, to two decimals. -/
def Share (oi greatest : ℤ) (pct : Option Float) : Prop :=
  ∃ x, percentage oi greatest = .ok x ∧ pct = some (roundTo 2 x)

/-- The strikes within ten strike steps of ATM are visible, and the largest open
interest among them is what 100 percent stand for. -/
structure TenStepsVisible (step : ℚ) (atm_strike step_size : Float)
    (options enriched : List CleanedOptionData) : Prop where
  visible : ∀ opt ∈ options, WithinTen step atm_strike opt.strike →
    in_visible_range atm_strike step_size opt.strike
  reference : ∀ top, Top step atm_strike options top →
    (references (valid_data (side top.option_type options) atm_strike
      step_size)).max_oi = top.oi
  greatest : ∀ top, Top step atm_strike options top →
    ∀ opt ∈ enriched, opt.option_type = top.option_type → opt.strike = top.strike →
      opt.oi_pct = some 100
  others : ∀ top, Top step atm_strike options top →
    ∀ opt ∈ enriched, opt.option_type = top.option_type →
      WithinTen step atm_strike opt.strike → Share opt.oi top.oi opt.oi_pct

/-- Ten ticks of 0.05 from ATM. -/
def Near (atm_strike strike : Float) : Prop :=
  atm_strike - 0.5 ≤ strike ∧ strike ≤ atm_strike + 0.5

/-- The strikes within ten strike steps are within ten ticks, where none of the
others has more open interest. -/
structure StepsNear (step : ℚ) (atm_strike : Float) (options : List CleanedOptionData) :
    Prop where
  near : ∀ opt ∈ options, WithinTen step atm_strike opt.strike →
    Near atm_strike opt.strike
  nonzero : ∀ top, Top step atm_strike options top → (atm_strike == 0) = false
  positive : ∀ top, Top step atm_strike options top → 0 < top.oi
  greatest : ∀ top, Top step atm_strike options top →
    ∀ opt ∈ options, opt.option_type = top.option_type → Near atm_strike opt.strike →
      opt.oi ≤ top.oi

theorem tick_size_eq {pydantic : Pydantic} {now : Calendar.DateTime} {raw_data : Value}
    {context : CleanedGlobalContext}
    (conforms : Conforms (.record market_data_raw) raw_data)
    (extracted : extract_global_context pydantic now raw_data = .ok context) :
    context.step_size = 0.05 := by
  obtain ⟨_, _, gc, fields, -, -, gc_at⟩ := raw_fields conforms
  have absent : floatOf (.dict gc) "option_tick_size" (.float 0.05) = .ok 0.05 := by
    have missing := fields.matched.lookup_none
      (show "option_tick_size" ∉ global_context.map Prod.fst by decide)
    simp only [floatOf, get_of_lookup_none missing]
    rfl
  simp only [extract_global_context, bind_eq_ok, gc_at, absent, Except.ok.injEq,
    exists_eq_left'] at extracted
  obtain ⟨_, -, _, -, _, -, _, -, _, -, _, -, _, -, _, -, _, -, _, -, _, -, _, -, _, -,
    _, -, _, -, _, -, _, -, _, -, _, -, _, -, rfl⟩ := extracted
  have nonzero : ((0.05 : Float) == 0) = false := by decide
  rw [CleanedGlobalContext.step_size, nonzero]
  rfl

theorem in_visible_range_iff {atm_strike strike : Float} :
    in_visible_range atm_strike 0.05 strike ↔ Near atm_strike strike := by
  have half : (0.05 : Float) * 10 = 0.5 := by decide
  rw [in_visible_range, Near, half]

/-! ## Percentages -/

theorem percentage_self {n : ℤ} (positive : 0 < n) : percentage n n = .ok 100 := by
  have hundred : (1 : Float) * 100 = 100 := by decide +kernel
  rw [percentage, if_pos positive, trueDivide_self positive]
  change Except.ok ((1 : Float) * 100) = _
  rw [hundred]

theorem percentage_not_positive {value reference : ℤ} (notPositive : ¬0 < reference) :
    percentage value reference = .ok 0 :=
  if_neg notPositive

/-- The reference is the greatest value where that is positive. -/
theorem le_max_or_one {values : List ℤ} {value : ℤ} (member : value ∈ values)
    (attained : max_or_one values ∈ values) : value ≤ max_or_one values := by
  cases found : values.max? with
  | none => simp [List.max?_eq_none_iff.mp found] at member
  | some greatest =>
      obtain ⟨-, bound⟩ := List.max?_eq_some_iff.mp found
      have at_most : max_or_one values ≤ greatest := bound _ attained
      have reference : max_or_one values = if greatest = 0 then 1 else greatest := by
        rw [max_or_one, found]
      have value_le := bound value member
      split at reference
      · omega
      · omega

section Enriched

variable {options enriched : List CleanedOptionData} {atm_strike step_size : Float}

/-- The percentage of an option, where its side has an option in the range. -/
theorem oi_pct_share
    (processed : enrich_options options atm_strike step_size = .ok enriched)
    (distinct : (options.map (fun opt => (opt.strike, opt.option_type))).Nodup)
    (nonzero : (atm_strike == 0) = false) {original : CleanedOptionData}
    (among : original ∈ options)
    (valid : valid_data (side original.option_type options) atm_strike step_size ≠ [])
    {opt : CleanedOptionData} (member : opt ∈ enriched)
    (same_type : opt.option_type = original.option_type)
    (same_strike : opt.strike = original.strike) :
    Share original.oi (references (valid_data (side original.option_type options)
      atm_strike step_size)).max_oi opt.oi_pct := by
  obtain ⟨other, other_among, pct_data, rfl, computed⟩ :=
    enriched_spec processed distinct nonzero member
  obtain rfl : other = original :=
    List.inj_on_of_nodup_map distinct other_among among (Prod.ext same_strike same_type)
  rw [if_neg valid, percentages_of] at computed
  obtain ⟨oi_pct, share, computed⟩ := bind_eq_ok.mp computed
  obtain ⟨volume_pct, -, computed⟩ := bind_eq_ok.mp computed
  obtain ⟨oichng_pct, -, computed⟩ := bind_eq_ok.mp computed
  obtain rfl := Except.ok.inj computed
  exact ⟨oi_pct, share, rfl⟩

/-- What the analyzer leaves as it is. -/
theorem original_of_enriched
    (processed : enrich_options options atm_strike step_size = .ok enriched)
    {opt : CleanedOptionData} (member : opt ∈ enriched) :
    ∃ original ∈ options, opt.strike = original.strike ∧
      opt.option_type = original.option_type ∧ opt.oi = original.oi := by
  obtain ⟨_, -, original, among, rfl⟩ := (mem_enriched processed).mp member
  exact ⟨original, among, rfl, rfl, rfl⟩

theorem enriched_of_original
    (processed : enrich_options options atm_strike step_size = .ok enriched)
    {original : CleanedOptionData} (among : original ∈ options) :
    ∃ opt ∈ enriched, opt.strike = original.strike ∧
      opt.option_type = original.option_type := by
  obtain ⟨percentages, analyzed, -⟩ := bind_eq_ok.mp processed
  have member := (mem_enriched processed).mpr
    ⟨percentages, analyzed, original, among, rfl⟩
  exact ⟨_, member, rfl, rfl⟩

theorem mem_valid {option_type : OptionType} {opt : CleanedOptionData} :
    opt ∈ valid_data (side option_type options) atm_strike 0.05 ↔
      (opt ∈ options ∧ opt.option_type = option_type) ∧ Near atm_strike opt.strike := by
  rw [valid_data, List.mem_filter, mem_side, decide_eq_true_iff, in_visible_range_iff]

variable {step : ℚ}

theorem StepsNear.of_visible
    (processed : enrich_options options atm_strike 0.05 = .ok enriched)
    (distinct : (options.map (fun opt => (opt.strike, opt.option_type))).Nodup)
    (claimed : TenStepsVisible step atm_strike 0.05 options enriched) :
    StepsNear step atm_strike options := by
  have near : ∀ opt ∈ options, WithinTen step atm_strike opt.strike →
      Near atm_strike opt.strike :=
    fun opt member within => in_visible_range_iff.mp (claimed.visible opt member within)
  have nonzero : ∀ top, Top step atm_strike options top →
      (atm_strike == 0) = false := by
    intro top top_of
    obtain ⟨opt, member, same_strike, same_type⟩ :=
      enriched_of_original processed top_of.member
    have hundred := claimed.greatest top top_of opt member same_type same_strike
    by_contra notFalse
    obtain ⟨original, -, rfl⟩ :=
      enriched_zero processed (eq_true_of_ne_false notFalse) member
    have zero : some (0 : Float) = some 100 := hundred
    exact absurd zero (by decide)
  have top_valid : ∀ top, Top step atm_strike options top →
      top ∈ valid_data (side top.option_type options) atm_strike 0.05 :=
    fun top top_of =>
      mem_valid.mpr ⟨⟨top_of.member, rfl⟩, near top top_of.member top_of.within⟩
  refine ⟨near, nonzero, ?_, ?_⟩
  · intro top top_of
    obtain ⟨opt, member, same_strike, same_type⟩ :=
      enriched_of_original processed top_of.member
    have hundred := claimed.greatest top top_of opt member same_type same_strike
    obtain ⟨x, share, pct⟩ := oi_pct_share processed distinct (nonzero top top_of)
      top_of.member (List.ne_nil_of_mem (top_valid top top_of)) member same_type
      same_strike
    by_contra notPositive
    rw [claimed.reference top top_of, percentage_not_positive notPositive,
      Except.ok.injEq] at share
    subst share
    exact absurd (hundred.symm.trans pct) (by decide)
  · intro top top_of opt member same_type within
    have reference := claimed.reference top top_of
    have valid : opt ∈ valid_data (side top.option_type options) atm_strike 0.05 :=
      mem_valid.mpr ⟨⟨member, same_type⟩, within⟩
    have attained := List.mem_map_of_mem (f := (·.oi)) (top_valid top top_of)
    rw [references] at reference
    rw [← reference] at attained ⊢
    exact le_max_or_one (List.mem_map_of_mem valid) attained

theorem StepsNear.visible
    (processed : enrich_options options atm_strike 0.05 = .ok enriched)
    (distinct : (options.map (fun opt => (opt.strike, opt.option_type))).Nodup)
    (near : StepsNear step atm_strike options) :
    TenStepsVisible step atm_strike 0.05 options enriched := by
  have top_valid : ∀ top, Top step atm_strike options top →
      top ∈ valid_data (side top.option_type options) atm_strike 0.05 :=
    fun top top_of =>
      mem_valid.mpr ⟨⟨top_of.member, rfl⟩, near.near top top_of.member top_of.within⟩
  have reference : ∀ top, Top step atm_strike options top →
      (references (valid_data (side top.option_type options) atm_strike 0.05)).max_oi =
        top.oi := by
    intro top top_of
    have bound : ∀ value ∈ (valid_data (side top.option_type options) atm_strike
        0.05).map (·.oi), value ≤ top.oi := by
      intro value member
      obtain ⟨opt, valid, rfl⟩ := List.mem_map.mp member
      obtain ⟨⟨among, same_type⟩, within⟩ := mem_valid.mp valid
      exact near.greatest top top_of opt among same_type within
    have greatest := max_or_one_eq (List.mem_map_of_mem (top_valid top top_of)) bound
    rw [references]
    exact greatest.trans (if_neg (near.positive top top_of).ne')
  have shares : ∀ top, Top step atm_strike options top → ∀ opt ∈ enriched,
      opt.option_type = top.option_type → Share opt.oi top.oi opt.oi_pct := by
    intro top top_of opt member same_type
    obtain ⟨original, among, strike, option_type, oi⟩ :=
      original_of_enriched processed member
    have same_side : original.option_type = top.option_type :=
      option_type.symm.trans same_type
    have share := oi_pct_share processed distinct (near.nonzero top top_of) among
      (same_side ▸ List.ne_nil_of_mem (top_valid top top_of)) member option_type strike
    rwa [same_side, reference top top_of, ← oi] at share
  refine ⟨?_, reference, ?_, ?_⟩
  · intro opt member within
    exact in_visible_range_iff.mpr (near.near opt member within)
  · intro top top_of opt member same_type same_strike
    obtain ⟨x, share, pct⟩ := oi_pct_share processed distinct (near.nonzero top top_of)
      top_of.member (List.ne_nil_of_mem (top_valid top top_of)) member same_type
      same_strike
    rw [reference top top_of, percentage_self (near.positive top top_of),
      Except.ok.injEq] at share
    subst share
    rw [pct]
    decide
  · intro top top_of opt member same_type _
    exact shares top top_of opt member same_type

end Enriched

/-- Within ten strike steps of ATM everything is visible and the largest open
interest is 100 percent exactly when those strikes are within ten ticks. -/
theorem ten_steps_visible_iff {pydantic : Pydantic} {now : Calendar.DateTime}
    {raw_data : Value} {context : CleanedGlobalContext}
    (conforms : Conforms (.record market_data_raw) raw_data)
    (extracted : extract_global_context pydantic now raw_data = .ok context)
    {step : ℚ} {atm_strike : Float} (at_money : context.atm_strike = .ok atm_strike)
    {options enriched : List CleanedOptionData} (grid : Grid step atm_strike options)
    (processed : calculate_percentages context options = .ok enriched) :
    TenStepsVisible step atm_strike context.step_size options enriched ↔
      StepsNear step atm_strike options := by
  have tick := tick_size_eq conforms extracted
  rw [calculate_percentages, at_money] at processed
  rw [tick] at processed ⊢
  replace processed : enrich_options options atm_strike 0.05 = .ok enriched := processed
  exact ⟨StepsNear.of_visible processed grid.distinct,
    StepsNear.visible processed grid.distinct⟩

/-- `StepsFrom` for a spot price of 24750 and strikes 50 apart. -/
theorem steps_from_spot :
    StepsFrom 50 24750 24700 (-1) ∧ StepsFrom 50 24750 24750 0 ∧
      StepsFrom 50 24750 24800 1 := by
  obtain ⟨below, at_money, above⟩ : exact 24700 = some 24700 ∧
      exact 24750 = some 24750 ∧ exact 24800 = some 24800 := by with_unfolding_all decide
  refine ⟨⟨24750, at_money, ?_⟩, ⟨24750, at_money, ?_⟩, ⟨24750, at_money, ?_⟩⟩
  · rw [below]
    norm_num
  · rw [at_money]
    norm_num
  · rw [above]
    norm_num

def call (strike : Float) (oi : ℤ) : CleanedOptionData :=
  { strike, option_type := .CE, oi }

/-- The context of a message of which the spot price is a strike. -/
def nifty_context : CleanedGlobalContext where
  symbol := "NIFTY"
  symbol_id := 13
  spot_price := 24750
  spot_change := 61.5
  spot_change_pct := 0.25
  total_call_oi := 1200
  total_put_oi := 900
  pcr_ratio := 0.75
  atm_iv := 14.5
  atm_iv_change := 0
  max_pain_strike := 24700
  days_to_expiry := 3
  lot_size := 75
  tick_size := 0.05
  exchange := "NSE"
  segment := "D"
  probe_id := none
  timestamp := Processor.noon

theorem nifty_context_extracted :
    extract_global_context exactPydantic Processor.noon (niftyMessage (.float 61.5)) =
      .ok nifty_context := rfl

theorem nifty_context_atm_strike : nifty_context.atm_strike = .ok 24750 := by
  decide +kernel

theorem ten_steps_visible_iff_one_strike :
    ∃ enriched, calculate_percentages nifty_context [call 24750 100] = .ok enriched ∧
      (TenStepsVisible 50 24750 nifty_context.step_size [call 24750 100] enriched ↔
        StepsNear 50 24750 [call 24750 100]) := by
  have grid : Grid 50 24750 [call 24750 100] :=
    { positive := by norm_num
      spaced := by
        rintro opt member
        obtain rfl := List.mem_singleton.mp member
        exact ⟨0, steps_from_spot.2.1⟩
      distinct := List.nodup_singleton _ }
  have processed : calculate_percentages nifty_context [call 24750 100] = .ok _ := rfl
  exact ⟨_, processed, ten_steps_visible_iff (niftyMessage_conforms (.inr ⟨61.5, rfl⟩))
    nifty_context_extracted nifty_context_atm_strike grid processed⟩

/-- Three strikes 50 apart: the one with the largest open interest is given 300
percent. -/
def three_calls : List CleanedOptionData :=
  [call 24700 300, call 24750 100, call 24800 200]

theorem ten_steps_visible_fails :
    Conforms (.record market_data_raw) (niftyMessage (.float 61.5)) ∧
      Grid 50 24750 three_calls ∧
      ∃ enriched, calculate_percentages nifty_context three_calls = .ok enriched ∧
        enriched.map (·.oi_pct) = [some 300, some 100, some 200] ∧
        ¬TenStepsVisible 50 24750 nifty_context.step_size three_calls enriched := by
  obtain ⟨below, at_money, above⟩ := steps_from_spot
  have grid : Grid 50 24750 three_calls :=
    { positive := by norm_num
      spaced := by
        simp only [three_calls, List.forall_mem_cons, List.not_mem_nil,
          false_implies, implies_true, and_true]
        exact ⟨⟨-1, below⟩, ⟨0, at_money⟩, ⟨1, above⟩⟩
      distinct := by decide }
  refine ⟨niftyMessage_conforms (.inr ⟨61.5, rfl⟩), grid, _, rfl, by decide, ?_⟩
  intro claimed
  have visible := claimed.visible (call 24700 300) (by simp [three_calls])
    ⟨-1, by norm_num, below⟩
  exact absurd visible (by decide)

end HftEngine.Pipeline
