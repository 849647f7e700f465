import HftEngine.Backend.ChartOfAccuracy.MirrorLevels

/-!
# The order of the levels

On a grid of strikes with the calls above the spot price and the puts below it, the level
of the support is below the spot price and that of the resistance above it.  In each
scenario the bottom is below the top, also where one of them is a step off a competitor.
-/

namespace HftEngine.Backend.ChartOfAccuracy

/-- A chain on a uniform grid, out of the money. -/
structure OnGrid (options : List OptionContract) (spot_price step_size : ℚ) : Prop where
  step : 0 < step_size
  grid : ∃ base : ℚ, ∀ o ∈ options, ∃ k : ℤ, o.strike = base + k * step_size
  calls : ∀ o ∈ options, o.option_type = .CE → spot_price < o.strike
  puts : ∀ o ∈ options, o.option_type = .PE → 0 < o.strike ∧ o.strike < spot_price
  prices : ∀ o ∈ options, 0 < o.ltp

def Listed (options : List OptionContract) (side : OptionType) (strike : ℚ) : Prop :=
  ∃ o ∈ options, o.option_type = side ∧ o.strike = strike

/-! ## Strikes that are found -/

section Found

variable {wtt_threshold : ℚ} {options : List OptionContract} {side : OptionType}

theorem listed_of_mem {opt : Scored} (member : opt ∈ scores (side_options side options)) :
    Listed options side opt.option.strike := by
  obtain ⟨o, among, rfl⟩ := List.mem_map.mp member
  obtain ⟨listed, kind⟩ := List.mem_filter.mp among
  exact ⟨o, listed, of_decide_eq_true kind, rfl⟩

theorem listed_of_chosen {first : Scored} {second : Option Scored}
    (taken : chosen wtt_threshold side options = some (first, second)) :
    Listed options side first.option.strike ∧
      ∀ competitor ∈ second, Listed options side competitor.option.strike := by
  obtain ⟨opt100, found, same⟩ := Option.map_eq_some_iff.mp taken
  obtain ⟨rfl, rfl⟩ := Prod.mk.inj same
  constructor
  · have listed := List.mem_of_mem_head? (Option.ite_none_left_eq_some.mp found).2
    rw [(Ranking.perm_descending _ _).mem_iff] at listed
    exact listed_of_mem listed
  · intro competitor top
    have listed := List.mem_of_mem_head? top
    rw [(Ranking.perm_descending _ _).mem_iff] at listed
    exact listed_of_mem (List.mem_filter.mp listed).1

theorem listed_primary
    (known : (detect_strength wtt_threshold options side).strength ≠ .Unknown) :
    Listed options side (detect_strength wtt_threshold options side).strike100 := by
  cases taken : chosen wtt_threshold side options with
  | none =>
      rw [detect_strength, taken] at known
      exact absurd rfl known
  | some pair =>
      obtain ⟨first, second⟩ := pair
      rw [detect_strength, taken]
      exact (listed_of_chosen taken).1

theorem listed_competitor {strike2nd : ℚ}
    (competitor : (detect_strength wtt_threshold options side).strike2nd = some strike2nd) :
    Listed options side strike2nd := by
  cases taken : chosen wtt_threshold side options with
  | none =>
      rw [detect_strength, taken] at competitor
      cases competitor
  | some pair =>
      obtain ⟨first, second⟩ := pair
      rw [detect_strength, taken] at competitor
      obtain ⟨second, top, rfl⟩ := Option.map_eq_some_iff.mp competitor
      exact (listed_of_chosen taken).2 second top

end Found

/-- What is known of the result of a side. -/
structure Found (options : List OptionContract) (side : OptionType) (r : StrengthResult) :
    Prop where
  primary : r.strength ≠ .Unknown → Listed options side r.strike100
  moving : r.strength = .WTT ∨ r.strength = .WTB →
    ∃ strike2nd, r.strike2nd = some strike2nd ∧ Listed options side strike2nd

theorem found_detect_strength (wtt_threshold : ℚ) (options : List OptionContract)
    (side : OptionType) : Found options side (detect_strength wtt_threshold options side) where
  primary := listed_primary
  moving moving := by
    obtain ⟨strike2nd, competitor⟩ :=
      (detect_strength_shape wtt_threshold options side).competitor moving
    exact ⟨strike2nd, competitor, listed_competitor competitor⟩

/-! ## The grid -/

/-- The price is positive from the first option at the strike on. -/
theorem foldl_ltp_pos {side : OptionType} {strike : Option ℚ} {options : List OptionContract}
    (prices : ∀ o ∈ options, 0 < o.ltp) {ltp : ℚ}
    (reached : 0 < ltp ∨ ∃ o ∈ options, o.option_type = side ∧ some o.strike = strike) :
    0 < options.foldl (fun ltp opt =>
      if opt.option_type = side ∧ some opt.strike = strike then opt.ltp else ltp) ltp := by
  induction options generalizing ltp with
  | nil => exact reached.resolve_right (by simp)
  | cons o options ih =>
      apply ih (fun other member => prices other (List.mem_cons_of_mem o member))
      dsimp only
      split
      case isTrue => exact .inl (prices o List.mem_cons_self)
      case isFalse other =>
        rcases reached with positive | ⟨found, member, here⟩
        · exact .inl positive
        · rcases List.mem_cons.mp member with rfl | later
          · exact absurd here other
          · exact .inr ⟨found, later, here⟩

section Grid

variable {options : List OptionContract} {spot_price step_size : ℚ}
  (on_grid : OnGrid options spot_price step_size)

include on_grid

/-- What the filter leaves of the chain. -/
theorem OnGrid.sublist {kept : List OptionContract} (among : ∀ o ∈ kept, o ∈ options) :
    OnGrid kept spot_price step_size := by
  obtain ⟨base, places⟩ := on_grid.grid
  exact ⟨on_grid.step, ⟨base, fun o member => places o (among o member)⟩,
    fun o member => on_grid.calls o (among o member),
    fun o member => on_grid.puts o (among o member),
    fun o member => on_grid.prices o (among o member)⟩

theorem OnGrid.call {strike : ℚ} (listed : Listed options .CE strike) : spot_price < strike := by
  obtain ⟨o, member, kind, rfl⟩ := listed
  exact on_grid.calls o member kind

theorem OnGrid.put {strike : ℚ} (listed : Listed options .PE strike) :
    0 < strike ∧ strike < spot_price := by
  obtain ⟨o, member, kind, rfl⟩ := listed
  exact on_grid.puts o member kind

/-- A put and a call are at least a step apart. -/
theorem OnGrid.apart {put call : ℚ} (below : Listed options .PE put)
    (above : Listed options .CE call) : put + step_size ≤ call := by
  have order : put < call := (on_grid.put below).2.trans (on_grid.call above)
  obtain ⟨base, places⟩ := on_grid.grid
  obtain ⟨low, low_member, -, rfl⟩ := below
  obtain ⟨high, high_member, -, rfl⟩ := above
  obtain ⟨j, low_place⟩ := places low low_member
  obtain ⟨k, high_place⟩ := places high high_member
  rw [low_place, high_place] at order ⊢
  have before : (j : ℚ) < k := lt_of_mul_lt_mul_right (by linarith) on_grid.step.le
  have next : (j : ℚ) + 1 ≤ k := by exact_mod_cast before
  have scaled := mul_le_mul_of_nonneg_right next on_grid.step.le
  linarith

theorem OnGrid.ltp_pos {side : OptionType} {strike : ℚ} (listed : Listed options side strike) :
    0 < ltp_at options side (some strike) := by
  obtain ⟨o, member, kind, rfl⟩ := listed
  exact foldl_ltp_pos on_grid.prices (.inr ⟨o, member, kind, rfl⟩)

end Grid

/-! ## The levels -/

/-- The bottom is below the top where the levels are, and where the competitor's are. -/
theorem bottom_of_lt_top_of {id : ScenarioId}
    {eos eos_minus1 below eor eor_plus1 above top bottom : ℚ} (levels : eos < eor)
    (lower : eos_minus1 < eor) (upper : eos < eor_plus1) (top_above : id = .s1_2 → eos < above)
    (bottom_below : id = .s1_3 → below < eor) (given_top : top_of id eor eor_plus1 above = some top)
    (given_bottom : bottom_of id eos eos_minus1 below = some bottom) : bottom < top := by
  cases id <;> simp_all [top_of, bottom_of]

theorem unless_zero_lt {base level bound : ℚ} (positive : 0 < bound) (below : level < bound) :
    unless_zero base level < bound := by
  unfold unless_zero
  split
  · exact positive
  · exact below

theorem lt_unless_zero {base level bound : ℚ} (nonzero : base ≠ 0) (above : bound < level) :
    bound < unless_zero base level := by
  rwa [unless_zero_of_ne nonzero]

theorem known_of_scenario {support resistance : StrengthResult}
    (classified : (classify_scenario support resistance).id ≠ .unknown) :
    support.strength ≠ .Unknown ∧ resistance.strength ≠ .Unknown := by
  constructor
  · exact fun unknown =>
      classified (classify_scenario_unknown support resistance (.inl unknown))
  · exact fun unknown =>
      classified (classify_scenario_unknown support resistance (.inr unknown))

section Levels

variable {options : List OptionContract} {spot_price step_size : ℚ}
  {support resistance : StrengthResult} (scenario : ScenarioResult)
  (on_grid : OnGrid options spot_price step_size)

include on_grid

theorem eos_eq (supports : Found options .PE support) (known : support.strength ≠ .Unknown) :
    (calculate_levels options support resistance scenario step_size).eos =
      support.strike100 - ltp_at options .PE (some support.strike100) :=
  unless_zero_of_ne (on_grid.put (supports.primary known)).1.ne' _

theorem eor_eq (resists : Found options .CE resistance) (known : resistance.strength ≠ .Unknown)
    (positive : 0 < spot_price) :
    (calculate_levels options support resistance scenario step_size).eor =
      resistance.strike100 + ltp_at options .CE (some resistance.strike100) :=
  unless_zero_of_ne (positive.trans (on_grid.call (resists.primary known))).ne' _

/-- The levels on both sides of the spot price. -/
theorem eos_lt_spot_lt_eor (supports : Found options .PE support)
    (resists : Found options .CE resistance) (below : support.strength ≠ .Unknown)
    (above : resistance.strength ≠ .Unknown) :
    0 < spot_price ∧
      (calculate_levels options support resistance scenario step_size).eos < spot_price ∧
      spot_price < (calculate_levels options support resistance scenario step_size).eor := by
  have put := on_grid.put (supports.primary below)
  have call := on_grid.call (resists.primary above)
  have positive := put.1.trans put.2
  have put_price := on_grid.ltp_pos (supports.primary below)
  have call_price := on_grid.ltp_pos (resists.primary above)
  rw [eos_eq scenario on_grid supports below, eor_eq scenario on_grid resists above positive]
  refine ⟨positive, ?_, ?_⟩
  · linarith
  · linarith

/-- A resistance that moves up stays above the level of the support. -/
theorem eos_lt_top_above (supports : Found options .PE support)
    (resists : Found options .CE resistance) (known : support.strength ≠ .Unknown)
    (moving : resistance.strength = .WTT) :
    (calculate_levels options support resistance scenario step_size).eos <
      top_above (resistance.strike2nd.getD 0) (diversion options .CE resistance.strike2nd)
        (calculate_levels options support resistance scenario step_size).eor_minus1
        step_size := by
  obtain ⟨strike2nd, competitor, listed⟩ := resists.moving (.inl moving)
  have put := on_grid.put (supports.primary known)
  have put_price := on_grid.ltp_pos (supports.primary known)
  have call := on_grid.call listed
  have call_price := on_grid.ltp_pos listed
  have apart := on_grid.apart (supports.primary known) listed
  have positive : 0 < strike2nd := by linarith
  have level : diversion options .CE (some strike2nd) =
      strike2nd + ltp_at options .CE (some strike2nd) := rfl
  have nonzero : ¬(strike2nd = 0 ∨ strike2nd + ltp_at options .CE (some strike2nd) = 0) := by
    rintro (zero | zero) <;> linarith
  rw [eos_eq scenario on_grid supports known, competitor, Option.getD_some, level, top_above_eq,
    if_neg nonzero]
  linarith

/-- A support that moves down stays below the level of the resistance. -/
theorem bottom_below_lt_eor (supports : Found options .PE support)
    (resists : Found options .CE resistance) (known : resistance.strength ≠ .Unknown)
    (moving : support.strength = .WTB) :
    bottom_below (support.strike2nd.getD 0) (diversion options .PE support.strike2nd)
        (calculate_levels options support resistance scenario step_size).eos_plus1
        step_size <
      (calculate_levels options support resistance scenario step_size).eor := by
  obtain ⟨strike2nd, competitor, listed⟩ := supports.moving (.inr moving)
  have put := on_grid.put listed
  have put_price := on_grid.ltp_pos listed
  have call_price := on_grid.ltp_pos (resists.primary known)
  have apart := on_grid.apart listed (resists.primary known)
  have level : diversion options .PE (some strike2nd) =
      strike2nd - ltp_at options .PE (some strike2nd) := rfl
  rw [eor_eq scenario on_grid resists known (put.1.trans put.2), competitor,
    Option.getD_some, level,
    bottom_below_eq, if_neg put.1.ne']
  linarith

theorem bottom_lt_top (supports : Found options .PE support)
    (resists : Found options .CE resistance) {top bottom : ℚ}
    (given_top : (calculate_levels options support resistance
      (classify_scenario support resistance) step_size).top = some top)
    (given_bottom : (calculate_levels options support resistance
      (classify_scenario support resistance) step_size).bottom = some bottom) :
    bottom < top := by
  have classified : (classify_scenario support resistance).id ≠ .unknown := by
    intro unknown
    rw [calculate_levels_top, unknown] at given_top
    cases given_top
  obtain ⟨below, above⟩ := known_of_scenario classified
  obtain ⟨positive, low, high⟩ := eos_lt_spot_lt_eor (classify_scenario support resistance)
    on_grid supports resists below above
  have lower := (sub_lt_self _ on_grid.step).trans (low.trans high)
  have upper := (low.trans high).trans (lt_add_of_pos_right _ on_grid.step)
  rw [calculate_levels_top] at given_top
  rw [calculate_levels_bottom] at given_bottom
  apply bottom_of_lt_top_of (low.trans high) _ _ _ _ given_top given_bottom
  · exact unless_zero_lt (positive.trans high) lower
  · exact lt_unless_zero (positive.trans high).ne' upper
  · intro rising
    exact eos_lt_top_above _ on_grid supports resists below (classify_scenario_above.mp rising).2
  · intro falling
    exact bottom_below_lt_eor _ on_grid supports resists above
      (classify_scenario_below.mp falling).1

end Levels

/-- The levels of an analysis are in order. -/
theorem levels_ordered {wtt_threshold : ℚ} {options : List OptionContract}
    {spot_price atm_strike step_size : ℚ} {visible_range : ℤ}
    (on_grid : OnGrid options spot_price step_size) :
    let analysis :=
      analyze wtt_threshold options spot_price atm_strike step_size visible_range
    (analysis.support.strength ≠ .Unknown → analysis.resistance.strength ≠ .Unknown →
      analysis.levels.eos < spot_price ∧ spot_price < analysis.levels.eor) ∧
    ∀ top bottom, analysis.levels.top = some top → analysis.levels.bottom = some bottom →
      bottom < top := by
  have filtered : OnGrid (filtered_options atm_strike step_size visible_range options)
      spot_price step_size :=
    on_grid.sublist (fun _ member => (List.mem_filter.mp member).1)
  have supports := found_detect_strength wtt_threshold
    (filtered_options atm_strike step_size visible_range options) .PE
  have resists := found_detect_strength wtt_threshold
    (filtered_options atm_strike step_size visible_range options) .CE
  constructor
  · intro below above
    exact (eos_lt_spot_lt_eor _ filtered supports resists below above).2
  · intro top bottom given_top given_bottom
    exact bottom_lt_top filtered supports resists given_top given_bottom

/-- A put and two calls of which the further one gains. -/
def gaining_calls : List OptionContract :=
  [{ strike := 950, option_type := .PE, ltp := 20, oi := 100, oi_change := 10, volume := 50 },
    { strike := 1050, option_type := .CE, ltp := 20, oi := 100, oi_change := 10, volume := 50 },
    { strike := 1100, option_type := .CE, ltp := 10, oi := 90, oi_change := 8, volume := 40 }]

theorem onGrid_gaining_calls : OnGrid gaining_calls 1000 50 where
  step := by decide
  grid := by
    refine ⟨950, ?_⟩
    simp only [gaining_calls, List.forall_mem_cons]
    exact ⟨⟨0, by norm_num⟩, ⟨2, by norm_num⟩, ⟨3, by norm_num⟩, by simp⟩
  calls := by decide
  puts := by with_unfolding_all decide
  prices := by decide

/-- The top is a step below the level of the second call. -/
theorem levels_ordered_gaining_calls :
    let levels := (analyze 75 gaining_calls 1000 1000 50 10).levels
    (levels.eos < 1000 ∧ 1000 < levels.eor) ∧
      levels.top = some 1060 ∧ levels.bottom = some 930 ∧ (930 : ℚ) < 1060 := by
  have top : (analyze 75 gaining_calls 1000 1000 50 10).levels.top = some 1060 := by
    with_unfolding_all decide
  have bottom : (analyze 75 gaining_calls 1000 1000 50 10).levels.bottom = some 930 := by
    with_unfolding_all decide
  exact ⟨(levels_ordered onGrid_gaining_calls).1 (by with_unfolding_all decide)
      (by with_unfolding_all decide), top, bottom,
    (levels_ordered onGrid_gaining_calls).2 1060 930 top bottom⟩

end HftEngine.Backend.ChartOfAccuracy
