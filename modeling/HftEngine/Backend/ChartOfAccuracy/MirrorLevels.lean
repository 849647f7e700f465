import HftEngine.Backend.ChartOfAccuracy.Mirror

/-!
# Mirror images of the levels

The levels test strikes and levels against 0, so that their image is that of
the reflected chain where these tests come out alike.  With the strengths this
decides when the analysis of the reflected chain is the image of the analysis.
-/

namespace HftEngine.Backend.ChartOfAccuracy

variable {c : ℚ}

/-- The level of a side beyond a strike by its price. -/
def extension (options : List OptionContract) (side : OptionType) (strike : ℚ) : ℚ :=
  match side with
  | .PE => strike - ltp_at options .PE (some strike)
  | .CE => strike + ltp_at options .CE (some strike)

/-- A number is 0 on the chain when its image is 0 on the image of the chain. -/
def ZeroAlike (c x : ℚ) : Prop :=
  x = 0 ↔ x = c

theorem ltp_at_mirror (options : List OptionContract) (side : OptionType)
    (strike : Option ℚ) :
    ltp_at (options.map (OptionContract.mirror c)) side.opposite
        (strike.map (c - ·)) = ltp_at options side strike := by
  have same : ∀ opt : OptionContract,
      ((opt.mirror c).option_type = side.opposite ∧
        some (opt.mirror c).strike = strike.map (c - ·)) ↔
      (opt.option_type = side ∧ some opt.strike = strike) := by
    intro opt
    apply and_congr
    · cases side <;> cases kind : opt.option_type <;>
        simp [OptionContract.mirror, OptionType.opposite, kind]
    · cases strike <;> simp [OptionContract.mirror]
  simp only [ltp_at, List.foldl_map, same]
  rfl

theorem extension_mirror (options : List OptionContract) (side : OptionType)
    (strike : ℚ) :
    extension (options.map (OptionContract.mirror c)) side.opposite (c - strike) =
      c - extension options side strike := by
  have price := ltp_at_mirror (c := c) options side (some strike)
  cases side with
  | CE =>
      simp only [extension, OptionType.opposite, Option.map_some] at price ⊢
      linarith
  | PE =>
      simp only [extension, OptionType.opposite, Option.map_some] at price ⊢
      linarith

theorem unless_zero_of_ne {base : ℚ} (nonzero : base ≠ 0) (level : ℚ) :
    unless_zero base level = level :=
  if_neg nonzero

@[simp] theorem unless_zero_zero (level : ℚ) : unless_zero 0 level = 0 :=
  if_pos rfl

theorem unless_zero_reflect {base : ℚ} (alike : ZeroAlike c base) (level : ℚ) :
    unless_zero (c - base) (c - level) = c - unless_zero base level := by
  by_cases zero : base = 0
  · obtain rfl : base = c := alike.mp zero
    simp [zero]
  · have other : c - base ≠ 0 := by
      intro same
      exact zero (alike.mpr (sub_eq_zero.mp same).symm)
    rw [unless_zero_of_ne other, unless_zero_of_ne zero]

theorem ZeroAlike.unless_zero {strike level : ℚ} (strikes : ZeroAlike c strike)
    (levels : ZeroAlike c level) : ZeroAlike c (unless_zero strike level) := by
  by_cases zero : strike = 0
  · obtain rfl : strike = c := strikes.mp zero
    simp [zero, ZeroAlike]
  · rwa [unless_zero_of_ne zero]

theorem stepped_mirror {base : ℚ} (alike : ZeroAlike c base) (step : ℚ) :
    unless_zero (c - base) (c - base - step) =
      c - unless_zero base (base + step) := by
  rw [← unless_zero_reflect alike]
  congr 1
  ring

/-- A level whose image one step on is reflected is tested against 0 alike. -/
theorem zeroAlike_of_stepped {base step : ℚ} (moves : step ≠ 0)
    (stepped : unless_zero (c - base) (c - base - step) =
      c - unless_zero base (base + step)) : ZeroAlike c base := by
  constructor
  · intro zero
    by_contra other
    have here : c - base ≠ 0 := fun same => other (sub_eq_zero.mp same).symm
    rw [unless_zero_of_ne here, zero, unless_zero_zero] at stepped
    exact moves (by linarith)
  · intro same
    by_contra nonzero
    rw [unless_zero_of_ne nonzero, same, sub_self, unless_zero_zero] at stepped
    exact moves (by linarith)

/-- The level of a side and the level one step from it are reflected exactly
when the tests against 0 come out alike. -/
theorem base_mirror_iff {step : ℚ} (moves : step ≠ 0) {strike level : ℚ} :
    (unless_zero (c - strike) (c - level) = c - unless_zero strike level ∧
      unless_zero (unless_zero (c - strike) (c - level))
          (unless_zero (c - strike) (c - level) - step) =
        c - unless_zero (unless_zero strike level)
          (unless_zero strike level + step)) ↔
      ZeroAlike c strike ∧ ZeroAlike c level := by
  constructor
  · rintro ⟨base, stepped⟩
    rw [base] at stepped
    have alike := zeroAlike_of_stepped moves stepped
    by_cases zero : strike = 0
    · subst zero
      obtain rfl : 0 = c := by simpa using alike.mp (unless_zero_zero level)
      exact ⟨Iff.rfl, Iff.rfl⟩
    · rw [unless_zero_of_ne zero] at base alike
      refine ⟨iff_of_false zero ?_, alike⟩
      rintro rfl
      rw [sub_self, unless_zero_zero, eq_comm, sub_eq_zero] at base
      exact zero (base.trans (alike.mpr base.symm))
  · rintro ⟨strikes, levels⟩
    have base := unless_zero_reflect strikes level
    rw [base]
    exact ⟨rfl, stepped_mirror (strikes.unless_zero levels) step⟩

theorem unless_zero_eq_zero {base level : ℚ} :
    unless_zero base level = 0 ↔ base = 0 ∨ level = 0 := by
  unfold unless_zero
  split
  case isTrue zero => simp [zero]
  case isFalse nonzero => simp [nonzero]

/-- Two choices between a level and its replacement. -/
theorem choice_mirror_iff {here there : Prop} [Decidable here] [Decidable there]
    {level fallback : ℚ} :
    (if there then c - fallback else c - level) =
        c - (if here then fallback else level) ↔
      level = fallback ∨ (there ↔ here) := by
  by_cases first : there
  · by_cases second : here
    · simp [first, second]
    · simp [first, second, sub_right_inj, eq_comm]
  · by_cases second : here
    · simp [first, second, sub_right_inj]
    · simp [first, second]

theorem top_above_eq (strike level fallback step : ℚ) :
    top_above strike level fallback step =
      if strike = 0 ∨ level = 0 then fallback else level - step := by
  simp only [top_above, unless_zero_eq_zero]
  split
  · rfl
  · rename_i nonzero
    rw [unless_zero_of_ne (fun zero => nonzero (.inl zero))]

theorem bottom_below_eq (strike level fallback step : ℚ) :
    bottom_below strike level fallback step =
      if strike = 0 then fallback else level + step := by
  unfold bottom_below
  split
  · rfl
  · rename_i nonzero
    rw [unless_zero_of_ne nonzero]

theorem bottom_below_mirror_iff {strike level fallback step : ℚ} :
    bottom_below (c - strike) (c - level) (c - fallback) step =
        c - top_above strike level fallback step ↔
      level - step = fallback ∨ (strike = c ↔ strike = 0 ∨ level = 0) := by
  have reached : c - strike = 0 ↔ strike = c := by
    rw [sub_eq_zero, eq_comm]
  have stepped : c - level + step = c - (level - step) := by ring
  rw [bottom_below_eq, top_above_eq, stepped]
  simp only [reached]
  exact choice_mirror_iff

theorem top_above_mirror_iff {strike level fallback step : ℚ} :
    top_above (c - strike) (c - level) (c - fallback) step =
        c - bottom_below strike level fallback step ↔
      level + step = fallback ∨ (strike = c ∨ level = c ↔ strike = 0) := by
  have reached : ∀ x, c - x = 0 ↔ x = c := by
    intro x
    rw [sub_eq_zero, eq_comm]
  have stepped : c - level - step = c - (level + step) := by ring
  rw [bottom_below_eq, top_above_eq, stepped]
  simp only [reached]
  exact choice_mirror_iff

/-- EOS or EOR. -/
def base (options : List OptionContract) (side : OptionType) (strike100 : ℚ) : ℚ :=
  unless_zero strike100 (extension options side strike100)

/-- What `detect_strength` returns. -/
inductive Shape (r : StrengthResult) : Prop where
  | absent (unknown : r.strength = .Unknown) (zero : r.strike100 = 0)
  | strong (strong : r.strength = .Strong)
  | moving (moving : r.strength = .WTT ∨ r.strength = .WTB) (strike2nd : ℚ)
      (competitor : r.strike2nd = some strike2nd)

def SideSafe (c : ℚ) (options : List OptionContract) (side : OptionType)
    (r : StrengthResult) : Prop :=
  r.strength ≠ .Unknown →
    ZeroAlike c r.strike100 ∧ ZeroAlike c (extension options side r.strike100)

theorem base_image (options : List OptionContract) (side : OptionType)
    {r : StrengthResult} (known : r.strength ≠ .Unknown) :
    base (options.map (OptionContract.mirror c)) side.opposite
        (r.mirror c).strike100 =
      unless_zero (c - r.strike100) (c - extension options side r.strike100) := by
  have strike : (r.mirror c).strike100 = c - r.strike100 := if_neg known
  rw [base, strike, extension_mirror]

theorem base_zero (options : List OptionContract) (side : OptionType) :
    base options side 0 = 0 :=
  unless_zero_zero _

theorem absent_image {r : StrengthResult} (unknown : r.strength = .Unknown)
    (zero : r.strike100 = 0) : (r.mirror c).strike100 = 0 := by
  rw [StrengthResult.mirror, if_pos unknown, zero]

theorem Shape.absent_zero {r : StrengthResult} (shape : Shape r)
    (unknown : r.strength = .Unknown) : r.strike100 = 0 := by
  cases shape with
  | absent _ zero => exact zero
  | strong strong => simp [strong] at unknown
  | moving moving => rcases moving with up | down <;> simp_all

section Side

variable (options : List OptionContract) (side : OptionType) {r : StrengthResult}
  {level image : ℚ} (here : level = base options side r.strike100)
  (there : image = base (options.map (OptionContract.mirror c)) side.opposite
    (r.mirror c).strike100)

include here there

/-- A side that is not found has its level at 0, on the image too. -/
theorem side_absent (shape : Shape r) (unknown : r.strength = .Unknown) :
    level = 0 ∧ image = 0 := by
  have zero := shape.absent_zero unknown
  rw [zero, base_zero] at here
  rw [absent_image unknown zero, base_zero] at there
  exact ⟨here, there⟩

theorem side_mirror_iff (shape : Shape r) {step : ℚ} (moves : step ≠ 0) :
    (image = reflect c r level ∧
      unless_zero image (image - step) =
        reflect c r (unless_zero level (level + step))) ↔
      SideSafe c options side r := by
  by_cases unknown : r.strength = .Unknown
  · obtain ⟨rfl, rfl⟩ := side_absent options side here there shape unknown
    simp [reflect, unknown, SideSafe]
  · rw [base_image _ _ unknown] at there
    rw [base] at here
    subst here there
    simp only [reflect, if_neg unknown]
    rw [base_mirror_iff moves, SideSafe, imp_iff_right unknown]

theorem side_mirror (shape : Shape r) (safe : SideSafe c options side r) (step : ℚ) :
    image = reflect c r level ∧
      unless_zero image (image - step) =
        reflect c r (unless_zero level (level + step)) := by
  by_cases unknown : r.strength = .Unknown
  · obtain ⟨rfl, rfl⟩ := side_absent options side here there shape unknown
    simp [reflect, unknown]
  · obtain ⟨strikes, levels⟩ := safe unknown
    rw [base_image _ _ unknown, unless_zero_reflect strikes] at there
    rw [base] at here
    subst here there
    simp only [reflect, if_neg unknown, true_and]
    exact stepped_mirror (strikes.unless_zero levels) step

end Side

/-! ## Top and bottom -/

theorem top_of_mirror_iff {id : ScenarioId} {eos eos_minus1 below above : ℚ} :
    top_of id.mirror (c - eos) (c - eos_minus1) above =
        (bottom_of id eos eos_minus1 below).map (c - ·) ↔
      (id = .s1_3 → above = c - below) := by
  cases id <;> simp [top_of, bottom_of, ScenarioId.mirror]

theorem bottom_of_mirror_iff {id : ScenarioId} {eor eor_plus1 below above : ℚ} :
    bottom_of id.mirror (c - eor) (c - eor_plus1) below =
        (top_of id eor eor_plus1 above).map (c - ·) ↔
      (id = .s1_2 → below = c - above) := by
  cases id <;> simp [top_of, bottom_of, ScenarioId.mirror]

/-- The top of a weakening resistance reads alike on the image. -/
def AboveSafe (c step : ℚ) (options : List OptionContract) (strike100 strike2nd : ℚ) :
    Prop :=
  extension options .CE strike2nd - step =
      unless_zero (base options .CE strike100) (base options .CE strike100 - step) ∨
    (strike2nd = c ↔ strike2nd = 0 ∨ extension options .CE strike2nd = 0)

/-- The bottom of a weakening support reads alike on the image. -/
def BelowSafe (c step : ℚ) (options : List OptionContract) (strike100 strike2nd : ℚ) :
    Prop :=
  extension options .PE strike2nd + step =
      unless_zero (base options .PE strike100) (base options .PE strike100 + step) ∨
    (strike2nd = c ∨ extension options .PE strike2nd = c ↔ strike2nd = 0)

structure LevelsSafe (c step : ℚ) (options : List OptionContract)
    (support resistance : StrengthResult) : Prop where
  supports : SideSafe c options .PE support
  resists : SideSafe c options .CE resistance
  above : support.strength = .Strong → resistance.strength = .WTT →
    ∀ strike2nd, resistance.strike2nd = some strike2nd →
      AboveSafe c step options resistance.strike100 strike2nd
  below : support.strength = .WTB → resistance.strength = .Strong →
    ∀ strike2nd, support.strike2nd = some strike2nd →
      BelowSafe c step options support.strike100 strike2nd

theorem classify_scenario_below {support resistance : StrengthResult} :
    (classify_scenario support resistance).id = .s1_3 ↔
      support.strength = .WTB ∧ resistance.strength = .Strong := by
  rw [classify_scenario]
  cases support.strength <;> cases resistance.strength <;> simp

theorem classify_scenario_above {support resistance : StrengthResult} :
    (classify_scenario support resistance).id = .s1_2 ↔
      support.strength = .Strong ∧ resistance.strength = .WTT := by
  rw [classify_scenario]
  cases support.strength <;> cases resistance.strength <;> simp

theorem classify_scenario_unknown (support resistance : StrengthResult)
    (unknown : support.strength = .Unknown ∨ resistance.strength = .Unknown) :
    (classify_scenario support resistance).id = .unknown := by
  rw [classify_scenario]
  rcases unknown with absent | absent
  · simp [absent]
  · rw [absent]
    cases support.strength <;> rfl

theorem Shape.competitor {r : StrengthResult} (shape : Shape r)
    (moving : r.strength = .WTT ∨ r.strength = .WTB) :
    ∃ strike2nd, r.strike2nd = some strike2nd := by
  cases shape with
  | absent unknown => simp [unknown] at moving
  | strong strong => simp [strong] at moving
  | moving _ strike2nd competitor => exact ⟨strike2nd, competitor⟩

section Diversions

variable {options : List OptionContract} {r : StrengthResult} {strike2nd : ℚ}
  (competitor : r.strike2nd = some strike2nd) {fallback step : ℚ}

include competitor

theorem strike2nd_image : (r.mirror c).strike2nd = some (c - strike2nd) := by
  simp [StrengthResult.mirror, competitor]

theorem above_image_iff :
    top_above ((r.mirror c).strike2nd.getD 0)
        (diversion (options.map (OptionContract.mirror c)) .CE (r.mirror c).strike2nd)
        (c - fallback) step =
      c - bottom_below (r.strike2nd.getD 0) (diversion options .PE r.strike2nd)
        fallback step ↔
    (extension options .PE strike2nd + step = fallback ∨
      (strike2nd = c ∨ extension options .PE strike2nd = c ↔ strike2nd = 0)) := by
  have level : diversion (options.map (OptionContract.mirror c)) .CE
      (some (c - strike2nd)) = c - extension options .PE strike2nd :=
    extension_mirror options .PE strike2nd
  rw [strike2nd_image competitor, competitor, level]
  exact top_above_mirror_iff

theorem below_image_iff :
    bottom_below ((r.mirror c).strike2nd.getD 0)
        (diversion (options.map (OptionContract.mirror c)) .PE (r.mirror c).strike2nd)
        (c - fallback) step =
      c - top_above (r.strike2nd.getD 0) (diversion options .CE r.strike2nd)
        fallback step ↔
    (extension options .CE strike2nd - step = fallback ∨
      (strike2nd = c ↔ strike2nd = 0 ∨ extension options .CE strike2nd = 0)) := by
  have level : diversion (options.map (OptionContract.mirror c)) .PE
      (some (c - strike2nd)) = c - extension options .CE strike2nd :=
    extension_mirror options .CE strike2nd
  rw [strike2nd_image competitor, competitor, level]
  exact bottom_below_mirror_iff

end Diversions

section Images

variable {options : List OptionContract} {support resistance : StrengthResult}
  {step : ℚ}

/-- The levels of the chain and of its image, with the scenario of the chain. -/
def levels (options : List OptionContract) (support resistance : StrengthResult)
    (step : ℚ) : TradingLevels :=
  calculate_levels options support resistance (classify_scenario support resistance)
    step

def levels_image (c : ℚ) (options : List OptionContract)
    (support resistance : StrengthResult) (step : ℚ) : TradingLevels :=
  calculate_levels (options.map (OptionContract.mirror c)) (resistance.mirror c)
    (support.mirror c) (classify_scenario support resistance).mirror step

theorem top_mirror_iff (supports : Shape support)
    (eor : (levels_image c options support resistance step).eor =
      reflect c support (levels options support resistance step).eos)
    (eor_plus1 : (levels_image c options support resistance step).eor_plus1 =
      reflect c support (levels options support resistance step).eos_minus1)
    (eor_minus1 : (levels_image c options support resistance step).eor_minus1 =
      reflect c support (levels options support resistance step).eos_plus1) :
    (levels_image c options support resistance step).top =
        (levels options support resistance step).bottom.map (c - ·) ↔
      (support.strength = .WTB → resistance.strength = .Strong →
        ∀ strike2nd, support.strike2nd = some strike2nd →
          BelowSafe c step options support.strike100 strike2nd) := by
  rw [levels_image, levels] at eor eor_plus1 eor_minus1 ⊢
  rw [calculate_levels_top, calculate_levels_bottom, eor, eor_plus1, eor_minus1]
  by_cases unknown : support.strength = .Unknown
  · have id := classify_scenario_unknown support resistance (.inl unknown)
    simp [ScenarioResult.mirror, id, ScenarioId.mirror, top_of, bottom_of, unknown]
  · simp only [reflect, if_neg unknown, ScenarioResult.mirror]
    rw [top_of_mirror_iff, classify_scenario_below, and_imp]
    apply imp_congr_right
    intro moving
    obtain ⟨strike2nd, competitor⟩ := supports.competitor (.inr moving)
    rw [above_image_iff competitor, competitor]
    simp [BelowSafe, calculate_levels, base, extension]

theorem bottom_mirror_iff (resists : Shape resistance)
    (eos : (levels_image c options support resistance step).eos =
      reflect c resistance (levels options support resistance step).eor)
    (eos_plus1 : (levels_image c options support resistance step).eos_plus1 =
      reflect c resistance (levels options support resistance step).eor_minus1)
    (eos_minus1 : (levels_image c options support resistance step).eos_minus1 =
      reflect c resistance (levels options support resistance step).eor_plus1) :
    (levels_image c options support resistance step).bottom =
        (levels options support resistance step).top.map (c - ·) ↔
      (support.strength = .Strong → resistance.strength = .WTT →
        ∀ strike2nd, resistance.strike2nd = some strike2nd →
          AboveSafe c step options resistance.strike100 strike2nd) := by
  rw [levels_image, levels] at eos eos_plus1 eos_minus1 ⊢
  rw [calculate_levels_top, calculate_levels_bottom, eos, eos_plus1, eos_minus1]
  by_cases unknown : resistance.strength = .Unknown
  · have id := classify_scenario_unknown support resistance (.inr unknown)
    simp [ScenarioResult.mirror, id, ScenarioId.mirror, top_of, bottom_of, unknown]
  · simp only [reflect, if_neg unknown, ScenarioResult.mirror]
    rw [bottom_of_mirror_iff, classify_scenario_above, and_imp]
    apply imp_congr_right
    intro _
    apply imp_congr_right
    intro moving
    obtain ⟨strike2nd, competitor⟩ := resists.competitor (.inl moving)
    rw [below_image_iff competitor, competitor]
    simp [AboveSafe, calculate_levels, base, extension]

/-- The levels next to EOS and EOR on the image, in the order of the fields. -/
structure SidesReflected (c step : ℚ) (options : List OptionContract)
    (support resistance : StrengthResult) : Prop where
  eos : (levels_image c options support resistance step).eos =
    reflect c resistance (levels options support resistance step).eor
  eor : (levels_image c options support resistance step).eor =
    reflect c support (levels options support resistance step).eos
  eos_plus1 : (levels_image c options support resistance step).eos_plus1 =
    reflect c resistance (levels options support resistance step).eor_minus1
  eos_minus1 : (levels_image c options support resistance step).eos_minus1 =
    reflect c resistance (levels options support resistance step).eor_plus1
  eor_plus1 : (levels_image c options support resistance step).eor_plus1 =
    reflect c support (levels options support resistance step).eos_minus1
  eor_minus1 : (levels_image c options support resistance step).eor_minus1 =
    reflect c support (levels options support resistance step).eos_plus1

theorem sides_reflected_iff (supports : Shape support) (resists : Shape resistance)
    (moves : step ≠ 0) :
    SidesReflected c step options support resistance ↔
      SideSafe c options .PE support ∧ SideSafe c options .CE resistance := by
  constructor
  · intro reflected
    constructor
    · apply (side_mirror_iff options .PE rfl rfl supports moves).mp
      exact ⟨reflected.eor, reflected.eor_minus1⟩
    · apply (side_mirror_iff options .CE rfl rfl resists (neg_ne_zero.mpr moves)).mp
      refine ⟨reflected.eos, ?_⟩
      rw [sub_neg_eq_add, ← sub_eq_add_neg]
      exact reflected.eos_plus1
  · rintro ⟨support_safe, resistance_safe⟩
    have down := side_mirror options .PE rfl rfl supports support_safe step
    have up := side_mirror options .PE rfl rfl supports support_safe (-step)
    have upper := side_mirror options .CE rfl rfl resists resistance_safe step
    have lower := side_mirror options .CE rfl rfl resists resistance_safe (-step)
    rw [sub_neg_eq_add, ← sub_eq_add_neg] at up lower
    exact
      { eos := lower.1
        eor := down.1
        eos_plus1 := lower.2
        eos_minus1 := upper.2
        eor_plus1 := up.2
        eor_minus1 := down.2 }

variable (c options support resistance step) in
theorem trades_mirror :
    (levels_image c options support resistance step).trade_at_eos =
        (levels options support resistance step).trade_at_eor ∧
      (levels_image c options support resistance step).trade_at_eor =
        (levels options support resistance step).trade_at_eos := by
  rw [levels_image, levels, calculate_levels, calculate_levels,
    ScenarioResult.mirror]
  cases (classify_scenario support resistance).id <;> exact ⟨rfl, rfl⟩

variable (options) in
theorem levels_mirror_iff (supports : Shape support) (resists : Shape resistance)
    (moves : step ≠ 0) :
    levels_image c options support resistance step =
        (levels options support resistance step).mirror c support resistance ↔
      LevelsSafe c step options support resistance := by
  constructor
  · intro image
    have reflected : SidesReflected c step options support resistance := by
      constructor <;> rw [image] <;> rfl
    obtain ⟨support_safe, resistance_safe⟩ :=
      (sides_reflected_iff supports resists moves).mp reflected
    refine ⟨support_safe, resistance_safe, ?_, ?_⟩
    · apply (bottom_mirror_iff resists reflected.eos reflected.eos_plus1
        reflected.eos_minus1).mp
      rw [image]
      rfl
    · apply (top_mirror_iff supports reflected.eor reflected.eor_plus1
        reflected.eor_minus1).mp
      rw [image]
      rfl
  · intro safe
    have reflected : SidesReflected c step options support resistance :=
      (sides_reflected_iff supports resists moves).mpr ⟨safe.supports, safe.resists⟩
    have top := (top_mirror_iff supports reflected.eor reflected.eor_plus1
      reflected.eor_minus1).mpr safe.below
    have bottom := (bottom_mirror_iff resists reflected.eos reflected.eos_plus1
      reflected.eos_minus1).mpr safe.above
    obtain ⟨at_eos, at_eor⟩ := trades_mirror c options support resistance step
    rw [TradingLevels.mirror, ← reflected.eos, ← reflected.eor, ← reflected.eos_plus1,
      ← reflected.eos_minus1, ← reflected.eor_plus1, ← reflected.eor_minus1, ← top,
      ← bottom, ← at_eos, ← at_eor]

end Images

/-! ## The analysis -/

theorem detect_strength_shape (wtt_threshold : ℚ) (options : List OptionContract)
    (side : OptionType) : Shape (detect_strength wtt_threshold options side) := by
  rw [detect_strength]
  rcases chosen wtt_threshold side options with _ | ⟨opt100, _ | second⟩
  · exact .absent rfl rfl
  · exact .strong rfl
  · apply Shape.moving _ second.option.strike rfl
    have known := strength_of_ne_unknown side opt100.option second.option
    change strength_of side opt100.option second.option = _ ∨
      strength_of side opt100.option second.option = _
    unfold strength_of shift
    cases side <;> split_ifs <;> simp

/-- The chain and its image take the same branches: no primary loses faster than
a competitor that does not gain, and no strike or level that is tested against
0 is 0 on one of the two only. -/
structure MirrorSafe (wtt_threshold c step : ℚ) (options : List OptionContract) :
    Prop where
  steady : ∀ side, Steady wtt_threshold options side
  found : ∀ side opt100 second,
    chosen wtt_threshold side options = some (opt100, second) →
      ZeroAlike c opt100.option.strike ∧
        ZeroAlike c (extension options side opt100.option.strike)
  above : ∀ support resistance second,
    chosen wtt_threshold .PE options = some (support, none) →
    chosen wtt_threshold .CE options = some (resistance, some second) →
    strength_of .CE resistance.option second.option = .WTT →
      AboveSafe c step options resistance.option.strike second.option.strike
  below : ∀ support second resistance,
    chosen wtt_threshold .PE options = some (support, some second) →
    chosen wtt_threshold .CE options = some (resistance, none) →
    strength_of .PE support.option second.option = .WTB →
      BelowSafe c step options support.option.strike second.option.strike

section Detected

variable {wtt_threshold : ℚ} {options : List OptionContract} {side : OptionType}

theorem sideSafe_detected :
    SideSafe c options side (detect_strength wtt_threshold options side) ↔
      ∀ opt100 second, chosen wtt_threshold side options = some (opt100, second) →
        ZeroAlike c opt100.option.strike ∧
          ZeroAlike c (extension options side opt100.option.strike) := by
  rw [SideSafe, detect_strength]
  rcases chosen wtt_threshold side options with _ | ⟨opt100, second⟩
  · simp [empty_result]
  · rw [imp_iff_right (result_of_ne_unknown side opt100 second)]
    constructor
    · rintro safe _ _ ⟨⟩
      exact safe
    · intro safe
      exact safe opt100 second rfl

theorem strong_detected :
    (detect_strength wtt_threshold options side).strength = .Strong ↔
      ∃ opt100, chosen wtt_threshold side options = some (opt100, none) := by
  rw [detect_strength]
  rcases chosen wtt_threshold side options with _ | ⟨opt100, _ | second⟩
  · simp [empty_result]
  · simp [result_of]
  · have moving : strength_of side opt100.option second.option ≠ .Strong := by
      unfold strength_of shift
      cases side <;> split_ifs <;> simp
    simpa [result_of] using moving

theorem moving_detected {strength : Strength} (holds : ℚ → ℚ → Prop) :
    ((detect_strength wtt_threshold options side).strength = strength →
      ∀ strike2nd, (detect_strength wtt_threshold options side).strike2nd =
          some strike2nd →
        holds (detect_strength wtt_threshold options side).strike100 strike2nd) ↔
      ∀ opt100 second, chosen wtt_threshold side options = some (opt100, some second) →
        strength_of side opt100.option second.option = strength →
          holds opt100.option.strike second.option.strike := by
  rw [detect_strength]
  rcases chosen wtt_threshold side options with _ | ⟨opt100, _ | second⟩
  · simp [empty_result]
  · simp [result_of]
  · simp [result_of]

theorem levelsSafe_detected {step : ℚ} :
    LevelsSafe c step options (detect_strength wtt_threshold options .PE)
        (detect_strength wtt_threshold options .CE) ∧
      (∀ side, Steady wtt_threshold options side) ↔
      MirrorSafe wtt_threshold c step options := by
  constructor
  · rintro ⟨⟨supports, resists, above, below⟩, steady⟩
    refine ⟨steady, ?_, ?_, ?_⟩
    · intro side
      cases side with
      | CE => exact sideSafe_detected.mp resists
      | PE => exact sideSafe_detected.mp supports
    · intro support resistance second strong
      have away := (moving_detected (AboveSafe c step options)).mp
        (above (strong_detected.mpr ⟨support, strong⟩))
      exact away resistance second
    · intro support second resistance taken strong
      have away := (moving_detected (BelowSafe c step options)).mp
        (fun moving => below moving (strong_detected.mpr ⟨resistance, strong⟩))
      exact away support second taken
  · rintro ⟨steady, found, above, below⟩
    refine ⟨⟨?_, ?_, ?_, ?_⟩, steady⟩
    · exact sideSafe_detected.mpr (found .PE)
    · exact sideSafe_detected.mpr (found .CE)
    · intro strong
      obtain ⟨support, taken⟩ := strong_detected.mp strong
      apply (moving_detected (AboveSafe c step options)).mpr
      intro resistance second
      exact above support resistance second taken
    · intro moving strong
      obtain ⟨resistance, taken⟩ := strong_detected.mp strong
      refine (moving_detected (BelowSafe c step options)).mpr ?_ moving
      intro support second chosen_support
      exact below support second resistance chosen_support taken

end Detected

theorem in_range_mirror (atm step : ℚ) (visible_range : ℤ) (strike : ℚ) :
    in_range (c - atm) step visible_range (c - strike) ↔
      in_range atm step visible_range strike := by
  unfold in_range
  constructor
  · rintro ⟨lower, upper⟩
    constructor <;> linarith
  · rintro ⟨lower, upper⟩
    constructor <;> linarith

theorem filtered_options_mirror (atm step : ℚ) (visible_range : ℤ)
    (options : List OptionContract) :
    filtered_options (c - atm) step visible_range
        (options.map (OptionContract.mirror c)) =
      (filtered_options atm step visible_range options).map
        (OptionContract.mirror c) := by
  rw [filtered_options, List.filter_map, filtered_options]
  congr 1
  apply List.filter_congr
  intro o _
  simp only [Function.comp_def, OptionContract.mirror, in_range_mirror]

/-- The analysis of the reflected chain is the mirror image of the analysis
exactly when the two take the same branches. -/
theorem analyze_mirror_iff (wtt_threshold c spot atm : ℚ) {step : ℚ} (moves : 0 < step)
    (visible_range : ℤ) (options : List OptionContract) :
    analyze wtt_threshold (options.map (OptionContract.mirror c)) (c - spot) (c - atm)
        step visible_range =
      (analyze wtt_threshold options spot atm step visible_range).mirror c ↔
    MirrorSafe wtt_threshold c step
      (filtered_options atm step visible_range options) := by
  rw [analyze, analyze, filtered_options_mirror, ← levelsSafe_detected]
  generalize filtered_options atm step visible_range options = visible
  have supports := detect_strength_shape wtt_threshold visible .PE
  have resists := detect_strength_shape wtt_threshold visible .CE
  have supported := detect_strength_mirror_iff (c := c) wtt_threshold visible .CE
  have resisted := detect_strength_mirror_iff (c := c) wtt_threshold visible .PE
  have reflected := levels_mirror_iff (c := c) visible supports resists moves.ne'
  change detect_strength _ _ .PE = _ ↔ _ at supported
  change detect_strength _ _ .CE = _ ↔ _ at resisted
  constructor
  · intro image
    have support := congrArg Analysis.support image
    have resistance := congrArg Analysis.resistance image
    have same := congrArg Analysis.levels image
    refine ⟨reflected.mp ?_, ?_⟩
    · simp only [analyze_filtered] at support resistance same
      rw [support, resistance] at same
      simp only [Analysis.mirror, classify_scenario_mirror] at same
      exact same
    · intro side
      cases side with
      | CE => exact supported.mp support
      | PE => exact resisted.mp resistance
  · rintro ⟨safe, steady⟩
    have same := reflected.mpr safe
    rw [levels_image, levels] at same
    simp only [analyze_filtered, Analysis.mirror, supported.mpr (steady .CE),
      resisted.mpr (steady .PE), classify_scenario_mirror, same]

theorem analyze_mirror_iff_step_ten :
    (0 : ℚ) < 10 ∧
      (analyze 75 ([].map (OptionContract.mirror 200)) (200 - 100) (200 - 90) 10 10 =
          (analyze 75 [] 100 90 10 10).mirror 200 ↔
        MirrorSafe 75 200 10 (filtered_options 90 10 10 [])) :=
  ⟨by norm_num, analyze_mirror_iff 75 200 100 90 (by norm_num) 10 []⟩

/-- The scores of a side that it sorts by are distinct. -/
def DistinctScores (wtt_threshold : ℚ) (options : List OptionContract)
    (side : OptionType) : Prop :=
  ((scores (side_options side options)).map (·.combined_score)).Nodup ∧
    ∀ opt100 ∈ primary (side_options side options),
      (((scores (side_options side options)).filter (fun opt =>
        is_competitor wtt_threshold opt100.option.strike opt)).map
          competitor_score).Nodup

instance (wtt_threshold : ℚ) (options : List OptionContract) (side : OptionType) :
    Decidable (DistinctScores wtt_threshold options side) :=
  inferInstanceAs (Decidable (_ ∧ _))

/-- The calls lose open interest, the primary more than its competitor. -/
def losing_calls : List OptionContract :=
  [{ strike := 110, option_type := .CE, oi := 100, oi_change := -10 },
   { strike := 120, option_type := .CE, oi := 90, oi_change := -5 },
   { strike := 90, option_type := .PE, oi := 100 }]

theorem analyze_losing_calls_not_mirror :
    DistinctScores 75 losing_calls .CE ∧ DistinctScores 75 losing_calls .PE ∧
      analyze 75 (losing_calls.map (OptionContract.mirror 200)) (200 - 100) (200 - 100)
          10 10 ≠
        (analyze 75 losing_calls 100 100 10 10).mirror 200 := by
  refine ⟨by with_unfolding_all decide, by decide, ?_⟩
  intro same
  have strengths := congrArg (fun a => a.support.strength) same
  revert strengths
  with_unfolding_all decide

end HftEngine.Backend.ChartOfAccuracy
