import HftEngine.Backend.ChartOfAccuracy
import Mathlib.Tactic.Linarith

/-!
# Mirror images of an analysis

A chain is reflected at a constant: each strike `k` becomes `c - k`, and calls
and puts change places.  What the service chooses on the reflected chain is
the image of what it chooses on the chain, and the strengths are images unless
a side takes the branch that both sides share.
-/

namespace HftEngine.Backend.ChartOfAccuracy

/-! ## Images -/

def OptionType.opposite : OptionType → OptionType
  | .CE => .PE
  | .PE => .CE

def OptionContract.mirror (c : ℚ) (o : OptionContract) : OptionContract :=
  { o with strike := c - o.strike, option_type := o.option_type.opposite }

def Strength.mirror : Strength → Strength
  | .Strong => .Strong
  | .WTT => .WTB
  | .WTB => .WTT
  | .Unknown => .Unknown

/-- A side that was found has its strikes reflected. -/
def StrengthResult.mirror (c : ℚ) (r : StrengthResult) : StrengthResult :=
  { r with
    strength := r.strength.mirror
    strike100 := if r.strength = .Unknown then r.strike100 else c - r.strike100
    strike2nd := r.strike2nd.map (c - ·) }

def ScenarioId.mirror : ScenarioId → ScenarioId
  | .s1_1 => .s1_4
  | .s1_4 => .s1_1
  | .s1_2 => .s1_3
  | .s1_3 => .s1_2
  | .s1_5 => .s1_6
  | .s1_6 => .s1_5
  | id => id

def Bias.mirror : Bias → Bias
  | .bullish => .bearish
  | .bearish => .bullish
  | bias => bias

def Tradable.mirror : Tradable → Tradable
  | .long => .short
  | .short => .long
  | tradable => tradable

def mirrorName (name : String) : String :=
  if name = "Bearish Pressure" then "Support Strengthening"
  else if name = "Support Strengthening" then "Bearish Pressure"
  else if name = "Bullish Pressure" then "Support Weakening"
  else if name = "Support Weakening" then "Bullish Pressure"
  else if name = "Blood Bath" then "Bull Run"
  else if name = "Bull Run" then "Blood Bath"
  else name

def ScenarioResult.mirror (s : ScenarioResult) : ScenarioResult where
  id := s.id.mirror
  name := mirrorName s.name
  bias := s.bias.mirror
  tradable := s.tradable.mirror

/-- The level of a side that was found is reflected. -/
def reflect (c : ℚ) (result : StrengthResult) (level : ℚ) : ℚ :=
  if result.strength = .Unknown then level else c - level

def TradingLevels.mirror (c : ℚ) (support resistance : StrengthResult)
    (levels : TradingLevels) : TradingLevels where
  eos := reflect c resistance levels.eor
  eor := reflect c support levels.eos
  eos_plus1 := reflect c resistance levels.eor_minus1
  eos_minus1 := reflect c resistance levels.eor_plus1
  eor_plus1 := reflect c support levels.eos_minus1
  eor_minus1 := reflect c support levels.eos_plus1
  top := levels.bottom.map (c - ·)
  bottom := levels.top.map (c - ·)
  trade_at_eos := levels.trade_at_eor
  trade_at_eor := levels.trade_at_eos

/-- Support and resistance change places, and the text is that of the scenario
and the levels reached. -/
def Analysis.mirror (c : ℚ) (a : Analysis) : Analysis :=
  let scenario := a.scenario.mirror
  let levels := a.levels.mirror c a.support a.resistance
  { scenario, levels
    support := a.resistance.mirror c
    resistance := a.support.mirror c
    recommendation := get_recommendation scenario levels
    spot_price := c - a.spot_price
    atm_strike := c - a.atm_strike }

/-! ## What is chosen -/

def Scored.mirror (c : ℚ) (opt : Scored) : Scored :=
  { opt with option := opt.option.mirror c }

variable {c : ℚ}

theorem side_options_mirror (side : OptionType) (options : List OptionContract) :
    side_options side.opposite (options.map (OptionContract.mirror c)) =
      (side_options side options).map (OptionContract.mirror c) := by
  rw [side_options, List.filter_map, side_options]
  congr 1
  apply List.filter_congr
  intro o _
  cases side <;> cases kind : o.option_type <;>
    simp [OptionContract.mirror, OptionType.opposite, kind]

theorem maxima_mirror (options : List OptionContract) :
    maxima (options.map (OptionContract.mirror c)) = maxima options := by
  simp only [maxima, greatest, List.map_map]
  rfl

theorem scores_mirror (options : List OptionContract) :
    scores (options.map (OptionContract.mirror c)) =
      (scores options).map (Scored.mirror c) := by
  rw [scores, maxima_mirror, scores, List.map_map, List.map_map]
  rfl

theorem primary_mirror (options : List OptionContract) :
    primary (options.map (OptionContract.mirror c)) =
      (primary options).map (Scored.mirror c) := by
  rw [primary, primary, maxima_mirror, scores_mirror, Ranking.descending_map,
    List.head?_map]
  split
  · rfl
  · rfl

theorem top_competitor_mirror (wtt_threshold strike100 : ℚ)
    (options : List OptionContract) :
    top_competitor wtt_threshold (c - strike100)
        (options.map (OptionContract.mirror c)) =
      (top_competitor wtt_threshold strike100 options).map (Scored.mirror c) := by
  have kept : ∀ opt, is_competitor wtt_threshold (c - strike100) (opt.mirror c) ↔
      is_competitor wtt_threshold strike100 opt := by
    intro opt
    apply and_congr_left
    intro _
    exact (not_congr sub_right_inj)
  rw [top_competitor, top_competitor, scores_mirror, List.filter_map,
    Ranking.descending_map, List.head?_map]
  simp only [Function.comp_def, kept]
  rfl

theorem chosen_mirror (wtt_threshold : ℚ) (side : OptionType)
    (options : List OptionContract) :
    chosen wtt_threshold side.opposite (options.map (OptionContract.mirror c)) =
      (chosen wtt_threshold side options).map (fun pair =>
        (pair.1.mirror c, pair.2.map (Scored.mirror c))) := by
  rw [chosen, chosen, side_options_mirror, primary_mirror, Option.map_map,
    Option.map_map]
  congr 1
  funext opt100
  exact congrArg (Prod.mk _) (top_competitor_mirror _ _ _)

theorem chosen_apart {wtt_threshold : ℚ} {side : OptionType}
    {options : List OptionContract} {opt100 second : Scored}
    (taken : chosen wtt_threshold side options = some (opt100, some second)) :
    opt100.option.strike ≠ second.option.strike := by
  obtain ⟨first, -, same⟩ := Option.map_eq_some_iff.mp taken
  obtain ⟨rfl, top⟩ := Prod.mk.inj same
  have member := List.mem_of_mem_head? top
  rw [(Ranking.perm_descending _ _).mem_iff, List.mem_filter, decide_eq_true_eq]
    at member
  exact member.2.1.symm

/-! ## Strengths -/

/-- The primary loses open interest, and its competitor, which does not gain,
loses less. -/
def losing_primary (opt100 second : OptionContract) : Prop :=
  opt100.oi_change < second.oi_change ∧ second.oi_change ≤ 0

instance (opt100 second : OptionContract) : Decidable (losing_primary opt100 second) :=
  inferInstanceAs (Decidable (_ ∧ _))

theorem shift_mirror {first second : ℚ} (apart : first ≠ second) :
    shift (c - first) (c - second) = (shift first second).mirror := by
  rcases lt_or_gt_of_ne apart with above | below
  · have reversed : ¬ c - first < c - second := by linarith
    simp [shift, above, reversed, Strength.mirror]
  · have reversed : c - first < c - second := by linarith
    simp [shift, below.not_gt, reversed, Strength.mirror]

theorem strength_of_mirror_iff (side : OptionType) {opt100 second : OptionContract}
    (apart : opt100.strike ≠ second.strike) :
    strength_of side.opposite (opt100.mirror c) (second.mirror c) =
        (strength_of side opt100 second).mirror ↔
      ¬ losing_primary opt100 second := by
  have shifted : shift (opt100.mirror c).strike (second.mirror c).strike =
      (shift opt100.strike second.strike).mirror := shift_mirror apart
  have first : (opt100.mirror c).oi_change = opt100.oi_change := rfl
  have other : (second.mirror c).oi_change = second.oi_change := rfl
  simp only [strength_of, shifted, first, other, losing_primary]
  by_cases gaining : 0 < second.oi_change
  · simp [gaining, gaining.not_ge]
  · by_cases faster : opt100.oi_change < second.oi_change
    · have losing : opt100.oi_change < 0 := faster.trans_le (not_lt.mp gaining)
      cases side <;> simp [gaining, not_lt.mp gaining, faster, losing, Strength.mirror]
    · by_cases losing : second.oi_change < 0 ∨ opt100.oi_change < 0
      · cases side <;>
          simp [gaining, faster, losing, Strength.mirror, OptionType.opposite]
      · simp [gaining, faster, losing]

/-- The side does not take the branch that both sides share. -/
def Steady (wtt_threshold : ℚ) (options : List OptionContract) (side : OptionType) :
    Prop :=
  ∀ opt100 second, chosen wtt_threshold side options = some (opt100, some second) →
    ¬ losing_primary opt100.option second.option

theorem result_of_mirror (side : OptionType) (opt100 : Scored) (second : Option Scored)
    (strengths : (result_of side.opposite (opt100.mirror c)
        (second.map (Scored.mirror c))).strength =
      (result_of side opt100 second).strength.mirror) :
    result_of side.opposite (opt100.mirror c) (second.map (Scored.mirror c)) =
      (result_of side opt100 second).mirror c := by
  have known := result_of_ne_unknown side opt100 second
  rw [StrengthResult.mirror, if_neg known, ← strengths]
  cases second with
  | none => rfl
  | some second => rfl

theorem detect_strength_mirror_iff (wtt_threshold : ℚ) (options : List OptionContract)
    (side : OptionType) :
    detect_strength wtt_threshold (options.map (OptionContract.mirror c))
        side.opposite =
      (detect_strength wtt_threshold options side).mirror c ↔
      Steady wtt_threshold options side := by
  rw [detect_strength, detect_strength, chosen_mirror, Steady]
  cases taken : chosen wtt_threshold side options with
  | none =>
      apply iff_of_true
      · rfl
      · simp
  | some pair =>
      obtain ⟨opt100, second⟩ := pair
      simp only [Option.map_some, Option.some.injEq, Prod.mk.injEq]
      cases second with
      | none =>
          apply iff_of_true
          · exact result_of_mirror side opt100 none rfl
          · simp
      | some second =>
          have branch := strength_of_mirror_iff (c := c) side (chosen_apart taken)
          constructor
          · rintro image _ _ ⟨rfl, ⟨⟩⟩
            exact branch.mp (congrArg StrengthResult.strength image)
          · intro steady
            apply result_of_mirror side opt100 (some second)
            exact branch.mpr (steady opt100 second ⟨rfl, rfl⟩)

theorem classify_scenario_mirror (support resistance : StrengthResult) :
    classify_scenario (resistance.mirror c) (support.mirror c) =
      (classify_scenario support resistance).mirror := by
  rcases support with ⟨s⟩
  rcases resistance with ⟨r⟩
  cases s <;> cases r <;> rfl

end HftEngine.Backend.ChartOfAccuracy
