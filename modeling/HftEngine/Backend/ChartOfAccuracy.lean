import HftEngine.Lib.Python.Exact
import HftEngine.Lib.Ranking
import Mathlib.Algebra.Order.Field.Rat

/-!
# Chart of accuracy

`ChartOfAccuracyService`, with exact numbers.  The fields of an option are
numbers, and 0 where its dictionary has none; the percentages and scores that
the service writes into the dictionaries are those of a `Scored` option.
-/

namespace HftEngine.Backend.ChartOfAccuracy

inductive OptionType where
  | CE
  | PE
  deriving DecidableEq, Repr

structure OptionContract where
  strike : ℚ
  option_type : OptionType
  ltp : ℚ := 0
  oi : ℚ := 0
  oi_change : ℚ := 0
  volume : ℚ := 0
  gamma : ℚ := 0
  deriving DecidableEq

inductive Strength where
  | Strong
  | WTT
  | WTB
  | Unknown
  deriving DecidableEq, Repr

/-! ## Scores -/

/-- The options of one side with the greatest of each metric as 100 percent. -/
structure Maxima where
  max_oi : ℚ
  max_oichng : ℚ
  max_volume : ℚ
  max_gamma : ℚ

def greatest (metric : OptionContract → ℚ) (side_options : List OptionContract) : ℚ :=
  ((side_options.map metric).max?).getD 0

def maxima (side_options : List OptionContract) : Maxima where
  max_oi := greatest (·.oi) side_options
  max_oichng := greatest (|·.oi_change|) side_options
  max_volume := greatest (·.volume) side_options
  max_gamma := greatest (|·.gamma|) side_options

def percentage (value reference : ℚ) : ℚ :=
  if 0 < reference then value / reference * 100 else 0

def WEIGHT_OI_CHANGE : ℚ := 50 / 100
def WEIGHT_OI : ℚ := 35 / 100
def WEIGHT_VOLUME : ℚ := 15 / 100
def GAMMA_BONUS_WEIGHT : ℚ := 10 / 100

/-- An option with what the service writes into it. -/
structure Scored where
  option : OptionContract
  oi_pct : ℚ
  oichng_pct : ℚ
  volume_pct : ℚ
  combined_score : ℚ
  deriving DecidableEq

def score (reference : Maxima) (opt : OptionContract) : Scored :=
  let oi_pct := percentage opt.oi reference.max_oi
  let oichng_pct := percentage |opt.oi_change| reference.max_oichng
  let volume_pct := percentage opt.volume reference.max_volume
  let gamma_pct := percentage |opt.gamma| reference.max_gamma
  let weighted_score :=
    oichng_pct * WEIGHT_OI_CHANGE + oi_pct * WEIGHT_OI + volume_pct * WEIGHT_VOLUME
  let gamma_bonus := if 50 < gamma_pct then gamma_pct * GAMMA_BONUS_WEIGHT else 0
  { option := opt, oi_pct, oichng_pct, volume_pct
    combined_score := weighted_score + gamma_bonus }

def competitor_score (opt : Scored) : ℚ :=
  max (max opt.oi_pct opt.oichng_pct) opt.volume_pct

def is_competitor (wtt_threshold strike100 : ℚ) (opt : Scored) : Prop :=
  opt.option.strike ≠ strike100 ∧
    (wtt_threshold ≤ opt.oi_pct ∨ wtt_threshold ≤ opt.oichng_pct ∨
      wtt_threshold ≤ opt.volume_pct)

instance (wtt_threshold strike100 : ℚ) (opt : Scored) :
    Decidable (is_competitor wtt_threshold strike100 opt) :=
  inferInstanceAs (Decidable (_ ∧ _))

def scores (side_options : List OptionContract) : List Scored :=
  side_options.map (score (maxima side_options))

/-- `opt100`: the option with the greatest score, unless there is none or no
open interest. -/
def primary (side_options : List OptionContract) : Option Scored :=
  if (maxima side_options).max_oi = 0 then none
  else (Ranking.descending (·.combined_score) (scores side_options)).head?

def top_competitor (wtt_threshold strike100 : ℚ) (side_options : List OptionContract) :
    Option Scored :=
  (Ranking.descending competitor_score ((scores side_options).filter
    (fun opt => is_competitor wtt_threshold strike100 opt))).head?

/-! ## Strength -/

structure StrengthResult where
  strength : Strength
  strike100 : ℚ
  strike2nd : Option ℚ
  oi100 : ℚ
  oi2nd : Option ℚ
  oichng100 : ℚ
  oichng2nd : Option ℚ
  volume100 : ℚ
  volume2nd : Option ℚ
  oi_pct100 : ℚ
  oi_pct2nd : Option ℚ
  oichng_pct100 : ℚ
  oichng_pct2nd : Option ℚ
  volume_pct100 : ℚ
  volume_pct2nd : Option ℚ
  deriving DecidableEq

def empty_result : StrengthResult where
  strength := .Unknown
  strike100 := 0
  strike2nd := none
  oi100 := 0
  oi2nd := none
  oichng100 := 0
  oichng2nd := none
  volume100 := 0
  volume2nd := none
  oi_pct100 := 0
  oi_pct2nd := none
  oichng_pct100 := 0
  oichng_pct2nd := none
  volume_pct100 := 0
  volume_pct2nd := none

/-- Where the competitor moves its side, which is alike for calls and puts. -/
def shift (strike100 strike2nd : ℚ) : Strength :=
  if strike100 < strike2nd then .WTT else .WTB

def strength_of (side : OptionType) (opt100 second : OptionContract) : Strength :=
  if 0 < second.oi_change then shift opt100.strike second.strike
  else if second.oi_change < 0 ∨ opt100.oi_change < 0 then
    -- a primary that weakens faster is WTB on both sides
    if opt100.oi_change < second.oi_change then .WTB
    else
      match side with
      | .CE => .WTT
      | .PE => .WTB
  else shift opt100.strike second.strike

def result_of (side : OptionType) (opt100 : Scored) (second : Option Scored) :
    StrengthResult where
  strength :=
    match second with
    | none => .Strong
    | some second => strength_of side opt100.option second.option
  strike100 := opt100.option.strike
  strike2nd := second.map (·.option.strike)
  oi100 := opt100.option.oi
  oi2nd := second.map (·.option.oi)
  oichng100 := opt100.option.oi_change
  oichng2nd := second.map (·.option.oi_change)
  volume100 := opt100.option.volume
  volume2nd := second.map (·.option.volume)
  oi_pct100 := opt100.oi_pct
  oi_pct2nd := second.map (·.oi_pct)
  oichng_pct100 := opt100.oichng_pct
  oichng_pct2nd := second.map (·.oichng_pct)
  volume_pct100 := opt100.volume_pct
  volume_pct2nd := second.map (·.volume_pct)

def side_options (side : OptionType) (options : List OptionContract) :
    List OptionContract :=
  options.filter (fun o => o.option_type = side)

/-- The 100 percent strike of a side and its top competitor. -/
def chosen (wtt_threshold : ℚ) (side : OptionType) (options : List OptionContract) :
    Option (Scored × Option Scored) :=
  (primary (side_options side options)).map (fun opt100 =>
    (opt100, top_competitor wtt_threshold opt100.option.strike
      (side_options side options)))

def detect_strength (wtt_threshold : ℚ) (options : List OptionContract)
    (side : OptionType) : StrengthResult :=
  match chosen wtt_threshold side options with
  | none => empty_result
  | some (opt100, second) => result_of side opt100 second

/-! ## Scenarios -/

inductive ScenarioId where
  | s1_0
  | s1_1
  | s1_2
  | s1_3
  | s1_4
  | s1_5
  | s1_6
  | s1_7
  | s1_8
  | unknown
  deriving DecidableEq, Repr

inductive Bias where
  | neutral
  | bullish
  | bearish
  | unclear
  | unknown
  deriving DecidableEq, Repr

inductive Tradable where
  | both
  | long
  | short
  | none
  deriving DecidableEq, Repr

structure ScenarioResult where
  id : ScenarioId
  name : String
  bias : Bias
  tradable : Tradable
  deriving DecidableEq

def classify_scenario (support resistance : StrengthResult) : ScenarioResult :=
  match support.strength, resistance.strength with
  | .Strong, .Strong => ⟨.s1_0, "Strong Both", .neutral, .both⟩
  | .Strong, .WTB => ⟨.s1_1, "Bearish Pressure", .bearish, .short⟩
  | .Strong, .WTT => ⟨.s1_2, "Bullish Pressure", .bullish, .long⟩
  | .WTB, .Strong => ⟨.s1_3, "Support Weakening", .bearish, .short⟩
  | .WTT, .Strong => ⟨.s1_4, "Support Strengthening", .bullish, .long⟩
  | .WTB, .WTB => ⟨.s1_5, "Blood Bath", .bearish, .short⟩
  | .WTT, .WTT => ⟨.s1_6, "Bull Run", .bullish, .long⟩
  | .WTB, .WTT => ⟨.s1_7, "Unstable", .unclear, .none⟩
  | .WTT, .WTB => ⟨.s1_8, "Unstable", .unclear, .none⟩
  | .Unknown, _ | _, .Unknown => ⟨.unknown, "Unknown", .unknown, .none⟩

/-! ## Levels -/

structure TradingLevels where
  eos : ℚ
  eor : ℚ
  eos_plus1 : ℚ
  eos_minus1 : ℚ
  eor_plus1 : ℚ
  eor_minus1 : ℚ
  top : Option ℚ
  bottom : Option ℚ
  trade_at_eos : Bool
  trade_at_eor : Bool
  deriving DecidableEq

/-- The price of the last option of a side at a strike, 0 without one. -/
def ltp_at (options : List OptionContract) (side : OptionType) (strike : Option ℚ) : ℚ :=
  options.foldl (fun ltp opt =>
    if opt.option_type = side ∧ some opt.strike = strike then opt.ltp else ltp) 0

/-- A level that is left out when the strike or level it rests on is 0. -/
def unless_zero (base level : ℚ) : ℚ :=
  if base = 0 then 0 else level

def calculate_levels (options : List OptionContract)
    (support resistance : StrengthResult) (scenario : ScenarioResult)
    (step_size : ℚ) : TradingLevels :=
  let support_ltp := ltp_at options .PE (some support.strike100)
  let resistance_ltp := ltp_at options .CE (some resistance.strike100)
  let support_2nd_ltp := ltp_at options .PE support.strike2nd
  let resistance_2nd_ltp := ltp_at options .CE resistance.strike2nd
  let support_2nd := support.strike2nd.getD 0
  let resistance_2nd := resistance.strike2nd.getD 0
  let eos := unless_zero support.strike100 (support.strike100 - support_ltp)
  let eor := unless_zero resistance.strike100 (resistance.strike100 + resistance_ltp)
  let wtt_level := unless_zero support_2nd (support_2nd - support_2nd_ltp)
  let resistance_wtt_level :=
    unless_zero resistance_2nd (resistance_2nd + resistance_2nd_ltp)
  let eos_plus1 := unless_zero eos (eos + step_size)
  let eos_minus1 := unless_zero eos (eos - step_size)
  let eor_plus1 := unless_zero eor (eor + step_size)
  let eor_minus1 := unless_zero eor (eor - step_size)
  let (top, bottom, trade_at_eos, trade_at_eor) :=
    match scenario.id with
    | .s1_0 => (some eor, some eos, true, true)
    | .s1_1 => (some eor, some eos_minus1, false, true)
    | .s1_2 =>
        (some (if resistance_wtt_level = 0 then eor_minus1
          else resistance_wtt_level - step_size), some eos, true, false)
    | .s1_3 =>
        (some eor, some (if support_2nd = 0 then eos_plus1
          else wtt_level + step_size), false, true)
    | .s1_4 => (some eor_plus1, some eos, true, false)
    | .s1_5 => (some eor, none, false, true)
    | .s1_6 => (none, some eos, true, false)
    | .s1_7 | .s1_8 | .unknown => (none, none, false, false)
  { eos, eor, eos_plus1, eos_minus1, eor_plus1, eor_minus1, top, bottom
    trade_at_eos, trade_at_eor }

/-! ## The analysis -/

open Py.Exact in
def get_recommendation (scenario : ScenarioResult) (levels : TradingLevels) : String :=
  match scenario.id with
  | .s1_0 => "Ideal scenario! Trade reversals from both EOS (" ++ whole levels.eos ++
      ") and EOR (" ++ whole levels.eor ++ ")."
  | .s1_1 => "Bearish pressure. Look for shorts at EOR (" ++ whole levels.eor ++
      "). Avoid longs."
  | .s1_2 => "Bullish pressure. Look for longs at EOS (" ++ whole levels.eos ++
      "). Avoid shorts."
  | .s1_3 => "Support weakening. Look for shorts but wait for confirmation at " ++
      whole levels.eor ++ "."
  | .s1_4 => "Support strengthening. Look for longs at EOS (" ++ whole levels.eos ++
      ")."
  | .s1_5 => "Blood bath! Only aggressive shorts. No longs until support stabilizes."
  | .s1_6 => "Bull run! Only aggressive longs. No shorts until resistance stabilizes."
  | .s1_7 => "Market unstable. Both sides weak. Wait for clarity."
  | .s1_8 => "Market unstable. Both sides transitioning. Wait for clarity."
  | .unknown => "Unable to determine scenario."

structure Analysis where
  scenario : ScenarioResult
  support : StrengthResult
  resistance : StrengthResult
  levels : TradingLevels
  recommendation : String
  spot_price : ℚ
  atm_strike : ℚ
  deriving DecidableEq

/-- Within so many steps of ATM. -/
def in_range (atm_strike step_size : ℚ) (visible_range : ℤ) (strike : ℚ) : Prop :=
  atm_strike - step_size * visible_range ≤ strike ∧
    strike ≤ atm_strike + step_size * visible_range

instance (atm_strike step_size : ℚ) (visible_range : ℤ) (strike : ℚ) :
    Decidable (in_range atm_strike step_size visible_range strike) :=
  inferInstanceAs (Decidable (_ ∧ _))

def filtered_options (atm_strike step_size : ℚ) (visible_range : ℤ)
    (options : List OptionContract) : List OptionContract :=
  options.filter (fun o => in_range atm_strike step_size visible_range o.strike)

/-- `analyze` after its filter. -/
def analyze_filtered (wtt_threshold : ℚ) (options : List OptionContract)
    (spot_price atm_strike step_size : ℚ) : Analysis :=
  let support := detect_strength wtt_threshold options .PE
  let resistance := detect_strength wtt_threshold options .CE
  let scenario := classify_scenario support resistance
  let levels := calculate_levels options support resistance scenario step_size
  { scenario, support, resistance, levels
    recommendation := get_recommendation scenario levels
    spot_price, atm_strike }

def analyze (wtt_threshold : ℚ) (options : List OptionContract)
    (spot_price atm_strike step_size : ℚ) (visible_range : ℤ) : Analysis :=
  analyze_filtered wtt_threshold
    (filtered_options atm_strike step_size visible_range options)
    spot_price atm_strike step_size

/-! ## What the results are -/

theorem strength_of_ne_unknown (side : OptionType) (opt100 second : OptionContract) :
    strength_of side opt100 second ≠ .Unknown := by
  unfold strength_of shift
  cases side <;> split_ifs <;> simp

theorem result_of_ne_unknown (side : OptionType) (opt100 : Scored)
    (second : Option Scored) : (result_of side opt100 second).strength ≠ .Unknown := by
  cases second with
  | none => simp [result_of]
  | some second => exact strength_of_ne_unknown side _ _

/-- The level that replaces top when the resistance weakens upwards, and the
one that replaces bottom when the support weakens downwards. -/
def top_above (strike level fallback step : ℚ) : ℚ :=
  if unless_zero strike level = 0 then fallback else unless_zero strike level - step

def bottom_below (strike level fallback step : ℚ) : ℚ :=
  if strike = 0 then fallback else unless_zero strike level + step

def top_of (id : ScenarioId) (eor eor_plus1 above : ℚ) : Option ℚ :=
  match id with
  | .s1_0 | .s1_1 | .s1_3 | .s1_5 => some eor
  | .s1_2 => some above
  | .s1_4 => some eor_plus1
  | .s1_6 | .s1_7 | .s1_8 | .unknown => none

def bottom_of (id : ScenarioId) (eos eos_minus1 below : ℚ) : Option ℚ :=
  match id with
  | .s1_0 | .s1_2 | .s1_4 | .s1_6 => some eos
  | .s1_1 => some eos_minus1
  | .s1_3 => some below
  | .s1_5 | .s1_7 | .s1_8 | .unknown => none

/-- The diversion of a side at its competitor. -/
def diversion (options : List OptionContract) (side : OptionType)
    (strike2nd : Option ℚ) : ℚ :=
  match side with
  | .PE => strike2nd.getD 0 - ltp_at options .PE strike2nd
  | .CE => strike2nd.getD 0 + ltp_at options .CE strike2nd

section Levels

variable (options : List OptionContract) (support resistance : StrengthResult)
  (scenario : ScenarioResult) (step : ℚ)

theorem calculate_levels_top :
    (calculate_levels options support resistance scenario step).top =
      top_of scenario.id
        (calculate_levels options support resistance scenario step).eor
        (calculate_levels options support resistance scenario step).eor_plus1
        (top_above (resistance.strike2nd.getD 0)
          (diversion options .CE resistance.strike2nd)
          (calculate_levels options support resistance scenario step).eor_minus1
          step) := by
  obtain ⟨id, name, bias, tradable⟩ := scenario
  cases id <;> rfl

theorem calculate_levels_bottom :
    (calculate_levels options support resistance scenario step).bottom =
      bottom_of scenario.id
        (calculate_levels options support resistance scenario step).eos
        (calculate_levels options support resistance scenario step).eos_minus1
        (bottom_below (support.strike2nd.getD 0)
          (diversion options .PE support.strike2nd)
          (calculate_levels options support resistance scenario step).eos_plus1
          step) := by
  obtain ⟨id, name, bias, tradable⟩ := scenario
  cases id <;> rfl

end Levels

end HftEngine.Backend.ChartOfAccuracy
