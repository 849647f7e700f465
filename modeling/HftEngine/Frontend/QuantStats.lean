import HftEngine.Lib.LeastSquares
import Mathlib.Algebra.Order.Ring.Abs
import Mathlib.Data.List.MinMax
import Mathlib.Data.List.Perm.Subperm
import Mathlib.Data.List.Sort

/-!
# Regression of the open interest, and the volatility smile

`calculateOIRegression` and `fitVolatilitySmile` over any ordered field.  Each sums up
points, so both are told by the points that the levels or the quotes stand for.
-/

namespace HftEngine.Frontend.QuantStats

open LeastSquares

variable {α : Type} [Field α] [LinearOrder α]

/-! ## Open interest by strike -/

structure Level (α : Type) where
  strike : α
  totalOI : α

/-- `'bearish (resistance heavy)'`, `'bullish (support heavy)'` and `'neutral'`. -/
inductive Bias where
  | bearish
  | bullish
  | neutral
  deriving DecidableEq

/-- `intercept` is missing where there is no line. -/
structure Regression (α : Type) where
  slope : α
  rSquared : α
  bias : Bias
  intercept : Option α := none

def noRegression : Regression α where
  slope := 0
  rSquared := 0
  bias := .neutral

/-- `Math.max(...levels.map(l => l.totalOI)) || 1`; there are levels. -/
def maxOI (levels : List (Level α)) : α :=
  let greatest := ((levels.map (·.totalOI)).max?).getD 0
  if greatest = 0 then 1 else greatest

def minStrike (levels : List (Level α)) : α :=
  ((levels.map (·.strike)).min?).getD 0

/-- The strike scaled down, and the open interest from 0 to 1. -/
def normalized (levels : List (Level α)) : List (Point α) :=
  levels.map (fun level =>
    { x := (level.strike - minStrike levels) / (100 : ℕ)
      y := level.totalOI / maxOI levels })

def biasOf (slope : α) : Bias :=
  if slope > 0.1 then .bearish
  else if slope < -0.1 then .bullish
  else .neutral

/-- The sums over the points, and the line that is made of them. -/
def regression (points : List (Point α)) : Regression α :=
  let n : α := points.length
  let sumX := total (·.x) points
  let sumY := total (·.y) points
  let sumXY := total (fun p => p.x * p.y) points
  let sumX2 := total (fun p => p.x * p.x) points
  let numerator := n * sumXY - sumX * sumY
  let denominator := n * sumX2 - sumX * sumX
  if denominator = 0 then noRegression
  else
    let slope := numerator / denominator
    let intercept := (sumY - slope * sumX) / n
    let avgY := sumY / n
    let ssTotal : α := total (fun p => (p.y - avgY) ^ 2) points
    let ssRes : α := total (fun p => (p.y - (slope * p.x + intercept)) ^ 2) points
    let rSquared := if ssTotal = 0 then 0 else 1 - ssRes / ssTotal
    { slope, rSquared, bias := biasOf slope, intercept := some intercept }

def calculateOIRegression (levels : List (Level α)) : Regression α :=
  if levels.length < 2 then noRegression
  else regression (normalized levels)

/-! ## Extreme values -/

section Extremes

variable {β γ : Type} [LinearOrder β] [LinearOrder γ] {values others : List β}

theorem max?_perm (same : values.Perm others) : values.max? = others.max? := by
  ext greatest
  rw [List.max?_eq_some_iff, List.max?_eq_some_iff, same.mem_iff]
  simp only [same.mem_iff]

theorem min?_perm (same : values.Perm others) : values.min? = others.min? := by
  ext least
  rw [List.min?_eq_some_iff, List.min?_eq_some_iff, same.mem_iff]
  simp only [same.mem_iff]

theorem max?_map {f : β → γ} (monotone : Monotone f) {greatest : β}
    (found : values.max? = some greatest) : (values.map f).max? = some (f greatest) := by
  obtain ⟨member, bound⟩ := List.max?_eq_some_iff.mp found
  refine List.max?_eq_some_iff.mpr ⟨List.mem_map_of_mem member, ?_⟩
  intro value listed
  obtain ⟨other, among, rfl⟩ := List.mem_map.mp listed
  exact monotone (bound other among)

theorem min?_map {f : β → γ} (monotone : Monotone f) {least : β}
    (found : values.min? = some least) : (values.map f).min? = some (f least) := by
  obtain ⟨member, bound⟩ := List.min?_eq_some_iff.mp found
  refine List.min?_eq_some_iff.mpr ⟨List.mem_map_of_mem member, ?_⟩
  intro value listed
  obtain ⟨other, among, rfl⟩ := List.mem_map.mp listed
  exact monotone (bound other among)

end Extremes

/-! ## Levels that are moved, scaled or reordered -/

section Normalized

variable {levels others : List (Level α)}

theorem regression_perm {points others : List (Point α)} (same : points.Perm others) :
    regression points = regression others := by
  unfold regression
  simp only [total_perm same, same.length_eq]

theorem normalized_perm (same : levels.Perm others) :
    (normalized levels).Perm (normalized others) := by
  have least : minStrike levels = minStrike others := by
    rw [minStrike, minStrike, min?_perm (same.map _)]
  have greatest : maxOI levels = maxOI others := by
    rw [maxOI, maxOI, max?_perm (same.map _)]
  rw [normalized, normalized, least, greatest]
  exact same.map _

/-- All strikes moved by one amount. -/
def shifted (shift : α) (level : Level α) : Level α :=
  { level with strike := level.strike + shift }

def scaled (factor : α) (level : Level α) : Level α :=
  { level with totalOI := factor * level.totalOI }

variable [IsStrictOrderedRing α]

theorem normalized_shifted (shift : α) :
    normalized (levels.map (shifted shift)) = normalized levels := by
  cases found : (levels.map (·.strike)).min? with
  | none =>
      rw [List.min?_eq_none_iff, List.map_eq_nil_iff] at found
      rw [found]
      rfl
  | some least =>
      have moved : ((levels.map (shifted shift)).map (·.strike)).min? = some (least + shift) := by
        have monotone : Monotone (fun strike : α => strike + shift) :=
          fun _ _ before => add_le_add_left before shift
        have mapped := min?_map monotone found
        rwa [List.map_map] at mapped ⊢
      have before : minStrike levels = least := by
        rw [minStrike, found, Option.getD_some]
      have after : minStrike (levels.map (shifted shift)) = least + shift := by
        rw [minStrike, moved, Option.getD_some]
      have interest : maxOI (levels.map (shifted shift)) = maxOI levels := by
        rw [maxOI, List.map_map]
        rfl
      rw [normalized, normalized, before, after, interest, List.map_map]
      apply List.map_congr_left
      intro level _
      simp [shifted]

/-- An open interest of 0 everywhere stays so, and else the greatest is scaled too. -/
theorem normalized_scaled {factor : α} (positive : 0 < factor)
    (nonneg : ∀ level ∈ levels, 0 ≤ level.totalOI) :
    normalized (levels.map (scaled factor)) = normalized levels := by
  have strikes : minStrike (levels.map (scaled factor)) = minStrike levels := by
    rw [minStrike, List.map_map]
    rfl
  cases found : (levels.map (·.totalOI)).max? with
  | none =>
      rw [List.max?_eq_none_iff, List.map_eq_nil_iff] at found
      rw [found]
      rfl
  | some greatest =>
      have grown : ((levels.map (scaled factor)).map (·.totalOI)).max? =
          some (factor * greatest) := by
        have monotone : Monotone (fun interest : α => factor * interest) :=
          fun _ _ before => mul_le_mul_of_nonneg_left before positive.le
        have mapped := max?_map monotone found
        rwa [List.map_map] at mapped ⊢
      have before : maxOI levels = if greatest = 0 then 1 else greatest := by
        rw [maxOI, found, Option.getD_some]
      have after : maxOI (levels.map (scaled factor)) =
          if factor * greatest = 0 then 1 else factor * greatest := by
        rw [maxOI, grown, Option.getD_some]
      rw [normalized, normalized, strikes, before, after, List.map_map]
      apply List.map_congr_left
      intro level member
      simp only [Function.comp_apply, scaled, Point.mk.injEq, true_and]
      by_cases none_open : greatest = 0
      · have bound := (List.max?_eq_some_iff.mp found).2 _ (List.mem_map_of_mem member)
        have nothing : level.totalOI = 0 :=
          le_antisymm (bound.trans none_open.le) (nonneg level member)
        rw [nothing, mul_zero, zero_div, zero_div]
      · rw [if_neg none_open, if_neg (mul_ne_zero positive.ne' none_open),
          mul_div_mul_left _ _ positive.ne']

end Normalized

/-! ## The line -/

section Line

variable [IsStrictOrderedRing α] {points : List (Point α)}

omit [LinearOrder α] [IsStrictOrderedRing α] in
theorem sums_eq (points : List (Point α)) :
    (points.length : α) = power points 0 ∧ total (·.x) points = power points 1 ∧
      total (·.y) points = mixed points 0 ∧
      total (fun p => p.x * p.y) points = mixed points 1 ∧
      total (fun p => p.x * p.x) points = power points 2 := by
  refine ⟨power_zero.symm, ?_, mixed_zero.symm, ?_, ?_⟩
  · simp [power]
  · simp [mixed]
  · simp [power, sq]

/-- What the regression of points with two abscissas gives. -/
theorem regression_eq (some_points : power points 0 ≠ 0) (two : lineDet points ≠ 0) :
    ∃ slope intercept,
      (regression points).slope = slope ∧ (regression points).intercept = some intercept ∧
      (regression points).rSquared =
        (if residuals (line 0 (mixed points 0 / power points 0)) points = 0 then 0
          else 1 - residuals (line slope intercept) points /
            residuals (line 0 (mixed points 0 / power points 0)) points) ∧
      ∀ slope' intercept', residuals (line slope intercept) points ≤
        residuals (line slope' intercept') points := by
  obtain ⟨count, sum_x, sum_y, sum_xy, sum_xx⟩ := sums_eq points
  let slope := (power points 0 * mixed points 1 - power points 1 * mixed points 0) /
    lineDet points
  let intercept := (mixed points 0 - slope * power points 1) / power points 0
  have average : ∀ average : α, residuals (line 0 average) points =
      total (fun p => (p.y - average) ^ 2) points := by
    intro average
    simp only [residuals, line, zero_mul, zero_add]
  refine ⟨slope, intercept, ?_⟩
  have denominator : ¬power points 0 * power points 2 - power points 1 * power points 1 = 0 := two
  unfold regression
  simp only [count, sum_x, sum_y, sum_xy, sum_xx]
  rw [if_neg denominator, average]
  refine ⟨rfl, rfl, rfl, ?_⟩
  exact residuals_line_le (div_mul_cancel₀ _ two) (div_mul_cancel₀ _ some_points) some_points

theorem rSquared_mem {slope average intercept : α}
    (least : residuals (line slope intercept) points ≤ residuals (line 0 average) points) :
    0 ≤ (if residuals (line 0 average) points = 0 then 0
        else 1 - residuals (line slope intercept) points / residuals (line 0 average) points) ∧
      (if residuals (line 0 average) points = 0 then 0
        else 1 - residuals (line slope intercept) points / residuals (line 0 average) points) ≤
        1 := by
  split
  · exact ⟨le_rfl, zero_le_one⟩
  · rename_i varies
    have whole := lt_of_le_of_ne residuals_nonneg (Ne.symm varies)
    have part : residuals (line slope intercept) points / residuals (line 0 average) points ≤ 1 :=
      (div_le_one whole).mpr least
    have nonneg : 0 ≤ residuals (line slope intercept) points / residuals (line 0 average) points :=
      div_nonneg residuals_nonneg whole.le
    exact ⟨sub_nonneg.mpr part, sub_le_self _ nonneg⟩

variable {levels : List (Level α)}

omit [IsStrictOrderedRing α] in
theorem calculateOIRegression_eq (enough : ¬levels.length < 2) :
    calculateOIRegression levels = regression (normalized levels) :=
  if_neg enough

omit [Field α] [LinearOrder α] [IsStrictOrderedRing α] in
theorem two_levels {first second : Level α} (first_member : first ∈ levels)
    (second_member : second ∈ levels) (different : first.strike ≠ second.strike) :
    ¬levels.length < 2 := by
  intro short
  match levels, short with
  | [], _ => contradiction
  | [only], _ =>
      rw [List.mem_singleton.mp first_member, List.mem_singleton.mp second_member] at different
      exact different rfl

/-- The slope, the coefficient of determination and the bias. -/
def SameResult (result other : Regression α) : Prop :=
  result.slope = other.slope ∧ result.rSquared = other.rSquared ∧ result.bias = other.bias

/-- The regression of the levels is the line of least squares, whatever their scale. -/
structure LeastSquaresLine (levels : List (Level α)) : Prop where
  least : ∃ intercept, (calculateOIRegression levels).intercept = some intercept ∧
    ∀ slope' intercept',
      residuals (line (calculateOIRegression levels).slope intercept) (normalized levels) ≤
        residuals (line slope' intercept') (normalized levels)
  rSquared : 0 ≤ (calculateOIRegression levels).rSquared ∧
    (calculateOIRegression levels).rSquared ≤ 1
  shifted : ∀ shift, SameResult (calculateOIRegression (levels.map (shifted shift)))
    (calculateOIRegression levels)
  scaled : ∀ factor, 0 < factor →
    SameResult (calculateOIRegression (levels.map (scaled factor))) (calculateOIRegression levels)
  reordered : ∀ others : List (Level α), others.Perm levels →
    SameResult (calculateOIRegression others) (calculateOIRegression levels)

omit [IsStrictOrderedRing α] in
theorem sameResult_of_normalized {others : List (Level α)} (length : others.length = levels.length)
    (same : (normalized others).Perm (normalized levels)) :
    SameResult (calculateOIRegression others) (calculateOIRegression levels) := by
  have equal : calculateOIRegression others = calculateOIRegression levels := by
    rw [calculateOIRegression, calculateOIRegression, length, regression_perm same]
  rw [equal]
  exact ⟨rfl, rfl, rfl⟩

theorem leastSquaresLine {first second : Level α} (first_member : first ∈ levels)
    (second_member : second ∈ levels) (different : first.strike ≠ second.strike)
    (nonneg : ∀ level ∈ levels, 0 ≤ level.totalOI) : LeastSquaresLine levels := by
  have enough := two_levels first_member second_member different
  have distinct : (first.strike - minStrike levels) / ((100 : ℕ) : α) ≠
      (second.strike - minStrike levels) / (100 : ℕ) := by
    intro same
    rw [div_left_inj' (Nat.cast_ne_zero.mpr (by decide)), sub_left_inj] at same
    exact different same
  have det : lineDet (normalized levels) ≠ 0 :=
    (lineDet_pos (List.mem_map_of_mem first_member) (List.mem_map_of_mem second_member)
      distinct).ne'
  have some_points : power (normalized levels) 0 ≠ 0 := by
    rw [power_zero, Nat.cast_ne_zero, normalized, List.length_map]
    omega
  obtain ⟨slope, intercept, slope_eq, intercept_eq, rSquared_eq, least⟩ :=
    regression_eq some_points det
  exact
    { least := by
        rw [calculateOIRegression_eq enough, slope_eq]
        exact ⟨intercept, intercept_eq, least⟩
      rSquared := by
        rw [calculateOIRegression_eq enough, rSquared_eq]
        exact rSquared_mem (least 0 _)
      shifted := by
        intro shift
        refine sameResult_of_normalized (List.length_map _) ?_
        rw [normalized_shifted]
      scaled := by
        intro factor positive
        refine sameResult_of_normalized (List.length_map _) ?_
        rw [normalized_scaled positive nonneg]
      reordered := fun others same =>
        sameResult_of_normalized same.length_eq (normalized_perm same) }

end Line

/-- The line through the points (0, 1/2) and (1, 1). -/
theorem leastSquaresLine_two :
    (calculateOIRegression ([⟨100, 5⟩, ⟨200, 10⟩] : List (Level ℚ))).slope = 1 / 2 ∧
    LeastSquaresLine ([⟨100, 5⟩, ⟨200, 10⟩] : List (Level ℚ)) :=
  ⟨by with_unfolding_all decide, leastSquaresLine List.mem_cons_self
    (List.mem_cons_of_mem _ List.mem_cons_self) (by decide) (by decide)⟩

/-! ## The volatility smile -/

structure Quote (α : Type) where
  strike : α
  iv : α
  deriving DecidableEq

structure Smile (α : Type) where
  curvature : α
  skew : α
  minIV : α

def noSmile : Smile α where
  curvature := 0
  skew := 0
  minIV := 0

/-- The quotes with an IV, by strike. -/
def data (callIVs putIVs : List (Quote α)) : List (Quote α) :=
  ((putIVs ++ callIVs).filter (fun d => 0 < d.iv)).insertionSort (fun a b => a.strike ≤ b.strike)

/-- The moneyness and the IV of the quotes. -/
def smilePoints (callIVs putIVs : List (Quote α)) (atmStrike : α) : List (Point α) :=
  (data callIVs putIVs).map (fun p =>
    { x := (p.strike - atmStrike) / atmStrike, y := p.iv })

/-- The coefficient `a`, by Cramer's rule; none where the matrix counts as singular. -/
def leading (points : List (Point α)) : Option α :=
  let n : α := points.length
  let sumX := total (·.x) points
  let sumX2 := total (fun p => p.x * p.x) points
  let sumX3 := total (fun p => p.x * p.x * p.x) points
  let sumX4 := total (fun p => p.x * p.x * p.x * p.x) points
  let sumY := total (·.y) points
  let sumXY := total (fun p => p.x * p.y) points
  let sumX2Y := total (fun p => p.x * p.x * p.y) points
  let det := n * (sumX2 * sumX4 - sumX3 * sumX3) - sumX * (sumX * sumX4 - sumX2 * sumX3) +
    sumX2 * (sumX * sumX3 - sumX2 * sumX2)
  if |det| < 1e-9 then none
  else
    let detA := sumX2Y * (sumX2 * n - sumX * sumX) - sumXY * (sumX3 * n - sumX2 * sumX) +
      sumY * (sumX3 * sumX - sumX2 * sumX2)
    some (detA / det)

def fitVolatilitySmile (callIVs putIVs : List (Quote α)) (atmStrike : α) : Smile α :=
  let data := data callIVs putIVs
  if data.length < 3 then noSmile
  else
    match leading (smilePoints callIVs putIVs atmStrike) with
    | none => noSmile
    | some a =>
        { curvature := a * (100 : ℕ)
          skew := 0
          minIV := ((data.map (·.iv)).min?).getD 0 }

section Curvature

variable [IsStrictOrderedRing α] {callIVs putIVs : List (Quote α)} {atmStrike : α}
  {points : List (Point α)}

/-- The curvature is that of a parabola of least squares. -/
def Fitted (callIVs putIVs : List (Quote α)) (atmStrike : α) : Prop :=
  ∃ a b c, Closest (smilePoints callIVs putIVs atmStrike) a b c ∧
    (fitVolatilitySmile callIVs putIVs atmStrike).curvature = (100 : ℕ) * a

theorem leading_of_det :
    leading points =
      if parabolaDet points < 1e-9 then none
      else some (numeratorA points / parabolaDet points) := by
  obtain ⟨count, sum_x, sum_y, sum_xy, sum_xx⟩ := sums_eq points
  have cubes : total (fun p => p.x * p.x * p.x) points = power points 3 := by
    simp [power, pow_succ]
  have fourths : total (fun p => p.x * p.x * p.x * p.x) points = power points 4 := by
    simp [power, pow_succ]
  have weighted : total (fun p => p.x * p.x * p.y) points = mixed points 2 := by
    simp [mixed, sq]
  unfold leading
  simp only [count, sum_x, sum_y, sum_xy, sum_xx, cubes, fourths, weighted]
  change (if |parabolaDet points| < 1e-9 then none
    else some (numeratorA points / parabolaDet points)) = _
  rw [abs_of_nonneg parabolaDet_nonneg]

omit [IsStrictOrderedRing α] in
theorem three_quotes {p q r : Quote α} (first : p ∈ data callIVs putIVs)
    (second : q ∈ data callIVs putIVs) (third : r ∈ data callIVs putIVs)
    (first_second : p.strike ≠ q.strike) (second_third : q.strike ≠ r.strike)
    (first_third : p.strike ≠ r.strike) : ¬(data callIVs putIVs).length < 3 := by
  have distinct : [p.strike, q.strike, r.strike].Nodup := by
    simp [first_second, second_third, first_third]
  have listed : [p.strike, q.strike, r.strike] ⊆ (data callIVs putIVs).map (·.strike) := by
    intro strike member
    simp only [List.mem_cons, List.not_mem_nil, or_false] at member
    rcases member with rfl | rfl | rfl
    · exact List.mem_map_of_mem first
    · exact List.mem_map_of_mem second
    · exact List.mem_map_of_mem third
  have enough := (List.subperm_of_subset distinct listed).length_le
  rw [List.length_map] at enough
  exact Nat.not_lt.mpr enough

/-- The curvature is right where the matrix is not taken for a singular one, and where 0 is
right. -/
theorem fitted_iff {p q r : Quote α} (positive : 0 < atmStrike)
    (first : p ∈ data callIVs putIVs) (second : q ∈ data callIVs putIVs)
    (third : r ∈ data callIVs putIVs) (first_second : p.strike ≠ q.strike)
    (second_third : q.strike ≠ r.strike) (first_third : p.strike ≠ r.strike) :
    Fitted callIVs putIVs atmStrike ↔
      1e-9 ≤ triples spread (smilePoints callIVs putIVs atmStrike) ∨
        ∃ b c, Closest (smilePoints callIVs putIVs atmStrike) 0 b c := by
  have apart : ∀ {s t : α}, s ≠ t → (s - atmStrike) / atmStrike ≠ (t - atmStrike) / atmStrike := by
    intro s t different same
    rw [div_left_inj' positive.ne', sub_left_inj] at same
    exact different same
  obtain ⟨⟨b, c, least⟩, unique⟩ := closest_leading
    (smilePoints callIVs putIVs atmStrike) (List.mem_map_of_mem first)
    (List.mem_map_of_mem second) (List.mem_map_of_mem third) (apart first_second)
    (apart second_third) (apart first_third)
  have enough := three_quotes first second third first_second second_third first_third
  rw [Fitted, fitVolatilitySmile, if_neg enough, leading_of_det, ← parabolaDet_eq_triples]
  by_cases singular : parabolaDet (smilePoints callIVs putIVs atmStrike) < 1e-9
  · rw [if_pos singular]
    constructor
    · intro ⟨a, b, c, fits, same⟩
      have flat : a = 0 :=
        (mul_eq_zero.mp same.symm).resolve_left (Nat.cast_ne_zero.mpr (by decide))
      rw [flat] at fits
      exact .inr ⟨b, c, fits⟩
    · rintro (large | ⟨b, c, fits⟩)
      · exact absurd singular (not_lt.mpr large)
      · exact ⟨0, b, c, fits, (mul_zero _).symm⟩
  · rw [if_neg singular]
    constructor
    · exact fun _ => .inl (not_lt.mp singular)
    · exact fun _ => ⟨_, b, c, least, mul_comm _ _⟩

end Curvature

/-- An index at 100 with strikes 50 apart. -/
theorem fitted_iff_wide :
    Fitted ([⟨150, 14⟩] : List (Quote ℚ)) [⟨50, 16⟩, ⟨100, 12⟩] 100 ↔
      1e-9 ≤ triples spread (smilePoints [⟨150, 14⟩] [⟨50, 16⟩, ⟨100, 12⟩] (100 : ℚ)) ∨
        ∃ b c, Closest (smilePoints [⟨150, 14⟩] [⟨50, 16⟩, ⟨100, 12⟩] (100 : ℚ)) 0 b c :=
  fitted_iff (p := ⟨50, 16⟩) (q := ⟨100, 12⟩) (r := ⟨150, 14⟩) (by decide) (by decide)
    (by decide) (by decide) (by decide) (by decide) (by decide)

/-- Strikes 50 apart at 24000 lie on a parabola, for which the curvature is 0. -/
theorem fitted_fails :
    ¬Fitted ([⟨24050, 13⟩] : List (Quote ℚ)) [⟨23950, 13⟩, ⟨24000, 12⟩] 24000 := by
  intro ⟨a, b, c, fits, curvature⟩
  have nothing : (fitVolatilitySmile ([⟨24050, 13⟩] : List (Quote ℚ))
      [⟨23950, 13⟩, ⟨24000, 12⟩] 24000).curvature = 0 := by
    with_unfolding_all decide
  have flat : a = 0 :=
    (mul_eq_zero.mp (curvature.symm.trans nothing)).resolve_left (by decide)
  have points : smilePoints ([⟨24050, 13⟩] : List (Quote ℚ)) [⟨23950, 13⟩, ⟨24000, 12⟩] 24000 =
      [⟨-1 / 480, 13⟩, ⟨0, 12⟩, ⟨1 / 480, 13⟩] := by
    with_unfolding_all decide
  rw [points, flat] at fits
  have unique := (closest_leading [⟨-1 / 480, 13⟩, ⟨0, 12⟩, ⟨(1 / 480 : ℚ), 13⟩]
    List.mem_cons_self (List.mem_cons_of_mem _ List.mem_cons_self)
    (List.mem_cons_of_mem _ (List.mem_cons_of_mem _ List.mem_cons_self)) (by norm_num)
    (by norm_num) (by norm_num)).2 0 b c fits
  revert unique
  with_unfolding_all decide

end HftEngine.Frontend.QuantStats
