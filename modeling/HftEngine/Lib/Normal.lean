import Mathlib.Probability.CDF
import Mathlib.Probability.Distributions.Gaussian.Real
import Mathlib.MeasureTheory.Measure.Lebesgue.Integral
import Mathlib.MeasureTheory.Integral.IntervalIntegral.FundThmCalculus
import Mathlib.Analysis.SpecialFunctions.ExpDeriv

/-!
# The standard normal distribution

Its distribution function is symmetric and has the density as its derivative, and its
ratio to the density grows.
-/

namespace Normal

open MeasureTheory ProbabilityTheory Set

noncomputable def density (x : ℝ) : ℝ :=
  gaussianPDFReal 0 1 x

noncomputable def distribution (x : ℝ) : ℝ :=
  cdf (gaussianReal 0 1) x

theorem density_eq (x : ℝ) :
    density x = Real.exp (-(1 / 2) * x ^ 2) / √(2 * Real.pi) := by
  rw [density, gaussianPDFReal_def]
  simp only [NNReal.coe_one, mul_one, sub_zero]
  rw [inv_mul_eq_div]
  congr 2
  ring

theorem density_pos (x : ℝ) : 0 < density x :=
  gaussianPDFReal_pos 0 1 x one_ne_zero

theorem density_neg (x : ℝ) : density (-x) = density x := by
  rw [density_eq, density_eq, neg_sq]

theorem integrable_density : Integrable density :=
  integrable_gaussianPDFReal 0 1

theorem distribution_eq (x : ℝ) : distribution x = ∫ t in Iic x, density t := by
  have nonneg : 0 ≤ ∫ t in Iic x, density t :=
    setIntegral_nonneg measurableSet_Iic (fun t _ => (density_pos t).le)
  rw [distribution, cdf_eq_real, Measure.real, gaussianReal_apply_eq_integral 0 one_ne_zero]
  exact ENNReal.toReal_ofReal nonneg

theorem distribution_neg (x : ℝ) : distribution (-x) = 1 - distribution x := by
  have mirrored : ∫ t in Iic (-x), density t = ∫ t in Ioi x, density t := by
    have even := integral_comp_neg_Iic (-x) density
    simpa only [density_neg, neg_neg] using even
  have whole : (∫ t in Iic x, density t) + ∫ t in Ioi x, density t = 1 := by
    rw [intervalIntegral.integral_Iic_add_Ioi integrable_density.integrableOn
      integrable_density.integrableOn]
    exact integral_gaussianPDFReal_eq_one 0 one_ne_zero
  rw [distribution_eq, distribution_eq, mirrored]
  linarith

theorem continuous_density : Continuous density := by
  rw [funext density_eq]
  fun_prop

/-- The density is the derivative of the distribution function. -/
theorem hasDerivAt_distribution (x : ℝ) : HasDerivAt distribution (density x) x := by
  have whole : distribution = fun y => distribution 0 + ∫ t in (0 : ℝ)..y, density t := by
    ext y
    have difference := intervalIntegral.integral_Iic_sub_Iic (a := 0) (b := y)
      integrable_density.integrableOn integrable_density.integrableOn
    rw [distribution_eq, distribution_eq, ← difference]
    ring
  rw [whole]
  exact (continuous_density.integral_hasStrictDerivAt 0 x).hasDerivAt.const_add _

theorem distribution_nonneg (x : ℝ) : 0 ≤ distribution x :=
  cdf_nonneg _ x

theorem distribution_le_one (x : ℝ) : distribution x ≤ 1 :=
  cdf_le_one _ x

/-- Between two points it grows by the density of a point between them. -/
theorem exists_distribution_sub_eq {x y : ℝ} (below : x < y) :
    ∃ c ∈ Ioo x y, distribution y - distribution x = density c * (y - x) := by
  have continuous : ContinuousOn distribution (Icc x y) :=
    fun c _ => (hasDerivAt_distribution c).continuousAt.continuousWithinAt
  obtain ⟨c, inside, slope⟩ := exists_hasDerivAt_eq_slope distribution density below continuous
    (fun c _ => hasDerivAt_distribution c)
  refine ⟨c, inside, ?_⟩
  rw [slope, div_mul_cancel₀ _ (sub_pos.mpr below).ne']

theorem hasDerivAt_density (x : ℝ) : HasDerivAt density (-x * density x) x := by
  rw [funext density_eq]
  have exponent : HasDerivAt (fun x : ℝ => -(1 / 2) * x ^ 2) (-x) x := by
    apply ((hasDerivAt_pow 2 x).const_mul (-(1 / 2))).congr_deriv
    ring
  apply (exponent.exp.div_const _).congr_deriv
  ring

/-- The distribution function from where it is moved to. -/
theorem distribution_add (x c : ℝ) :
    distribution (x + c) = ∫ t in Iic x, density (t + c) := by
  have moved := (measurePreserving_add_right volume c).setIntegral_preimage_emb
    (measurableEmbedding_addRight c) density (Iic (x + c))
  rw [distribution_eq, ← moved]
  congr 2
  ext t
  simp

/-- Moving to the right weighs less at the greater point than the other way round. -/
theorem density_mul_lt {t x c : ℝ} (forward : 0 < c) (before : t < x) :
    density t * density (x + c) < density (t + c) * density x := by
  have root : 0 < √(2 * Real.pi) := by positivity
  simp only [density_eq]
  rw [div_mul_div_comm, div_mul_div_comm, ← Real.exp_add, ← Real.exp_add]
  apply div_lt_div_of_pos_right _ (mul_pos root root)
  apply Real.exp_lt_exp.mpr
  have gained : 0 < c * (x - t) := mul_pos forward (sub_pos.mpr before)
  linarith [gained, show -(1 / 2) * (t + c) ^ 2 + -(1 / 2) * x ^ 2 -
    (-(1 / 2) * t ^ 2 + -(1 / 2) * (x + c) ^ 2) = c * (x - t) by ring]

theorem distribution_mul_density_lt {x y : ℝ} (below : x < y) :
    distribution x * density y < distribution y * density x := by
  obtain ⟨c, forward, rfl⟩ : ∃ c, 0 < c ∧ y = x + c := ⟨y - x, sub_pos.mpr below, by ring⟩
  rw [distribution_add, distribution_eq, ← integral_mul_const, ← integral_mul_const, ← sub_pos]
  have left : IntegrableOn (fun t => density t * density (x + c)) (Iic x) :=
    (integrable_density.mul_const _).integrableOn
  have right : IntegrableOn (fun t => density (t + c) * density x) (Iic x) :=
    ((integrable_density.comp_add_right c).mul_const _).integrableOn
  rw [← integral_sub right left]
  have nonneg : 0 ≤ᵐ[volume.restrict (Iic x)]
      fun t => density (t + c) * density x - density t * density (x + c) := by
    rw [Filter.EventuallyLE, ae_restrict_iff' measurableSet_Iic]
    refine Filter.Eventually.of_forall (fun t within => ?_)
    obtain same | before := eq_or_lt_of_le (mem_Iic.mp within)
    · simp [same, mul_comm]
    · exact (sub_pos.mpr (density_mul_lt forward before)).le
  rw [setIntegral_pos_iff_support_of_nonneg_ae nonneg (right.sub left)]
  have inside : Iio x ⊆ Function.support
      (fun t => density (t + c) * density x - density t * density (x + c)) ∩ Iic x :=
    fun t before => ⟨(sub_pos.mpr (density_mul_lt forward before)).ne', (mem_Iio.mp before).le⟩
  have large : 0 < volume (Iio x) := by simp
  exact large.trans_le (measure_mono inside)

end Normal
