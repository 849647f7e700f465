import HftEngine.Lib.Binary64
import HftEngine.Lib.Python.Exact
import Mathlib.Data.Int.Log

/-!
# Rounding to doubles

The double that a positive rational is rounded to, and how far it is from it.  A mantissa
with its round bit and sticky bit stands for a rational of which it is the integer part;
what an operation on doubles gives depends on that rational only.
-/

namespace Binary64

open Float.Model Float.Model.UnpackedFloat
open Py.Exact (roundHalfEven roundHalfEven_le le_roundHalfEven abs_roundHalfEven_sub_le)

/-! ## Mantissas with two more bits -/

/-- The mantissa is the integer part of `t`; the bits tell whether the rest is at least a
half, and whether it is neither 0 nor a half. -/
structure Represents (em : ExtendedMantissa) (t : ℚ) : Prop where
  below : (em.mantissa : ℚ) ≤ t
  above : t < em.mantissa + 1
  round : em.roundBit = true ↔ (em.mantissa : ℚ) + 1 / 2 ≤ t
  sticky : em.stickyBit = true ↔ t ≠ em.mantissa ∧ t ≠ em.mantissa + 1 / 2

theorem Represents.shiftRightOne {em : ExtendedMantissa} {t : ℚ}
    (represents : Represents em t) : Represents em.shiftRightOne (t / 2) := by
  obtain ⟨below, above, round, sticky⟩ := represents
  obtain ⟨mantissa, roundBit, stickyBit⟩ := em
  dsimp only at below above round sticky
  have inexact : (roundBit || stickyBit) = true ↔ t ≠ mantissa := by
    rw [Bool.or_eq_true, round, sticky]
    constructor
    · rintro (high | ⟨different, -⟩)
      · intro same
        linarith
      · exact different
    · intro different
      by_cases high : (mantissa : ℚ) + 1 / 2 ≤ t
      · exact .inl high
      · exact .inr ⟨different, fun same => high same.ge⟩
  have parts : (mantissa : ℚ) = 2 * (mantissa / 2 : ℕ) + (mantissa % 2 : ℕ) := by
    exact_mod_cast (Nat.div_add_mod mantissa 2).symm
  rcases Nat.mod_two_eq_zero_or_one mantissa with even | odd
  · rw [even, Nat.cast_zero, add_zero] at parts
    refine ⟨?_, ?_, ?_, ?_⟩
    · dsimp only [ExtendedMantissa.shiftRightOne]
      linarith
    · dsimp only [ExtendedMantissa.shiftRightOne]
      linarith
    · refine iff_of_false (by simp [ExtendedMantissa.shiftRightOne, even]) ?_
      dsimp only [ExtendedMantissa.shiftRightOne]
      intro high
      linarith
    · dsimp only [ExtendedMantissa.shiftRightOne]
      rw [inexact]
      constructor
      · intro different
        exact ⟨fun same => different (by linarith), fun same => by linarith⟩
      · intro different same
        exact different.1 (by linarith)
  · rw [odd, Nat.cast_one] at parts
    refine ⟨?_, ?_, ?_, ?_⟩
    · dsimp only [ExtendedMantissa.shiftRightOne]
      linarith
    · dsimp only [ExtendedMantissa.shiftRightOne]
      linarith
    · refine iff_of_true (by simp [ExtendedMantissa.shiftRightOne, odd]) ?_
      dsimp only [ExtendedMantissa.shiftRightOne]
      linarith
    · dsimp only [ExtendedMantissa.shiftRightOne]
      rw [inexact]
      constructor
      · intro different
        exact ⟨fun same => by linarith, fun same => different (by linarith)⟩
      · intro different same
        exact different.2 (by linarith)

theorem Represents.shiftRight {em : ExtendedMantissa} {t : ℚ}
    (represents : Represents em t) (shift : ℕ) : Represents (em >>> shift) (t / 2 ^ shift) := by
  induction shift with
  | zero => simpa [HShiftRight.hShiftRight, Nat.repeat] using represents
  | succ shift ih =>
      rw [pow_succ, ← div_div]
      exact ih.shiftRightOne

theorem Represents.floor {em : ExtendedMantissa} {t : ℚ} (represents : Represents em t) :
    ⌊t⌋ = (em.mantissa : ℤ) :=
  Int.floor_eq_iff.mpr ⟨by exact_mod_cast represents.below,
    by exact_mod_cast represents.above⟩

/-- Rounding by the two bits is rounding to the nearest integer. -/
theorem Represents.roundedMantissa {em : ExtendedMantissa} {t : ℚ}
    (represents : Represents em t) : (em.roundedMantissa : ℤ) = roundHalfEven t := by
  have floor := represents.floor
  obtain ⟨below, above, round, sticky⟩ := represents
  obtain ⟨mantissa, roundBit, stickyBit⟩ := em
  dsimp only at below above round sticky floor
  unfold roundHalfEven
  rw [floor]
  dsimp only
  push_cast
  cases roundBit with
  | false =>
      have low : t < mantissa + 1 / 2 := by simpa using round
      rw [if_pos (by linarith)]
      cases stickyBit <;> rfl
  | true =>
      have high : (mantissa : ℚ) + 1 / 2 ≤ t := by simpa using round
      rw [if_neg (by linarith)]
      cases stickyBit with
      | false =>
          have half : t = mantissa + 1 / 2 := by
            by_contra different
            have inexact : t ≠ mantissa ∧ t ≠ mantissa + 1 / 2 :=
              ⟨fun same => by linarith, different⟩
            exact absurd (sticky.mpr inexact) (by decide)
          rw [if_neg (by linarith)]
          change ((mantissa + mantissa % 2 : ℕ) : ℤ) = _
          split <;> omega
      | true =>
          have different := (sticky.mp rfl).2
          have more : (mantissa : ℚ) + 1 / 2 < t := high.lt_of_ne different.symm
          rw [if_pos (by linarith)]
          rfl

theorem represents_exact (mantissa : ℕ) :
    Represents (.ofMantissaAndAccuracy mantissa .exact) mantissa := by
  constructor
  · exact le_rfl
  · exact lt_add_one _
  · simp [ExtendedMantissa.ofMantissaAndAccuracy]
  · simp [ExtendedMantissa.ofMantissaAndAccuracy]

theorem represents_add (mantissa : ℕ) {rest : ℚ} {roundBit stickyBit : Bool}
    (nonneg : 0 ≤ rest) (less : rest < 1) (round : roundBit = true ↔ 1 / 2 ≤ rest)
    (sticky : stickyBit = true ↔ rest ≠ 0 ∧ rest ≠ 1 / 2) :
    Represents ⟨mantissa, roundBit, stickyBit⟩ (mantissa + rest) := by
  constructor
  · exact le_add_of_nonneg_right nonneg
  · exact (add_lt_add_iff_left _).mpr less
  · rw [round, add_le_add_iff_left]
  · simp [sticky]

/-- An integer quotient with the accuracy of its remainder. -/
theorem represents_quotient (numerator : ℕ) {denominator : ℕ} (positive : 0 < denominator) :
    Represents (.ofMantissaAndAccuracy (numerator / denominator)
      (accuracyOfFraction (numerator % denominator) denominator))
      ((numerator : ℚ) / denominator) := by
  have rest_lt := Nat.mod_lt numerator positive
  have parts : (numerator : ℚ) / denominator =
      (numerator / denominator : ℕ) + (numerator % denominator : ℕ) / denominator := by
    have split : (numerator : ℚ) = denominator * (numerator / denominator : ℕ) +
        (numerator % denominator : ℕ) := by
      exact_mod_cast (Nat.div_add_mod numerator denominator).symm
    field_simp
    linarith
  rw [parts]
  generalize numerator / denominator = mantissa
  generalize numerator % denominator = rest at rest_lt
  have positive' : (0 : ℚ) < denominator := by exact_mod_cast positive
  have nonneg : (0 : ℚ) ≤ rest / denominator := by positivity
  have less : (rest : ℚ) / denominator < 1 := by
    rw [div_lt_one positive']
    exact_mod_cast rest_lt
  have half : (rest : ℚ) / denominator = rest * 2 / denominator / 2 := by ring
  unfold accuracyOfFraction
  split
  case isTrue zero =>
      rw [zero, Nat.cast_zero, zero_div, add_zero]
      exact represents_exact mantissa
  case isFalse nonzero =>
      have some_rest : (rest : ℚ) / denominator ≠ 0 := by
        have : (rest : ℚ) ≠ 0 := by exact_mod_cast nonzero
        positivity
      rcases lt_trichotomy (2 * rest) denominator with low | same | high
      · have below : (rest : ℚ) / denominator < 1 / 2 := by
          rw [div_lt_div_iff₀ positive' two_pos]
          exact_mod_cast (by omega : rest * 2 < 1 * denominator)
        rw [compare_lt_iff_lt.mpr low]
        exact represents_add mantissa nonneg less (by simpa using below)
          (by simpa using ⟨by simpa using some_rest, by simpa using below.ne⟩)
      · have equal : (rest : ℚ) / denominator = 1 / 2 := by
          rw [div_eq_div_iff positive'.ne' two_ne_zero]
          exact_mod_cast (by omega : rest * 2 = 1 * denominator)
        rw [compare_eq_iff_eq.mpr same, equal]
        exact represents_add mantissa (by norm_num) (by norm_num) (by simp) (by simp)
      · have above : 1 / 2 < (rest : ℚ) / denominator := by
          rw [div_lt_div_iff₀ two_pos positive']
          exact_mod_cast (by omega : 1 * denominator < rest * 2)
        rw [compare_gt_iff_gt.mpr high]
        exact represents_add mantissa nonneg less (by simpa using above.le)
          (by simpa using ⟨by simpa using some_rest, by simpa using above.ne'⟩)

/-! ## The rational that is rounded to -/

/-- The exponent of the double that is nearest a positive rational. -/
def target (q : ℚ) : ℤ :=
  max (Int.log 2 q - 52) (-1074)

/-- A multiple of the power of two. -/
def nearest (q : ℚ) : ℚ :=
  roundHalfEven (q / 2 ^ target q) * 2 ^ target q

theorem target_le {q : ℚ} (positive : 0 < q) {k : ℤ} (least : -1022 ≤ k)
    (bound : q < 2 ^ (k + 1)) : target q ≤ k - 52 := by
  have log := (Int.lt_zpow_iff_log_lt (b := 2) one_lt_two positive).mp (by exact_mod_cast bound)
  unfold target
  omega

/-- What bounds the rational and is a double bounds what it is rounded to. -/
theorem nearest_le {q : ℚ} {n : ℕ} {k : ℤ} (bound : q ≤ n * 2 ^ k) (coarse : target q ≤ k) :
    nearest q ≤ n * 2 ^ k := by
  obtain ⟨shift, rfl⟩ := Int.le.dest coarse
  have unit : (0 : ℚ) < 2 ^ target q := by positivity
  have split : (n : ℚ) * 2 ^ (target q + shift) = (n * 2 ^ shift : ℕ) * 2 ^ target q := by
    rw [zpow_add₀ two_ne_zero, zpow_natCast]
    push_cast
    ring
  rw [split] at bound ⊢
  apply mul_le_mul_of_nonneg_right _ unit.le
  have whole : roundHalfEven (q / 2 ^ target q) ≤ ((n * 2 ^ shift : ℕ) : ℤ) := by
    apply roundHalfEven_le
    rw [div_le_iff₀ unit]
    exact_mod_cast bound
  exact_mod_cast whole

theorem abs_nearest_sub_le (q : ℚ) : |nearest q - q| ≤ 2 ^ target q / 2 := by
  have unit : (0 : ℚ) < 2 ^ target q := by positivity
  have split : nearest q - q =
      (roundHalfEven (q / 2 ^ target q) - q / 2 ^ target q) * 2 ^ target q := by
    unfold nearest
    field_simp
  rw [split, abs_mul, abs_of_pos unit]
  have error := abs_roundHalfEven_sub_le (q / 2 ^ target q)
  nlinarith

/-- An unpacked double that is the rational with a sign. -/
inductive Unpacked (sign : Sign) (y : ℚ) : UnpackedFloat → Prop where
  | zero : y = 0 → Unpacked sign y (.zero sign)
  | finite {mantissa : ℕ} {exponent : ℤ} {positive : 0 < mantissa} :
      Canonical mantissa exponent → y = mantissa * 2 ^ exponent →
      Unpacked sign y (.finite sign mantissa exponent positive)

theorem le_log_iff {q : ℚ} (positive : 0 < q) {k : ℤ} : (2 : ℚ) ^ k ≤ q ↔ k ≤ Int.log 2 q := by
  have iff := Int.zpow_le_iff_le_log (b := 2) (x := k) one_lt_two positive
  exact_mod_cast iff

theorem log_lt_iff {q : ℚ} (positive : 0 < q) {k : ℤ} : q < (2 : ℚ) ^ k ↔ Int.log 2 q < k := by
  have iff := Int.lt_zpow_iff_log_lt (b := 2) (x := k) one_lt_two positive
  exact_mod_cast iff

/-- The exponent to round to is that of the rational, whatever mantissa represents it. -/
theorem targetExponent_of_represents {mantissa : ℕ} {exponent : ℤ} {em : ExtendedMantissa}
    {q : ℚ} (positive : 0 < q) (represents : Represents em (q / 2 ^ exponent))
    (same : em.mantissa = mantissa) (low : exponent ≤ target q) :
    Format.binary64.targetExponent (totalExponent mantissa exponent) = target q := by
  obtain ⟨below, above, -, -⟩ := represents
  rw [same] at below above
  have unit : (0 : ℚ) < 2 ^ exponent := by positivity
  rw [le_div_iff₀ unit] at below
  rw [div_lt_iff₀ unit] at above
  rw [targetExponent_eq, totalExponent]
  unfold target at low ⊢
  rcases Nat.eq_zero_or_pos mantissa with rfl | some_mantissa
  · rw [Nat.cast_zero, zero_add, one_mul, log_lt_iff positive] at above
    rw [Nat.log2_zero]
    omega
  · have lower : (2 : ℚ) ^ (mantissa.log2 + exponent) ≤ q := by
      rw [zpow_add₀ two_ne_zero, zpow_natCast]
      have power : (2 : ℚ) ^ mantissa.log2 ≤ mantissa := by
        exact_mod_cast Nat.log2_self_le some_mantissa.ne'
      exact (mul_le_mul_of_nonneg_right power unit.le).trans below
    have upper : q < (2 : ℚ) ^ (mantissa.log2 + 1 + exponent) := by
      rw [zpow_add₀ two_ne_zero]
      have power : (mantissa : ℚ) + 1 ≤ 2 ^ ((mantissa.log2 : ℤ) + 1) := by
        exact_mod_cast Nat.succ_le_of_lt Nat.lt_log2_self
      exact above.trans_le (mul_le_mul_of_nonneg_right power unit.le)
    rw [le_log_iff positive] at lower
    rw [log_lt_iff positive] at upper
    omega

theorem shiftToExponent_spec {mantissa : ℕ} {exponent : ℤ} {accuracy : Accuracy} {q : ℚ}
    (represents : Represents (.ofMantissaAndAccuracy mantissa accuracy) (q / 2 ^ exponent))
    {level : ℤ} (low : exponent ≤ level) :
    (shiftToExponent mantissa exponent accuracy level).2 = level ∧
      Represents (shiftToExponent mantissa exponent accuracy level).1 (q / 2 ^ level) := by
  obtain ⟨shift, rfl⟩ := Int.le.dest low
  have amount : (exponent + shift - exponent).toNat = shift := by omega
  unfold shiftToExponent
  dsimp only
  rw [amount]
  refine ⟨rfl, ?_⟩
  rw [zpow_add₀ two_ne_zero, zpow_natCast, ← div_div]
  exact represents.shiftRight shift

@[simp] theorem ofMantissaAndAccuracy_mantissa (mantissa : ℕ) (accuracy : Accuracy) :
    (ExtendedMantissa.ofMantissaAndAccuracy mantissa accuracy).mantissa = mantissa := by
  cases accuracy with
  | exact => rfl
  | inexact relative => cases relative <;> rfl

/-- A mantissa that already fits stays as it is. -/
theorem shiftToTargetExponent_fits {mantissa : ℕ} {exponent : ℤ} (fits : mantissa < 2 ^ 53)
    (least : -1074 ≤ exponent) :
    shiftToTargetExponent Format.binary64 mantissa exponent .exact =
      (⟨mantissa, false, false⟩, exponent) := by
  have few : mantissa.log2 ≤ 52 := by
    rcases Nat.eq_zero_or_pos mantissa with rfl | positive
    · simp
    · exact Nat.le_of_lt_succ ((Nat.log2_lt positive.ne').mpr fits)
  have amount : (Format.binary64.targetExponent (totalExponent mantissa exponent) -
      exponent).toNat = 0 := by
    rw [targetExponent_eq, totalExponent]
    omega
  rw [shiftToTargetExponent, shiftToExponent, amount]
  simp [ExtendedMantissa.ofMantissaAndAccuracy, HShiftRight.hShiftRight, Nat.repeat]

theorem shiftToTargetExponent_carry {exponent : ℤ} (least : -1074 ≤ exponent) :
    shiftToTargetExponent Format.binary64 (2 ^ 53) exponent .exact =
      (⟨2 ^ 52, false, false⟩, exponent + 1) := by
  have amount : (Format.binary64.targetExponent (totalExponent (2 ^ 53) exponent) -
      exponent).toNat = 1 := by
    rw [targetExponent_eq, totalExponent, Nat.log2_two_pow]
    omega
  rw [shiftToTargetExponent, shiftToExponent, amount]
  rfl

/-- The rounded mantissa has 53 bits, or fewer at the least exponent, unless it carries. -/
theorem canonical_target {q : ℚ} (positive : 0 < q) {mantissa : ℕ} (some_mantissa : 0 < mantissa)
    (rounded : (mantissa : ℤ) = roundHalfEven (q / 2 ^ target q)) (fits : mantissa < 2 ^ 53) :
    Canonical mantissa (target q) := by
  have few := (Nat.log2_lt some_mantissa.ne').mpr fits
  refine ⟨some_mantissa, le_max_right _ _, ?_⟩
  rw [targetExponent_eq, totalExponent]
  by_cases normal : -1074 < Int.log 2 q - 52
  · have same : target q = Int.log 2 q - 52 := max_eq_left normal.le
    have many : 2 ^ 52 ≤ mantissa := by
      have bound : ((2 ^ 52 : ℤ) : ℚ) ≤ q / 2 ^ target q := by
        rw [le_div_iff₀ (by positivity), same]
        have lower := (le_log_iff positive).mpr (le_refl (Int.log 2 q))
        have split : (2 : ℚ) ^ Int.log 2 q = 2 ^ (52 : ℤ) * 2 ^ (Int.log 2 q - 52) := by
          rw [← zpow_add₀ two_ne_zero]
          congr 1
          ring
        rw [split] at lower
        exact_mod_cast lower
      have := le_roundHalfEven bound
      rw [← rounded] at this
      exact_mod_cast this
    have enough := (Nat.le_log2 some_mantissa.ne').mpr many
    omega
  · have same : target q = -1074 := max_eq_right (not_lt.mp normal)
    omega

theorem roundHalfEven_target_le {q : ℚ} (positive : 0 < q) :
    roundHalfEven (q / 2 ^ target q) ≤ 2 ^ 53 := by
  apply roundHalfEven_le
  rw [div_le_iff₀ (by positivity)]
  have upper := (log_lt_iff positive).mpr (lt_add_one (Int.log 2 q))
  have wide : Int.log 2 q + 1 ≤ 53 + target q := by
    unfold target
    omega
  have split : (2 : ℚ) ^ (53 + target q) = 2 ^ (53 : ℤ) * 2 ^ target q :=
    zpow_add₀ two_ne_zero _ _
  have raised : (2 : ℚ) ^ (Int.log 2 q + 1) ≤ 2 ^ (53 + target q) :=
    zpow_le_zpow_right₀ one_le_two wide
  rw [split] at raised
  exact_mod_cast upper.le.trans raised

/-- What a rational that is represented is rounded to. -/
theorem unpacked_round {mantissa : ℕ} {exponent : ℤ} {accuracy : Accuracy} {q : ℚ}
    (positive : 0 < q)
    (represents : Represents (.ofMantissaAndAccuracy mantissa accuracy) (q / 2 ^ exponent))
    (low : exponent ≤ target q) (sign : Sign) :
    Unpacked sign (nearest q)
      (roundWithAccuracy Format.binary64 sign mantissa exponent accuracy) := by
  have least : -1074 ≤ target q := le_max_right _ _
  obtain ⟨at_target, shifted⟩ := shiftToExponent_spec represents low
  have rounded := shifted.roundedMantissa
  have bound := roundHalfEven_target_le positive
  unfold nearest
  rw [roundWithAccuracy, shiftToTargetExponent, targetExponent_of_represents positive
    represents (ofMantissaAndAccuracy_mantissa _ _) low]
  generalize shiftToExponent mantissa exponent accuracy (target q) = pair at at_target rounded ⊢
  obtain ⟨em, level⟩ := pair
  dsimp only at at_target rounded ⊢
  subst at_target
  rw [← rounded] at bound ⊢
  have limit : em.roundedMantissa ≤ 2 ^ 53 := by exact_mod_cast bound
  rcases limit.lt_or_eq with fits | carry
  · rw [shiftToTargetExponent_fits fits least]
    dsimp only
    split
    case isTrue zero => exact .zero (by simp [zero])
    case isFalse nonzero =>
        apply Unpacked.finite (canonical_target positive (Nat.pos_of_ne_zero nonzero) rounded
          fits)
        simp
  · rw [carry, shiftToTargetExponent_carry least]
    dsimp only
    rw [dif_neg (by decide)]
    apply Unpacked.finite
    · refine ⟨by decide, by omega, ?_⟩
      rw [targetExponent_eq, totalExponent, Nat.log2_two_pow]
      omega
    · rw [zpow_add₀ two_ne_zero]
      push_cast
      ring

/-! ## Doubles -/

@[simp] theorem unpackSign_packComponents (sign : Sign)
    (exponent : BitVec Format.binary64.exponentBits)
    (mantissa : BitVec Format.binary64.mantissaBitsWithoutImplicit) :
    unpackSign (packComponents Format.binary64 sign exponent mantissa) = sign.toBitVec := by
  apply BitVec.eq_of_getLsbD_eq
  intro i inside
  obtain rfl := Nat.lt_one_iff.mp inside
  simp only [unpackSign, packComponents, BitVec.getLsbD_cast, BitVec.getLsbD_extractLsb]
  rw [BitVec.getLsbD_append, BitVec.getLsbD_append]
  simp

@[simp] theorem ofBitVec_toBitVec (sign : Sign) : Sign.ofBitVec sign.toBitVec = sign := by
  cases sign <;> rfl

/-- A double that is packed is unpacked again. -/
theorem unpack_pack {sign : Sign} {mantissa : ℕ} {exponent : ℤ} {positive : 0 < mantissa}
    (canonical : Canonical mantissa exponent) (fits : exponent ≤ 971) :
    (Float.Model.pack (.finite sign mantissa exponent positive)).unpack =
      .finite sign mantissa exponent positive := by
  obtain ⟨-, least, same⟩ := canonical
  rw [targetExponent_eq, totalExponent] at same
  have few : mantissa.log2 < 53 := by omega
  have mantissa_lt := (Nat.log2_lt positive.ne').mp few
  obtain ⟨biased, biased_eq⟩ : ∃ biased : ℕ, exponent = biased - 1075 :=
    ⟨(exponent + 1075).toNat, by omega⟩
  subst biased_eq
  have stored : ((biased : ℤ) - 1075 + Format.binary64.exponentBias + (52 : ℕ)).toNat =
      biased := by
    have bias : Format.binary64.exponentBias = 1023 := rfl
    rw [bias]
    omega
  have finite : ¬ 2 ^ 11 ≤ biased + 1 := by omega
  have width : Format.binary64.mantissaBits = 53 := rfl
  unfold Float.Model.unpack Float.Model.pack UnpackedFloat.pack
  simp only [stored, if_neg finite, width]
  by_cases normal : mantissa.log2 + 1 = 53
  · have exponent_toNat : (BitVec.ofNat 11 biased).toNat = biased := by
      rw [BitVec.toNat_ofNat, Nat.mod_eq_of_lt (by omega)]
    have not_special : BitVec.ofNat 11 biased ≠ -1#11 := by
      intro special
      have := congrArg BitVec.toNat special
      rw [exponent_toNat] at this
      norm_num at this
      omega
    have not_least : BitVec.ofNat 11 biased ≠ 0#11 := by
      intro zero
      have := congrArg BitVec.toNat zero
      rw [exponent_toNat] at this
      norm_num at this
      omega
    have leading : (1#1 ++ BitVec.ofNat 52 mantissa).toNat = mantissa := by
      have lower := (Nat.le_log2 positive.ne').mp (by omega : 52 ≤ mantissa.log2)
      have appended : (1#1 ++ BitVec.ofNat 52 mantissa).toNat =
          2 ^ 52 + (BitVec.ofNat 52 mantissa).toNat := by
        rw [BitVec.toNat_append]
        exact (Nat.two_pow_add_eq_or_of_lt (BitVec.ofNat 52 mantissa).isLt 1).symm
      rw [appended, BitVec.toNat_ofNat]
      omega
    rw [if_pos normal]
    unfold UnpackedFloat.unpack
    simp only [unpackMantissa_packComponents, unpackExponent_packComponents,
      unpackSign_packComponents, ofBitVec_toBitVec, if_neg not_special, if_neg not_least,
      exponent_toNat, leading]
    rfl
  · have mantissa_toNat : (BitVec.ofNat 52 mantissa).toNat = mantissa := by
      have less := (Nat.log2_lt positive.ne').mp (by omega : mantissa.log2 < 52)
      rw [BitVec.toNat_ofNat, Nat.mod_eq_of_lt less]
    have nonzero : BitVec.ofNat 52 mantissa ≠ 0#52 := by
      intro zero
      have := congrArg BitVec.toNat zero
      rw [mantissa_toNat] at this
      exact positive.ne' this
    obtain rfl : biased = 1 := by omega
    rw [if_neg normal]
    unfold UnpackedFloat.unpack
    simp only [unpackMantissa_packComponents, unpackExponent_packComponents,
      unpackSign_packComponents, ofBitVec_toBitVec, dif_neg nonzero, mantissa_toNat]
    rfl

/-- The double is the rational, which is not negative. -/
def Stands (x : Float) (y : ℚ) : Prop :=
  Unpacked .positive y x.toModel.unpack

theorem Unpacked.nonneg {sign : Sign} {y : ℚ} {u : UnpackedFloat}
    (unpacked : Unpacked sign y u) : 0 ≤ y := by
  cases unpacked with
  | zero same => exact same.ge
  | finite _ same =>
      rw [same]
      positivity

/-- The leading bit of a canonical mantissa is set, but at the least exponent. -/
theorem canonical_cases {mantissa : ℕ} {exponent : ℤ} (canonical : Canonical mantissa exponent) :
    2 ^ 52 ≤ mantissa ∨ exponent = -1074 := by
  obtain ⟨positive, least, same⟩ := canonical
  rw [targetExponent_eq, totalExponent] at same
  by_cases lowest : exponent = -1074
  · exact .inr lowest
  · exact .inl ((Nat.le_log2 positive.ne').mp (by omega))

theorem le_of_leading {mantissa : ℕ} (leading : 2 ^ 52 ≤ mantissa) (exponent : ℤ) :
    (2 : ℚ) ^ (52 + exponent) ≤ mantissa * 2 ^ exponent := by
  rw [zpow_add₀ two_ne_zero]
  apply mul_le_mul_of_nonneg_right _ (by positivity)
  exact_mod_cast leading

/-- What is below the limit has an exponent that can be packed. -/
theorem exponent_le {mantissa : ℕ} {exponent : ℤ} (canonical : Canonical mantissa exponent)
    (small : (mantissa : ℚ) * 2 ^ exponent < 2 ^ (1024 : ℤ)) : exponent ≤ 971 := by
  by_contra! large
  have leading := (canonical_cases canonical).resolve_right (by omega)
  have power : (2 : ℚ) ^ (1024 : ℤ) ≤ 2 ^ (52 + exponent) :=
    zpow_le_zpow_right₀ one_le_two (by omega)
  exact small.not_ge (power.trans (le_of_leading leading exponent))

theorem stands_pack {u : UnpackedFloat} {y : ℚ} (unpacked : Unpacked .positive y u)
    (small : y < 2 ^ (1024 : ℤ)) : Stands (Float.ofModel (Float.Model.pack u)) y := by
  cases unpacked with
  | zero same => exact .zero same
  | @finite mantissa exponent positive canonical same =>
      change Unpacked .positive y (Float.Model.pack _).unpack
      rw [unpack_pack canonical (exponent_le canonical (same ▸ small))]
      exact .finite canonical same

/-- The quotient of two positive numbers. -/
theorem unpacked_div {numerator denominator : ℕ} (some_numerator : 0 < numerator)
    (some_denominator : 0 < denominator) :
    Unpacked .positive (nearest (numerator / denominator))
      (UnpackedFloat.div Format.binary64 (.finite .positive numerator 0 some_numerator)
        (.finite .positive denominator 0 some_denominator)) := by
  have numerator_pos : (0 : ℚ) < numerator := by exact_mod_cast some_numerator
  have denominator_pos : (0 : ℚ) < denominator := by exact_mod_cast some_denominator
  have positive : (0 : ℚ) < numerator / denominator := by positivity
  have log : (numerator.log2 : ℤ) - denominator.log2 - 1 ≤
      Int.log 2 ((numerator : ℚ) / denominator) := by
    rw [← le_log_iff positive, le_div_iff₀ denominator_pos]
    have lower : (2 : ℚ) ^ (numerator.log2 : ℤ) ≤ numerator := by
      exact_mod_cast Nat.log2_self_le some_numerator.ne'
    have upper : (denominator : ℚ) ≤ 2 ^ ((denominator.log2 : ℤ) + 1) := by
      exact_mod_cast Nat.lt_log2_self.le
    calc (2 : ℚ) ^ ((numerator.log2 : ℤ) - denominator.log2 - 1) * denominator
        ≤ 2 ^ ((numerator.log2 : ℤ) - denominator.log2 - 1) *
            2 ^ ((denominator.log2 : ℤ) + 1) := by gcongr
      _ = 2 ^ (numerator.log2 : ℤ) := by
          rw [← zpow_add₀ two_ne_zero]
          congr 1
          ring
      _ ≤ numerator := lower
  change Unpacked .positive _ (roundWithAccuracy Format.binary64 .positive _ _ _)
  rw [targetExponent_eq, totalExponent, totalExponent]
  generalize chosen : min ((0 : ℤ) - 0) (max ((numerator.log2 : ℤ) + 1 + 0 -
    ((denominator.log2 : ℤ) + 1 + 0) - 53) (-1074)) = exponent
  have low : exponent ≤ target ((numerator : ℚ) / denominator) := by
    unfold target
    omega
  obtain ⟨shift, rfl⟩ : ∃ shift : ℕ, exponent = -(shift : ℤ) :=
    ⟨(-exponent).toNat, by omega⟩
  have amount : ((0 : ℤ) - 0 - -(shift : ℤ)).toNat = shift := by omega
  rw [amount]
  apply unpacked_round positive _ low
  have shifted : (numerator : ℚ) / denominator / 2 ^ (-(shift : ℤ)) =
      ((numerator <<< shift : ℕ) : ℚ) / denominator := by
    rw [zpow_neg, zpow_natCast, div_inv_eq_mul, Nat.shiftLeft_eq]
    push_cast
    ring
  rw [shifted]
  exact represents_quotient _ some_denominator

theorem stands_ofRatio {numerator denominator : ℕ} (some_numerator : 0 < numerator)
    (some_denominator : 0 < denominator)
    (small : nearest ((numerator : ℚ) / denominator) < 2 ^ (1024 : ℤ)) :
    Stands (Py.ofRatio numerator denominator) (nearest ((numerator : ℚ) / denominator)) := by
  rw [Py.ofRatio, dif_pos ⟨some_numerator, some_denominator⟩]
  exact stands_pack (unpacked_div some_numerator some_denominator) small

/-- The product of two positive doubles. -/
theorem stands_mul {left right : Float} {y z : ℚ} (left_stands : Stands left y)
    (right_stands : Stands right z) (y_pos : 0 < y) (z_pos : 0 < z)
    (small : nearest (y * z) < 2 ^ (1024 : ℤ)) : Stands (left * right) (nearest (y * z)) := by
  have product : left * right = Float.ofModel (Float.Model.pack
      (UnpackedFloat.mul Format.binary64 left.toModel.unpack right.toModel.unpack)) := rfl
  rw [product]
  apply stands_pack _ small
  rw [Stands] at left_stands right_stands
  generalize left.toModel.unpack = u at left_stands
  generalize right.toModel.unpack = v at right_stands
  cases left_stands with
  | zero same => exact absurd same y_pos.ne'
  | @finite m e m_pos m_canonical y_eq =>
      cases right_stands with
      | zero same => exact absurd same z_pos.ne'
      | @finite n f n_pos n_canonical z_eq =>
          have exact_product : y * z = (m * n : ℕ) * 2 ^ (e + f) := by
            rw [y_eq, z_eq, zpow_add₀ two_ne_zero]
            push_cast
            ring
          change Unpacked .positive _ (roundWithAccuracy Format.binary64 .positive (m * n)
            (e + f) .exact)
          apply unpacked_round (mul_pos y_pos z_pos)
          · rw [exact_product, mul_div_cancel_right₀ _ (by positivity)]
            exact represents_exact (m * n)
          · by_cases lowest : e + f ≤ -1074
            · exact lowest.trans (le_max_right _ _)
            · -- one of the two mantissas has its leading bit
              have leading : 2 ^ 52 ≤ m * n := by
                rcases canonical_cases m_canonical with m_leading | rfl
                · exact m_leading.trans (Nat.le_mul_of_pos_right m n_pos)
                · rcases canonical_cases n_canonical with n_leading | rfl
                  · exact n_leading.trans (Nat.le_mul_of_pos_left n m_pos)
                  · omega
              have lower := le_of_leading leading (e + f)
              rw [← exact_product, le_log_iff (mul_pos y_pos z_pos)] at lower
              unfold target
              omega

theorem stands_zero {x : Float} (stands : Stands x 0) :
    x.toModel.unpack = .zero .positive := by
  rw [Stands] at stands
  generalize x.toModel.unpack = u at stands
  cases stands with
  | zero _ => rfl
  | @finite mantissa exponent positive _ same =>
      have nonzero : (0 : ℚ) < mantissa * 2 ^ exponent := by
        have : (0 : ℚ) < mantissa := by exact_mod_cast positive
        positivity
      exact absurd same nonzero.ne

theorem stands_zero_mul {left right : Float} {z : ℚ} (left_stands : Stands left 0)
    (right_stands : Stands right z) (z_pos : 0 < z) : Stands (left * right) 0 := by
  have product : left * right = Float.ofModel (Float.Model.pack
      (UnpackedFloat.mul Format.binary64 left.toModel.unpack right.toModel.unpack)) := rfl
  rw [product, stands_zero left_stands]
  rw [Stands] at right_stands
  generalize right.toModel.unpack = v at right_stands
  cases right_stands with
  | zero same => exact absurd same z_pos.ne'
  | finite =>
      change Stands (Float.ofModel (Float.Model.pack (.zero .positive))) 0
      exact .zero rfl

/-! ## Two decimals -/

/-- The integer nearest a quotient of naturals. -/
theorem roundHalfEven_quotient (numerator : ℕ) {denominator : ℕ} (positive : 0 < denominator) :
    ((if 2 * (numerator % denominator) < denominator ∨
        (2 * (numerator % denominator) = denominator ∧ numerator / denominator % 2 = 0) then
      numerator / denominator else numerator / denominator + 1 : ℕ) : ℤ) =
      roundHalfEven ((numerator : ℚ) / denominator) := by
  have rounded := (represents_quotient numerator positive).roundedMantissa
  rw [← rounded, Nat.cast_inj]
  generalize numerator / denominator = mantissa
  generalize numerator % denominator = rest
  unfold accuracyOfFraction
  split_ifs with near zero zero
  · rfl
  · rcases near with low | ⟨same, even⟩
    · rw [compare_lt_iff_lt.mpr low]
      rfl
    · rw [compare_eq_iff_eq.mpr same]
      change mantissa = mantissa + mantissa % 2
      omega
  · omega
  · rw [not_or, not_and, not_lt] at near
    rcases near.1.lt_or_eq with high | same
    · rw [compare_gt_iff_gt.mpr high]
      rfl
    · rw [compare_eq_iff_eq.mpr same.symm]
      have odd := near.2 same.symm
      change mantissa + 1 = mantissa + mantissa % 2
      omega

theorem stands_hundred : Stands 100 100 := by
  have unpacked : (100 : Float).toModel.unpack =
      .finite .positive (25 * 2 ^ 48) (-46) (by decide) := by rfl
  rw [Stands, unpacked]
  apply Unpacked.finite
  · exact ⟨by decide, by decide, by decide⟩
  · norm_num

theorem lt_limit {y : ℚ} (bounded : y ≤ 100) : y < 2 ^ (1024 : ℤ) :=
  calc y ≤ 100 := bounded
    _ < 2 ^ (7 : ℤ) := by norm_num
    _ ≤ 2 ^ (1024 : ℤ) := zpow_le_zpow_right₀ one_le_two (by norm_num)

/-- A decimal of two places. -/
theorem stands_ofDecimal {n : ℕ} (bounded : n ≤ 10000) :
    ∃ z, Stands (ofDecimal false n (-2)) z ∧ z ≤ 100 ∧
      |z - (n : ℚ) / 100| ≤ 2 ^ (-47 : ℤ) := by
  rcases Nat.eq_zero_or_pos n with rfl | positive
  · refine ⟨0, .zero rfl, by norm_num, by norm_num⟩
  · have positive' : (0 : ℚ) < (n : ℚ) / (100 : ℕ) := by positivity
    have bounded' : (n : ℚ) / (100 : ℕ) ≤ (100 : ℕ) * 2 ^ (0 : ℤ) := by
      rw [div_le_iff₀ (by norm_num)]
      norm_num [bounded]
    have small : (n : ℚ) / (100 : ℕ) < 2 ^ ((6 : ℤ) + 1) := bounded'.trans_lt (by norm_num)
    have coarse : target ((n : ℚ) / (100 : ℕ)) ≤ 6 - 52 :=
      target_le positive' (by norm_num) small
    have at_most := nearest_le bounded' (by omega)
    refine ⟨nearest ((n : ℚ) / (100 : ℕ)), ?_, ?_, ?_⟩
    · have divided := unpacked_div positive (by norm_num : 0 < 100)
      have made : UnpackedFloat.ofScientific Format.binary64 n (-2) =
          UnpackedFloat.div Format.binary64 (.finite .positive n 0 positive)
            (.finite .positive 100 0 (by norm_num)) := by
        have not_tiny : ¬ (-2 : ℤ) < -((2 ^ Format.binary64.exponentBits : ℤ) + n.log2) := by
          norm_num
        rw [UnpackedFloat.ofScientific, dif_neg positive.ne', if_neg (by norm_num),
          if_neg not_tiny, if_neg (by norm_num)]
        rfl
      rw [ofDecimal, made]
      exact stands_pack divided (lt_limit (by simpa using at_most))
    · simpa using at_most
    · have error := abs_nearest_sub_le ((n : ℚ) / (100 : ℕ))
      have power : (2 : ℚ) ^ target ((n : ℚ) / (100 : ℕ)) ≤ 2 ^ (6 - 52 : ℤ) :=
        zpow_le_zpow_right₀ one_le_two coarse
      norm_num at error power ⊢
      linarith

/-- The decimal of two places that is nearest a rational. -/
theorem stands_nearest_decimal {y : ℚ} (bounded : y ≤ 100) {n : ℕ}
    (rounded : (n : ℤ) = roundHalfEven (y * 100)) :
    ∃ z, Stands (ofDecimal false n (-2)) z ∧ z ≤ 100 ∧
      |z - y| ≤ 1 / 200 + 2 ^ (-47 : ℤ) := by
  have error := abs_roundHalfEven_sub_le (y * 100)
  rw [← rounded] at error
  have limit : n ≤ 10000 := by
    have bound : roundHalfEven (y * 100) ≤ 10000 := by
      apply roundHalfEven_le
      push_cast
      linarith
    omega
  obtain ⟨z, made, at_most, close⟩ := stands_ofDecimal limit
  refine ⟨z, made, at_most, ?_⟩
  push_cast at error
  rw [abs_le] at error close ⊢
  constructor <;> linarith

/-- Rounding to two decimals. -/
theorem stands_roundTo {x : Float} {y : ℚ} (stands : Stands x y) (bounded : y ≤ 100) :
    ∃ z, Stands (Py.roundTo 2 x) z ∧ z ≤ 100 ∧ |z - y| ≤ 1 / 200 + 2 ^ (-47 : ℤ) := by
  have unchanged : ∃ z, Stands x z ∧ z ≤ 100 ∧ |z - y| ≤ 1 / 200 + 2 ^ (-47 : ℤ) := by
    refine ⟨y, stands, bounded, ?_⟩
    rw [sub_self, abs_zero]
    positivity
  rw [Stands] at stands
  unfold Py.roundTo
  generalize x.toModel.unpack = u at stands ⊢
  cases stands with
  | zero => exact unchanged
  | @finite mantissa exponent positive canonical same =>
      dsimp only
      split
      case isTrue whole => exact unchanged
      case isFalse fraction =>
          have negative : ¬ 0 ≤ exponent := by
            intro nonneg
            rw [expand, if_pos nonneg] at fraction
            omega
          rw [expand, if_neg negative] at fraction ⊢
          dsimp only at fraction ⊢
          obtain ⟨more, rfl⟩ : ∃ more : ℕ, exponent = -((more : ℤ) + 2) :=
            ⟨(-exponent - 2).toNat, by omega⟩
          have fives : (- -((more : ℤ) + 2)).toNat = more + 2 := by omega
          have unit : (-((2 : ℕ) : ℤ) - -((more : ℤ) + 2)).toNat = more := by omega
          rw [fives, unit]
          have scaled : ((mantissa * 5 ^ (more + 2) : ℕ) : ℚ) / (10 ^ more : ℕ) = y * 100 := by
            have ten : (10 : ℚ) ^ more = 5 ^ more * 2 ^ more := by
              rw [← mul_pow]
              norm_num
            rw [same, zpow_neg, zpow_add₀ two_ne_zero, zpow_natCast]
            push_cast
            rw [ten, pow_add]
            field_simp
            norm_num
          have rounded := roundHalfEven_quotient (mantissa * 5 ^ (more + 2))
            (by positivity : 0 < 10 ^ more)
          rw [scaled] at rounded
          exact stands_nearest_decimal bounded rounded

/-! ## Percentages -/

/-- A hundred times the quotient of naturals, where that is at most one. -/
theorem stands_percent {n d : ℕ} (positive : 0 < d) (bounded : n ≤ d) :
    ∃ y, Stands (Py.ofRatio n d * 100) y ∧ y ≤ 100 ∧
      |y - (n : ℚ) / d * 100| ≤ 2 ^ (-45 : ℤ) := by
  rcases Nat.eq_zero_or_pos n with rfl | some_numerator
  · have zero : Py.ofRatio 0 d * 100 = 0 := by
      rw [Py.ofRatio, dif_neg (by simp)]
      decide
    refine ⟨0, ?_, by norm_num, by norm_num⟩
    rw [zero]
    exact .zero rfl
  · have d_pos : (0 : ℚ) < d := by exact_mod_cast positive
    have n_pos : (0 : ℚ) < n := by exact_mod_cast some_numerator
    have ratio_pos : (0 : ℚ) < n / d := by positivity
    have ratio_le : (n : ℚ) / d ≤ (1 : ℕ) * 2 ^ (0 : ℤ) := by
      rw [div_le_iff₀ d_pos]
      norm_num
      exact_mod_cast bounded
    have coarse : target ((n : ℚ) / d) ≤ 0 - 52 :=
      target_le ratio_pos (by norm_num) (ratio_le.trans_lt (by norm_num))
    have at_most := nearest_le ratio_le (by omega)
    have close := abs_nearest_sub_le ((n : ℚ) / d)
    have unit : (2 : ℚ) ^ target ((n : ℚ) / d) ≤ 2 ^ (0 - 52 : ℤ) :=
      zpow_le_zpow_right₀ one_le_two coarse
    have limit : nearest ((n : ℚ) / d) ≤ 1 := by simpa using at_most
    have divided := stands_ofRatio some_numerator positive (lt_limit (by linarith))
    rcases (Unpacked.nonneg divided).eq_or_lt with zero | quotient_pos
    · rw [← zero] at divided close
      refine ⟨0, stands_zero_mul divided stands_hundred (by norm_num), by norm_num, ?_⟩
      rw [abs_le] at close ⊢
      norm_num at unit ⊢
      constructor <;> linarith
    · have product_le : nearest ((n : ℚ) / d) * 100 ≤ (100 : ℕ) * 2 ^ (0 : ℤ) := by
        norm_num
        linarith
      have product_pos : 0 < nearest ((n : ℚ) / d) * 100 := by positivity
      have product_coarse : target (nearest ((n : ℚ) / d) * 100) ≤ 6 - 52 :=
        target_le product_pos (by norm_num) (product_le.trans_lt (by norm_num))
      have product_most := nearest_le product_le (by omega)
      have product_close := abs_nearest_sub_le (nearest ((n : ℚ) / d) * 100)
      have product_unit : (2 : ℚ) ^ target (nearest ((n : ℚ) / d) * 100) ≤ 2 ^ (6 - 52 : ℤ) :=
        zpow_le_zpow_right₀ one_le_two product_coarse
      have bound : nearest (nearest ((n : ℚ) / d) * 100) ≤ 100 := by simpa using product_most
      refine ⟨_, stands_mul divided stands_hundred quotient_pos (by norm_num)
        (lt_limit bound), bound, ?_⟩
      rw [abs_le] at close product_close ⊢
      norm_num at unit product_unit ⊢
      constructor <;> linarith

/-! ## Signs -/

/-- The number has this sign, unless it is 0 or no number. -/
def Signed (sign : Sign) : UnpackedFloat → Prop
  | .infinity s | .finite s _ _ _ => s = sign
  | .notANumber | .zero _ => True

theorem Signed.neg {u : UnpackedFloat} (signed : Signed .positive u) :
    Signed .negative u.neg := by
  cases u with
  | notANumber => trivial
  | zero => trivial
  | infinity s =>
      obtain rfl : s = .positive := signed
      rfl
  | finite s =>
      obtain rfl : s = .positive := signed
      rfl

theorem signed_unpack (sign : Sign) (exponent : BitVec Format.binary64.exponentBits)
    (mantissa : BitVec Format.binary64.mantissaBitsWithoutImplicit) :
    Signed sign (UnpackedFloat.unpack Format.binary64
      (packComponents Format.binary64 sign exponent mantissa)) := by
  unfold UnpackedFloat.unpack
  simp only [unpackSign_packComponents, ofBitVec_toBitVec]
  split_ifs <;> simp [Signed]

theorem signed_pack {sign : Sign} {u : UnpackedFloat} (signed : Signed sign u) :
    Signed sign (Float.Model.pack u).unpack := by
  cases u with
  | notANumber =>
      have same : (Float.Model.pack .notANumber).unpack = .notANumber := by rfl
      rw [same]
      trivial
  | infinity s =>
      obtain rfl : s = sign := signed
      exact signed_unpack s _ _
  | zero s =>
      cases s <;> trivial
  | finite s mantissa exponent positive =>
      obtain rfl : s = sign := signed
      change Signed s (UnpackedFloat.unpack Format.binary64 (UnpackedFloat.pack _ _))
      unfold UnpackedFloat.pack
      dsimp only
      split_ifs
      · exact signed_unpack s _ _
      · exact signed_unpack s _ _
      · exact signed_unpack s _ _

theorem signed_round (sign : Sign) (mantissa : ℕ) (exponent : ℤ) (accuracy : Accuracy) :
    Signed sign (roundWithAccuracy Format.binary64 sign mantissa exponent accuracy) := by
  unfold roundWithAccuracy
  dsimp only
  split
  · trivial
  · rfl

theorem signed_ofRatio (numerator denominator : ℕ) :
    Signed .positive (Py.ofRatio numerator denominator).toModel.unpack := by
  unfold Py.ofRatio
  split
  · exact signed_pack (signed_round _ _ _ _)
  · trivial

theorem signed_neg {x : Float} (signed : Signed .positive x.toModel.unpack) :
    Signed .negative (-x).toModel.unpack := by
  change Signed .negative (Float.Model.pack x.toModel.unpack.neg).unpack
  exact signed_pack signed.neg

theorem signed_mul {left right : Float} (negative : Signed .negative left.toModel.unpack)
    (positive : Signed .positive right.toModel.unpack) :
    Signed .negative (left * right).toModel.unpack := by
  change Signed .negative (Float.Model.pack (UnpackedFloat.mul Format.binary64
    left.toModel.unpack right.toModel.unpack)).unpack
  apply signed_pack
  generalize left.toModel.unpack = u at negative
  generalize right.toModel.unpack = v at positive
  cases u with
  | notANumber => trivial
  | zero => cases v <;> trivial
  | infinity s =>
      obtain rfl : s = .negative := negative
      cases v with
      | notANumber => trivial
      | zero => trivial
      | infinity s' =>
          obtain rfl : s' = .positive := positive
          rfl
      | finite s' =>
          obtain rfl : s' = .positive := positive
          rfl
  | finite s =>
      obtain rfl : s = .negative := negative
      cases v with
      | notANumber => trivial
      | zero => trivial
      | infinity s' =>
          obtain rfl : s' = .positive := positive
          rfl
      | finite s' =>
          obtain rfl : s' = .positive := positive
          exact signed_round .negative _ _ _

theorem signed_ofScientific (digits : ℕ) (exponent : ℤ) :
    Signed .positive (UnpackedFloat.ofScientific Format.binary64 digits exponent) := by
  unfold UnpackedFloat.ofScientific
  split_ifs
  · trivial
  · rfl
  · trivial
  · exact signed_round .positive _ _ _
  · exact signed_round .positive _ _ _

theorem signed_roundTo {x : Float} (signed : Signed .negative x.toModel.unpack)
    (places : ℕ) : Signed .negative (Py.roundTo places x).toModel.unpack := by
  unfold Py.roundTo
  split
  case h_1 sign mantissa exponent positive unpacked =>
      rw [unpacked] at signed
      obtain rfl : sign = .negative := signed
      dsimp only
      split
      · rw [unpacked]
        rfl
      · apply signed_pack
        rw [isNegative, if_pos rfl]
        exact (signed_ofScientific _ _).neg
  case h_2 => exact signed

end Binary64
