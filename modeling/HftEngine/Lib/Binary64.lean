import Mathlib

/-!
# Decimal readings of doubles

The double nearest a signed decimal number, and a decimal number that reads
back as a given double: the exact expansion of its binary fraction.  A finite
double is a mantissa below `2 ^ 53` at an exponent of two from `-1074` on, with
the leading bit set unless the exponent is the least one, so that rounding it
again changes nothing.
-/

namespace Binary64

open Float.Model Float.Model.UnpackedFloat

/-- The double nearest `digits * 10 ^ exponent`, negated or not. -/
def ofDecimal (negative : Bool) (digits : ℕ) (exponent : ℤ) : Float :=
  let magnitude := UnpackedFloat.ofScientific Format.binary64 digits exponent
  Float.ofModel (Float.Model.pack (if negative then magnitude.neg else magnitude))

/-- What the bits of a double encode. -/
inductive Encodes (bits : BitVec Format.binary64.numBits) : UnpackedFloat → Prop where
  | infinity : unpackExponent bits = -1#11 → unpackMantissa bits = 0#52 →
      Encodes bits (.infinity (Sign.ofBitVec (unpackSign bits)))
  | notANumber : unpackExponent bits = -1#11 → unpackMantissa bits ≠ 0#52 →
      Encodes bits .notANumber
  | zero : unpackExponent bits = 0#11 → unpackMantissa bits = 0#52 →
      Encodes bits (.zero (Sign.ofBitVec (unpackSign bits)))
  | subnormal (positive : 0 < (unpackMantissa bits).toNat) :
      unpackExponent bits = 0#11 →
      Encodes bits (.finite (Sign.ofBitVec (unpackSign bits))
        (unpackMantissa bits).toNat (-1074) positive)
  | normal (positive : 0 < 2 ^ 52 + (unpackMantissa bits).toNat) :
      unpackExponent bits ≠ -1#11 → unpackExponent bits ≠ 0#11 →
      Encodes bits (.finite (Sign.ofBitVec (unpackSign bits))
        (2 ^ 52 + (unpackMantissa bits).toNat)
        ((unpackExponent bits).toNat - 1075) positive)

theorem encodes_unpack (bits : BitVec Format.binary64.numBits) :
    Encodes bits (UnpackedFloat.unpack Format.binary64 bits) := by
  fun_cases UnpackedFloat.unpack with
  | case1 mantissa exponent sign _ special infinite =>
      exact .infinity special infinite
  | case2 mantissa exponent special isNaN => exact .notANumber special isNaN
  | case3 mantissa exponent sign _ special least zero =>
      exact .zero least zero
  | case4 mantissa exponent shifted sign _ special least nonzero =>
      have biased : shifted + 1 = -1074 := by
        simp only [shifted, least]
        rfl
      simp only [biased]
      exact .subnormal _ least
  | case5 mantissa exponent shifted sign _ special normal =>
      have leading : (1#1 ++ mantissa).toNat = 2 ^ 52 + mantissa.toNat := by
        rw [BitVec.toNat_append]
        exact (Nat.two_pow_add_eq_or_of_lt mantissa.isLt 1).symm
      simp only [leading]
      exact .normal _ special normal

/-! ## Exact decimals -/

/-- A mantissa and an exponent in the form that packing expects. -/
structure Canonical (mantissa : ℕ) (exponent : ℤ) : Prop where
  positive : 0 < mantissa
  least : -1074 ≤ exponent
  target : Format.binary64.targetExponent (totalExponent mantissa exponent) = exponent

theorem targetExponent_eq (total : ℤ) :
    Format.binary64.targetExponent total = max (total - 53) (-1074) := rfl

theorem canonical_of_encodes {bits : BitVec Format.binary64.numBits} {sign : Sign}
    {mantissa : ℕ} {exponent : ℤ} {positive : 0 < mantissa}
    (encodes : Encodes bits (.finite sign mantissa exponent positive)) :
    Canonical mantissa exponent := by
  have mantissa_lt : (unpackMantissa bits).toNat < 2 ^ 52 :=
    (unpackMantissa bits).isLt
  rcases encodes with _ | _ | _ | ⟨_, least⟩ | ⟨_, finite, normal⟩
  · have few : (unpackMantissa bits).toNat.log2 < 52 :=
      (Nat.log2_lt positive.ne').mpr mantissa_lt
    refine ⟨positive, le_refl _, ?_⟩
    rw [targetExponent_eq, totalExponent]
    omega
  · have leading : (2 ^ 52 + (unpackMantissa bits).toNat).log2 = 52 := by
      rw [Nat.log2_eq_iff positive.ne']
      omega
    have nonzero : (unpackExponent bits).toNat ≠ 0 :=
      fun same => normal (BitVec.eq_of_toNat_eq same)
    refine ⟨positive, by omega, ?_⟩
    rw [targetExponent_eq, totalExponent, leading]
    omega

theorem shiftRight_exact (mantissa shift : ℕ) :
    (ExtendedMantissa.mk (mantissa * 2 ^ shift) false false) >>> shift =
      ⟨mantissa, false, false⟩ := by
  induction shift generalizing mantissa with
  | zero => simp [HShiftRight.hShiftRight, Nat.repeat]
  | succ shift ih =>
      have doubled : mantissa * 2 ^ (shift + 1) = mantissa * 2 * 2 ^ shift := by ring
      have shifted : Nat.repeat ExtendedMantissa.shiftRightOne shift
          ⟨mantissa * 2 * 2 ^ shift, false, false⟩ = ⟨mantissa * 2, false, false⟩ :=
        ih (mantissa * 2)
      change ExtendedMantissa.shiftRightOne
        (Nat.repeat ExtendedMantissa.shiftRightOne shift _) = _
      rw [doubled, shifted]
      simp [ExtendedMantissa.shiftRightOne]

theorem totalExponent_mul {mantissa : ℕ} (positive : 0 < mantissa) (exponent : ℤ)
    (shift : ℕ) :
    totalExponent (mantissa * 2 ^ shift) (exponent - shift) =
      totalExponent mantissa exponent := by
  have scaled : (mantissa * 2 ^ shift).log2 = mantissa.log2 + shift := by
    rw [Nat.log2_eq_iff (by positivity)]
    have lower := Nat.log2_self_le positive.ne'
    have upper : mantissa < 2 ^ (mantissa.log2 + 1) := Nat.lt_log2_self
    constructor
    · rw [pow_add]
      exact Nat.mul_le_mul_right _ lower
    · rw [Nat.add_right_comm, pow_add]
      exact Nat.mul_lt_mul_of_pos_right upper (by positivity)
  rw [totalExponent, totalExponent, scaled]
  push_cast
  ring

/-- Rounding a number that needs none. -/
theorem roundWithAccuracy_exact {mantissa : ℕ} {exponent : ℤ}
    (canonical : Canonical mantissa exponent) (sign : Sign) (shift : ℕ) :
    roundWithAccuracy Format.binary64 sign (mantissa * 2 ^ shift) (exponent - shift)
      .exact = .finite sign mantissa exponent canonical.positive := by
  have first : shiftToTargetExponent Format.binary64 (mantissa * 2 ^ shift)
      (exponent - shift) .exact = (⟨mantissa, false, false⟩, exponent) := by
    rw [shiftToTargetExponent, totalExponent_mul canonical.positive,
      canonical.target, shiftToExponent]
    have amount : (exponent - (exponent - shift)).toNat = shift := by omega
    simp only [amount, ExtendedMantissa.ofMantissaAndAccuracy, shiftRight_exact]
    simp
  have second : shiftToTargetExponent Format.binary64 mantissa exponent .exact =
      (⟨mantissa, false, false⟩, exponent) := by
    rw [shiftToTargetExponent, canonical.target, shiftToExponent]
    simp [ExtendedMantissa.ofMantissaAndAccuracy, HShiftRight.hShiftRight, Nat.repeat]
  rw [roundWithAccuracy, first]
  simp only [ExtendedMantissa.roundedMantissa, ExtendedMantissa.accuracy,
    Accuracy.roundToNearestEven, second]
  exact dif_neg canonical.positive.ne'

/-- The decimal digits and the exponent of ten of `mantissa * 2 ^ exponent`. -/
def expand (mantissa : ℕ) (exponent : ℤ) : ℕ × ℤ :=
  if 0 ≤ exponent then (mantissa * 2 ^ exponent.toNat, 0)
  else (mantissa * 5 ^ (-exponent).toNat, exponent)

theorem ofScientific_natural {mantissa power : ℕ}
    (canonical : Canonical mantissa power) :
    UnpackedFloat.ofScientific Format.binary64 (mantissa * 2 ^ power) 0 =
      .finite .positive mantissa power canonical.positive := by
  have nonzero : mantissa * 2 ^ power ≠ 0 := by
    have positive := canonical.positive
    positivity
  have shifted : (mantissa * 2 ^ power) <<< 53 * 10 ^ (0 : ℤ).toNat =
      mantissa * 2 ^ (power + 53) := by
    rw [Nat.shiftLeft_eq, Int.toNat_zero, pow_zero]
    ring
  have scale : -((53 : ℕ) : ℤ) + 0 = power - (power + 53 : ℕ) := by
    push_cast
    ring
  have notHuge : ¬ (0 : ℤ) > 2 ^ Format.binary64.exponentBits := by norm_num
  have notTiny : ¬ (0 : ℤ) < -((2 ^ Format.binary64.exponentBits : ℤ) +
      (mantissa * 2 ^ power).log2) := by
    have bound : (0 : ℤ) ≤ (2 ^ Format.binary64.exponentBits : ℤ) := by positivity
    omega
  have width : Format.binary64.mantissaBits = 53 := rfl
  rw [UnpackedFloat.ofScientific, dif_neg nonzero, if_neg notHuge, if_neg notTiny,
    if_pos le_rfl]
  simp only [UnpackedFloat.mul, width]
  rw [shifted, scale]
  exact roundWithAccuracy_exact canonical .positive (power + 53)

/-- The quotient by a power of ten has bits enough for the fraction to be
exact. -/
theorem targetExponent_fraction {mantissa power : ℕ}
    (canonical : Canonical mantissa (-power)) :
    Format.binary64.targetExponent
      (totalExponent (mantissa * 5 ^ power) 0 - totalExponent (10 ^ power) 0) ≤
        -power := by
  have positive := canonical.positive
  have ten : (10 ^ power).log2 = (5 ^ power).log2 + power := by
    have product : (10 ^ power : ℕ) = 5 ^ power * 2 ^ power := by
      rw [← Nat.mul_pow]
    have five : 0 < 5 ^ power := by positivity
    have scaled := totalExponent_mul five 0 power
    rw [← product, totalExponent, totalExponent] at scaled
    omega
  have product : (mantissa * 5 ^ power).log2 ≤
      mantissa.log2 + (5 ^ power).log2 + 1 := by
    have bound : mantissa * 5 ^ power <
        2 ^ (mantissa.log2 + 1) * 2 ^ ((5 ^ power).log2 + 1) :=
      Nat.mul_lt_mul'' Nat.lt_log2_self Nat.lt_log2_self
    rw [← pow_add] at bound
    have less := (Nat.log2_lt (by positivity)).mpr bound
    omega
  have target := canonical.target
  rw [targetExponent_eq] at target ⊢
  simp only [totalExponent] at target ⊢
  omega

theorem ofScientific_fraction {mantissa power : ℕ}
    (canonical : Canonical mantissa (-power)) (fraction : 0 < power) :
    UnpackedFloat.ofScientific Format.binary64 (mantissa * 5 ^ power) (-power) =
      .finite .positive mantissa (-power) canonical.positive := by
  have positive := canonical.positive
  have least := canonical.least
  have nonzero : mantissa * 5 ^ power ≠ 0 := by positivity
  have notHuge : ¬ (-power : ℤ) > 2 ^ Format.binary64.exponentBits := by
    have bound : (0 : ℤ) ≤ (2 ^ Format.binary64.exponentBits : ℤ) := by positivity
    omega
  have notTiny : ¬ (-power : ℤ) < -((2 ^ Format.binary64.exponentBits : ℤ) +
      (mantissa * 5 ^ power).log2) := by
    norm_num
    omega
  have negative : ¬ 0 ≤ (-power : ℤ) := by omega
  obtain ⟨more, enough⟩ : ∃ more : ℕ, min (0 - 0)
      (Format.binary64.targetExponent (totalExponent (mantissa * 5 ^ power) 0 -
        totalExponent (10 ^ power) 0)) = -(power : ℤ) - more := by
    have bound := targetExponent_fraction canonical
    refine ⟨(-(power : ℤ) - Format.binary64.targetExponent
      (totalExponent (mantissa * 5 ^ power) 0 -
        totalExponent (10 ^ power) 0)).toNat, ?_⟩
    omega
  have multiple : (mantissa * 5 ^ power) <<< (0 - 0 - (-(power : ℤ) - more)).toNat =
      mantissa * 2 ^ more * 10 ^ power := by
    have amount : (0 - 0 - (-(power : ℤ) - more)).toNat = power + more := by omega
    have ten : (10 ^ power : ℕ) = 5 ^ power * 2 ^ power := by rw [← Nat.mul_pow]
    rw [amount, Nat.shiftLeft_eq, ten, pow_add]
    ring
  have exponent : (- -(power : ℤ)).toNat = power := by omega
  have divided : divCore Format.binary64 (mantissa * 5 ^ power) 0 (10 ^ power) 0 =
      (mantissa * 2 ^ more, -(power : ℤ) - more, .exact) := by
    rw [divCore, enough, multiple, Nat.mul_div_cancel _ (by positivity),
      Nat.mul_mod_left]
    rfl
  rw [UnpackedFloat.ofScientific, dif_neg nonzero, if_neg notHuge, if_neg notTiny,
    if_neg negative]
  simp only [UnpackedFloat.div, exponent, divided]
  exact roundWithAccuracy_exact canonical .positive more

theorem ofScientific_expand {mantissa : ℕ} {exponent : ℤ}
    (canonical : Canonical mantissa exponent) :
    UnpackedFloat.ofScientific Format.binary64 (expand mantissa exponent).1
      (expand mantissa exponent).2 =
        .finite .positive mantissa exponent canonical.positive := by
  by_cases natural : 0 ≤ exponent
  · obtain ⟨power, rfl⟩ := Int.eq_ofNat_of_zero_le natural
    simpa [expand] using ofScientific_natural canonical
  · obtain ⟨power, rfl⟩ : ∃ power : ℕ, exponent = -(power : ℤ) :=
      ⟨(-exponent).toNat, by omega⟩
    rw [expand, if_neg natural, neg_neg, Int.toNat_natCast]
    exact ofScientific_fraction canonical (by omega)

/-! ## Doubles -/

def isNegative : Sign → Bool
  | .negative => true
  | .positive => false

theorem ofModel_pack_unpack (x : Float) :
    Float.ofModel (Float.Model.pack x.toModel.unpack) = x :=
  Float.ofBits_toBits x

theorem ofDecimal_zero {x : Float} {sign : Sign}
    (unpacked : x.toModel.unpack = .zero sign) (exponent : ℤ) :
    ofDecimal (isNegative sign) 0 exponent = x := by
  have packed := ofModel_pack_unpack x
  rw [unpacked] at packed
  rw [ofDecimal, UnpackedFloat.ofScientific, dif_pos rfl]
  refine Eq.trans ?_ packed
  cases sign <;> rfl

theorem ofDecimal_expand {x : Float} {sign : Sign} {mantissa : ℕ} {exponent : ℤ}
    {positive : 0 < mantissa}
    (unpacked : x.toModel.unpack = .finite sign mantissa exponent positive) :
    ofDecimal (isNegative sign) (expand mantissa exponent).1
      (expand mantissa exponent).2 = x := by
  have encodes : Encodes x.toModel.toBits.toBitVec
      (.finite sign mantissa exponent positive) := unpacked ▸ encodes_unpack _
  have packed := ofModel_pack_unpack x
  rw [unpacked] at packed
  rw [ofDecimal, ofScientific_expand (canonical_of_encodes encodes)]
  refine Eq.trans ?_ packed
  cases sign <;> rfl

def infinity : Float := 1.0 / 0.0

def notANumber : Float := 0.0 / 0.0

theorem eq_infinity {x : Float} {sign : Sign}
    (unpacked : x.toModel.unpack = .infinity sign) :
    x = if isNegative sign then -infinity else infinity := by
  have packed := ofModel_pack_unpack x
  rw [unpacked] at packed
  rw [← packed]
  cases sign <;> decide

theorem eq_notANumber {x : Float} (unpacked : x.toModel.unpack = .notANumber) :
    x = notANumber := by
  have packed := ofModel_pack_unpack x
  rw [unpacked] at packed
  rw [← packed]
  decide

end Binary64
