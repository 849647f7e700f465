import HftEngine.Lib.Json.Number
import HftEngine.Lib.Rounding

/-!
# Decimal texts of doubles

The double that a decimal text reads as is the one nearest the decimal.  Two
finite doubles are equal exactly when they have one value.
-/

namespace Binary64

open Float.Model Float.Model.UnpackedFloat
open Py.Exact (roundHalfEven roundHalfEven_intCast)

/-! ## Numbers that are doubles -/

theorem log_mul_zpow {mantissa : ℕ} (positive : 0 < mantissa) (exponent : ℤ) :
    Int.log 2 ((mantissa : ℚ) * 2 ^ exponent) = mantissa.log2 + exponent := by
  have unit : (0 : ℚ) < 2 ^ exponent := by positivity
  have mantissa_pos : (0 : ℚ) < mantissa := by exact_mod_cast positive
  have product : 0 < (mantissa : ℚ) * 2 ^ exponent := by positivity
  have lower : (mantissa.log2 : ℤ) + exponent ≤ Int.log 2 ((mantissa : ℚ) * 2 ^ exponent) := by
    rw [← le_log_iff product, zpow_add₀ two_ne_zero, zpow_natCast]
    apply mul_le_mul_of_nonneg_right _ unit.le
    exact_mod_cast Nat.log2_self_le positive.ne'
  have upper : Int.log 2 ((mantissa : ℚ) * 2 ^ exponent) < mantissa.log2 + 1 + exponent := by
    rw [← log_lt_iff product, zpow_add₀ two_ne_zero]
    apply mul_lt_mul_of_pos_right _ unit
    exact_mod_cast (Nat.lt_log2_self : mantissa < _)
  omega

section Canonical

variable {mantissa : ℕ} {exponent : ℤ}

theorem target_canonical (canonical : Canonical mantissa exponent) :
    target ((mantissa : ℚ) * 2 ^ exponent) = exponent := by
  have same := canonical.target
  rw [targetExponent_eq, totalExponent] at same
  rw [target, log_mul_zpow canonical.positive]
  omega

/-- A double is rounded to itself. -/
theorem nearest_canonical (canonical : Canonical mantissa exponent) :
    nearest ((mantissa : ℚ) * 2 ^ exponent) = mantissa * 2 ^ exponent := by
  have unit : (2 : ℚ) ^ exponent ≠ 0 := by positivity
  have whole : roundHalfEven (mantissa : ℚ) = mantissa := by
    exact_mod_cast roundHalfEven_intCast (α := ℚ) (mantissa : ℤ)
  rw [nearest, target_canonical canonical, mul_div_cancel_right₀ _ unit, whole, Int.cast_natCast]

theorem canonical_unique {other : ℕ} {level : ℤ} (canonical : Canonical mantissa exponent)
    (another : Canonical other level)
    (same : (mantissa : ℚ) * 2 ^ exponent = other * 2 ^ level) :
    mantissa = other ∧ exponent = level := by
  have exponents : exponent = level := by
    rw [← target_canonical canonical, same, target_canonical another]
  subst exponents
  refine ⟨?_, rfl⟩
  exact_mod_cast mul_right_cancel₀ (by positivity : (2 : ℚ) ^ exponent ≠ 0) same

end Canonical

theorem exists_canonical {n : ℕ} (positive : 0 < n) (fits : n < 2 ^ 53) :
    ∃ mantissa exponent, Canonical mantissa exponent ∧ (n : ℚ) = mantissa * 2 ^ exponent := by
  have few := (Nat.log2_lt positive.ne').mpr fits
  obtain ⟨shift, shift_eq⟩ := Nat.exists_eq_add_of_le (Nat.le_of_lt_succ few)
  refine ⟨n * 2 ^ shift, -(shift : ℤ), ⟨by positivity, by omega, ?_⟩, ?_⟩
  · have total := totalExponent_mul positive 0 shift
    rw [zero_sub] at total
    rw [total, targetExponent_eq, totalExponent]
    omega
  · rw [zpow_neg, zpow_natCast]
    push_cast
    rw [mul_inv_cancel_right₀ (by positivity)]

theorem nearest_zero : nearest 0 = 0 := by
  have zero : roundHalfEven (0 : ℚ) = 0 := by
    exact_mod_cast roundHalfEven_intCast (α := ℚ) 0
  rw [nearest, zero_div, zero, Int.cast_zero, zero_mul]

theorem nearest_natCast {n : ℕ} (fits : n < 2 ^ 53) : nearest (n : ℚ) = n := by
  obtain rfl | positive := Nat.eq_zero_or_pos n
  · rw [Nat.cast_zero, nearest_zero]
  · obtain ⟨mantissa, exponent, canonical, same⟩ := exists_canonical positive fits
    rw [same, nearest_canonical canonical]

/-! ## Reading a decimal -/

theorem unpacked_ofScientific {digits : ℕ} (positive : 0 < digits) {exponent : ℤ}
    (least : -2048 ≤ exponent) (most : exponent ≤ 2048) :
    Unpacked .positive (nearest (digits * 10 ^ exponent))
      (UnpackedFloat.ofScientific Format.binary64 digits exponent) := by
  have digits_pos : (0 : ℚ) < digits := by exact_mod_cast positive
  have limit : (2 ^ Format.binary64.exponentBits : ℤ) = 2048 := rfl
  rw [UnpackedFloat.ofScientific, dif_neg positive.ne', if_neg (by omega), if_neg (by omega)]
  by_cases natural : 0 ≤ exponent
  · obtain ⟨power, rfl⟩ := Int.eq_ofNat_of_zero_le natural
    have width : Format.binary64.mantissaBits = 53 := rfl
    have value : (digits : ℚ) * (10 : ℚ) ^ (power : ℤ) / (2 : ℚ) ^ (-((53 : ℕ) : ℤ) + 0) =
        (digits <<< 53 * 10 ^ power : ℕ) := by
      rw [Nat.shiftLeft_eq, add_zero, zpow_neg, div_inv_eq_mul, zpow_natCast, zpow_natCast]
      push_cast
      ring
    rw [if_pos natural]
    simp only [UnpackedFloat.mul, width, Int.toNat_natCast]
    apply unpacked_round (by positivity) _ _ .positive
    · rw [value]
      exact represents_exact _
    · have whole : ((2 : ℚ) ^ (0 : ℤ)) ≤ digits * 10 ^ (power : ℤ) := by
        rw [zpow_natCast]
        exact_mod_cast Nat.mul_pos positive (by positivity)
      rw [le_log_iff (by positivity)] at whole
      unfold target
      omega
  · obtain ⟨power, rfl⟩ : ∃ power : ℕ, exponent = -(power : ℤ) :=
      ⟨(-exponent).toNat, by omega⟩
    have quotient : (digits : ℚ) * 10 ^ (-(power : ℤ)) = digits / (10 ^ power : ℕ) := by
      rw [zpow_neg, zpow_natCast, div_eq_mul_inv]
      push_cast
      rfl
    have amount : (- -(power : ℤ)).toNat = power := by omega
    rw [if_neg natural, quotient]
    simp only [amount]
    exact unpacked_div positive (by positivity)

theorem unpacked_unique {sign : Sign} {y : ℚ} {left right : UnpackedFloat}
    (left_unpacked : Unpacked sign y left) (right_unpacked : Unpacked sign y right) :
    left = right := by
  cases left_unpacked with
  | zero y_zero =>
      cases right_unpacked with
      | zero => rfl
      | finite canonical same =>
          have positive := canonical.positive
          have nonzero : y ≠ 0 := by
            rw [same]
            positivity
          exact absurd y_zero nonzero
  | @finite mantissa exponent positive canonical same =>
      cases right_unpacked with
      | zero y_zero =>
          have nonzero : y ≠ 0 := by
            rw [same]
            positivity
          exact absurd y_zero nonzero
      | finite another same' =>
          obtain ⟨rfl, rfl⟩ := canonical_unique canonical another (same.symm.trans same')
          rfl

/-- A last zero may be left out. -/
theorem ofDecimal_ten_mul (negative : Bool) (n : ℕ) :
    ofDecimal negative (10 * n) (-1) = ofDecimal negative n 0 := by
  obtain rfl | positive := Nat.eq_zero_or_pos n
  · simp [ofDecimal, UnpackedFloat.ofScientific]
  · have tenth := unpacked_ofScientific (Nat.mul_pos (by decide : 0 < 10) positive)
      (by decide : -2048 ≤ (-1 : ℤ)) (by decide)
    have whole := unpacked_ofScientific positive (by decide : -2048 ≤ (0 : ℤ)) (by decide)
    have same : ((10 * n : ℕ) : ℚ) * 10 ^ (-1 : ℤ) = n * 10 ^ (0 : ℤ) := by
      push_cast
      norm_num
      ring
    rw [same] at tenth
    rw [ofDecimal, ofDecimal, unpacked_unique tenth whole]

/-! ## The value of a double -/

def signed (negative : Bool) (y : ℚ) : ℚ :=
  if negative then -y else y

/-- A finite double is this rational; both zeros are 0. -/
def Worth (x : Float) (q : ℚ) : Prop :=
  ∃ sign y, Unpacked sign y x.toModel.unpack ∧ q = signed (isNegative sign) y

theorem worth_of_unpacked {x : Float} {sign : Sign} {mantissa : ℕ} {exponent : ℤ}
    {positive : 0 < mantissa}
    (unpacked : x.toModel.unpack = .finite sign mantissa exponent positive) :
    Worth x (signed (isNegative sign) (mantissa * 2 ^ exponent)) := by
  have encodes : Encodes x.toModel.toBits.toBitVec
      (.finite sign mantissa exponent positive) := unpacked ▸ encodes_unpack _
  refine ⟨sign, mantissa * 2 ^ exponent, ?_, rfl⟩
  rw [unpacked]
  exact .finite (canonical_of_encodes encodes) rfl

theorem compare_unpacked {left right : UnpackedFloat} {sign other : Sign} {y z : ℚ}
    (left_unpacked : Unpacked sign y left) (right_unpacked : Unpacked other z right) :
    left.beq right = true ↔ signed (isNegative sign) y = signed (isNegative other) z := by
  cases left_unpacked with
  | zero y_zero =>
      subst y_zero
      cases right_unpacked with
      | zero z_zero =>
          subst z_zero
          cases sign <;> cases other <;> simp [UnpackedFloat.beq, UnpackedFloat.compare, signed]
      | @finite m e positive canonical z_eq =>
          have z_pos : 0 < z := by
            rw [z_eq]
            positivity
          cases sign <;> cases other <;>
            simp [UnpackedFloat.beq, UnpackedFloat.compare, signed, isNegative, z_pos.ne,
              z_pos.ne']
  | @finite m e positive canonical y_eq =>
      have y_pos : 0 < y := by
        rw [y_eq]
        positivity
      cases right_unpacked with
      | zero z_zero =>
          subst z_zero
          cases sign <;> cases other <;>
            simp [UnpackedFloat.beq, UnpackedFloat.compare, signed, isNegative, y_pos.ne']
      | @finite m' e' positive' canonical' z_eq =>
          have z_pos : 0 < z := by
            rw [z_eq]
            positivity
          have same : y = z ↔ e = e' ∧ m = m' := by
            rw [y_eq, z_eq]
            constructor
            · intro values
              exact (canonical_unique canonical canonical' values).symm
            · rintro ⟨rfl, rfl⟩
              rfl
          have apart : y ≠ -z ∧ -y ≠ z := by
            constructor <;> linarith
          cases sign <;> cases other <;>
            simp [UnpackedFloat.beq, UnpackedFloat.compare, signed, isNegative, same, apart]

theorem beq_iff {x y : Float} {p q : ℚ} (left : Worth x p) (right : Worth y q) :
    (x == y) = true ↔ p = q := by
  obtain ⟨sign, value, left_unpacked, rfl⟩ := left
  obtain ⟨other, value', right_unpacked, rfl⟩ := right
  exact compare_unpacked left_unpacked right_unpacked

theorem worth_pack {u : UnpackedFloat} {sign : Sign} {y : ℚ} (unpacked : Unpacked sign y u)
    (small : y < 2 ^ (1024 : ℤ)) :
    Worth (Float.ofModel (Float.Model.pack u)) (signed (isNegative sign) y) := by
  refine ⟨sign, y, ?_, rfl⟩
  cases unpacked with
  | zero same =>
      cases sign
      · exact .zero same
      · exact .zero same
  | @finite mantissa exponent positive canonical same =>
      change Unpacked sign y (Float.Model.pack _).unpack
      rw [unpack_pack canonical (exponent_le canonical (same ▸ small))]
      exact .finite canonical same

theorem Unpacked.neg {u : UnpackedFloat} {y : ℚ} (unpacked : Unpacked .positive y u) :
    Unpacked .negative y u.neg := by
  cases unpacked with
  | zero same => exact .zero same
  | finite canonical same => exact .finite canonical same

/-- What a decimal reads as. -/
theorem worth_ofDecimal (negative : Bool) (digits : ℕ) (exponent : ℤ)
    (least : -2048 ≤ exponent) (most : exponent ≤ 2048)
    (small : nearest (digits * 10 ^ exponent) < 2 ^ (1024 : ℤ)) :
    Worth (ofDecimal negative digits exponent)
      (signed negative (nearest (digits * 10 ^ exponent))) := by
  have unpacked : Unpacked .positive (nearest (digits * 10 ^ exponent))
      (UnpackedFloat.ofScientific Format.binary64 digits exponent) := by
    obtain rfl | positive := Nat.eq_zero_or_pos digits
    · rw [Nat.cast_zero, zero_mul, nearest_zero, UnpackedFloat.ofScientific, dif_pos rfl]
      exact .zero rfl
    · exact unpacked_ofScientific positive least most
  cases negative
  · exact worth_pack unpacked small
  · exact worth_pack unpacked.neg small

/-! ## The integer part of a double -/

theorem exponent_le_of_encodes {bits : BitVec Format.binary64.numBits} {sign : Sign}
    {mantissa : ℕ} {exponent : ℤ} {positive : 0 < mantissa}
    (encodes : Encodes bits (.finite sign mantissa exponent positive)) : exponent ≤ 971 := by
  rcases encodes with _ | _ | _ | _ | ⟨_, finite, -⟩
  · decide
  · have most : (unpackExponent bits).toNat < 2 ^ 11 := (unpackExponent bits).isLt
    have not_last : (unpackExponent bits).toNat ≠ 2047 := by
      intro last
      exact finite (BitVec.eq_of_toNat_eq last)
    omega

theorem canonical_lt {mantissa : ℕ} {exponent : ℤ} (canonical : Canonical mantissa exponent) :
    mantissa < 2 ^ 53 := by
  have same := canonical.target
  rw [targetExponent_eq, totalExponent] at same
  exact (Nat.log2_lt canonical.positive.ne').mp (by omega)

/-- The integer part of a double is a double. -/
theorem nearest_floor {mantissa : ℕ} {exponent : ℤ} (canonical : Canonical mantissa exponent) :
    nearest (⌊(mantissa : ℚ) * 2 ^ exponent⌋₊ : ℚ) = ⌊(mantissa : ℚ) * 2 ^ exponent⌋₊ := by
  by_cases natural : 0 ≤ exponent
  · obtain ⟨power, rfl⟩ := Int.eq_ofNat_of_zero_le natural
    have whole : (⌊(mantissa : ℚ) * 2 ^ (power : ℤ)⌋₊ : ℚ) = mantissa * 2 ^ (power : ℤ) := by
      have cast : (mantissa : ℚ) * 2 ^ (power : ℤ) = (mantissa * 2 ^ power : ℕ) := by
        rw [zpow_natCast]
        push_cast
        rfl
      rw [cast, Nat.floor_natCast]
    rw [whole, nearest_canonical canonical]
  · apply nearest_natCast
    have fraction : (2 : ℚ) ^ exponent ≤ 1 :=
      zpow_le_one_of_nonpos₀ one_le_two (by omega)
    have bound : (mantissa : ℚ) * 2 ^ exponent ≤ mantissa :=
      mul_le_of_le_one_right (by positivity) fraction
    exact (Nat.floor_le_of_le (by exact_mod_cast bound)).trans_lt (canonical_lt canonical)

/-- What the exact value of a double is. -/
inductive IsExact (x : Float) : ℚ → Prop where
  | zero {sign : Sign} : x.toModel.unpack = .zero sign → IsExact x 0
  | finite {sign : Sign} {mantissa : ℕ} {exponent : ℤ} {positive : 0 < mantissa} :
      x.toModel.unpack = .finite sign mantissa exponent positive →
      Canonical mantissa exponent → exponent ≤ 971 →
      IsExact x (signed (isNegative sign) (mantissa * 2 ^ exponent))

theorem isExact {x : Float} {q : ℚ} (exact : Py.exact (.float x) = .ok q) : IsExact x q := by
  obtain ⟨operand, same, found⟩ := Py.bind_eq_ok.mp exact
  cases same
  dsimp only at found
  split at found
  case h_1 sign unpacked =>
    cases found
    exact .zero unpacked
  case h_2 sign mantissa exponent positive unpacked =>
    cases found
    have encodes : Encodes x.toModel.toBits.toBitVec
        (.finite sign mantissa exponent positive) := unpacked ▸ encodes_unpack _
    exact .finite unpacked (canonical_of_encodes encodes) (exponent_le_of_encodes encodes)
  case h_3 => cases found

theorem IsExact.worth {x : Float} {q : ℚ} (exact : IsExact x q) : Worth x q := by
  cases exact with
  | @zero sign unpacked =>
      refine ⟨sign, 0, ?_, by simp [signed]⟩
      rw [unpacked]
      exact .zero rfl
  | finite unpacked canonical => exact worth_of_unpacked unpacked

theorem signed_natAbs (n : ℤ) : signed (n < 0) n.natAbs = n := by
  by_cases negative : n < 0
  · simp [signed, negative, Nat.cast_natAbs, abs_of_neg negative]
  · simp [signed, negative, Nat.cast_natAbs, abs_of_nonneg (not_lt.mp negative)]

theorem natAbs_trunc_signed (negative : Bool) {y : ℚ} (nonneg : 0 ≤ y) :
    (Py.Exact.trunc (signed negative y)).natAbs = ⌊y⌋₊ := by
  have floor : ⌊y⌋.natAbs = ⌊y⌋₊ := by
    have floor_nonneg := Int.floor_nonneg.mpr nonneg
    rw [← Int.floor_toNat]
    omega
  unfold Py.Exact.trunc signed
  cases negative
  · simpa [nonneg] using floor
  · obtain rfl | positive := nonneg.eq_or_lt
    · simp
    · rw [if_pos rfl, if_neg (by linarith), Int.ceil_neg, Int.natAbs_neg, floor]

/-- The integer part reads as itself. -/
theorem IsExact.worth_trunc {x : Float} {q : ℚ} (exact : IsExact x q) :
    Worth (ofDecimal (Py.Exact.trunc q < 0) (Py.Exact.trunc q).natAbs 0)
      (Py.Exact.trunc q) := by
  have double : nearest ((Py.Exact.trunc q).natAbs : ℚ) = (Py.Exact.trunc q).natAbs ∧
      ((Py.Exact.trunc q).natAbs : ℚ) < 2 ^ (1024 : ℤ) := by
    cases exact with
    | zero unpacked =>
        have none_left : Py.Exact.trunc (0 : ℚ) = 0 := by
          exact_mod_cast Py.Exact.trunc_intCast (α := ℚ) 0
        rw [none_left, Int.natAbs_zero, Nat.cast_zero]
        exact ⟨nearest_zero, by positivity⟩
    | @finite sign mantissa exponent positive unpacked canonical fits =>
        have nonneg : (0 : ℚ) ≤ mantissa * 2 ^ exponent := by positivity
        rw [natAbs_trunc_signed _ nonneg]
        refine ⟨nearest_floor canonical, (Nat.floor_le nonneg).trans_lt ?_⟩
        have limit : (2 : ℚ) ^ (1024 : ℤ) = 2 ^ (53 : ℤ) * 2 ^ (971 : ℤ) := by
          rw [← zpow_add₀ two_ne_zero]
          norm_num
        have power : (2 : ℚ) ^ exponent ≤ 2 ^ (971 : ℤ) :=
          zpow_le_zpow_right₀ one_le_two fits
        have few : (mantissa : ℚ) < 2 ^ (53 : ℤ) := by
          exact_mod_cast canonical_lt canonical
        calc (mantissa : ℚ) * 2 ^ exponent
            < 2 ^ (53 : ℤ) * 2 ^ exponent := mul_lt_mul_of_pos_right few (by positivity)
          _ ≤ 2 ^ (53 : ℤ) * 2 ^ (971 : ℤ) := mul_le_mul_of_nonneg_left power (by positivity)
          _ = 2 ^ (1024 : ℤ) := limit.symm
  have worth := worth_ofDecimal (Py.Exact.trunc q < 0) (Py.Exact.trunc q).natAbs 0
    (by norm_num) (by norm_num)
  simp only [zpow_zero, mul_one, double.1, signed_natAbs] at worth
  exact worth double.2

end Binary64

namespace Json

open Py Binary64

/-! ## Texts that `float` reads -/

theorem plain_of_isNumberChar {c : Char} (numeric : isNumberChar c = true) :
    toAscii c = c ∧ isBlank c = false ∧ c ≠ '_' := by
  simp only [isNumberChar, Bool.or_eq_true, decide_eq_true_eq] at numeric
  obtain ((((digit | rfl) | rfl) | rfl) | rfl) | rfl := numeric
  · have upper : c.toNat ≤ 57 := (Char.isDigit_iff_toNat.mp digit).2
    refine ⟨if_pos (by omega), isBlank_of_isDigit digit, ?_⟩
    rintro rfl
    exact absurd digit (by decide)
  all_goals decide

theorem dropUnderscores_plain {cs : List Char} (plain : ∀ c ∈ cs, c ≠ '_') :
    ∀ {before : Char}, before ≠ '_' → dropUnderscores before cs = some cs := by
  induction cs with
  | nil =>
      intro before own
      exact if_neg own
  | cons c cs ih =>
      intro before own
      obtain ⟨first, others⟩ := List.forall_mem_cons.mp plain
      rw [dropUnderscores_cons, if_neg first, if_neg (by simp [own]), ih others first]
      rfl

theorem dropWhile_isBlank {cs : List Char} (plain : ∀ c ∈ cs, isBlank c = false) :
    cs.dropWhile isBlank = cs := by
  cases cs with
  | nil => rfl
  | cons c cs => rw [List.dropWhile_cons_of_neg (by simp [plain c List.mem_cons_self])]

theorem digits_numeric {text : List Char} (numeric : ∀ c ∈ text, isNumberChar c = true) :
    digits (String.ofList text) = some text := by
  have plain : ∀ c ∈ text, isBlank c = false :=
    fun c member => (plain_of_isNumberChar (numeric c member)).2.1
  have ascii : text.map toAscii = text :=
    (List.map_congr_left fun c member =>
      (plain_of_isNumberChar (numeric c member)).1).trans text.map_id'
  have stripped : strip text = text := by
    rw [strip, dropWhile_isBlank plain, dropWhile_isBlank (by simpa using plain),
      List.reverse_reverse]
  rw [digits, String.toList_ofList, ascii, stripped]
  exact dropUnderscores_plain
    (fun c member => (plain_of_isNumberChar (numeric c member)).2.2) (by decide)

/-- A sign and what starts with a digit. -/
theorem float?_signText (negative : Bool) {d : Char} {cs : List Char}
    (digit : d.isDigit = true) (numeric : ∀ c ∈ cs, isNumberChar c = true) :
    float? (String.ofList (signText negative ++ d :: cs)) =
      decimalFloat? negative (d :: cs) := by
  have all_numeric : ∀ c ∈ signText negative ++ d :: cs, isNumberChar c = true := by
    intro c member
    obtain sign | rfl | later := by simpa using member
    · cases negative
      · cases sign
      · obtain rfl : c = '-' := by simpa [signText] using sign
        rfl
    · simp [isNumberChar, digit]
    · exact numeric c later
  have split : splitSign (signText negative ++ d :: cs) = (negative, d :: cs) := by
    cases negative
    · exact splitSign_digit digit cs
    · rfl
  have lower : d.toLower = d := by
    rw [Char.toLower, dif_neg]
    rintro ⟨above, -⟩
    have least : 65 ≤ d.toNat := above
    have most : d.toNat ≤ 57 := (Char.isDigit_iff_toNat.mp digit).2
    omega
  have not_word : ∀ word : String, word.toList.any Char.isDigit = false →
      String.ofList ((d :: cs).map Char.toLower) ≠ word := by
    rintro word letters rfl
    simp [lower, digit] at letters
  rw [float?, digits_numeric all_numeric, Option.bind_some, split]
  simp only [signedFloat?, not_word "inf" (by decide),
    not_word "infinity" (by decide), not_word "nan" (by decide), decide_false,
    Bool.or_false, Bool.false_eq_true, if_false]

/-- A number of JSON has a sign or none, and a digit. -/
theorem number?_signed {text : List Char} {value : Value} (read : number? text = some value) :
    ∃ negative d cs, d.isDigit = true ∧ text = signText negative ++ d :: cs ∧
      continue? negative ((d :: cs).span Char.isDigit).1 ((d :: cs).span Char.isDigit).2 =
        some value := by
  have start : ∀ magnitude : List Char, isWhole (magnitude.span Char.isDigit).1 = true →
      ∃ d cs, d.isDigit = true ∧ magnitude = d :: cs := by
    intro magnitude whole
    cases magnitude with
    | nil => cases whole
    | cons d cs =>
        refine ⟨d, cs, ?_, rfl⟩
        by_contra other
        simp [List.span_eq_takeWhile_dropWhile, other, isWhole] at whole
  simp only [number?] at read
  split at read
  case isFalse => cases read
  case isTrue whole =>
    obtain ⟨d, cs, digit, magnitude⟩ := start _ whole
    rw [magnitude] at read
    fun_cases splitMinus text with
    | case1 rest =>
        obtain rfl : rest = d :: cs := magnitude
        exact ⟨true, d, cs, digit, rfl, read⟩
    | case2 rest unsigned =>
        rw [splitMinus.eq_2 _ unsigned] at magnitude read
        obtain rfl : text = d :: cs := magnitude
        exact ⟨false, d, cs, digit, rfl, read⟩

theorem decimalFloat?_of_continue? {negative : Bool} {cs : List Char} {x : Float}
    (some_digit : (cs.span Char.isDigit).1 ≠ [])
    (read : continue? negative (cs.span Char.isDigit).1 (cs.span Char.isDigit).2 =
      some (.float x)) :
    decimalFloat? negative cs = some x := by
  unfold decimalFloat?
  generalize cs.span Char.isDigit = spanned at some_digit read ⊢
  obtain ⟨whole, rest⟩ := spanned
  dsimp only at some_digit read ⊢
  have not_empty : ∀ fraction : List Char, (whole ++ fraction).isEmpty = false := by
    intro fraction
    simp [some_digit]
  fun_cases continue? negative whole rest with
  | case1 => simp [continue?] at read
  | case2 rest after spanned =>
      simp only [continue?, spanned, if_true] at read
      cases read
  | case3 rest fraction after spanned nonempty =>
      simp only [continue?, spanned, if_neg nonempty, Option.map_eq_some_iff] at read
      obtain ⟨exponent, found, same⟩ := read
      simp only [spanned, not_empty, found, Bool.false_eq_true, if_false, Option.map_some]
      rw [Value.float.inj same]
  | case4 rest nonempty noPoint =>
      rw [continue?.eq_3 _ _ _ nonempty noPoint, Option.map_eq_some_iff] at read
      obtain ⟨exponent, found, same⟩ := read
      split
      case h_1 later => exact absurd rfl (noPoint later)
      case h_2 =>
        have filled := not_empty []
        rw [List.append_nil] at filled
        simp only [List.append_nil, filled, found, Bool.false_eq_true, if_false,
          Option.map_some, List.length_nil, Nat.cast_zero, sub_zero]
        rw [Value.float.inj same]

/-- What JSON reads as a float, `float` reads as that float. -/
theorem float?_of_number? {text : List Char} {x : Float}
    (read : number? text = some (.float x)) : float? (String.ofList text) = some x := by
  have numeric := (number?_some read).2
  obtain ⟨negative, d, cs, digit, rfl, continued⟩ := number?_signed read
  rw [float?_signText negative digit (fun c member => numeric c (by simp [member]))]
  apply decimalFloat?_of_continue? _ continued
  simp [List.span_eq_takeWhile_dropWhile, digit]

theorem decimalFloat?_digits (negative : Bool) {ds : List Char} (some_digit : ds ≠ [])
    (all_digits : ∀ c ∈ ds, c.isDigit = true) :
    decimalFloat? negative ds =
      some (ofDecimal negative (Nat.ofDigitChars 10 ds 0) 0) := by
  have ended : ∀ c ∈ ([] : List Char).head?, c.isDigit = false := by simp
  have spanned := span_digits all_digits ended
  rw [List.append_nil] at spanned
  have filled : ds.isEmpty = false := by simp [some_digit]
  simp only [decimalFloat?, spanned, List.append_nil, filled, Bool.false_eq_true, if_false,
    exponent?, Option.map_some, List.length_nil, Nat.cast_zero, sub_zero]

theorem isNumberChar_of_isDigit {c : Char} (digit : c.isDigit = true) :
    isNumberChar c = true := by
  simp [isNumberChar, digit]

/-- A sign and digits. -/
theorem float?_signed_digits (negative : Bool) {ds : List Char} (some_digit : ds ≠ [])
    (all_digits : ∀ c ∈ ds, c.isDigit = true) :
    float? (String.ofList (signText negative ++ ds)) =
      some (ofDecimal negative (Nat.ofDigitChars 10 ds 0) 0) := by
  obtain ⟨d, ds, rfl⟩ := List.exists_cons_of_ne_nil some_digit
  obtain ⟨first, others⟩ := List.forall_mem_cons.mp all_digits
  rw [float?_signText negative first (fun c member => isNumberChar_of_isDigit (others c member)),
    decimalFloat?_digits negative some_digit all_digits]

theorem float?_intText (n : ℤ) :
    float? (String.ofList (intText n)) = some (ofDecimal (n < 0) n.natAbs 0) := by
  rw [intText, float?_signed_digits _ Nat.toDigits_ne_nil (fun c => isDigit_toDigits),
    Nat.ofDigitChars_ten_toDigits]

/-! ## A point and a zero -/

theorem no_point_of_integer? {cs : List Char} {n : ℤ} (read : integer? cs = some n) :
    '.' ∉ cs := by
  have magnitude : '.' ∉ (splitSign cs).2 := by
    intro member
    simp only [integer?, Option.map_eq_some_iff] at read
    obtain ⟨_, natural, -⟩ := read
    rw [natural?, if_pos] at natural
    · cases natural
    · rw [Bool.or_eq_true, List.any_eq_true]
      exact .inr ⟨'.', member, rfl⟩
  fun_cases splitSign cs with
  | case1 rest => simpa [splitSign] using magnitude
  | case2 rest => simpa [splitSign] using magnitude
  | case3 rest unsigned notMinus => rwa [splitSign.eq_3 _ unsigned notMinus] at magnitude

theorem no_point_of_exponent? {cs : List Char} {exponent : ℤ}
    (read : exponent? cs = some exponent) : '.' ∉ cs := by
  cases cs with
  | nil => exact List.not_mem_nil
  | cons first rest =>
      obtain ⟨marked, read⟩ := exponent?_cons.mp read
      rw [List.mem_cons]
      rintro (rfl | inside)
      · exact absurd marked (by decide)
      · exact no_point_of_integer? read inside

theorem point_mem_dropWhile {cs : List Char} (member : '.' ∈ cs) :
    '.' ∈ cs.dropWhile Char.isDigit := by
  rw [← List.takeWhile_append_dropWhile (p := Char.isDigit) (l := cs), List.mem_append] at member
  obtain digit | later := member
  · exact absurd (List.mem_takeWhile_imp digit) (by decide)
  · exact later

/-- Before a point and a zero at the end of a number stand digits. -/
theorem all_digits_of_continue? {negative : Bool} {cs : List Char} {x : Float}
    (read : continue? negative ((cs ++ ['.', '0']).span Char.isDigit).1
      ((cs ++ ['.', '0']).span Char.isDigit).2 = some (.float x)) :
    ∀ c ∈ cs, c.isDigit = true := by
  rw [← List.dropWhile_eq_nil_iff]
  cases rest : cs.dropWhile Char.isDigit with
  | nil => rfl
  | cons c later =>
      have ended : ∀ other ∈ (c :: (later ++ ['.', '0'])).head?, other.isDigit = false := by
        rintro other ⟨⟩
        simpa [rest] using List.dropWhile_get_zero_not Char.isDigit cs (by simp [rest])
      have spanned : (cs ++ ['.', '0']).span Char.isDigit =
          (cs.takeWhile Char.isDigit, c :: (later ++ ['.', '0'])) := by
        rw [← span_digits (fun _ => List.mem_takeWhile_imp) ended, ← List.cons_append, ← rest,
          ← List.append_assoc, List.takeWhile_append_dropWhile]
      have point : '.' ∈ later ++ ['.', '0'] := by simp
      rw [spanned] at read
      by_cases same : c = '.'
      · subst same
        simp only [continue?] at read
        split at read
        case isTrue => cases read
        case isFalse =>
          obtain ⟨exponent, found, -⟩ := Option.map_eq_some_iff.mp read
          rw [List.span_eq_takeWhile_dropWhile] at found
          exact absurd (point_mem_dropWhile point) (no_point_of_exponent? found)
      · have no_point : ∀ rest, c :: (later ++ ['.', '0']) ≠ '.' :: rest :=
          fun rest spelled => same (List.cons.inj spelled).1
        rw [continue?.eq_3 _ _ _ (List.cons_ne_nil _ _) no_point] at read
        obtain ⟨exponent, found, -⟩ := Option.map_eq_some_iff.mp read
        exact absurd (List.mem_cons_of_mem c point) (no_point_of_exponent? found)

/-- Without `.0` at its end a text reads as the whole number that stands there. -/
theorem float?_without_zero {text : List Char} {x : Float}
    (read : number? (text ++ ['.', '0']) = some (.float x)) :
    float? (String.ofList text) = some x := by
  obtain ⟨negative, d, cs, digit, spelled, continued⟩ := number?_signed read
  obtain ⟨ds, rfl, magnitude⟩ : ∃ ds, text = signText negative ++ ds ∧
      d :: cs = ds ++ ['.', '0'] := by
    cases negative
    · exact ⟨text, rfl, spelled.symm⟩
    · cases text with
      | nil => exact absurd (List.cons.inj spelled).1 (by decide)
      | cons c ds =>
          obtain ⟨rfl, later⟩ := List.cons.inj spelled
          exact ⟨ds, rfl, later.symm⟩
  rw [magnitude] at continued
  have all_digits := all_digits_of_continue? continued
  have some_digit : ds ≠ [] := by
    rintro rfl
    obtain ⟨rfl, -⟩ := List.cons.inj magnitude
    exact absurd digit (by decide)
  have ended : ∀ c ∈ ['.', '0'].head?, c.isDigit = false := by
    rintro c ⟨⟩
    rfl
  rw [span_digits all_digits ended] at continued
  have fraction : ['0'].span Char.isDigit = (['0'], []) := rfl
  have ten : Nat.ofDigitChars 10 (ds ++ ['0']) 0 = 10 * Nat.ofDigitChars 10 ds 0 := by
    rw [Nat.ofDigitChars_append]
    exact Nat.ofDigitChars_replicate_zero (n := 1)
  rw [float?_signed_digits negative some_digit all_digits, ← ofDecimal_ten_mul, ← ten]
  simp only [continue?, fraction] at continued
  exact congrArg some (Value.float.inj (Option.some.inj continued))

/-! ## The text of a double -/

theorem number?_floatText {x : Float} {q : ℚ} (exact : IsExact x q) :
    number? (floatText x) = some (.float x) := by
  cases exact with
  | @zero sign unpacked =>
      have zeros := number?_zeroText (isNegative sign)
      rw [ofDecimal_zero unpacked] at zeros
      rw [floatText, unpacked]
      exact zeros
  | finite unpacked =>
      rw [floatText, unpacked]
      exact number?_finiteText unpacked

end Json
