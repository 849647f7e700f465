import HftEngine.Core.BlackScholes.Branches
import HftEngine.Lib.Normal

/-!
# Where the branches agree

For the functions of analysis, the Rust branch is the scalar loop without a dividend
yield, for the options that both of them price.
-/

namespace HftEngine.BlackScholes

open Py.Exact

variable {α : Type} [Field α] [LinearOrder α]

/-- What is used of the functions: the exponential and its inverse, the square root, and
of the normal distribution its density, its symmetry and that the ratio of distribution
and density grows. -/
structure Laws (functions : Functions α) : Prop where
  exp_pos : ∀ x, 0 < functions.exp x
  exp_add : ∀ x y, functions.exp (x + y) = functions.exp x * functions.exp y
  exp_log : ∀ x, 0 < x → functions.exp (functions.log x) = x
  sqrt_pos : ∀ x, 0 < x → 0 < functions.sqrt x
  sqrt_sq : ∀ x, 0 < x → functions.sqrt x ^ 2 = x
  pi_pos : 0 < functions.pi
  pdf_eq : ∀ x, functions.pdf x =
    functions.exp (-(1 / 2) * x ^ 2) / functions.sqrt (2 * functions.pi)
  cdf_neg : ∀ x, functions.cdf (-x) = 1 - functions.cdf x
  ratio : ∀ x y, x < y →
    functions.cdf x * functions.pdf y < functions.cdf y * functions.pdf x

section Laws

variable {functions : Functions α}

theorem Laws.exp_zero (laws : Laws functions) : functions.exp 0 = 1 := by
  have twice := laws.exp_add 0 0
  rw [add_zero] at twice
  exact (mul_eq_left₀ (laws.exp_pos 0).ne').mp twice.symm

theorem Laws.exp_neg_mul (laws : Laws functions) (x : α) :
    functions.exp (-x) * functions.exp x = 1 := by
  rw [← laws.exp_add, neg_add_cancel, laws.exp_zero]

theorem Laws.pdf_pos [IsStrictOrderedRing α] (laws : Laws functions) (x : α) :
    0 < functions.pdf x := by
  rw [laws.pdf_eq]
  exact div_pos (laws.exp_pos _) (laws.sqrt_pos _ (mul_pos two_pos laws.pi_pos))

theorem Laws.pdf_neg (laws : Laws functions) (x : α) : functions.pdf (-x) = functions.pdf x := by
  rw [laws.pdf_eq, laws.pdf_eq, neg_sq]

end Laws

section Prices

variable {functions : Functions α} {model : BlackScholesModel α}
  {S K T sigma : α}

/-- The model that Rust knows. -/
def BlackScholesModel.without_yield (model : BlackScholesModel α) : BlackScholesModel α :=
  { model with dividend_yield := 0 }

variable (model T) in
theorem exp_qt_without_yield (laws : Laws functions) :
    exp_qt functions model.without_yield T = 1 := by
  simp [exp_qt, BlackScholesModel.without_yield, laws.exp_zero]

variable [IsStrictOrderedRing α]

variable (model S K) in
theorem d2_lt_d1 (laws : Laws functions) (time : 0 < T) (volatile : 0 < sigma) :
    d2 functions model S K T sigma < d1 functions model S K T sigma := by
  rw [d2]
  linarith [mul_pos volatile (laws.sqrt_pos T time)]

variable (model) in
/-- The densities at the two points weigh the spot price and the discounted strike. -/
theorem spot_mul_pdf (laws : Laws functions) (spot : 0 < S) (strike : 0 < K) (time : 0 < T)
    (volatile : 0 < sigma) :
    S * functions.pdf (d1 functions model.without_yield S K T sigma) =
      K * exp_rt functions model.without_yield T *
        functions.pdf (d2 functions model.without_yield S K T sigma) := by
  have root := laws.sqrt_pos T time
  have square := laws.sqrt_sq T time
  let x := d1 functions model.without_yield S K T sigma
  let v := sigma * functions.sqrt T
  have v_pos : 0 < v := mul_pos volatile root
  have first : x * v = functions.log (S / K) +
      (model.risk_free_rate + 1 / 2 * sigma ^ 2) * T := by
    have shape : x = (functions.log (S / K) +
        (model.risk_free_rate - 0 + 1 / 2 * sigma ^ 2) * T) / v := rfl
    rw [shape, div_mul_cancel₀ _ v_pos.ne', sub_zero]
  have v_square : v ^ 2 = sigma ^ 2 * T := by rw [mul_pow, square]
  have exponent : -(1 / 2) * (x - v) ^ 2 =
      -(1 / 2) * x ^ 2 + functions.log (S / K) + model.risk_free_rate * T := by
    linear_combination first - 1 / 2 * v_square
  have grown : functions.exp (-(1 / 2) * (x - v) ^ 2) =
      functions.exp (-(1 / 2) * x ^ 2) * (S / K) *
        functions.exp (model.risk_free_rate * T) := by
    rw [exponent, laws.exp_add, laws.exp_add, laws.exp_log _ (div_pos spot strike)]
  have discount := laws.exp_neg_mul (model.risk_free_rate * T)
  rw [← neg_mul] at discount
  have second : d2 functions model.without_yield S K T sigma = x - v := rfl
  have rate : exp_rt functions model.without_yield T =
      functions.exp (-model.risk_free_rate * T) := rfl
  rw [second, rate, laws.pdf_eq (x - v), grown, show d1 _ _ _ _ _ _ = x from rfl,
    laws.pdf_eq x]
  generalize functions.exp (-(1 / 2) * x ^ 2) = weight
  generalize functions.sqrt (2 * functions.pi) = total
  calc S * (weight / total)
      = S * (weight / total) * (functions.exp (-model.risk_free_rate * T) *
          functions.exp (model.risk_free_rate * T)) := by rw [discount, mul_one]
    _ = K * functions.exp (-model.risk_free_rate * T) *
          (weight * (S / K) * functions.exp (model.risk_free_rate * T) / total) := by
        field_simp

variable (model) in
/-- What is not yet expired has a price. -/
theorem price_pos (laws : Laws functions) (spot : 0 < S) (strike : 0 < K) (time : 0 < T)
    (volatile : 0 < sigma) (option_type : OptionType) :
    0 < price functions model.without_yield S K T sigma option_type := by
  have weighed := spot_mul_pdf model laws spot strike time volatile
  have below := d2_lt_d1 model.without_yield S K laws time volatile
  unfold price
  generalize d1 functions model.without_yield S K T sigma = x at weighed below ⊢
  generalize d2 functions model.without_yield S K T sigma = y at weighed below ⊢
  simp only [exp_qt_without_yield _ _ laws, mul_one]
  generalize K * exp_rt functions model.without_yield T = discounted at weighed ⊢
  have density := laws.pdf_pos y
  cases option_type with
  | CE =>
      rw [sub_pos]
      apply lt_of_mul_lt_mul_right _ density.le
      calc discounted * functions.cdf y * functions.pdf y
          = S * (functions.cdf y * functions.pdf x) := by
            linear_combination (-functions.cdf y) * weighed
        _ < S * (functions.cdf x * functions.pdf y) :=
            mul_lt_mul_of_pos_left (laws.ratio y x below) spot
        _ = S * functions.cdf x * functions.pdf y := by ring
  | PE =>
      have mirrored := laws.ratio (-x) (-y) (neg_lt_neg below)
      rw [laws.pdf_neg, laws.pdf_neg] at mirrored
      rw [sub_pos]
      apply lt_of_mul_lt_mul_right _ density.le
      calc S * functions.cdf (-x) * functions.pdf y
          = S * (functions.cdf (-x) * functions.pdf y) := by ring
        _ < S * (functions.cdf (-y) * functions.pdf x) :=
            mul_lt_mul_of_pos_left mirrored spot
        _ = discounted * functions.cdf (-y) * functions.pdf y := by
            linear_combination functions.cdf (-y) * weighed

variable [FloorRing α]

/-- Rust has the values of the model without a dividend yield. -/
theorem calculate_bsm_eq (laws : Laws functions) (spot : 0 < S) (strike : 0 < K)
    (time : 0 < T) (volatile : 0 < sigma) (option_type : OptionType) :
    calculate_bsm functions S K T model.risk_free_rate sigma option_type =
      values functions model.without_yield S K T sigma option_type := by
  have positive : ¬(T ≤ 0 ∨ sigma ≤ 0 ∨ S ≤ 0 ∨ K ≤ 0) := by
    simp only [not_or, not_le]
    exact ⟨time, volatile, spot, strike⟩
  have first : (functions.log (S / K) + (model.risk_free_rate + 1 / 2 * sigma ^ 2) * T) /
      (sigma * functions.sqrt T) = d1 functions model.without_yield S K T sigma := by
    simp [d1, BlackScholesModel.without_yield]
  have second : d1 functions model.without_yield S K T sigma - sigma * functions.sqrt T =
      d2 functions model.without_yield S K T sigma := rfl
  have rate : functions.exp (-model.risk_free_rate * T) =
      exp_rt functions model.without_yield T := rfl
  have priced := price_pos model laws spot strike time volatile option_type
  rw [calculate_bsm, if_neg positive, values, max_eq_left priced.le]
  simp only [first, second, rate, ← laws.pdf_eq]
  have no_yield := exp_qt_without_yield model T laws
  have yield_zero : model.without_yield.dividend_yield = 0 := rfl
  have same_rate : model.without_yield.risk_free_rate = model.risk_free_rate := rfl
  cases option_type with
  | CE =>
      simp only [price, delta, gamma, vega, theta, rho, no_yield, yield_zero, same_rate,
        Values.mk.injEq, and_true]
      refine ⟨?_, ?_, ?_, ?_, ?_⟩ <;> ring
  | PE =>
      simp only [price, delta, gamma, vega, theta, rho, no_yield, yield_zero, same_rate,
        Values.mk.injEq, laws.cdf_neg, and_true]
      refine ⟨?_, ?_, ?_, ?_, ?_⟩ <;> ring

omit [IsStrictOrderedRing α] in
theorem calculate_greeks_eq (spot : 0 < S) (strike : 0 < K) (time : 0 < T)
    (volatile : 0 < sigma) (option_type : OptionType) :
    calculate_greeks functions model S K T sigma option_type =
      (values functions model S K T sigma option_type).rounded := by
  have prices : ¬(S ≤ 0 ∨ K ≤ 0) := by simp [spot, strike]
  have going : ¬(T ≤ 0 ∨ sigma ≤ 0) := by simp [time, volatile]
  have positive : ¬(T ≤ 0 ∨ sigma ≤ 0 ∨ S ≤ 0 ∨ K ≤ 0) := by
    simp [spot, strike, time, volatile]
  rw [calculate_greeks, calculate, if_neg prices, if_neg going, if_neg positive]
  rfl

end Prices

/-! ## Agreement on one option and on a list -/

section Options

variable [FloorRing α] (functions : Functions α) (model : BlackScholesModel α)

/-- When the branches agree on an option, with a time to expiry in years.  One with an IV
is priced by all of them, and the dividend yield makes no difference to it; for one
without an IV none is found. -/
structure Met (S T : α) (option : OptionData α) : Prop where
  priced : ∀ iv, option.given_iv = some iv → 0 < option.strike ∧ 0 < S ∧ 0 < T ∧
    calculate_greeks functions model S option.strike T (iv / 100) option.option_type =
      calculate_greeks functions model.without_yield S option.strike T (iv / 100)
        option.option_type
  unpriced : option.given_iv = none → ∀ market_price, option.market_price = some market_price →
    ∃ iv, calculate_iv functions model S option.strike T option.option_type market_price =
      some iv ∧ iv ≤ 0

variable {functions : Functions α} {model : BlackScholesModel α} {S T : α}
  {option : OptionData α}

theorem found_iv_none_iff (missing : option.given_iv = none) :
    found_iv functions model S T option = some none ↔
      ∀ market_price, option.market_price = some market_price →
        ∃ iv, calculate_iv functions model S option.strike T option.option_type market_price =
          some iv ∧ iv ≤ 0 := by
  rw [found_iv, missing]
  cases option.market_price with
  | none => simp
  | some market_price =>
      simp only [Option.bind_eq_bind, Option.bind_eq_some_iff, Option.some.injEq,
        forall_eq']
      constructor
      · rintro ⟨iv, calculated, found⟩
        exact ⟨iv, calculated, by simpa using found⟩
      · rintro ⟨iv, calculated, low⟩
        exact ⟨iv, calculated, by simp [low]⟩

/-- What Rust assigns, it assigns to an option with everything positive. -/
theorem rust_option_set {values : Values α} (assigned : rust_option functions model S T option =
    .set values) : 0 < option.strike ∧ 0 < S ∧ 0 < T := by
  rw [rust_option] at assigned
  split at assigned
  case isFalse => cases assigned
  case isTrue positive =>
    obtain ⟨-, priced⟩ := positive
    rw [calculate_bsm] at priced
    split at priced
    case isTrue => exact absurd priced (lt_irrefl 0)
    case isFalse going =>
      simp only [not_or, not_le] at going
      exact ⟨going.2.2.2, going.2.2.1, going.1⟩

variable (functions model S T) in
theorem untouched_of_missing (missing : option.given_iv = none) :
    numpy_option functions model S T option = .untouched ∧
      rust_option functions model S T option = .untouched := by
  have invalid : option.valid = false := by simp [OptionData.valid, OptionData.vol, missing]
  exact ⟨by simp [numpy_option, invalid], by simp [rust_option, invalid]⟩

variable [IsStrictOrderedRing α]

omit [FloorRing α] in
theorem OptionData.vol_pos {iv : α} (given : option.given_iv = some iv) :
    option.vol = iv / 100 ∧ 0 < iv / 100 := by
  have positive : 0 < iv := by simpa using (Option.filter_eq_some_iff.mp given).2
  exact ⟨by rw [OptionData.vol, given]; rfl, by positivity⟩

theorem rust_option_eq (laws : Laws functions) {iv : α} (given : option.given_iv = some iv)
    (spot : 0 < S) (strike : 0 < option.strike) (time : 0 < T) :
    rust_option functions model S T option =
      .set (calculate_greeks functions model.without_yield S option.strike T (iv / 100)
        option.option_type) := by
  obtain ⟨vol, volatile⟩ := OptionData.vol_pos given
  have valid : option.valid = true := by simp [OptionData.valid, vol, volatile, strike]
  have priced := price_pos model laws spot strike time volatile option.option_type
  rw [rust_option, vol, calculate_bsm_eq laws spot strike time volatile,
    calculate_greeks_eq spot strike time volatile]
  simp [valid, values, priced]

/-- The branches agree on an option exactly when the condition is met. -/
theorem option_agrees_iff (laws : Laws functions) :
    (calculate_option functions model S T option =
        some (numpy_option functions model S T option) ∧
      numpy_option functions model S T option = rust_option functions model S T option) ↔
        Met functions model S T option := by
  cases given : option.given_iv with
  | none =>
      obtain ⟨numpy, rust⟩ :=
        untouched_of_missing functions model S T given
      have scalar : calculate_option functions model S T option = some .untouched ↔
          found_iv functions model S T option = some none := by
        rw [calculate_option]
        cases found_iv functions model S T option with
        | none => simp
        | some found =>
            cases found with
            | none => simp
            | some iv => simp
      rw [numpy, rust, scalar, found_iv_none_iff given]
      constructor
      · rintro ⟨unpriced, -⟩
        exact ⟨by simp [given], fun _ => unpriced⟩
      · intro met
        exact ⟨met.unpriced given, rfl⟩
  | some iv =>
      have scalar : calculate_option functions model S T option =
          some (.set (calculate_greeks functions model S option.strike T (iv / 100)
            option.option_type)) := by
        simp [calculate_option, found_iv, given]
      rw [scalar]
      constructor
      · rintro ⟨numpy, rust⟩
        have assigned := Option.some.inj numpy
        rw [rust] at assigned
        obtain ⟨strike, spot, time⟩ := rust_option_set assigned.symm
        rw [rust_option_eq laws given spot strike time] at assigned
        refine ⟨?_, by simp [given]⟩
        intro other same
        obtain rfl := Option.some.inj (given.symm.trans same)
        exact ⟨strike, spot, time, Outcome.set.inj assigned⟩
      · intro met
        obtain ⟨strike, spot, time, no_yield⟩ := met.priced iv given
        obtain ⟨vol, volatile⟩ := OptionData.vol_pos given
        have valid : option.valid = true := by
          simp [OptionData.valid, vol, volatile, strike]
        have defined : ¬(T ≤ 0 ∨ S ≤ 0) := by simp [time, spot]
        have numpy : numpy_option functions model S T option =
            .set (calculate_greeks functions model S option.strike T (iv / 100)
              option.option_type) := by
          rw [numpy_option, if_pos valid, if_neg defined, vol,
            calculate_greeks_eq spot strike time volatile]
        rw [numpy, rust_option_eq laws given spot strike time, no_yield]
        exact ⟨rfl, rfl⟩

/-- The three branches agree on a list exactly where each option meets the condition. -/
theorem agree_iff (laws : Laws functions) {options : List (OptionData α)} {spot_price : α}
    {days_to_expiry : ℕ} :
    Agree functions model options spot_price days_to_expiry ↔
      ∀ option ∈ options, Met functions model spot_price (days_to_expiry / 365) option := by
  rw [Agree, numpy_batch_eq, rust_batch_eq, calculate_batch, Traversal.mapM_eq_map,
    List.map_inj_left]
  constructor
  · rintro ⟨scalar, rust⟩ option member
    exact (option_agrees_iff laws).mp ⟨scalar option member, rust option member⟩
  · intro met
    exact ⟨fun option member => ((option_agrees_iff laws).mpr (met option member)).1,
      fun option member => ((option_agrees_iff laws).mpr (met option member)).2⟩

omit [LinearOrder α] [FloorRing α] [IsStrictOrderedRing α] in
/-- A yield of 0 makes no difference. -/
theorem without_yield_eq (zero : model.dividend_yield = 0) : model.without_yield = model := by
  cases model
  simp_all [BlackScholesModel.without_yield]

end Options

/-! ## The functions of analysis -/

noncomputable def analysis : Functions ℝ where
  exp := Real.exp
  log := Real.log
  sqrt := Real.sqrt
  cdf := Normal.distribution
  pdf := Normal.density
  pi := Real.pi

theorem laws_analysis : Laws analysis where
  exp_pos := Real.exp_pos
  exp_add := Real.exp_add
  exp_log _ := Real.exp_log
  sqrt_pos _ := Real.sqrt_pos.mpr
  sqrt_sq _ positive := Real.sq_sqrt positive.le
  pi_pos := Real.pi_pos
  pdf_eq := Normal.density_eq
  cdf_neg := Normal.distribution_neg
  ratio _ _ := Normal.distribution_mul_density_lt

/-- A call with an IV of 20. -/
def quoted_call : OptionData ℝ where
  strike := (100 : ℕ)
  option_type := .CE
  iv := some (20 : ℕ)

def bare_put : OptionData ℝ where
  strike := (100 : ℕ)
  option_type := .PE

theorem given_quoted_call : quoted_call.given_iv = some 20 := by
  simp [OptionData.given_iv, quoted_call, Option.filter]

/-- With 30 days left and without a yield. -/
theorem agree_iff_month : Agree analysis ⟨19 / 200, 0⟩ [quoted_call, bare_put] 110 30 := by
  apply (agree_iff laws_analysis).mpr
  intro option member
  obtain rfl | rfl : option = quoted_call ∨ option = bare_put := by simpa using member
  · constructor
    · intro iv _
      rw [without_yield_eq rfl]
      norm_num [quoted_call]
    · intro missing
      rw [given_quoted_call] at missing
      cases missing
  · constructor
    · intro iv given
      cases given
    · intro _ market_price quoted
      cases quoted

/-- On the day of expiry the scalar loop assigns the intrinsic value to a call and Rust
leaves it untouched. -/
theorem agree_not_expired : ¬Agree analysis ⟨19 / 200, 0⟩ [quoted_call] 110 0 := by
  rintro ⟨scalar, rust⟩
  rw [rust, rust_batch_eq, calculate_batch, Traversal.mapM_eq_map] at scalar
  have same := scalar quoted_call List.mem_cons_self
  simp [calculate_option, found_iv, given_quoted_call, rust_option, calculate_bsm] at same

end HftEngine.BlackScholes
