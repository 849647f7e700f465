import HftEngine.Lib.Masks
import HftEngine.Lib.Python.Exact

/-!
# Batches of Black-Scholes-Merton prices

The scalar loop of `calculate_batch`, and the NumPy and the Rust branch of
`calculate_batch_vectorized`, over exact numbers.  What a branch does to an option is
told by its outcome: the values that it assigns, if any.
-/

namespace HftEngine.BlackScholes

open Py.Exact

/-- The functions of `math`, `numpy`, `scipy.stats.norm` and of Rust. -/
structure Functions (α : Type) where
  exp : α → α
  log : α → α
  sqrt : α → α
  cdf : α → α
  pdf : α → α
  pi : α

structure BlackScholesModel (α : Type) where
  risk_free_rate : α
  dividend_yield : α

inductive OptionType where
  | CE
  | PE
  deriving DecidableEq

/-- The fields of `CleanedOptionData` that a batch reads. -/
structure OptionData (α : Type) where
  strike : α
  option_type : OptionType
  ltp : Option α := none
  mid_price : Option α := none
  iv : Option α := none

/-- The fields of `CleanedOptionData` that a batch assigns. -/
structure Values (α : Type) where
  theoretical_price : α
  delta : α
  gamma : α
  theta : α
  vega : α
  rho : α
  deriving DecidableEq

/-- What a batch does to an option.  Values of which some are infinite or no number are
not told apart. -/
inductive Outcome (α : Type) where
  | untouched
  | set (values : Values α)
  | not_finite
  deriving DecidableEq

variable {α : Type} [Field α] [LinearOrder α] [FloorRing α]

def Values.rounded (values : Values α) : Values α where
  theoretical_price := roundTo 2 values.theoretical_price
  delta := roundTo 5 values.delta
  gamma := roundTo 6 values.gamma
  theta := roundTo 5 values.theta
  vega := roundTo 5 values.vega
  rho := roundTo 5 values.rho

variable (functions : Functions α) (model : BlackScholesModel α)

/-! ## Formulas

The expressions of the scalar loop and of NumPy, with `S`, `K`, `T` and `sigma` for the
spot price, the strike, the time to expiry and the volatility. -/

section Formulas

variable (S K T sigma : α)

def d1 : α :=
  (functions.log (S / K) +
    (model.risk_free_rate - model.dividend_yield + 1 / 2 * sigma ^ 2) * T) /
      (sigma * functions.sqrt T)

def d2 : α :=
  d1 functions model S K T sigma - sigma * functions.sqrt T

def exp_qt : α :=
  functions.exp (-model.dividend_yield * T)

def exp_rt : α :=
  functions.exp (-model.risk_free_rate * T)

def price (option_type : OptionType) : α :=
  let d1 := d1 functions model S K T sigma
  let d2 := d2 functions model S K T sigma
  match option_type with
  | .CE =>
      S * exp_qt functions model T * functions.cdf d1 -
        K * exp_rt functions model T * functions.cdf d2
  | .PE =>
      K * exp_rt functions model T * functions.cdf (-d2) -
        S * exp_qt functions model T * functions.cdf (-d1)

def delta (option_type : OptionType) : α :=
  let d1 := d1 functions model S K T sigma
  match option_type with
  | .CE => exp_qt functions model T * functions.cdf d1
  | .PE => -exp_qt functions model T * functions.cdf (-d1)

def gamma : α :=
  exp_qt functions model T * functions.pdf (d1 functions model S K T sigma) /
    (S * sigma * functions.sqrt T)

def vega : α :=
  S * exp_qt functions model T * functions.pdf (d1 functions model S K T sigma) *
    functions.sqrt T / 100

/-- For a day. -/
def theta (option_type : OptionType) : α :=
  let d1 := d1 functions model S K T sigma
  let d2 := d2 functions model S K T sigma
  let term1 := -(S * exp_qt functions model T * functions.pdf d1 * sigma) /
    (2 * functions.sqrt T)
  match option_type with
  | .CE =>
      let term2 := -model.risk_free_rate * K * exp_rt functions model T * functions.cdf d2
      let term3 := model.dividend_yield * S * exp_qt functions model T * functions.cdf d1
      (term1 + term2 + term3) / 365
  | .PE =>
      let term2 := model.risk_free_rate * K * exp_rt functions model T * functions.cdf (-d2)
      let term3 := -model.dividend_yield * S * exp_qt functions model T * functions.cdf (-d1)
      (term1 + term2 + term3) / 365

def rho (option_type : OptionType) : α :=
  let d2 := d2 functions model S K T sigma
  match option_type with
  | .CE => K * T * exp_rt functions model T * functions.cdf d2 / 100
  | .PE => -K * T * exp_rt functions model T * functions.cdf (-d2) / 100

end Formulas

/-! ## The scalar loop -/

section Scalar

variable (spot_price strike_price time_to_expiry volatility : α) (option_type : OptionType)

structure BsmResult (α : Type) where
  theoretical_price : α
  d1 : α
  d2 : α

def intrinsic : α :=
  match option_type with
  | .CE => max (spot_price - strike_price) 0
  | .PE => max (strike_price - spot_price) 0

def calculate : BsmResult α :=
  if spot_price ≤ 0 ∨ strike_price ≤ 0 then ⟨0, 0, 0⟩
  else if time_to_expiry ≤ 0 ∨ volatility ≤ 0 then
    ⟨intrinsic spot_price strike_price option_type, 0, 0⟩
  else
    { theoretical_price := roundTo 2 (max
        (price functions model spot_price strike_price time_to_expiry volatility option_type) 0)
      d1 := roundTo 6 (d1 functions model spot_price strike_price time_to_expiry volatility)
      d2 := roundTo 6 (d2 functions model spot_price strike_price time_to_expiry volatility) }

/-- The Greeks of the values, whose price is that of `calculate`.  For a strike that is
not positive the logarithm raises an exception, which is caught. -/
def calculate_greeks : Values α :=
  let theoretical_price := (calculate functions model spot_price strike_price time_to_expiry
    volatility option_type).theoretical_price
  if time_to_expiry ≤ 0 ∨ volatility ≤ 0 ∨ spot_price ≤ 0 ∨ strike_price ≤ 0 then
    { theoretical_price, delta := 0, gamma := 0, theta := 0, vega := 0, rho := 0 }
  else
    let S := spot_price
    let K := strike_price
    let T := time_to_expiry
    { theoretical_price
      delta := roundTo 5 (delta functions model S K T volatility option_type)
      gamma := roundTo 6 (gamma functions model S K T volatility)
      theta := roundTo 5 (theta functions model S K T volatility option_type)
      vega := roundTo 5 (vega functions model S K T volatility)
      rho := roundTo 5 (rho functions model S K T volatility option_type) }

/-- The iterations of Newton's method that are left, from a volatility; none where the
logarithm raises an exception. -/
def newton (market_price : α) : ℕ → α → Option α
  | 0, _ => some 0
  | n + 1, sigma =>
      let diff := market_price - (calculate functions model spot_price strike_price
        time_to_expiry sigma option_type).theoretical_price
      if |diff| < 1 / 100000 then some (roundTo 2 (sigma * 100))
      else if spot_price / strike_price ≤ 0 then none
      else
        let d1 := d1 functions model spot_price strike_price time_to_expiry sigma
        let vega := spot_price * exp_qt functions model time_to_expiry * functions.pdf d1 *
          functions.sqrt time_to_expiry
        if vega = 0 then some 0
        else
          let sigma := sigma + diff / vega
          newton market_price n (if sigma ≤ 0 then 1 / 1000 else sigma)

def calculate_iv (market_price : α) : Option α :=
  if market_price ≤ 0 ∨ time_to_expiry ≤ 0 then some 0
  else if market_price < intrinsic spot_price strike_price option_type then some 0
  else newton functions model spot_price strike_price time_to_expiry option_type market_price
    100 (1 / 2)

end Scalar

/-- The IV of an option, where it has one that is positive. -/
def OptionData.given_iv (option : OptionData α) : Option α :=
  option.iv.filter (fun iv => 0 < iv)

/-- The mid price if there is one, or the last price, where it is positive. -/
def OptionData.market_price (option : OptionData α) : Option α :=
  match option.mid_price.filter (fun mid => 0 < mid) with
  | some mid => some mid
  | none => option.ltp.filter (fun ltp => 0 < ltp)

/-- The IV that `calculate_batch` finds where it is missing, which it stores in the option;
none where an exception is raised. -/
def found_iv (spot_price time_to_expiry : α) (option : OptionData α) : Option (Option α) :=
  match option.given_iv, option.market_price with
  | some iv, _ => some (some iv)
  | none, none => some none
  | none, some market_price => do
      let calculated_iv ← calculate_iv functions model spot_price option.strike time_to_expiry
        option.option_type market_price
      some (if 0 < calculated_iv then some calculated_iv else none)

def calculate_option (spot_price time_to_expiry : α) (option : OptionData α) :
    Option (Outcome α) := do
  match ← found_iv functions model spot_price time_to_expiry option with
  | some iv =>
      some (.set (calculate_greeks functions model spot_price option.strike time_to_expiry
        (iv / 100) option.option_type))
  | none => some .untouched

/-- The outcome of each option, with none where an exception is raised. -/
def calculate_batch (options : List (OptionData α)) (spot_price : α) (days_to_expiry : ℕ) :
    Option (List (Outcome α)) :=
  options.mapM (calculate_option functions model spot_price (days_to_expiry / 365))

/-! ## NumPy -/

/-- `iv / 100` of a positive IV, or 0. -/
def OptionData.vol (option : OptionData α) : α :=
  (option.given_iv.map (· / 100)).getD 0

/-- `temp[calls_mask] = ..` and `temp[puts_mask] = ..`, from zeros. -/
def by_side (calls_mask : List Bool) (rows : List (α × α)) (f : α → α → OptionType → α) :
    List α :=
  let puts_mask := calls_mask.map not
  let calls := (Masks.select calls_mask rows).map (fun row => f row.1 row.2 .CE)
  let puts := (Masks.select puts_mask rows).map (fun row => f row.1 row.2 .PE)
  Masks.assign puts_mask puts (Masks.assign calls_mask calls (List.replicate rows.length 0))

/-- The outcomes of the NumPy branch.  With no time left or a spot price that is not
positive it divides by zero or takes the logarithm of what is not positive, so that some
of the values are infinite or no number. -/
def numpy_batch (options : List (OptionData α)) (spot_price : α) (days_to_expiry : ℕ) :
    List (Outcome α) :=
  let T : α := days_to_expiry / 365
  let n := options.length
  let strikes := options.map OptionData.strike
  let ivs := options.map OptionData.vol
  let is_call := options.map (fun option => decide (option.option_type = .CE))
  let valid_mask := List.zipWith (fun iv strike => decide (0 < iv ∧ 0 < strike)) ivs strikes
  if valid_mask.any id then
    if T ≤ 0 ∨ spot_price ≤ 0 then
      valid_mask.map (fun valid => if valid then .not_finite else .untouched)
    else
      let rows := (Masks.select valid_mask strikes).zip (Masks.select valid_mask ivs)
      let calls_mask := Masks.select valid_mask is_call
      let filled := fun values => Masks.assign valid_mask values (List.replicate n 0)
      let theoretical_prices := filled ((by_side calls_mask rows
        (fun K sigma => price functions model spot_price K T sigma)).map (max · 0))
      let deltas := filled (by_side calls_mask rows
        (fun K sigma => delta functions model spot_price K T sigma))
      let gammas := filled (rows.map
        (fun row => gamma functions model spot_price row.1 T row.2))
      let vegas := filled (rows.map
        (fun row => vega functions model spot_price row.1 T row.2))
      let thetas := filled (by_side calls_mask rows
        (fun K sigma => theta functions model spot_price K T sigma))
      let rhos := filled (by_side calls_mask rows
        (fun K sigma => rho functions model spot_price K T sigma))
      (List.range n).map (fun i =>
        if valid_mask.getD i false then
          .set (Values.rounded
            { theoretical_price := theoretical_prices.getD i 0
              delta := deltas.getD i 0
              gamma := gammas.getD i 0
              theta := thetas.getD i 0
              vega := vegas.getD i 0
              rho := rhos.getD i 0 })
        else .untouched)
  else options.map (fun _ => .untouched)

/-! ## Rust -/

/-- `norm_cdf` and `n_prime_d1` are the distribution and the density of the normal
distribution; the engine knows no dividend yield. -/
def calculate_bsm (price strike time_to_expiry risk_free_rate volatility : α)
    (option_type : OptionType) : Values α :=
  if time_to_expiry ≤ 0 ∨ volatility ≤ 0 ∨ price ≤ 0 ∨ strike ≤ 0 then ⟨0, 0, 0, 0, 0, 0⟩
  else
    let sqrt_t := functions.sqrt time_to_expiry
    let d1 := (functions.log (price / strike) +
      (risk_free_rate + 1 / 2 * volatility ^ 2) * time_to_expiry) / (volatility * sqrt_t)
    let d2 := d1 - volatility * sqrt_t
    let nd1 := functions.cdf d1
    let nd2 := functions.cdf d2
    let n_prime_d1 := functions.exp (-(1 / 2) * d1 ^ 2) / functions.sqrt (2 * functions.pi)
    let exp_rt := functions.exp (-risk_free_rate * time_to_expiry)
    let common_term := -(price * volatility * n_prime_d1) / (2 * sqrt_t)
    let gamma := n_prime_d1 / (price * volatility * sqrt_t)
    let vega := price * sqrt_t * n_prime_d1
    match option_type with
    | .CE =>
        { theoretical_price := price * nd1 - strike * exp_rt * nd2
          delta := nd1
          gamma
          theta := (common_term - risk_free_rate * strike * exp_rt * nd2) / 365
          vega := vega / 100
          rho := strike * time_to_expiry * exp_rt * nd2 / 100 }
    | .PE =>
        let n_neg_d1 := functions.cdf (-d1)
        let n_neg_d2 := functions.cdf (-d2)
        { theoretical_price := strike * exp_rt * n_neg_d2 - price * n_neg_d1
          delta := nd1 - 1
          gamma
          theta := (common_term + risk_free_rate * strike * exp_rt * n_neg_d2) / 365
          vega := vega / 100
          rho := -strike * time_to_expiry * exp_rt * n_neg_d2 / 100 }

def calculate_batch_bsm (prices strikes times_to_expiry : List α) (risk_free_rate : α)
    (volatilities : List α) (option_types : List OptionType) : List (Values α) :=
  (List.range prices.length).map (fun i =>
    calculate_bsm functions (prices.getD i 0) (strikes.getD i 0) (times_to_expiry.getD i 0)
      risk_free_rate (volatilities.getD i 0) (option_types.getD i .CE))

/-- The outcomes of the Rust branch. -/
def rust_batch (options : List (OptionData α)) (spot_price : α) (days_to_expiry : ℕ) :
    List (Outcome α) :=
  let time_to_expiry : α := days_to_expiry / 365
  let n := options.length
  let strikes := options.map OptionData.strike
  let vols := options.map OptionData.vol
  let types := options.map OptionData.option_type
  let valid_indices := (List.range n).filter
    (fun i => 0 < strikes.getD i 0 ∧ 0 < vols.getD i 0)
  let results := calculate_batch_bsm functions (List.replicate n spot_price) strikes
    (List.replicate n time_to_expiry) model.risk_free_rate vols types
  (List.range n).map (fun i =>
    if i ∈ valid_indices then
      let res := results.getD i ⟨0, 0, 0, 0, 0, 0⟩
      if 0 < res.theoretical_price then .set res.rounded else .untouched
    else .untouched)

/-! ## Agreement -/

/-- All three leave the same options untouched and assign the same values to the others. -/
def Agree (options : List (OptionData α)) (spot_price : α) (days_to_expiry : ℕ) : Prop :=
  calculate_batch functions model options spot_price days_to_expiry =
      some (numpy_batch functions model options spot_price days_to_expiry) ∧
    numpy_batch functions model options spot_price days_to_expiry =
      rust_batch functions model options spot_price days_to_expiry

end HftEngine.BlackScholes
