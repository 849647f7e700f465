import HftEngine.Core.BlackScholes.Agreement
import HftEngine.Lib.Iteration

/-!
# Implied volatilities

`IVSolver.newton_raphson` with the prices of `OptionPricer`, and the `calculate_iv` of
`BlackScholesModel`, over exact numbers.  Both compare the market price with a price of
two decimals and return a volatility of four.
-/

namespace HftEngine.IvSolver

open BlackScholes (Functions BlackScholesModel OptionType intrinsic)
open Py.Exact

variable {α : Type} [Field α] [LinearOrder α] [FloorRing α]

/-! ## Prices -/

section OptionPricer

variable (functions : Functions α)
variable (spot strike time_to_expiry risk_free_rate volatility : α) (option_type : OptionType)

/-- Of the days from the current date to the expiry date. -/
def _calculate_time_to_expiry (days_to_expiry : ℤ) : α :=
  max (days_to_expiry / 365.0) 0.001

omit [FloorRing α] in
/-- No option has expired. -/
theorem _calculate_time_to_expiry_pos [IsStrictOrderedRing α] (days_to_expiry : ℤ) :
    (0 : α) < _calculate_time_to_expiry days_to_expiry :=
  lt_max_of_lt_right (by norm_num)

def d1 : α :=
  (functions.log (spot / strike) + (risk_free_rate + 0.5 * volatility ^ 2) * time_to_expiry) /
    (volatility * functions.sqrt time_to_expiry)

/-- The price before it is rounded. -/
def price : α :=
  let d1 := d1 functions spot strike time_to_expiry risk_free_rate volatility
  let d2 := d1 - volatility * functions.sqrt time_to_expiry
  let discount := functions.exp (-risk_free_rate * time_to_expiry)
  match option_type with
  | .CE => spot * functions.cdf d1 - strike * discount * functions.cdf d2
  | .PE => strike * discount * functions.cdf (-d2) - spot * functions.cdf (-d1)

structure Pricing (α : Type) where
  theoretical_price : α
  intrinsic_value : α
  time_value : α

/-- None where the division or the logarithm raises an exception. -/
def black_scholes : Option (Pricing α) :=
  let intrinsic := intrinsic spot strike option_type
  if time_to_expiry ≤ 0 ∨ volatility ≤ 0 then
    some { theoretical_price := intrinsic, intrinsic_value := intrinsic, time_value := 0 }
  else if spot / strike ≤ 0 then none
  else
    let price := price functions spot strike time_to_expiry risk_free_rate volatility option_type
    some
      { theoretical_price := roundTo 2 price
        intrinsic_value := roundTo 2 intrinsic
        time_value := roundTo 2 (max (price - intrinsic) 0) }

end OptionPricer

/-! ## The two solvers -/

structure IVSolver (α : Type) where
  max_iterations : ℕ
  tolerance : α

/-- `IVSolver()` -/
def IVSolver.default : IVSolver α where
  max_iterations := 100
  tolerance := 0.0001

inductive ConvergenceStatus where
  | converged
  | failed
  | max_iterations_reached
  deriving DecidableEq

structure Solution (α : Type) where
  implied_volatility : Option α
  iterations : ℕ
  convergence_status : ConvergenceStatus
  error : Option String
  final_price_diff : Option α := none

/-- The volatility of a solution that is reported as converged. -/
def Solution.converged? (solution : Solution α) : Option α :=
  if solution.convergence_status = .converged then solution.implied_volatility else none

namespace IVSolver

variable (functions : Functions α) (solver : IVSolver α)
variable (spot strike time_to_expiry risk_free_rate market_price : α) (option_type : OptionType)

def _vega (volatility : α) : Option α :=
  if time_to_expiry ≤ 0 ∨ volatility ≤ 0 then some 0
  else if spot / strike ≤ 0 then none
  else
    let d1 := d1 functions spot strike time_to_expiry risk_free_rate volatility
    some (spot * functions.pdf d1 * functions.sqrt time_to_expiry)

/-- The iterations that are left, from a volatility. -/
def iterate : ℕ → α → Option (Solution α)
  | 0, volatility =>
      some
        { implied_volatility := some (roundTo 4 volatility)
          iterations := solver.max_iterations
          convergence_status := .max_iterations_reached
          error := some "Did not converge within maximum iterations" }
  | left + 1, volatility => do
      let iterations := solver.max_iterations - left
      let pricing ← black_scholes functions spot strike time_to_expiry risk_free_rate volatility
        option_type
      let price_diff := pricing.theoretical_price - market_price
      if |price_diff| < solver.tolerance then
        some
          { implied_volatility := some (roundTo 4 volatility)
            iterations
            convergence_status := .converged
            error := none
            final_price_diff := some (roundTo 4 price_diff) }
      else
        let vega ← _vega functions spot strike time_to_expiry risk_free_rate volatility
        if |vega| < 1e-10 then
          some
            { implied_volatility := none
              iterations
              convergence_status := .failed
              error := some "Vega too small, cannot converge" }
        else
          let volatility := volatility - price_diff / vega
          iterate left (min (max volatility 0.001) 5.0)

/-- `newton_raphson` from its time to expiry on. -/
def newton_raphson_at (initial_guess : α) : Option (Solution α) :=
  let rejected := fun (error : String) =>
    some
      { implied_volatility := none
        iterations := 0
        convergence_status := .failed
        error := some error }
  if time_to_expiry ≤ 0 then rejected "Option has expired"
  else if market_price < intrinsic spot strike option_type then
    rejected "Market price below intrinsic value"
  else
    iterate functions solver spot strike time_to_expiry risk_free_rate market_price option_type
      solver.max_iterations initial_guess

def newton_raphson (days_to_expiry : ℤ) (initial_guess : α) : Option (Solution α) :=
  newton_raphson_at functions solver spot strike (_calculate_time_to_expiry days_to_expiry)
    risk_free_rate market_price option_type initial_guess

end IVSolver

section CalculateIv

variable (functions : Functions α) (model : BlackScholesModel α)
variable (spot_price strike_price time_to_expiry : α) (option_type : OptionType)
variable (market_price : α)

/-- `calculate_iv` with an initial guess. -/
def calculate_iv_from (initial_guess : α) : Option α :=
  if market_price ≤ 0 ∨ time_to_expiry ≤ 0 then some 0
  else if market_price < intrinsic spot_price strike_price option_type then some 0
  else
    BlackScholes.newton functions model spot_price strike_price time_to_expiry option_type
      market_price 100 initial_guess

theorem calculate_iv_from_half :
    calculate_iv_from functions model spot_price strike_price time_to_expiry option_type
      market_price (1 / 2) =
    BlackScholes.calculate_iv functions model spot_price strike_price time_to_expiry option_type
      market_price :=
  rfl

end CalculateIv

/-! ## What a solver is for -/

/-- A solver with the price that it is given. -/
structure Solver (α : Type) where
  tolerance : α
  initial_guess : α
  market_price : α
  /-- The checks before the first iteration let the price pass. -/
  Accepts : Prop
  /-- The price that is compared with the market price. -/
  theoretical_price : α → Option α
  /-- The price at a volatility. -/
  price : α → α
  /-- The volatility that is returned, from a guess. -/
  volatility? : α → Option α

namespace Solver

variable (solver : Solver α)

/-- The volatility gives the market price. -/
def Fits (volatility : α) : Prop :=
  |solver.price volatility - solver.market_price| < solver.tolerance

/-- The volatility passes the check of an iteration. -/
def passes (volatility : α) : Bool :=
  (solver.theoretical_price volatility).any
    (fun price => |price - solver.market_price| < solver.tolerance)

def Sound (guess : α) : Prop :=
  ∀ volatility, solver.volatility? guess = some volatility → solver.Fits volatility

structure Lawful : Prop where
  sound : ∀ guess, 0 < roundTo 4 guess → solver.Sound guess
  complete : solver.market_price = solver.price solver.initial_guess →
    ∃ volatility, solver.volatility? solver.initial_guess = some volatility

/-- The two roundings do no harm. -/
structure Condition : Prop where
  volatilities : solver.Accepts → ∀ volatility, 0 < roundTo 4 volatility →
    solver.passes volatility → solver.Fits (roundTo 4 volatility)
  guess : solver.market_price = solver.price solver.initial_guess → solver.Accepts ∧
    |roundTo 2 solver.market_price - solver.market_price| < solver.tolerance

/-- A volatility with four decimals, where it is positive. -/
def report (volatility : α) : Option α :=
  if 0 < roundTo 4 volatility then some (roundTo 4 volatility) else none

/-- The solver searches for a volatility that passes, and its prices have two decimals. -/
structure Searches (next : α → Option α) (left : ℕ) : Prop where
  enough : solver.Accepts → 0 < left
  rejects : ¬solver.Accepts → ∀ guess, solver.volatility? guess = none
  finds : solver.Accepts → ∀ guess, 0 < roundTo 4 guess → solver.volatility? guess =
    (Iteration.search (fun volatility => solver.passes volatility) next left guess).bind report
  kept : ∀ before after, 0 < before → next before = some after → 0 < after
  decimals : ∀ volatility, 0 < volatility → ∀ price ∈ solver.theoretical_price volatility,
    ∃ x, price = roundTo 2 x
  guess_pos : 0 < roundTo 4 solver.initial_guess
  priced : solver.Accepts → solver.market_price = solver.price solver.initial_guess →
    solver.theoretical_price solver.initial_guess = some (roundTo 2 solver.market_price)

section Searches

variable [IsStrictOrderedRing α]
variable {solver : Solver α} {next : α → Option α} {left : ℕ} {guess volatility : α}

omit [IsStrictOrderedRing α] in
theorem report_eq_some : report guess = some volatility ↔
    0 < roundTo 4 guess ∧ roundTo 4 guess = volatility := by
  simp [report]

theorem pos_of_roundTo_pos {places : ℕ} (positive : 0 < roundTo places volatility) :
    0 < volatility := by
  by_contra nonpositive
  have rounded := roundTo_mono places (not_lt.mp nonpositive)
  rw [roundTo_zero] at rounded
  exact absurd positive (not_lt.mpr rounded)

/-- What is found is a volatility that passes, with four decimals. -/
theorem Searches.passes_of_found (searches : solver.Searches next left)
    (start : 0 < roundTo 4 guess) (found : solver.volatility? guess = some volatility) :
    solver.Accepts ∧ ∃ exact, 0 < roundTo 4 exact ∧ solver.passes exact ∧
      roundTo 4 exact = volatility := by
  by_cases accepts : solver.Accepts
  · rw [searches.finds accepts guess start] at found
    obtain ⟨exact, search, reported⟩ := Option.bind_eq_some_iff.mp found
    obtain ⟨passed, -⟩ := Iteration.passes_of_search _ searches.kept
      (pos_of_roundTo_pos start) search
    obtain ⟨positive, rounded⟩ := report_eq_some.mp reported
    exact ⟨accepts, exact, positive, passed, rounded⟩
  · rw [searches.rejects accepts] at found
    cases found

omit [IsStrictOrderedRing α] in
/-- A guess that passes is found. -/
theorem Searches.found_of_passes (searches : solver.Searches next left)
    (accepts : solver.Accepts) (start : 0 < roundTo 4 guess) (passed : solver.passes guess) :
    solver.volatility? guess = some (roundTo 4 guess) := by
  have search : Iteration.search (fun volatility => solver.passes volatility) next left guess =
      some guess :=
    Iteration.search_of_passes (searches.enough accepts) passed
  rw [searches.finds accepts guess start, search, Option.bind_some]
  exact if_pos start

theorem Searches.sound_of_passes (searches : solver.Searches next left)
    (start : 0 < roundTo 4 guess) (passed : solver.passes guess) :
    solver.Sound guess ↔ (solver.Accepts → solver.Fits (roundTo 4 guess)) := by
  constructor
  · intro sound accepts
    exact sound _ (searches.found_of_passes accepts start passed)
  · intro fits volatility found
    obtain ⟨accepts, -⟩ := searches.passes_of_found start found
    rw [searches.found_of_passes accepts start passed] at found
    cases found
    exact fits accepts

theorem Searches.sound_iff (searches : solver.Searches next left) :
    (∀ guess, 0 < roundTo 4 guess → solver.Sound guess) ↔
      (solver.Accepts → ∀ volatility, 0 < roundTo 4 volatility → solver.passes volatility →
        solver.Fits (roundTo 4 volatility)) := by
  constructor
  · intro sound accepts volatility positive passed
    exact (searches.sound_of_passes positive passed).mp (sound volatility positive) accepts
  · intro fits guess start volatility found
    obtain ⟨accepts, exact, positive, passed, rfl⟩ := searches.passes_of_found start found
    exact fits accepts exact positive passed

/-- A volatility is only found where the market price is near a price with two decimals. -/
theorem Searches.near_of_found (searches : solver.Searches next left)
    (start : 0 < roundTo 4 guess) (found : solver.volatility? guess = some volatility) :
    |roundTo 2 solver.market_price - solver.market_price| < solver.tolerance := by
  obtain ⟨-, exact, positive, passed, -⟩ := searches.passes_of_found start found
  obtain ⟨price, priced, near⟩ := (Option.any_eq_true ..).mp passed
  obtain ⟨x, rfl⟩ := searches.decimals exact (pos_of_roundTo_pos positive) price priced
  exact (abs_roundTo_sub_le_abs 2 solver.market_price x).trans_lt (of_decide_eq_true near)

theorem Searches.attained_iff (searches : solver.Searches next left)
    (attained : solver.market_price = solver.price solver.initial_guess) :
    (∃ volatility, solver.volatility? solver.initial_guess = some volatility) ↔
      solver.Accepts ∧
        |roundTo 2 solver.market_price - solver.market_price| < solver.tolerance := by
  constructor
  · rintro ⟨volatility, found⟩
    exact ⟨(searches.passes_of_found searches.guess_pos found).1,
      searches.near_of_found searches.guess_pos found⟩
  · rintro ⟨accepts, near⟩
    have passed : solver.passes solver.initial_guess := by
      rw [passes, searches.priced accepts attained]
      exact decide_eq_true near
    exact ⟨_, searches.found_of_passes accepts searches.guess_pos passed⟩

theorem Searches.lawful_iff_condition (searches : solver.Searches next left) :
    solver.Lawful ↔ solver.Condition := by
  constructor
  · intro lawful
    exact
      { volatilities := searches.sound_iff.mp lawful.sound
        guess := fun attained =>
          (searches.attained_iff attained).mp (lawful.complete attained) }
  · intro condition
    exact
      { sound := searches.sound_iff.mpr condition.volatilities
        complete := fun attained =>
          (searches.attained_iff attained).mpr (condition.guess attained) }

end Searches

end Solver

/-! ## The solvers of the two programs -/

/-- A solver with its default guess, and what it knows of the market. -/
inductive Method (α : Type) where
  | newton_raphson (solver : IVSolver α) (risk_free_rate : α)
  | calculate_iv (model : BlackScholesModel α)

section Methods

variable (functions : Functions α)
variable (spot strike time_to_expiry : α) (option_type : OptionType) (market_price : α)

def IVSolver.solver (solver : IVSolver α) (risk_free_rate : α) : Solver α where
  tolerance := solver.tolerance
  initial_guess := 0.3
  market_price
  Accepts := 0 < solver.max_iterations ∧ intrinsic spot strike option_type ≤ market_price
  theoretical_price volatility :=
    (black_scholes functions spot strike time_to_expiry risk_free_rate volatility
      option_type).map Pricing.theoretical_price
  price volatility :=
    price functions spot strike time_to_expiry risk_free_rate volatility option_type
  volatility? guess :=
    (solver.newton_raphson_at functions spot strike time_to_expiry risk_free_rate market_price
      option_type guess).bind Solution.converged?

/-- A percentage, which is 0 where no volatility is found. -/
def volatility_of_percent (iv : α) : Option α :=
  if 0 < iv then some (iv / 100.0) else none

def calculate_iv_solver (model : BlackScholesModel α) : Solver α where
  tolerance := 1e-5
  initial_guess := 0.5
  market_price
  Accepts := 0 < market_price ∧ intrinsic spot strike option_type ≤ market_price
  theoretical_price volatility :=
    some (BlackScholes.calculate functions model spot strike time_to_expiry volatility
      option_type).theoretical_price
  price volatility :=
    BlackScholes.price functions model spot strike time_to_expiry volatility option_type
  volatility? guess :=
    (calculate_iv_from functions model spot strike time_to_expiry option_type market_price
      guess).bind volatility_of_percent

def Method.solver (method : Method α) : Solver α :=
  match method with
  | .newton_raphson solver risk_free_rate =>
      solver.solver functions spot strike time_to_expiry option_type market_price risk_free_rate
  | .calculate_iv model =>
      calculate_iv_solver functions spot strike time_to_expiry option_type market_price model

end Methods

section Loops

variable [IsStrictOrderedRing α]
variable {functions : Functions α} {spot strike time_to_expiry : α} {option_type : OptionType}
variable {market_price : α}

/-- The next volatility of `newton_raphson`. -/
def IVSolver.next (functions : Functions α)
    (spot strike time_to_expiry risk_free_rate market_price : α) (option_type : OptionType)
    (volatility : α) : Option α := do
  let pricing ← black_scholes functions spot strike time_to_expiry risk_free_rate volatility
    option_type
  let vega ← _vega functions spot strike time_to_expiry risk_free_rate volatility
  if |vega| < 1e-10 then none
  else
    some (min (max (volatility - (pricing.theoretical_price - market_price) / vega) 0.001) 5.0)

theorem IVSolver.le_next {risk_free_rate before after : α}
    (step : next functions spot strike time_to_expiry risk_free_rate market_price option_type
      before = some after) : 0.001 ≤ after := by
  obtain ⟨pricing, -, step⟩ := Option.bind_eq_some_iff.mp step
  obtain ⟨vega, -, step⟩ := Option.bind_eq_some_iff.mp step
  split at step
  · cases step
  · cases step
    apply le_min (le_max_right _ _)
    norm_num

section Iterate

variable {solver : IVSolver α} {risk_free_rate volatility : α}

variable (market_price solver) in
omit [IsStrictOrderedRing α] in
theorem IVSolver.passes_iff {pricing : Pricing α}
    (priced : black_scholes functions spot strike time_to_expiry risk_free_rate volatility
      option_type = some pricing) :
    (solver.solver functions spot strike time_to_expiry option_type market_price
      risk_free_rate).passes volatility = true ↔
      |pricing.theoretical_price - market_price| < solver.tolerance := by
  rw [Solver.passes, IVSolver.solver]
  simp only [priced, Option.map_some, Option.any_some]
  exact decide_eq_true_iff

omit [IsStrictOrderedRing α] in
/-- The loop is the search for a volatility that passes. -/
theorem IVSolver.iterate_eq_search (left : ℕ) :
    (solver.iterate functions spot strike time_to_expiry risk_free_rate market_price option_type
      left volatility).bind Solution.converged? =
    (Iteration.search
      (fun volatility => (solver.solver functions spot strike time_to_expiry option_type
        market_price risk_free_rate).passes volatility)
      (next functions spot strike time_to_expiry risk_free_rate market_price option_type)
      left volatility).map (roundTo 4) := by
  induction left generalizing volatility with
  | zero => rfl
  | succ left ih =>
      rw [iterate, Iteration.search]
      cases priced : black_scholes functions spot strike time_to_expiry risk_free_rate volatility
          option_type with
      | none =>
          have failed : (solver.solver functions spot strike time_to_expiry option_type
              market_price risk_free_rate).passes volatility = false := by
            simp [Solver.passes, IVSolver.solver, priced]
          simp [next, priced, failed]
      | some pricing =>
          have passes := IVSolver.passes_iff market_price solver priced
          by_cases near : |pricing.theoretical_price - market_price| < solver.tolerance
          · simp [passes, near, Solution.converged?]
          · cases derived : _vega functions spot strike time_to_expiry risk_free_rate
                volatility with
            | none => simp [next, priced, passes, near, derived]
            | some vega =>
                by_cases flat : |vega| < 1e-10
                · simp [next, priced, passes, near, derived, flat, Solution.converged?]
                · simp [next, priced, passes, near, derived, flat, ih]

end Iterate

omit [IsStrictOrderedRing α] in
theorem theoretical_price_eq {risk_free_rate volatility : α} (positive : 0 < spot / strike)
    (time : 0 < time_to_expiry) (volatile : 0 < volatility) :
    (black_scholes functions spot strike time_to_expiry risk_free_rate volatility
      option_type).map Pricing.theoretical_price =
    some (roundTo 2 (price functions spot strike time_to_expiry risk_free_rate volatility
      option_type)) := by
  rw [black_scholes]
  dsimp only
  rw [if_neg (not_or.mpr ⟨time.not_ge, volatile.not_ge⟩), if_neg positive.not_ge]
  rfl

omit [IsStrictOrderedRing α] in
theorem IVSolver.newton_raphson_at_eq {risk_free_rate guess : α} (solver : IVSolver α)
    (time : 0 < time_to_expiry) (above : intrinsic spot strike option_type ≤ market_price) :
    solver.newton_raphson_at functions spot strike time_to_expiry risk_free_rate market_price
      option_type guess =
    solver.iterate functions spot strike time_to_expiry risk_free_rate market_price option_type
      solver.max_iterations guess := by
  unfold newton_raphson_at
  dsimp only
  rw [if_neg time.not_ge, if_neg above.not_gt]

theorem roundTo_decimal {n : ℤ} {x : α} (decimal : x * 10 ^ 4 = n) (positive : 0 < x) :
    0 < roundTo 4 x := by
  rwa [roundTo_of_scaled decimal]

/-- Each volatility after the first is at least 0.001. -/
theorem IVSolver.roundTo_next_pos {risk_free_rate before after : α}
    (step : next functions spot strike time_to_expiry risk_free_rate market_price option_type
      before = some after) : 0 < roundTo 4 after := by
  have least : (0 : α) < roundTo 4 0.001 := roundTo_decimal (n := 10) (by norm_num) (by norm_num)
  exact least.trans_le (roundTo_mono 4 (le_next step))

theorem IVSolver.searches (positive : 0 < spot / strike) (time : 0 < time_to_expiry)
    (solver : IVSolver α) (risk_free_rate : α) :
    (solver.solver functions spot strike time_to_expiry option_type market_price
      risk_free_rate).Searches
      (next functions spot strike time_to_expiry risk_free_rate market_price option_type)
      solver.max_iterations where
  enough accepts := accepts.1
  rejects rejected guess := by
    change (newton_raphson_at ..).bind Solution.converged? = none
    by_cases above : intrinsic spot strike option_type ≤ market_price
    · have idle : solver.max_iterations = 0 := by
        by_contra some_iteration
        exact rejected ⟨Nat.pos_of_ne_zero some_iteration, above⟩
      rw [newton_raphson_at_eq solver time above, idle]
      rfl
    · unfold newton_raphson_at
      dsimp only
      rw [if_neg time.not_ge, if_pos (not_le.mp above)]
      rfl
  finds accepts guess start := by
    change (newton_raphson_at ..).bind Solution.converged? = _
    rw [newton_raphson_at_eq solver time accepts.2, iterate_eq_search]
    rw [Option.map_eq_bind]
    apply Option.bind_congr
    intro found search
    obtain ⟨-, positive⟩ := Iteration.passes_of_search (fun volatility => 0 < roundTo 4 volatility)
      (fun _ _ _ step => roundTo_next_pos step) start search
    exact (if_pos positive).symm
  kept before after _ step := lt_of_lt_of_le (by norm_num) (le_next step)
  decimals volatility volatile price priced := by
    change price ∈ (black_scholes ..).map Pricing.theoretical_price at priced
    rw [theoretical_price_eq positive time volatile] at priced
    exact ⟨_, (Option.mem_some.mp priced).symm⟩
  guess_pos := roundTo_decimal (n := 3000) (by rw [IVSolver.solver]; norm_num)
    (by rw [IVSolver.solver]; norm_num)
  priced _ attained := by
    rw [attained]
    exact theoretical_price_eq positive time (by rw [IVSolver.solver]; norm_num)

/-- The next volatility of `calculate_iv`. -/
def calculate_iv_next (functions : Functions α) (model : BlackScholesModel α)
    (spot strike time_to_expiry market_price : α) (option_type : OptionType) (sigma : α) :
    Option α :=
  let diff := market_price - (BlackScholes.calculate functions model spot strike time_to_expiry
    sigma option_type).theoretical_price
  if spot / strike ≤ 0 then none
  else
    let d1 := BlackScholes.d1 functions model spot strike time_to_expiry sigma
    let vega := spot * BlackScholes.exp_qt functions model time_to_expiry * functions.pdf d1 *
      functions.sqrt time_to_expiry
    if vega = 0 then none
    else
      let sigma := sigma + diff / vega
      some (if sigma ≤ 0 then 0.001 else sigma)

section CalculateIv

variable {model : BlackScholesModel α} {sigma : α}

theorem calculate_iv_next_pos {after : α}
    (step : calculate_iv_next functions model spot strike time_to_expiry market_price option_type
      sigma = some after) : 0 < after := by
  unfold calculate_iv_next at step
  dsimp only at step
  split at step
  case isTrue => cases step
  case isFalse =>
      split at step
      case isTrue => cases step
      case isFalse =>
          cases step
          split
          case isTrue => norm_num
          case isFalse positive => exact not_le.mp positive

/-- The percentage with two decimals is the volatility with four. -/
theorem volatility_of_percent_eq :
    volatility_of_percent (roundTo 2 (sigma * 100)) = Solver.report sigma := by
  have same : roundTo 2 (sigma * 100) = roundTo 4 sigma * 100 := by
    rw [roundTo, roundTo, show sigma * 100 * 10 ^ 2 = sigma * 10 ^ 4 by ring]
    ring
  have percent : roundTo 4 sigma * 100 / 100.0 = roundTo 4 sigma := by
    norm_num
  rw [volatility_of_percent, Solver.report, same, percent]
  simp

theorem newton_eq_search (left : ℕ) :
    (BlackScholes.newton functions model spot strike time_to_expiry option_type market_price left
      sigma).bind volatility_of_percent =
    (Iteration.search
      (fun volatility => (calculate_iv_solver functions spot strike time_to_expiry option_type
        market_price model).passes volatility)
      (calculate_iv_next functions model spot strike time_to_expiry market_price option_type)
      left sigma).bind Solver.report := by
  induction left generalizing sigma with
  | zero => simp [BlackScholes.newton, Iteration.search, volatility_of_percent]
  | succ left ih =>
      have passes : (calculate_iv_solver functions spot strike time_to_expiry option_type
          market_price model).passes sigma = true ↔
          |market_price - (BlackScholes.calculate functions model spot strike time_to_expiry
            sigma option_type).theoretical_price| < 1 / 100000 := by
        rw [abs_sub_comm, show (1 / 100000 : α) = 1e-5 by norm_num]
        exact decide_eq_true_iff
      rw [BlackScholes.newton, Iteration.search, calculate_iv_next]
      dsimp only
      split
      case isTrue near =>
          rw [if_pos (passes.mpr near), Option.bind_some, Option.bind_some,
            volatility_of_percent_eq]
      case isFalse far =>
          rw [if_neg (mt passes.mp far)]
          split
          case isTrue => rfl
          case isFalse =>
              split
              case isTrue => simp [volatility_of_percent]
              case isFalse =>
                  rw [ih, Option.bind_some, show (1 / 1000 : α) = 0.001 by norm_num]

variable (functions option_type model) in
omit [IsStrictOrderedRing α] in
theorem calculate_price_eq (spot_pos : 0 < spot) (strike_pos : 0 < strike)
    (time : 0 < time_to_expiry) (volatile : 0 < sigma) :
    (BlackScholes.calculate functions model spot strike time_to_expiry sigma
      option_type).theoretical_price =
    roundTo 2 (max (BlackScholes.price functions model spot strike time_to_expiry sigma
      option_type) 0) := by
  rw [BlackScholes.calculate, if_neg (not_or.mpr ⟨spot_pos.not_ge, strike_pos.not_ge⟩),
    if_neg (not_or.mpr ⟨time.not_ge, volatile.not_ge⟩)]

theorem calculate_iv_searches (spot_pos : 0 < spot) (strike_pos : 0 < strike)
    (time : 0 < time_to_expiry) :
    (calculate_iv_solver functions spot strike time_to_expiry option_type market_price
      model).Searches
      (calculate_iv_next functions model spot strike time_to_expiry market_price option_type)
      100 where
  enough _ := by norm_num
  rejects rejected guess := by
    change (calculate_iv_from ..).bind volatility_of_percent = none
    have nothing : volatility_of_percent (0 : α) = none := if_neg (lt_irrefl 0)
    unfold calculate_iv_from
    split
    case isTrue => exact nothing
    case isFalse priced =>
        have positive := not_le.mp (not_or.mp priced).1
        rw [if_pos (not_le.mp (fun above => rejected ⟨positive, above⟩))]
        exact nothing
  finds accepts guess _ := by
    change (calculate_iv_from ..).bind volatility_of_percent = _
    rw [calculate_iv_from, if_neg (not_or.mpr ⟨accepts.1.not_ge, time.not_ge⟩),
      if_neg accepts.2.not_gt]
    exact newton_eq_search 100
  kept _ _ _ step := calculate_iv_next_pos step
  decimals volatility volatile price priced := by
    have rounded := calculate_price_eq functions option_type model spot_pos strike_pos time
      volatile
    exact ⟨_, (Option.some.inj priced).symm.trans rounded⟩
  guess_pos := roundTo_decimal (n := 5000) (by rw [calculate_iv_solver]; norm_num)
    (by rw [calculate_iv_solver]; norm_num)
  priced accepts attained := by
    have positive : 0 < market_price := accepts.1
    have worth : BlackScholes.price functions model spot strike time_to_expiry 0.5 option_type =
        market_price :=
      attained.symm
    have rounded := calculate_price_eq functions option_type model spot_pos strike_pos time
      (by norm_num : (0 : α) < 0.5)
    rw [worth, max_eq_left positive.le] at rounded
    exact congrArg some rounded

end CalculateIv

end Loops

section Law

variable [IsStrictOrderedRing α]
variable (functions : Functions α) {spot strike time_to_expiry : α}

theorem Method.searches (spot_pos : 0 < spot) (strike_pos : 0 < strike)
    (time : 0 < time_to_expiry) (option_type : OptionType) (market_price : α)
    (method : Method α) :
    ∃ next left, (method.solver functions spot strike time_to_expiry option_type
      market_price).Searches next left := by
  cases method with
  | newton_raphson solver risk_free_rate =>
      exact ⟨_, _, IVSolver.searches (div_pos spot_pos strike_pos) time solver risk_free_rate⟩
  | calculate_iv model => exact ⟨_, _, calculate_iv_searches spot_pos strike_pos time⟩

/-- A solver is lawful if and only if the roundings do no harm.  From one guess that
passes the first check it is sound if and only if they do none to the guess. -/
theorem solver_lawful_iff (spot_pos : 0 < spot) (strike_pos : 0 < strike) (time : 0 < time_to_expiry)
    (option_type : OptionType) (market_price : α) (method : Method α) :
    ((method.solver functions spot strike time_to_expiry option_type market_price).Lawful ↔
      (method.solver functions spot strike time_to_expiry option_type market_price).Condition) ∧
    ∀ guess, 0 < roundTo 4 guess →
      (method.solver functions spot strike time_to_expiry option_type market_price).passes guess →
      ((method.solver functions spot strike time_to_expiry option_type market_price).Sound guess ↔
        ((method.solver functions spot strike time_to_expiry option_type market_price).Accepts →
          (method.solver functions spot strike time_to_expiry option_type market_price).Fits
            (roundTo 4 guess))) := by
  obtain ⟨next, left, searches⟩ :=
    method.searches functions spot_pos strike_pos time option_type market_price
  exact ⟨searches.lawful_iff_condition, fun _ start passed => searches.sound_of_passes start passed⟩

end Law

/-! ## Prices of an option at the money -/

open BlackScholes (analysis)

/-- The price at a volatility of 0.3 over the square root of the time. -/
noncomputable def at_money : ℝ :=
  Normal.distribution 0.15 - Normal.distribution (-0.15)

theorem price_at_money : price analysis 1 1 1 0 0.3 .CE = at_money := by
  have first : d1 analysis 1 1 1 0 0.3 = 0.15 := by
    norm_num [d1, analysis]
  rw [price, first, at_money]
  norm_num [analysis]

theorem bsm_price_at_money :
    BlackScholes.price analysis ⟨0, 0⟩ 1 1 (9 / 25) 0.5 .CE = at_money := by
  have root : √(9 / 25 : ℝ) = 0.6 := by
    rw [show (9 / 25 : ℝ) = 0.6 ^ 2 by norm_num, Real.sqrt_sq (by norm_num)]
  have first : BlackScholes.d1 analysis ⟨0, 0⟩ 1 1 (9 / 25) 0.5 = 0.15 := by
    norm_num [BlackScholes.d1, analysis, root]
  rw [BlackScholes.price, BlackScholes.d2, first, at_money]
  norm_num [BlackScholes.exp_qt, BlackScholes.exp_rt, analysis, root]

theorem density_bounds {c : ℝ} (inside : |c| ≤ 0.15) :
    0.39 < Normal.density c ∧ Normal.density c < 0.3993 := by
  have low : 2.505 < √(2 * Real.pi) := by
    apply Real.lt_sqrt_of_sq_lt
    linarith [Real.pi_gt_d2]
  have high : √(2 * Real.pi) < 2.51 := by
    rw [Real.sqrt_lt' (by norm_num)]
    linarith [Real.pi_lt_d2]
  have square : c ^ 2 ≤ 0.15 ^ 2 := by
    rw [← sq_abs c]
    gcongr
  have below : Real.exp (-(1 / 2) * c ^ 2) ≤ 1 :=
    Real.exp_le_one_iff.mpr (by linarith [sq_nonneg c])
  have above : 1 - 1 / 2 * c ^ 2 ≤ Real.exp (-(1 / 2) * c ^ 2) := by
    linarith [Real.add_one_le_exp (-(1 / 2) * c ^ 2)]
  rw [Normal.density_eq]
  constructor
  · rw [lt_div_iff₀ (by linarith)]
    linarith
  · rw [div_lt_iff₀ (by linarith)]
    linarith

theorem at_money_bounds : 0.117 < at_money ∧ at_money < 0.1198 := by
  obtain ⟨c, inside, difference⟩ :=
    Normal.exists_distribution_sub_eq (show (-0.15 : ℝ) < 0.15 by norm_num)
  obtain ⟨low, high⟩ := density_bounds (abs_le.mpr ⟨inside.1.le, inside.2.le⟩)
  rw [at_money, difference]
  constructor <;> linarith

theorem roundTo_at_money : roundTo 2 at_money = 0.12 := by
  obtain ⟨low, high⟩ := at_money_bounds
  have scaled : at_money * 10 ^ 2 = at_money * 100 := by norm_num
  have near := abs_roundHalfEven_sub_le (at_money * 100)
  have rounded : roundHalfEven (at_money * 100) = 12 := by
    obtain ⟨after, before⟩ := abs_le.mp near
    have least : ((11 : ℤ) : ℝ) < roundHalfEven (at_money * 100) := by
      push_cast
      linarith
    have most : (roundHalfEven (at_money * 100) : ℝ) < (13 : ℤ) := by
      push_cast
      linarith
    have least := Int.cast_lt.mp least
    have most := Int.cast_lt.mp most
    omega
  rw [roundTo, scaled, rounded]
  norm_num

/-- A guess that gives this price is returned for 0.12. -/
theorem Solver.Searches.not_sound {solver : Solver ℝ} {next : ℝ → Option ℝ} {left : ℕ} {guess : ℝ}
    (searches : solver.Searches next left) (quoted : solver.market_price = 0.12)
    (strict : 0 < solver.tolerance ∧ solver.tolerance ≤ 0.0002) (accepts : solver.Accepts)
    (start : 0 < guess) (decimal : roundTo 4 guess = guess)
    (priced : solver.theoretical_price guess = some (roundTo 2 at_money))
    (worth : solver.price guess = at_money) : ¬solver.Sound guess := by
  intro sound
  have passed : solver.passes guess := by
    rw [Solver.passes, priced, quoted, roundTo_at_money]
    simpa using strict.1
  have fits := (searches.sound_of_passes (by rwa [decimal]) passed).mp sound accepts
  rw [Solver.Fits, decimal, worth, quoted, abs_sub_comm] at fits
  have far := (le_abs_self (0.12 - at_money)).trans_lt fits
  linarith [at_money_bounds.2, strict.2]

/-- Two solvers that converge to a volatility of another price, and one that does not
converge at the price of its guess. -/
theorem solvers_not_lawful :
    ¬(IVSolver.default.solver analysis 1 1 1 .CE 0.12 0).Sound 0.3 ∧
    ¬(calculate_iv_solver analysis 1 1 (9 / 25) .CE 0.12 ⟨0, 0⟩).Sound 0.5 ∧
    (IVSolver.default.solver analysis 1 1 1 .CE (price analysis 1 1 1 0 0.3 .CE) 0).volatility?
      0.3 = none := by
  have tolerated : 0 < (IVSolver.default : IVSolver ℝ).tolerance ∧
      (IVSolver.default : IVSolver ℝ).tolerance ≤ 0.0002 := by
    norm_num [IVSolver.default]
  have decimal {n : ℤ} {x : ℝ} (scaled : x * 10 ^ 4 = n) : roundTo 4 x = x :=
    roundTo_of_scaled scaled
  refine ⟨?_, ?_, ?_⟩
  · apply (IVSolver.searches (by norm_num) one_pos IVSolver.default 0).not_sound rfl tolerated
    · norm_num [IVSolver.solver, IVSolver.default, intrinsic]
    · norm_num
    · exact decimal (n := 3000) (by norm_num)
    · rw [← price_at_money]
      exact theoretical_price_eq (by norm_num) one_pos (by norm_num)
    · exact price_at_money
  · apply (calculate_iv_searches one_pos one_pos (by norm_num)).not_sound rfl
    · norm_num [calculate_iv_solver]
    · norm_num [calculate_iv_solver, intrinsic]
    · norm_num
    · exact decimal (n := 5000) (by norm_num)
    · have rounded := calculate_price_eq analysis .CE ⟨0, 0⟩ one_pos one_pos
        (show (0 : ℝ) < 9 / 25 by norm_num) (show (0 : ℝ) < 0.5 by norm_num)
      rw [bsm_price_at_money, max_eq_left (by linarith [at_money_bounds.1])] at rounded
      exact congrArg some rounded
    · exact bsm_price_at_money
  · rw [price_at_money]
    by_contra found
    obtain ⟨volatility, found⟩ := Option.ne_none_iff_exists'.mp found
    have near := (IVSolver.searches (by norm_num) one_pos IVSolver.default 0).near_of_found
      (roundTo_decimal (n := 3000) (by norm_num) (by norm_num)) found
    change |roundTo 2 at_money - at_money| < IVSolver.default.tolerance at near
    rw [roundTo_at_money] at near
    have far := (le_abs_self (0.12 - at_money)).trans_lt near
    linarith [at_money_bounds.2, tolerated.2]

/-- An option on what is worth less than the tolerance, for nothing. -/
theorem solver_lawful_worthless :
    ((Method.newton_raphson IVSolver.default 0).solver analysis (1 / 20000) (1 / 20000) 1 .CE
      0).Lawful := by
  have cheap (volatility : ℝ) :
      |price analysis (1 / 20000) (1 / 20000) 1 0 volatility .CE| ≤ 1 / 20000 := by
    rw [price, abs_le]
    generalize d1 analysis (1 / 20000) (1 / 20000) 1 0 volatility = first
    generalize first - volatility * analysis.sqrt 1 = second
    have discount : analysis.exp (-0 * 1) = 1 := by norm_num [analysis]
    have first_low : 0 ≤ analysis.cdf first := Normal.distribution_nonneg first
    have first_high : analysis.cdf first ≤ 1 := Normal.distribution_le_one first
    have second_low : 0 ≤ analysis.cdf second := Normal.distribution_nonneg second
    have second_high : analysis.cdf second ≤ 1 := Normal.distribution_le_one second
    rw [discount]
    constructor <;> linarith
  have accepts : 0 < (IVSolver.default : IVSolver ℝ).max_iterations ∧
      intrinsic (1 / 20000 : ℝ) (1 / 20000) .CE ≤ 0 := by
    norm_num [IVSolver.default, intrinsic]
  have tolerated : (1 / 20000 : ℝ) < IVSolver.default.tolerance := by
    norm_num [IVSolver.default]
  apply (solver_lawful_iff analysis (by norm_num) (by norm_num) one_pos .CE 0
    (.newton_raphson .default 0)).1.mpr
  constructor
  · intro _ volatility _ _
    change |price analysis (1 / 20000) (1 / 20000) 1 0 (roundTo 4 volatility) .CE - 0| <
      IVSolver.default.tolerance
    rw [sub_zero]
    exact (cheap (roundTo 4 volatility)).trans_lt tolerated
  · intro _
    refine ⟨accepts, ?_⟩
    change |roundTo 2 (0 : ℝ) - 0| < IVSolver.default.tolerance
    rw [roundTo_zero, sub_zero, abs_zero]
    linarith

end HftEngine.IvSolver
