import HftEngine.Lib.AffineSteps
import HftEngine.Lib.Python.Exact
import Mathlib.Algebra.Order.Ring.GeomSum
import Mathlib.Tactic.FieldSimp

/-!
# Financial calculators

`FinancialCalculators.sip`, `swp` and `emi`, and `calculate_swp` of the backend, over any
ordered field.  The amounts before rounding are records of their own; the closed forms
are compared with a balance that is followed month by month.
-/

namespace HftEngine.Calculations.Financial

open Py.Exact

variable {α : Type} [Field α] [LinearOrder α]

/-- Division; none is a `ZeroDivisionError`. -/
def divide (numerator denominator : α) : Option α :=
  if denominator = 0 then none else some (numerator / denominator)

/-- `math.pow` at a whole exponent; none is a `ValueError`. -/
def pow (x : α) (exponent : ℤ) : Option α :=
  if x = 0 ∧ exponent < 0 then none else some (x ^ exponent)

/-! ## `sip` -/

structure SipAmounts (α : Type) where
  invested_amount : α
  future_value : α
  wealth_gained : α
  total_return_pct : α
  total_months : ℤ

def total_months [FloorRing α] (time_years : α) : ℤ :=
  trunc (time_years * (12 : ℕ))

def future_value (monthly_investment monthly_rate : α) (total_months : ℤ) : Option α :=
  if monthly_rate = 0 then some (monthly_investment * total_months)
  else do
    let power ← pow (1 + monthly_rate) total_months
    some (monthly_investment * ((power - 1) / monthly_rate) * (1 + monthly_rate))

def sip_amounts [FloorRing α] (monthly_investment annual_rate time_years : α) :
    Option (SipAmounts α) := do
  let monthly_rate := annual_rate / (12 : ℕ)
  let total_months := total_months time_years
  let future_value ← future_value monthly_investment monthly_rate total_months
  let invested_amount := monthly_investment * total_months
  let wealth_gained := future_value - invested_amount
  let total_return ← divide wealth_gained invested_amount
  some
    { invested_amount, future_value, wealth_gained
      total_return_pct := total_return * (100 : ℕ)
      total_months }

structure Sip (α : Type) extends SipAmounts α where
  monthly_investment : α
  annual_rate : α
  time_years : α

def sip [FloorRing α] (monthly_investment annual_rate time_years : α) : Option (Sip α) := do
  let amounts ← sip_amounts monthly_investment annual_rate time_years
  some
    { monthly_investment := roundTo 2 monthly_investment
      invested_amount := roundTo 2 amounts.invested_amount
      future_value := roundTo 2 amounts.future_value
      wealth_gained := roundTo 2 amounts.wealth_gained
      total_return_pct := roundTo 2 amounts.total_return_pct
      annual_rate
      time_years
      total_months := amounts.total_months }

/-! ## `emi` -/

structure EmiAmounts (α : Type) where
  emi : α
  total_payment : α
  total_interest : α

def installment (loan_amount monthly_rate : α) (tenure_months : ℤ) : Option α :=
  if monthly_rate = 0 then divide loan_amount tenure_months
  else do
    let power ← pow (1 + monthly_rate) tenure_months
    divide (loan_amount * monthly_rate * power) (power - 1)

def emi_amounts (loan_amount annual_rate : α) (tenure_months : ℤ) : Option (EmiAmounts α) := do
  let monthly_rate := annual_rate / (12 : ℕ)
  let emi ← installment loan_amount monthly_rate tenure_months
  let total_payment := emi * tenure_months
  some { emi, total_payment, total_interest := total_payment - loan_amount }

structure Emi (α : Type) extends EmiAmounts α where
  loan_amount : α
  annual_rate : α
  tenure_months : ℤ

def emi [FloorRing α] (loan_amount annual_rate : α) (tenure_months : ℤ) : Option (Emi α) := do
  let amounts ← emi_amounts loan_amount annual_rate tenure_months
  some
    { loan_amount := roundTo 2 loan_amount
      emi := roundTo 2 amounts.emi
      total_payment := roundTo 2 amounts.total_payment
      total_interest := roundTo 2 amounts.total_interest
      annual_rate
      tenure_months }

/-! ## Balances followed month by month -/

/-- A month that starts with an investment. -/
def invest (monthly_investment monthly_rate balance : α) : α :=
  (balance + monthly_investment) * (1 + monthly_rate)

/-- A month that ends with an installment. -/
def repay (emi monthly_rate balance : α) : α :=
  balance * (1 + monthly_rate) - emi

section Simulation

variable {monthly_investment loan_amount monthly_rate : α} {months : ℕ}

omit [LinearOrder α] in
theorem invest_eq_step : invest monthly_investment monthly_rate =
    AffineSteps.step (1 + monthly_rate) (monthly_investment * (1 + monthly_rate)) := by
  funext balance
  rw [invest, AffineSteps.step, add_mul]

omit [LinearOrder α] in
theorem repay_eq_step (emi : α) :
    repay emi monthly_rate = AffineSteps.step (1 + monthly_rate) (-emi) := by
  funext balance
  rw [repay, AffineSteps.step, sub_eq_add_neg]

theorem pow_natCast (x : α) (n : ℕ) : pow x n = some (x ^ n) := by
  rw [pow, if_neg (by omega), zpow_natCast]

theorem divide_of_ne {denominator : α} (nonzero : denominator ≠ 0) (numerator : α) :
    divide numerator denominator = some (numerator / denominator) :=
  if_neg nonzero

/-- The formula of `sip` is the balance after the months, whatever the rate. -/
theorem future_value_eq :
    future_value monthly_investment monthly_rate months =
      some ((invest monthly_investment monthly_rate)^[months] 0) := by
  rw [invest_eq_step]
  by_cases none_earned : monthly_rate = 0
  · subst none_earned
    rw [future_value, if_pos rfl, add_zero, AffineSteps.iterate_step_one]
    simp
  · have grows : 1 + monthly_rate - 1 ≠ 0 := by
      rwa [add_sub_cancel_left]
    rw [future_value, if_neg none_earned, pow_natCast, AffineSteps.iterate_step_eq grows,
      add_sub_cancel_left, Option.bind_eq_bind, Option.bind_some, zero_mul, zero_add]
    congr 1
    ring

variable [IsStrictOrderedRing α]

/-- The installment of `emi` leaves nothing of the loan. -/
theorem installment_repays (nonneg : 0 ≤ monthly_rate) (some_months : months ≠ 0)
    (loan_amount : α) :
    ∃ emi, installment loan_amount monthly_rate months = some emi ∧
      (repay emi monthly_rate)^[months] loan_amount = 0 := by
  rcases nonneg.eq_or_lt with none_charged | positive
  · subst none_charged
    have divisor : (months : α) ≠ 0 := Nat.cast_ne_zero.mpr some_months
    refine ⟨loan_amount / months, ?_, ?_⟩
    · rw [installment, if_pos rfl, Int.cast_natCast, divide_of_ne divisor]
    · rw [repay_eq_step, add_zero, AffineSteps.iterate_step_one]
      field_simp
      ring
  · have grown : 1 < (1 + monthly_rate) ^ months :=
      one_lt_pow₀ (lt_add_of_pos_right 1 positive) some_months
    have divisor : (1 + monthly_rate) ^ months - 1 ≠ 0 := (sub_pos.mpr grown).ne'
    have rate : monthly_rate ≠ 0 := positive.ne'
    have grows : 1 + monthly_rate - 1 ≠ 0 := by
      rwa [add_sub_cancel_left]
    refine ⟨loan_amount * monthly_rate * (1 + monthly_rate) ^ months /
      ((1 + monthly_rate) ^ months - 1), ?_, ?_⟩
    · rw [installment, if_neg rate, pow_natCast, Option.bind_eq_bind, Option.bind_some,
        divide_of_ne divisor]
    · rw [repay_eq_step, AffineSteps.iterate_step_eq grows, add_sub_cancel_left]
      field_simp
      ring

end Simulation

variable [FloorRing α]

/-- What both closed forms promise. -/
structure Simulated (monthly_investment annual_rate time_years loan_amount loan_rate : α)
    (tenure_months : ℤ) : Prop where
  sip : ∃ amounts, sip_amounts monthly_investment annual_rate time_years = some amounts ∧
    amounts.future_value =
      (invest monthly_investment (annual_rate / (12 : ℕ)))^[(total_months time_years).toNat] 0
  emi : ∃ amounts, emi_amounts loan_amount loan_rate tenure_months = some amounts ∧
    (repay amounts.emi (loan_rate / (12 : ℕ)))^[tenure_months.toNat] loan_amount = 0

theorem simulated [IsStrictOrderedRing α]
    {monthly_investment annual_rate time_years loan_rate : α} {tenure_months : ℤ}
    (nonzero : monthly_investment ≠ 0) (some_months : 1 ≤ total_months time_years)
    (loan_amount : α) (nonneg : 0 ≤ loan_rate) (some_tenure : 1 ≤ tenure_months) :
    Simulated monthly_investment annual_rate time_years loan_amount loan_rate tenure_months where
  sip := by
    obtain ⟨months, counted⟩ := Int.eq_ofNat_of_zero_le (by omega : 0 ≤ total_months time_years)
    have invested : monthly_investment * (months : ℤ) ≠ 0 := by
      refine mul_ne_zero nonzero ?_
      rw [Int.cast_ne_zero]
      omega
    rw [sip_amounts, counted]
    dsimp only
    rw [future_value_eq, Option.bind_eq_bind, Option.bind_some, divide_of_ne invested]
    exact ⟨_, rfl, rfl⟩
  emi := by
    obtain ⟨months, counted⟩ := Int.eq_ofNat_of_zero_le (by omega : 0 ≤ tenure_months)
    have rate : 0 ≤ loan_rate / ((12 : ℕ) : α) := div_nonneg nonneg (Nat.cast_nonneg 12)
    obtain ⟨emi, found, repaid⟩ :=
      installment_repays rate (by omega : months ≠ 0) loan_amount
    subst counted
    rw [emi_amounts, found]
    exact ⟨_, rfl, repaid⟩

/-- 1000 a month for a year at 12 %, and a loan of 100000 over two years at 10 %. -/
theorem simulated_one_year : Simulated (1000 : ℚ) 0.12 1 100000 0.1 24 :=
  simulated (by norm_num) (by with_unfolding_all decide) _ (by norm_num) (by decide)

/-! ## `swp` -/

structure SwpAmounts (α : Type) where
  remaining_corpus : α
  total_withdrawn : α
  exhaustion_month : Option ℕ := none

section Months

variable (withdrawal_per_month monthly_rate : α)

/-- The loop, with so many months left from this one on. -/
def swp_months : ℕ → ℕ → SwpAmounts α → SwpAmounts α
  | 0, _, amounts => amounts
  | left + 1, month, amounts =>
      let remaining_corpus := amounts.remaining_corpus * (1 + monthly_rate)
      if remaining_corpus ≥ withdrawal_per_month then
        swp_months left (month + 1)
          { amounts with
            remaining_corpus := remaining_corpus - withdrawal_per_month
            total_withdrawn := amounts.total_withdrawn + withdrawal_per_month }
      else
        { remaining_corpus := 0
          total_withdrawn := amounts.total_withdrawn + remaining_corpus
          exhaustion_month := some month }

/-- The returns that the loop adds in so many months, the last one included. -/
def returns_credited : ℕ → α → α
  | 0, _ => 0
  | left + 1, corpus =>
      corpus * monthly_rate +
        if corpus * (1 + monthly_rate) ≥ withdrawal_per_month then
          returns_credited left (corpus * (1 + monthly_rate) - withdrawal_per_month)
        else 0

end Months

def swp_amounts (corpus withdrawal_per_month annual_rate time_years : α) :
    SwpAmounts α :=
  swp_months withdrawal_per_month (annual_rate / (12 : ℕ)) (total_months time_years).toNat 1
    { remaining_corpus := corpus, total_withdrawn := 0 }

structure Swp (α : Type) where
  initial_corpus : α
  withdrawal_per_month : α
  remaining_corpus : α
  total_withdrawn : α
  corpus_exhaustion_months : Option ℕ
  corpus_exhausted : Bool
  annual_rate : α
  time_years : α

def swp (corpus withdrawal_per_month annual_rate time_years : α) : Swp α :=
  let amounts := swp_amounts corpus withdrawal_per_month annual_rate time_years
  { initial_corpus := roundTo 2 corpus
    withdrawal_per_month := roundTo 2 withdrawal_per_month
    remaining_corpus := roundTo 2 amounts.remaining_corpus
    total_withdrawn := roundTo 2 amounts.total_withdrawn
    corpus_exhaustion_months := amounts.exhaustion_month
    corpus_exhausted := amounts.remaining_corpus == 0
    annual_rate
    time_years }

/-! ## `calculate_swp` of the backend -/

structure Withdrawals (α : Type) where
  balance : α
  total_withdrawn : α
  withdrawals_count : ℕ := 0

def withdraw (monthly_withdrawal monthly_rate : α) : ℕ → Withdrawals α → Withdrawals α
  | 0, state => state
  | left + 1, state =>
      if state.balance ≤ 0 then state
      else
        let balance := state.balance * (1 + monthly_rate)
        let withdrawal := min monthly_withdrawal balance
        withdraw monthly_withdrawal monthly_rate left
          { balance := balance - withdrawal
            total_withdrawn := state.total_withdrawn + withdrawal
            withdrawals_count := state.withdrawals_count + 1 }

structure SWPResult (α : Type) where
  initial_investment : α
  total_withdrawn : α
  final_balance : α
  monthly_withdrawals : ℕ

/-- The result before rounding. -/
def calculate_swp_amounts (initial_investment monthly_withdrawal annual_return : α)
    (years : ℤ) : SWPResult α :=
  let monthly_rate := annual_return / (12 : ℕ) / (100 : ℕ)
  let months := years * 12
  let final := withdraw monthly_withdrawal monthly_rate months.toNat
    { balance := initial_investment, total_withdrawn := 0 }
  { initial_investment
    total_withdrawn := final.total_withdrawn
    final_balance := max 0 final.balance
    monthly_withdrawals := final.withdrawals_count }

def calculate_swp (initial_investment monthly_withdrawal annual_return : α)
    (years : ℤ) : SWPResult α :=
  let amounts := calculate_swp_amounts initial_investment monthly_withdrawal annual_return years
  { initial_investment := roundTo 2 amounts.initial_investment
    total_withdrawn := roundTo 2 amounts.total_withdrawn
    final_balance := roundTo 2 amounts.final_balance
    monthly_withdrawals := amounts.monthly_withdrawals }

/-! ## Money in and money out -/

section Balances

omit [FloorRing α]

variable {withdrawal_per_month monthly_rate : α} {amounts : SwpAmounts α}

omit [LinearOrder α] in
/-- The balance of a withdrawal plan that may go below 0. -/
theorem step_withdrawal (corpus : α) :
    AffineSteps.step (1 + monthly_rate) (-withdrawal_per_month) corpus =
      corpus * (1 + monthly_rate) - withdrawal_per_month :=
  (sub_eq_add_neg _ _).symm

variable (withdrawal_per_month monthly_rate) in
/-- No money is lost, in the month in which the corpus is exhausted either. -/
theorem swp_months_conserved (left month : ℕ) (amounts : SwpAmounts α) :
    amounts.total_withdrawn + amounts.remaining_corpus +
        returns_credited withdrawal_per_month monthly_rate left amounts.remaining_corpus =
      (swp_months withdrawal_per_month monthly_rate left month amounts).total_withdrawn +
        (swp_months withdrawal_per_month monthly_rate left month amounts).remaining_corpus := by
  induction left generalizing month amounts with
  | zero => rw [swp_months, returns_credited, add_zero]
  | succ left ih =>
      rw [swp_months, returns_credited]
      split
      · rw [← ih]
        dsimp only
        ring
      · ring

/-- The corpus is exhausted before the end where the balance goes below 0; else it is the
balance. -/
theorem swp_months_cases [IsStrictOrderedRing α] (withdrawn : 0 ≤ withdrawal_per_month)
    (earned : 0 ≤ monthly_rate) (left month : ℕ) (amounts : SwpAmounts α)
    (nonneg : 0 ≤ amounts.remaining_corpus) (going : amounts.exhaustion_month = none) :
    let balance := (AffineSteps.step (1 + monthly_rate) (-withdrawal_per_month))^[left]
      amounts.remaining_corpus
    let final := swp_months withdrawal_per_month monthly_rate left month amounts
    (0 ≤ balance ∧ final.exhaustion_month = none ∧ final.remaining_corpus = balance) ∨
      (balance < 0 ∧ final.exhaustion_month.isSome = true ∧ final.remaining_corpus = 0) := by
  induction left generalizing month amounts with
  | zero => exact .inl ⟨nonneg, going, rfl⟩
  | succ left ih =>
      dsimp only
      rw [swp_months, Function.iterate_succ_apply, step_withdrawal]
      split
      · rename_i enough
        exact ih (month + 1)
          { amounts with
            remaining_corpus := amounts.remaining_corpus * (1 + monthly_rate) - withdrawal_per_month
            total_withdrawn := amounts.total_withdrawn + withdrawal_per_month }
          (sub_nonneg.mpr enough) going
      · rename_i short
        have grows : 0 < 1 + monthly_rate := by linarith
        refine .inr ⟨?_, rfl, rfl⟩
        exact AffineSteps.iterate_step_neg grows (neg_nonpos.mpr withdrawn)
          (sub_neg.mpr (lt_of_not_ge short)) left

variable (monthly_rate) in
/-- Nothing comes out of a corpus of 0. -/
theorem swp_months_zero (withdrawn : 0 ≤ withdrawal_per_month) (left month : ℕ)
    (amounts : SwpAmounts α) (used_up : amounts.remaining_corpus = 0) :
    let final := swp_months withdrawal_per_month monthly_rate left month amounts
    final.remaining_corpus = 0 ∧ final.total_withdrawn = amounts.total_withdrawn := by
  induction left generalizing month amounts with
  | zero => exact ⟨used_up, rfl⟩
  | succ left ih =>
      dsimp only
      rw [swp_months, used_up, zero_mul]
      split
      · rename_i free
        have nothing : withdrawal_per_month = 0 := le_antisymm free withdrawn
        subst nothing
        obtain ⟨remaining, total⟩ := ih (month + 1)
          { amounts with remaining_corpus := 0 - 0, total_withdrawn := amounts.total_withdrawn + 0 }
          (sub_zero 0)
        exact ⟨remaining, total.trans (add_zero _)⟩
      · exact ⟨rfl, add_zero _⟩

theorem withdraw_zero (left : ℕ) {state : Withdrawals α} (used_up : state.balance = 0) :
    withdraw withdrawal_per_month monthly_rate left state = state := by
  cases left with
  | zero => rfl
  | succ left => rw [withdraw, if_pos used_up.le]

variable (monthly_rate) in
/-- The two loops withdraw the same and leave the same. -/
theorem swp_months_eq_withdraw [IsStrictOrderedRing α] (withdrawn : 0 ≤ withdrawal_per_month)
    (left month : ℕ) (amounts : SwpAmounts α) (nonneg : 0 ≤ amounts.remaining_corpus) (count : ℕ) :
    let final := swp_months withdrawal_per_month monthly_rate left month amounts
    let other := withdraw withdrawal_per_month monthly_rate left
      { balance := amounts.remaining_corpus
        total_withdrawn := amounts.total_withdrawn
        withdrawals_count := count }
    final.remaining_corpus = other.balance ∧ final.total_withdrawn = other.total_withdrawn := by
  induction left generalizing month amounts count with
  | zero => exact ⟨rfl, rfl⟩
  | succ left ih =>
      rcases nonneg.eq_or_lt with used_up | positive
      · obtain ⟨remaining, total⟩ := swp_months_zero monthly_rate withdrawn
          (left + 1) month amounts used_up.symm
        dsimp only
        rw [withdraw_zero (left + 1) used_up.symm, remaining, total]
        exact ⟨used_up, rfl⟩
      · dsimp only
        rw [swp_months, withdraw, if_neg (not_le_of_gt positive)]
        dsimp only
        split
        · rename_i enough
          rw [min_eq_left enough]
          exact ih (month + 1) _ (sub_nonneg.mpr enough) (count + 1)
        · rename_i short
          rw [min_eq_right (lt_of_not_ge short).le, withdraw_zero left (sub_self _)]
          exact ⟨(sub_self _).symm, rfl⟩

end Balances

/-- What `swp` says of one plan fits together, and the backend says the same. -/
structure SwpConsistent (corpus withdrawal_per_month annual_rate time_years : α) : Prop where
  conserved :
    corpus + returns_credited withdrawal_per_month (annual_rate / (12 : ℕ))
        (total_months time_years).toNat corpus =
      (swp_amounts corpus withdrawal_per_month annual_rate time_years).total_withdrawn +
        (swp_amounts corpus withdrawal_per_month annual_rate time_years).remaining_corpus
  flagged :
    (swp corpus withdrawal_per_month annual_rate time_years).corpus_exhausted = true ↔
      (swp corpus withdrawal_per_month annual_rate
        time_years).corpus_exhaustion_months.isSome = true
  agrees : ∀ years : ℤ, time_years = years →
    (calculate_swp_amounts corpus withdrawal_per_month ((100 : ℕ) * annual_rate)
        years).total_withdrawn =
      (swp_amounts corpus withdrawal_per_month annual_rate time_years).total_withdrawn ∧
    (calculate_swp_amounts corpus withdrawal_per_month ((100 : ℕ) * annual_rate)
        years).final_balance =
      (swp_amounts corpus withdrawal_per_month annual_rate time_years).remaining_corpus

section Swp

variable [IsStrictOrderedRing α] {corpus withdrawal_per_month annual_rate time_years : α}

omit [IsStrictOrderedRing α] in
theorem swp_conserved :
    corpus + returns_credited withdrawal_per_month (annual_rate / (12 : ℕ))
        (total_months time_years).toNat corpus =
      (swp_amounts corpus withdrawal_per_month annual_rate time_years).total_withdrawn +
        (swp_amounts corpus withdrawal_per_month annual_rate time_years).remaining_corpus := by
  rw [swp_amounts, ← swp_months_conserved, zero_add]

variable (time_years) in
/-- The balance after all months, were it paid out without end. -/
theorem swp_amounts_cases (nonneg : 0 ≤ corpus) (withdrawn : 0 ≤ withdrawal_per_month)
    (earned : 0 ≤ annual_rate) :
    let factor := 1 + annual_rate / (12 : ℕ)
    let months := (total_months time_years).toNat
    let balance := corpus * factor ^ months -
      withdrawal_per_month * ∑ k ∈ Finset.range months, factor ^ k
    let final := swp_amounts corpus withdrawal_per_month annual_rate time_years
    (0 ≤ balance ∧ final.exhaustion_month = none ∧ final.remaining_corpus = balance) ∨
      (balance < 0 ∧ final.exhaustion_month.isSome = true ∧ final.remaining_corpus = 0) := by
  have rate : 0 ≤ annual_rate / ((12 : ℕ) : α) := div_nonneg earned (Nat.cast_nonneg 12)
  have cases := swp_months_cases withdrawn rate (total_months time_years).toNat 1
    { remaining_corpus := corpus, total_withdrawn := 0 } nonneg rfl
  dsimp only at cases ⊢
  rw [AffineSteps.iterate_step, neg_mul, ← sub_eq_add_neg] at cases
  exact cases

theorem swp_agrees (nonneg : 0 ≤ corpus) (withdrawn : 0 ≤ withdrawal_per_month)
    (earned : 0 ≤ annual_rate) (years : ℤ) :
    (calculate_swp_amounts corpus withdrawal_per_month ((100 : ℕ) * annual_rate)
        years).total_withdrawn =
      (swp_amounts corpus withdrawal_per_month annual_rate years).total_withdrawn ∧
    (calculate_swp_amounts corpus withdrawal_per_month ((100 : ℕ) * annual_rate)
        years).final_balance =
      (swp_amounts corpus withdrawal_per_month annual_rate years).remaining_corpus := by
  have rate : (100 : ℕ) * annual_rate / (12 : ℕ) / (100 : ℕ) = annual_rate / ((12 : ℕ) : α) := by
    field_simp
  have months : total_months (years : α) = years * 12 := by
    rw [total_months]
    exact_mod_cast trunc_intCast (α := α) (years * 12)
  obtain ⟨remaining, total⟩ := swp_months_eq_withdraw (annual_rate / (12 : ℕ))
    withdrawn (years * 12).toNat 1 { remaining_corpus := corpus, total_withdrawn := 0 } nonneg 0
  have kept : 0 ≤ (swp_amounts corpus withdrawal_per_month annual_rate
      (years : α)).remaining_corpus := by
    rcases swp_amounts_cases (years : α) nonneg withdrawn earned with
      ⟨above, -, same⟩ | ⟨-, -, used_up⟩
    · rw [same]
      exact above
    · exact used_up.ge
  rw [swp_amounts, months] at kept ⊢
  rw [calculate_swp_amounts]
  dsimp only
  rw [rate, ← remaining, ← total, max_eq_right kept]
  exact ⟨rfl, rfl⟩

/-- All is consistent unless the last withdrawal takes exactly what is left: then the corpus
is exhausted, and no month is reported. -/
theorem swpConsistent_iff (nonneg : 0 ≤ corpus) (withdrawn : 0 ≤ withdrawal_per_month)
    (earned : 0 ≤ annual_rate) :
    SwpConsistent corpus withdrawal_per_month annual_rate time_years ↔
      corpus * (1 + annual_rate / (12 : ℕ)) ^ (total_months time_years).toNat ≠
        withdrawal_per_month *
          ∑ k ∈ Finset.range (total_months time_years).toNat,
            (1 + annual_rate / (12 : ℕ)) ^ k := by
  have flag : (swp corpus withdrawal_per_month annual_rate time_years).corpus_exhausted = true ↔
      (swp_amounts corpus withdrawal_per_month annual_rate time_years).remaining_corpus = 0 :=
    beq_iff_eq
  have month : (swp corpus withdrawal_per_month annual_rate time_years).corpus_exhaustion_months =
      (swp_amounts corpus withdrawal_per_month annual_rate time_years).exhaustion_month := rfl
  have cases := swp_amounts_cases time_years nonneg withdrawn earned
  dsimp only at cases
  constructor
  · intro consistent exact
    have flagged := consistent.flagged
    rw [flag, month] at flagged
    rcases cases with ⟨-, never, same⟩ | ⟨below, -, -⟩
    · rw [never, same, sub_eq_zero.mpr exact] at flagged
      exact absurd (flagged.mp rfl) (by decide)
    · rw [exact, sub_self] at below
      exact absurd below (lt_irrefl 0)
  · intro different
    refine ⟨swp_conserved, ?_, ?_⟩
    · rw [flag, month]
      rcases cases with ⟨-, never, same⟩ | ⟨-, reported, used_up⟩
      · rw [never, same]
        exact iff_of_false (sub_ne_zero.mpr different) (by decide)
      · exact iff_of_true used_up reported
    · rintro years rfl
      exact swp_agrees nonneg withdrawn earned years

end Swp

/-- 1000 without returns, 300 a month: the fourth month takes the last 100. -/
theorem swpConsistent_iff_one_year :
    SwpConsistent (1000 : ℚ) 300 0 1 ↔
      (1000 : ℚ) * (1 + 0 / (12 : ℕ)) ^ (total_months (1 : ℚ)).toNat ≠
        300 * ∑ k ∈ Finset.range (total_months (1 : ℚ)).toNat, (1 + (0 : ℚ) / (12 : ℕ)) ^ k :=
  swpConsistent_iff (by norm_num) (by norm_num) le_rfl

/-- 1200 without returns last for twelve withdrawals of 100: exhausted, but in no month. -/
theorem swpConsistent_fails : ¬SwpConsistent (1200 : ℚ) 100 0 1 := by
  intro consistent
  have exhausted : (swp (1200 : ℚ) 100 0 1).corpus_exhausted = true := by with_unfolding_all decide
  have reported := consistent.flagged.mp exhausted
  revert reported
  with_unfolding_all decide

end HftEngine.Calculations.Financial
