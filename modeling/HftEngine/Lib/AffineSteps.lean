import Mathlib.Algebra.Field.GeomSum
import Mathlib.Algebra.Order.Ring.Defs
import Mathlib.Logic.Function.Iterate
import Mathlib.Tactic.Linarith
import Mathlib.Tactic.Ring

/-!
# Balances that grow and are paid into

A step multiplies a balance by a factor and adds a payment.  So many steps are a power
of the factor and a geometric sum.
-/

namespace AffineSteps

open Finset (range)

variable {α : Type*}

def step [Mul α] [Add α] (factor payment balance : α) : α :=
  balance * factor + payment

section Sums

variable [CommRing α] (factor payment : α)

theorem iterate_step (n : ℕ) (balance : α) :
    (step factor payment)^[n] balance =
      balance * factor ^ n + payment * ∑ k ∈ range n, factor ^ k := by
  induction n with
  | zero => simp
  | succ n ih =>
      rw [Function.iterate_succ_apply', ih, step, geom_sum_succ]
      ring

/-- Without growth the payments add up. -/
theorem iterate_step_one (n : ℕ) (balance : α) :
    (step 1 payment)^[n] balance = balance + payment * n := by
  rw [iterate_step]
  simp

end Sums

/-- The payments, by the closed form of the sum. -/
theorem iterate_step_eq [Field α] {factor : α} (grows : factor - 1 ≠ 0) (payment : α) (n : ℕ)
    (balance : α) :
    (step factor payment)^[n] balance =
      balance * factor ^ n + payment * ((factor ^ n - 1) / (factor - 1)) := by
  rw [iterate_step, geom_sum_eq (sub_ne_zero.mp grows)]

/-- A balance below 0 from which nothing is paid in stays there. -/
theorem iterate_step_neg [CommRing α] [LinearOrder α] [IsStrictOrderedRing α]
    {factor payment balance : α} (positive : 0 < factor) (paid : payment ≤ 0)
    (negative : balance < 0) (n : ℕ) : (step factor payment)^[n] balance < 0 := by
  induction n with
  | zero => exact negative
  | succ n ih =>
      rw [Function.iterate_succ_apply', step]
      have shrunk := mul_neg_of_neg_of_pos ih positive
      linarith

end AffineSteps
