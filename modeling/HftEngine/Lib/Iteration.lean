import Mathlib.Data.Nat.Notation
import Mathlib.Tactic.Common

/-!
# Iterations until a check is passed

A state is checked and, where it does not pass, followed by the next one, at most so
many times.
-/

namespace Iteration

variable {σ : Type} (passes : σ → Prop) [DecidablePred passes] (next : σ → Option σ)

/-- The state that passes, within so many checks. -/
def search : ℕ → σ → Option σ
  | 0, _ => none
  | left + 1, state => if passes state then some state else (next state).bind (search left)

variable {passes next} {left : ℕ} {state found : σ}

theorem search_of_passes (enough : 0 < left) (passed : passes state) :
    search passes next left state = some state := by
  cases left with
  | zero => exact absurd enough (Nat.lt_irrefl 0)
  | succ left => exact if_pos passed

/-- What is found passes, and has what the first state has and the next ones keep. -/
theorem passes_of_search (Kept : σ → Prop)
    (kept : ∀ before after, Kept before → next before = some after → Kept after)
    (start : Kept state) (result : search passes next left state = some found) :
    passes found ∧ Kept found := by
  induction left generalizing state with
  | zero => cases result
  | succ left ih =>
      rw [search] at result
      split at result
      case isTrue passed =>
          cases result
          exact ⟨passed, start⟩
      case isFalse =>
          obtain ⟨after, step, result⟩ := Option.bind_eq_some_iff.mp result
          exact ih (kept state after start step) result

end Iteration
