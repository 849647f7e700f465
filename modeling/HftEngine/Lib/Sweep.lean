import Mathlib.Data.List.Range

/-!
# Sweeps over an array

A loop that writes the entries of an array one after the other, each from itself and the
entry after it.  No entry is read after it has been overwritten, so that the sweep
computes all entries from the old ones.
-/

universe u

namespace Sweep

variable {α : Type u} (f : ℕ → α → α → α) (default : α)

/-- `for i in range(n): cells[i] = f(i, cells[i], cells[i + 1])` -/
def sweep (n : ℕ) (cells : List α) : List α :=
  (List.range n).foldl (fun cells i =>
    cells.set i (f i (cells.getD i default) (cells.getD (i + 1) default))) cells

theorem sweep_succ (n : ℕ) (cells : List α) :
    sweep f default (n + 1) cells =
      (sweep f default n cells).set n (f n ((sweep f default n cells).getD n default)
        ((sweep f default n cells).getD (n + 1) default)) := by
  rw [sweep, List.range_succ, List.foldl_append]
  rfl

@[simp] theorem length_sweep (n : ℕ) (cells : List α) :
    (sweep f default n cells).length = cells.length := by
  induction n with
  | zero => rfl
  | succ n ih => rw [sweep_succ, List.length_set, ih]

theorem getD_set_self {cells : List α} {i : ℕ} (inside : i < cells.length) (value : α) :
    (cells.set i value).getD i default = value := by
  simp [List.getD_eq_getElem?_getD, inside]

theorem getD_set_ne {cells : List α} {i j : ℕ} (different : i ≠ j) (value : α) :
    (cells.set i value).getD j default = cells.getD j default := by
  simp [List.getD_eq_getElem?_getD, different]

/-- After `n` steps the first `n` entries are new, and the others are the old ones. -/
theorem getD_sweep {n : ℕ} {cells : List α} (inside : n ≤ cells.length) (j : ℕ) :
    (sweep f default n cells).getD j default =
      if j < n then f j (cells.getD j default) (cells.getD (j + 1) default)
      else cells.getD j default := by
  induction n generalizing j with
  | zero => rfl
  | succ n ih =>
      have before := ih (Nat.le_of_succ_le inside)
      rw [sweep_succ]
      rcases eq_or_ne n j with rfl | different
      · have reached : n < (sweep f default n cells).length := by
          rw [length_sweep]
          exact inside
        rw [getD_set_self default reached, before, before, if_neg (lt_irrefl n),
          if_neg (by omega), if_pos (Nat.lt_succ_self n)]
      · rw [getD_set_ne default different, before]
        congr 1
        rw [eq_iff_iff]
        omega

end Sweep
