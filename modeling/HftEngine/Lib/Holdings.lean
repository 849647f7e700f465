import Mathlib.Algebra.BigOperators.Group.Finset.Basic

/-!
# What tasks hold

The sum of what each task of a table holds, where a task that has not started holds
nothing.
-/

namespace Tasks

open Finset

variable {Task M : Type*} [AddCommMonoid M] {amount : Task → M} {created : ℕ}
  {tasks : ℕ → Option Task}

/-- What the first `created` tasks hold together. -/
def held (amount : Task → M) (created : ℕ) (tasks : ℕ → Option Task) : M :=
  ∑ id ∈ range created, (tasks id).elim 0 amount

/-- A task that changes gives back what it has held and takes what it holds now. -/
theorem held_update {id : ℕ} (within : id < created) (task : Option Task) :
    held amount created (Function.update tasks id task) + (tasks id).elim 0 amount =
      held amount created tasks + task.elim 0 amount := by
  have member : id ∈ range created := mem_range.mpr within
  have others : ∀ other ∈ (range created).erase id,
      (Function.update tasks id task other).elim 0 amount =
        (tasks other).elim 0 amount := by
    intro other listed
    rw [Function.update_of_ne (mem_erase.mp listed).1]
  have before := add_sum_erase (range created) (fun id => (tasks id).elim 0 amount) member
  unfold held
  rw [← add_sum_erase _ _ member, sum_congr rfl others, Function.update_self, ← before,
    add_right_comm, add_comm (task.elim 0 amount), add_right_comm]

/-- A task starts. -/
theorem held_start (task : Task) :
    held amount (created + 1) (Function.update tasks created (some task)) =
      held amount created tasks + amount task := by
  have others : ∀ other ∈ range created,
      (Function.update tasks created (some task) other).elim 0 amount =
        (tasks other).elim 0 amount := by
    intro other listed
    rw [Function.update_of_ne (mem_range.mp listed).ne]
  unfold held
  rw [sum_range_succ, sum_congr rfl others, Function.update_self]
  rfl

/-- A total stays the same when a task exchanges what it holds with the rest. -/
theorem held_exchange {M : Type*} [AddCancelCommMonoid M] {amount : Task → M}
    {total rest others : M} {id : ℕ} (within : id < created) {task : Option Task}
    (sum : total = rest + held amount created tasks)
    (exchanged : rest + (tasks id).elim 0 amount = others + task.elim 0 amount) :
    total = others + held amount created (Function.update tasks id task) := by
  apply add_right_cancel (b := (tasks id).elim 0 amount)
  calc total + (tasks id).elim 0 amount
      = rest + (tasks id).elim 0 amount + held amount created tasks := by
        rw [sum, add_right_comm]
    _ = others + (held amount created tasks + task.elim 0 amount) := by
        rw [exchanged, add_right_comm, add_assoc]
    _ = others + held amount created (Function.update tasks id task) +
          (tasks id).elim 0 amount := by
        rw [← held_update within task, add_assoc]

end Tasks
