import Mathlib.Logic.Function.Basic

/-!
# Tables of tasks

The tasks of an event loop under their numbers, where a task that has not
started is none.  What holds of every task is shown of the one that a step
changes, and of the others in the state after the step.
-/

namespace Tasks

variable {Id Task : Type*} {P : Id → Task → Prop} {tasks : Id → Option Task}

/-- Every task that has started has the property. -/
def All (P : Id → Task → Prop) (tasks : Id → Option Task) : Prop :=
  ∀ id task, tasks id = some task → P id task

theorem All.start (P : Id → Task → Prop) : All P (fun _ => none) := by
  intro id task impossible
  cases impossible

variable [DecidableEq Id]

/-- The others need the property only where they are not the one that changes. -/
theorem all_update {id : Id} {task : Option Task}
    (others : ∀ other found, other ≠ id → tasks other = some found → P other found)
    (own : ∀ found, task = some found → P id found) :
    All P (Function.update tasks id task) := by
  intro other found started
  by_cases same : other = id
  · subst same
    rw [Function.update_self] at started
    exact own found started
  · rw [Function.update_of_ne same] at started
    exact others other found same started

theorem All.update (all : All P tasks) {id : Id} {task : Task} (own : P id task) :
    All P (Function.update tasks id (some task)) := by
  apply all_update
  · intro other found _ started
    exact all other found started
  · intro found same
    exact Option.some.inj same ▸ own

theorem All.clear (all : All P tasks) (id : Id) :
    All P (Function.update tasks id none) := by
  apply all_update
  · intro other found _ started
    exact all other found started
  · intro found impossible
    cases impossible

end Tasks
