import Mathlib.Logic.Basic

/-!
# Labelled transition systems

A system is a start state and a step function.  Every choice of the scheduler
and of the environment is carried by the label, so the step itself is a
function and a finite run can be computed.  `ReachedBy` restricts a run to
the steps that meet a condition; `Reachable` puts no restriction on them.
-/

namespace Transition

universe u v

/-- A deterministic step function over labels. -/
structure System (State : Type u) (Label : Type v) where
  start : State
  step : State → Label → Option State

variable {State : Type u} {Label : Type v}

/-- A step that waits for a condition. -/
theorem guarded_eq_some {p : Prop} [Decidable p] {next after : State} :
    (if p then some next else none) = some after ↔ p ∧ next = after := by
  rw [Option.ite_none_right_eq_some, Option.some.injEq]

/-- The states of the runs all of whose steps meet `allowed`. -/
inductive ReachedBy (system : System State Label)
    (allowed : State → Label → Prop) : State → Prop where
  | start : ReachedBy system allowed system.start
  | step {before after : State} {label : Label} :
      ReachedBy system allowed before →
      allowed before label →
      system.step before label = some after →
      ReachedBy system allowed after

/-- The states of all runs. -/
abbrev Reachable (system : System State Label) : State → Prop :=
  ReachedBy system (fun _ _ => True)

namespace System

/-- Follow a list of labels, failing at the first step that is not enabled or
does not meet the condition. -/
def run (system : System State Label) (allowed : State → Label → Prop)
    [∀ state label, Decidable (allowed state label)] :
    State → List Label → Option State
  | state, [] => some state
  | state, label :: labels =>
      if allowed state label then
        (system.step state label).bind
          (fun next => system.run allowed next labels)
      else none

end System

namespace ReachedBy

/-- The induction rule: what the start state satisfies and every allowed step
preserves holds in every state reached. -/
theorem invariant {system : System State Label}
    {allowed : State → Label → Prop} {I : State → Prop}
    (initially : I system.start)
    (preserved : ∀ before label after, I before → allowed before label →
      system.step before label = some after → I after)
    {state : State} (reached : ReachedBy system allowed state) :
    I state := by
  induction reached with
  | start => exact initially
  | step _ meets taken ih => exact preserved _ _ _ ih meets taken

/-- A computed run continues a reached state. -/
theorem extend {system : System State Label}
    {allowed : State → Label → Prop}
    [∀ state label, Decidable (allowed state label)] {labels : List Label} :
    ∀ {before after : State}, ReachedBy system allowed before →
      system.run allowed before labels = some after →
      ReachedBy system allowed after := by
  induction labels with
  | nil =>
      intro before after reached finished
      simp only [System.run, Option.some.injEq] at finished
      exact finished ▸ reached
  | cons label labels ih =>
      intro before after reached finished
      by_cases meets : allowed before label
      · simp only [System.run, if_pos meets] at finished
        obtain ⟨next, taken, rest⟩ := Option.bind_eq_some_iff.mp finished
        exact ih (.step reached meets taken) rest
      · simp [System.run, meets] at finished

/-- Labels that are allowed in any state, taken one after the other. -/
theorem follow {system : System State Label}
    {allowed : State → Label → Prop} {labels : List Label}
    (permitted : ∀ label ∈ labels, ∀ state, allowed state label) :
    ∀ {before after : State}, ReachedBy system allowed before →
      labels.foldlM system.step before = some after →
      ReachedBy system allowed after := by
  induction labels with
  | nil =>
      intro before after reached finished
      exact Option.some.inj finished ▸ reached
  | cons label labels ih =>
      intro before after reached finished
      rw [List.foldlM_cons] at finished
      obtain ⟨next, taken, rest⟩ := Option.bind_eq_some_iff.mp finished
      obtain ⟨first, others⟩ := List.forall_mem_cons.mp permitted
      exact ih others (.step reached (first before) taken) rest

/-- A state with a decidable property is reached when the computed run ends in
one. -/
theorem exists_of_run (system : System State Label)
    (allowed : State → Label → Prop)
    [∀ state label, Decidable (allowed state label)]
    (P : State → Prop) [DecidablePred P] (labels : List Label)
    (checked : (system.run allowed system.start labels).any
      (fun state => decide (P state)) = true) :
    ∃ state, ReachedBy system allowed state ∧ P state := by
  cases finished : system.run allowed system.start labels with
  | none => simp [finished] at checked
  | some state =>
      rw [finished] at checked
      exact ⟨state, extend .start finished, of_decide_eq_true checked⟩

end ReachedBy

end Transition
