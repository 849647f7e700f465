import HftEngine.Lib.Transition
import Mathlib.Data.Int.Notation
import Mathlib.Data.Nat.Notation
import Mathlib.Tactic.Common

/-!
# The bulkhead

Any number of callers are in `Bulkhead.execute`.  A caller suspends while it
waits for a slot of the semaphore and while it awaits `func`; in between it
runs without interruption.  A timeout cancels the caller where it is suspended.
-/

namespace HftEngine.Bulkhead

open Transition

/-- The arguments of the constructor. -/
structure Config where
  max_concurrent : ℕ := 10
  max_queue : ℤ := 100

/-- A caller has been `woken` when the semaphore has given it a slot with which
it has not gone on yet.  It is `abandoned` when it was cancelled before that. -/
inductive Caller where
  | waiting
  | woken
  | running
  | left
  | abandoned
  deriving DecidableEq, Repr

/-- The slots are those that the semaphore has left. -/
structure State where
  slots : ℕ
  queue_size : ℤ := 0
  total_requests : ℕ := 0
  rejected_requests : ℕ := 0
  concurrent_requests : ℤ := 0
  callers : List Caller := []
  deriving DecidableEq, Repr

def start (config : Config) : State :=
  { slots := config.max_concurrent }

inductive Label where
  | execute (at_once : Bool)
  | wake (caller : ℕ)
  | resume (caller : ℕ)
  | cancel (caller : ℕ)
  | finish (caller : ℕ)
  deriving DecidableEq, Repr

namespace State

def arrive (caller : Caller) (state : State) : State :=
  { state with callers := state.callers ++ [caller] }

def move (id : ℕ) (caller : Caller) (state : State) : State :=
  { state with callers := state.callers.set id caller }

/-- `execute` up to its first suspension: a caller that finds a slot starts
`func` at once. -/
def execute (config : Config) (at_once : Bool) (state : State) : Option State :=
  let counted := { state with total_requests := state.total_requests + 1 }
  if config.max_queue ≤ state.queue_size then
    some ({ counted with
      rejected_requests := state.rejected_requests + 1 }.arrive .left)
  else if at_once then
    if 0 < state.slots then
      some ({ counted with
        slots := state.slots - 1
        concurrent_requests := state.concurrent_requests + 1 }.arrive .running)
    else none
  else some ({ counted with queue_size := state.queue_size + 1 }.arrive .waiting)

def wake (id : ℕ) (state : State) : State :=
  { state with slots := state.slots - 1 }.move id .woken

def resume (id : ℕ) (state : State) : State :=
  { state with
    queue_size := state.queue_size - 1
    concurrent_requests := state.concurrent_requests + 1 }.move id .running

/-- The exception leaves `execute` before the queue counter is lowered. -/
def cancel_waiting (id : ℕ) (state : State) : State :=
  state.move id .abandoned

/-- The semaphore takes the slot back from a caller that does not use it. -/
def cancel_woken (id : ℕ) (state : State) : State :=
  { state with slots := state.slots + 1 }.move id .abandoned

/-- The end of `func`, which has returned, raised or been cancelled. -/
def finish (id : ℕ) (state : State) : State :=
  { state with
    slots := state.slots + 1
    concurrent_requests := state.concurrent_requests - 1 }.move id .left

end State

def step (config : Config) (state : State) : Label → Option State
  | .execute at_once => state.execute config at_once
  | .wake id =>
      if state.callers[id]? = some .waiting ∧ 0 < state.slots then some (state.wake id)
      else none
  | .resume id =>
      if state.callers[id]? = some .woken then some (state.resume id) else none
  | .cancel id =>
      if state.callers[id]? = some .waiting then some (state.cancel_waiting id)
      else if state.callers[id]? = some .woken then some (state.cancel_woken id)
      else none
  | .finish id =>
      if state.callers[id]? = some .running then some (state.finish id) else none

def system (config : Config) : System State Label where
  start := start config
  step := step config

/-! ## Where the callers are -/

namespace Caller

/-- The caller waits for a slot. -/
def waits : Caller → Bool
  | .waiting | .woken => true
  | .running | .left | .abandoned => false

def runs : Caller → Bool
  | .running => true
  | .waiting | .woken | .left | .abandoned => false

def has_slot : Caller → Bool
  | .woken | .running => true
  | .waiting | .left | .abandoned => false

/-- The caller has raised the queue counter and not lowered it. -/
def is_counted : Caller → Bool
  | .waiting | .woken | .abandoned => true
  | .running | .left => false

/-- The caller is no longer in `execute`. -/
def is_gone : Caller → Bool
  | .left | .abandoned => true
  | .waiting | .woken | .running => false

end Caller

theorem ite_eq_toNat (b : Bool) : (if b = true then 1 else 0) = b.toNat := by
  cases b <;> rfl

theorem countP_set_add {callers : List Caller} {id : ℕ} {before : Caller}
    (found : callers[id]? = some before) (after : Caller) (p : Caller → Bool) :
    (callers.set id after).countP p + (p before).toNat =
      callers.countP p + (p after).toNat := by
  induction callers generalizing id with
  | nil => simp at found
  | cons head callers ih =>
      cases id with
      | zero =>
          obtain rfl : head = before := by simpa using found
          rw [List.set_cons_zero, List.countP_cons, List.countP_cons, ite_eq_toNat,
            ite_eq_toNat]
          omega
      | succ id =>
          have rest := ih (by simpa using found)
          rw [List.set_cons_succ, List.countP_cons, List.countP_cons]
          omega

theorem countP_is_counted (callers : List Caller) :
    callers.countP Caller.is_counted =
      callers.countP Caller.waits + callers.count .abandoned := by
  induction callers with
  | nil => rfl
  | cons head callers ih =>
      rw [List.countP_cons, List.countP_cons, List.count_cons, ih]
      cases head <;> simp [Caller.is_counted, Caller.waits] <;> omega

/-! ## The counters -/

/-- What the counters are in every state. -/
structure Valid (config : Config) (state : State) : Prop where
  queue : state.queue_size = state.callers.countP Caller.is_counted
  running : state.concurrent_requests = state.callers.countP Caller.runs
  slots : state.slots + state.callers.countP Caller.has_slot = config.max_concurrent

section Steps

variable {config : Config} {state next : State} {label : Label} {id : ℕ}

theorem Valid.arrive {caller : Caller} (valid : Valid config state)
    (arrived : next.callers = state.callers ++ [caller])
    (queue : next.queue_size = state.queue_size + caller.is_counted.toNat)
    (running : next.concurrent_requests =
      state.concurrent_requests + caller.runs.toNat)
    (slots : next.slots + caller.has_slot.toNat = state.slots) : Valid config next := by
  have added : ∀ p : Caller → Bool,
      next.callers.countP p = state.callers.countP p + (p caller).toNat := by
    intro p
    rw [arrived, List.countP_append, List.countP_singleton, ite_eq_toNat]
  constructor
  · rw [queue, valid.queue, added]
    omega
  · rw [running, valid.running, added]
    omega
  · rw [added, ← valid.slots, ← slots]
    omega

/-- A counter follows a caller when it changes by what the caller counts there. -/
theorem Valid.move {before after : Caller} (valid : Valid config state)
    (found : state.callers[id]? = some before)
    (moved : next.callers = state.callers.set id after)
    (queue : next.queue_size + before.is_counted.toNat =
      state.queue_size + after.is_counted.toNat)
    (running : next.concurrent_requests + before.runs.toNat =
      state.concurrent_requests + after.runs.toNat)
    (slots : next.slots + after.has_slot.toNat = state.slots + before.has_slot.toNat) :
    Valid config next := by
  have counted := countP_set_add found after
  have queued := valid.queue
  have run := valid.running
  have free := valid.slots
  constructor
  · have changed := counted Caller.is_counted
    rw [moved]
    omega
  · have changed := counted Caller.runs
    rw [moved]
    omega
  · have changed := counted Caller.has_slot
    rw [moved]
    omega

theorem Valid.execute {at_once : Bool} (valid : Valid config state)
    (taken : state.execute config at_once = some next) : Valid config next := by
  simp only [State.execute] at taken
  split_ifs at taken with full now free
  · cases Option.some.inj taken
    exact valid.arrive rfl (by simp [State.arrive, Caller.is_counted])
      (by simp [State.arrive, Caller.runs]) (by simp [State.arrive, Caller.has_slot])
  · cases Option.some.inj taken
    exact valid.arrive rfl (by simp [State.arrive, Caller.is_counted])
      (by simp [State.arrive, Caller.runs])
      (by simp only [State.arrive, Caller.has_slot, Bool.toNat_true]; omega)
  · cases Option.some.inj taken
    exact valid.arrive rfl (by simp [State.arrive, Caller.is_counted])
      (by simp [State.arrive, Caller.runs]) (by simp [State.arrive, Caller.has_slot])

theorem valid_step (valid : Valid config state)
    (taken : step config state label = some next) : Valid config next := by
  cases label with
  | execute at_once => exact valid.execute taken
  | wake id =>
      obtain ⟨⟨found, free⟩, rfl⟩ := guarded_eq_some.mp taken
      apply valid.move found rfl
      · rfl
      · rfl
      · simp only [State.wake, State.move, Caller.has_slot, Bool.toNat_true,
          Bool.toNat_false]
        omega
  | resume id =>
      obtain ⟨found, rfl⟩ := guarded_eq_some.mp taken
      apply valid.move found rfl
      · simp [State.resume, State.move, Caller.is_counted]
      · simp [State.resume, State.move, Caller.runs]
      · rfl
  | cancel id =>
      simp only [step] at taken
      split_ifs at taken with waiting woken
      · cases Option.some.inj taken
        exact valid.move waiting rfl rfl rfl rfl
      · cases Option.some.inj taken
        exact valid.move woken rfl rfl rfl rfl
  | finish id =>
      obtain ⟨found, rfl⟩ := guarded_eq_some.mp taken
      apply valid.move found rfl
      · rfl
      · simp [State.finish, State.move, Caller.runs]
      · rfl

theorem valid_start (config : Config) : Valid config (start config) :=
  ⟨rfl, rfl, rfl⟩

theorem valid_of_reachable (reached : Reachable (system config) state) :
    Valid config state := by
  apply reached.invariant (valid_start config)
  intro before label after valid _ taken
  exact valid_step valid taken

end Steps

/-! ## Accounting -/

/-- The counters say where the callers are. -/
structure Accounted (config : Config) (state : State) : Prop where
  queue : state.queue_size = state.callers.countP Caller.waits
  running : state.callers.countP Caller.runs ≤ config.max_concurrent
  gone : (∀ caller ∈ state.callers, caller.is_gone = true) →
    state.queue_size = 0 ∧ state.concurrent_requests = 0

theorem countP_eq_zero_of_gone {callers : List Caller} {p : Caller → Bool}
    (gone : ∀ caller ∈ callers, caller.is_gone = true)
    (none_gone : ∀ caller, p caller = true → caller.is_gone = false) :
    callers.countP p = 0 := by
  apply List.countP_eq_zero.mpr
  intro caller member counted
  have away := gone caller member
  rw [none_gone caller counted] at away
  contradiction

theorem countP_runs_le (callers : List Caller) :
    callers.countP Caller.runs ≤ callers.countP Caller.has_slot := by
  apply List.countP_mono_left
  intro caller _ runs
  cases caller <;> first | rfl | contradiction

/-- The accounting holds just as long as no caller has been cancelled while it
waited for a slot. -/
theorem accounted_iff {config : Config} {state : State}
    (reached : Reachable (system config) state) :
    Accounted config state ↔ .abandoned ∉ state.callers := by
  have valid := valid_of_reachable reached
  have queue := valid.queue
  rw [countP_is_counted] at queue
  constructor
  · intro accounted
    have waiting := accounted.queue
    rw [← List.count_eq_zero]
    omega
  · intro none_abandoned
    rw [← List.count_eq_zero] at none_abandoned
    have waiting : state.queue_size = state.callers.countP Caller.waits := by omega
    refine ⟨waiting, ?_, ?_⟩
    · have slots := valid.slots
      have within := countP_runs_le state.callers
      omega
    · intro gone
      rw [waiting, valid.running, countP_eq_zero_of_gone gone,
        countP_eq_zero_of_gone gone]
      · exact ⟨rfl, rfl⟩
      · intro caller runs
        cases caller <;> first | rfl | contradiction
      · intro caller waits
        cases caller <;> first | rfl | contradiction

/-- The state of a bulkhead with one slot after some steps. -/
def after (labels : List Label) : State :=
  (labels.foldlM (step { max_concurrent := 1 })
    (start { max_concurrent := 1 })).getD (start { max_concurrent := 1 })

theorem reachable_after {labels : List Label}
    (taken : labels.foldlM (step { max_concurrent := 1 })
      (start { max_concurrent := 1 }) = some (after labels)) :
    Reachable (system { max_concurrent := 1 }) (after labels) :=
  ReachedBy.follow (fun _ _ _ => trivial) .start taken

/-- One caller runs and another waits for its slot. -/
def one_waits : List Label :=
  [.execute true, .execute false]

theorem accounted_one_waits :
    Accounted { max_concurrent := 1 } (after one_waits) :=
  (accounted_iff (reachable_after rfl)).mpr (by decide)

/-- The waiting caller is cancelled, and the other one returns. -/
def one_abandoned : List Label :=
  one_waits ++ [.cancel 1, .finish 0]

theorem one_abandoned_not_accounted :
    Reachable (system { max_concurrent := 1 }) (after one_abandoned) ∧
      (∀ caller ∈ (after one_abandoned).callers, caller.is_gone = true) ∧
      ¬Accounted { max_concurrent := 1 } (after one_abandoned) := by
  refine ⟨reachable_after rfl, by decide, ?_⟩
  intro accounted
  have counters := accounted.gone (by decide)
  exact absurd counters.1 (by decide)

end HftEngine.Bulkhead
