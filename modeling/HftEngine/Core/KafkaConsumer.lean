import HftEngine.Lib.Transition
import Mathlib.Logic.Function.Basic
import Mathlib.Order.Nat

/-!
# The consumer loop of the Kafka client

Messages are collected into batches of ten, and the callbacks of a full batch are run
concurrently before the next message is taken from the iterator.
-/

namespace HftEngine.KafkaConsumer

open Transition

def batch_size : ℕ := 10

/-- The coroutine of a message: not yet started, in its callback, at its end, or cancelled
before it has started. -/
inductive Task where
  | ready
  | running
  | done
  | dropped
  deriving DecidableEq

/-- The coroutine has come to its callback. -/
def Task.called : Task → Bool
  | .ready => false
  | .running => true
  | .done => true
  | .dropped => false

def Task.ended : Task → Bool
  | .ready => false
  | .running => false
  | .done => true
  | .dropped => true

theorem Task.eq_done {task : Task} (ended : task.ended = true) (kept : task ≠ .dropped) :
    task = .done := by
  cases task with
  | ready => contradiction
  | running => contradiction
  | done => rfl
  | dropped => exact absurd rfl kept

/-- `remaining` is the gather after the loop. -/
inductive Stage where
  | iterating
  | gathering (remaining cancelled : Bool)
  | ended
  deriving DecidableEq

/-- Messages are numbered as they are received, and the batch is those after the first
`gathered` ones. -/
structure State (Message : Type) where
  stage : Stage := .iterating
  received : List Message := []
  gathered : ℕ := 0
  tasks : ℕ → Task := fun _ => .ready
  semaphore : ℕ := 10
  callbacks : ℕ → List Message := fun _ => []

/-- How a callback ends; an exception is logged. -/
inductive Outcome where
  | returned
  | raised
  | cancelled

/-- `raised` is an exception of the iterator, or a cancellation of the call while it waits
for the next message; `cancel` is one while it gathers. -/
inductive Label (Message : Type) where
  | next (message : Message)
  | exhausted
  | raised
  | start (number : ℕ)
  | finished (number : ℕ) (outcome : Outcome)
  | cancel
  | done

section Step

variable {Message : Type}

namespace State

def batch (state : State Message) : List Message :=
  state.received.drop state.gathered

def InBatch (state : State Message) (number : ℕ) : Prop :=
  state.gathered ≤ number ∧ number < state.received.length

instance (state : State Message) (number : ℕ) : Decidable (state.InBatch number) :=
  inferInstanceAs (Decidable (_ ∧ _))

def received_one (message : Message) (state : State Message) : State Message :=
  let state := { state with received := state.received ++ [message] }
  if state.batch.length ≥ batch_size then
    { state with stage := .gathering false false }
  else state

/-- The coroutine enters the semaphore and calls back. -/
def process_message (number : ℕ) (message : Message) (state : State Message) :
    State Message :=
  { state with
    tasks := Function.update state.tasks number .running
    semaphore := state.semaphore - 1
    callbacks := Function.update state.callbacks number
      (state.callbacks number ++ [message]) }

/-- A cancelled gather cancels its coroutines; one that has not started never runs. -/
def cancel (state : State Message) : ℕ → Task := fun number =>
  if state.InBatch number ∧ state.tasks number = .ready then .dropped
  else state.tasks number

/-- The gather is over, and the batch is emptied where the loop goes on. -/
def next_batch (remaining cancelled : Bool) (state : State Message) : State Message :=
  if remaining ∨ cancelled then { state with stage := .ended }
  else { state with stage := .iterating, gathered := state.received.length }

end State

def step (state : State Message) : Label Message → Option (State Message)
  | .next message =>
      match state.stage with
      | .iterating => some (state.received_one message)
      | _ => none
  | .exhausted =>
      match state.stage with
      | .iterating =>
          if state.batch = [] then some { state with stage := .ended }
          else some { state with stage := .gathering true false }
      | _ => none
  | .raised =>
      match state.stage with
      | .iterating => some { state with stage := .ended }
      | _ => none
  | .start number =>
      match state.stage, state.received[number]? with
      | .gathering _ _, some message =>
          if state.gathered ≤ number ∧ state.tasks number = .ready ∧
              0 < state.semaphore then
            some (state.process_message number message)
          else none
      | _, _ => none
  | .finished number _ =>
      if state.tasks number = .running then
        some
          { state with
            tasks := Function.update state.tasks number .done
            semaphore := state.semaphore + 1 }
      else none
  | .cancel =>
      match state.stage with
      | .gathering remaining _ =>
          some { state with stage := .gathering remaining true, tasks := state.cancel }
      | _ => none
  | .done =>
      match state.stage with
      | .gathering remaining cancelled =>
          if ∀ number < state.received.length, state.gathered ≤ number →
              (state.tasks number).ended then
            some (state.next_batch remaining cancelled)
          else none
      | _ => none

/-- A call of `consume`, which raises at once where the consumer has not been started. -/
def consume (Message : Type) (started : Bool) :
    System (State Message) (Label Message) where
  start := { stage := if started then .iterating else .ended }
  step := step

end Step

/-! ## What a step does -/

section Moves

variable {Message : Type}

inductive Moves (state : State Message) : Label Message → State Message → Prop where
  | next (message : Message) (iterating : state.stage = .iterating) :
      Moves state (.next message) (state.received_one message)
  | exhausted (iterating : state.stage = .iterating) (empty : state.batch = []) :
      Moves state .exhausted { state with stage := .ended }
  | remaining (iterating : state.stage = .iterating) (some_left : state.batch ≠ []) :
      Moves state .exhausted { state with stage := .gathering true false }
  | raised (iterating : state.stage = .iterating) :
      Moves state .raised { state with stage := .ended }
  | start {remaining cancelled : Bool} {number : ℕ} {message : Message}
      (gathering : state.stage = .gathering remaining cancelled)
      (found : state.received[number]? = some message) (own : state.gathered ≤ number)
      (ready : state.tasks number = .ready) :
      Moves state (.start number) (state.process_message number message)
  | finished {number : ℕ} (outcome : Outcome) (running : state.tasks number = .running) :
      Moves state (.finished number outcome)
        { state with
          tasks := Function.update state.tasks number .done
          semaphore := state.semaphore + 1 }
  | cancel {remaining cancelled : Bool}
      (gathering : state.stage = .gathering remaining cancelled) :
      Moves state .cancel
        { state with stage := .gathering remaining true, tasks := state.cancel }
  | done {remaining cancelled : Bool}
      (gathering : state.stage = .gathering remaining cancelled)
      (all_ended : ∀ number < state.received.length, state.gathered ≤ number →
        (state.tasks number).ended = true) :
      Moves state .done (state.next_batch remaining cancelled)

theorem moves_of_step {state after : State Message} {label : Label Message}
    (taken : step state label = some after) : Moves state label after := by
  cases label with
  | next message =>
      simp only [step] at taken
      split at taken
      case h_1 iterating => exact Option.some.inj taken ▸ .next message iterating
      case h_2 => contradiction
  | exhausted =>
      simp only [step] at taken
      split at taken
      case h_1 iterating =>
          split at taken
          case isTrue empty => exact Option.some.inj taken ▸ .exhausted iterating empty
          case isFalse some_left =>
              exact Option.some.inj taken ▸ .remaining iterating some_left
      case h_2 => contradiction
  | raised =>
      simp only [step] at taken
      split at taken
      case h_1 iterating => exact Option.some.inj taken ▸ .raised iterating
      case h_2 => contradiction
  | start number =>
      simp only [step] at taken
      split at taken
      case h_1 gathering found =>
          obtain ⟨⟨own, ready, _⟩, rfl⟩ := guarded_eq_some.mp taken
          exact .start gathering found own ready
      case h_2 => contradiction
  | finished number outcome =>
      obtain ⟨running, rfl⟩ := guarded_eq_some.mp taken
      exact .finished outcome running
  | cancel =>
      simp only [step] at taken
      split at taken
      case h_1 gathering => exact Option.some.inj taken ▸ .cancel gathering
      case h_2 => contradiction
  | done =>
      simp only [step] at taken
      split at taken
      case h_1 gathering =>
          obtain ⟨all_ended, rfl⟩ := guarded_eq_some.mp taken
          exact .done gathering all_ended
      case h_2 => contradiction

end Moves

/-! ## Delivery -/

section Delivery

variable {Message : Type}

/-- Every message received has had its callback run once. -/
def Delivered (state : State Message) : Prop :=
  ∀ number message, state.received[number]? = some message →
    state.callbacks number = [message]

/-- The call ends without a batch that has not been gathered, and with no coroutine of the
batch cancelled before it has started. -/
def Leaves (state : State Message) : Label Message → Prop
  | .raised => state.received.length % batch_size = 0
  | .done => ∀ number, state.InBatch number → state.tasks number ≠ .dropped
  | _ => True

/-! ## The invariant -/

/-- What holds of the batch where the call is. -/
def Stage.Fits (state : State Message) : Stage → Prop
  | .iterating => state.received.length - state.gathered < batch_size ∧
      ∀ number, state.InBatch number → state.tasks number = .ready
  | .gathering remaining cancelled =>
      (remaining = false → state.received.length - state.gathered = batch_size) ∧
        (cancelled = false → ∀ number, state.tasks number ≠ .dropped)
  | .ended => ∀ number, state.tasks number ≠ .running

structure Valid (state : State Message) : Prop where
  within : state.gathered ≤ state.received.length
  full : state.gathered % batch_size = 0
  earlier : ∀ number < state.gathered, state.tasks number = .done
  later : ∀ number, state.received.length ≤ number → state.tasks number = .ready
  callbacks : ∀ number, state.callbacks number =
    if (state.tasks number).called then state.received[number]?.toList else []
  stage : state.stage.Fits state

variable {state after : State Message} {number : ℕ} {message : Message}

theorem delivered_iff_called (valid : Valid state) :
    Delivered state ↔
      ∀ number < state.received.length, (state.tasks number).called = true := by
  constructor
  · intro delivered number before
    have once := delivered number _ (List.getElem?_eq_getElem before)
    rw [valid.callbacks number] at once
    by_contra not_called
    rw [if_neg not_called] at once
    contradiction
  · intro called number message found
    obtain ⟨before, _⟩ := List.getElem?_eq_some_iff.mp found
    rw [valid.callbacks number, if_pos (called number before), found]
    rfl

theorem Valid.start (started : Bool) :
    Valid (consume Message started).start where
  within := Nat.le_refl 0
  full := rfl
  earlier := by
    intro number impossible
    contradiction
  later := by
    intro number _
    rfl
  callbacks := by
    intro number
    rfl
  stage := by
    cases started with
    | false => exact nofun
    | true =>
        constructor
        · exact Nat.zero_lt_succ 9
        · intro number _
          rfl

/-- The call moves on without a change to its batch. -/
theorem Valid.move (valid : Valid state) {stage : Stage} (fits : stage.Fits state) :
    Valid { state with stage } :=
  { valid with
    stage := by
      cases stage with
      | iterating => exact fits
      | gathering => exact fits
      | ended => exact fits }

/-- None of the coroutines collected has started. -/
theorem Valid.all_ready (valid : Valid state) (iterating : state.stage = .iterating)
    (own : state.gathered ≤ number) : state.tasks number = .ready := by
  obtain ⟨_, ready⟩ := iterating ▸ valid.stage
  by_cases before : number < state.received.length
  · exact ready number ⟨own, before⟩
  · exact valid.later number (Nat.le_of_not_lt before)

theorem Valid.settled (valid : Valid state) (iterating : state.stage = .iterating)
    (number : ℕ) : state.tasks number = .ready ∨ state.tasks number = .done := by
  by_cases own : state.gathered ≤ number
  · exact .inl (valid.all_ready iterating own)
  · exact .inr (valid.earlier number (Nat.lt_of_not_le own))

theorem Valid.none_dropped (valid : Valid state) (iterating : state.stage = .iterating)
    (number : ℕ) : state.tasks number ≠ .dropped := by
  rcases valid.settled iterating number with ready | done
  · exact ready ▸ nofun
  · exact done ▸ nofun

theorem Valid.none_running (valid : Valid state) (iterating : state.stage = .iterating)
    (number : ℕ) : state.tasks number ≠ .running := by
  rcases valid.settled iterating number with ready | done
  · exact ready ▸ nofun
  · exact done ▸ nofun

theorem Valid.received_one (valid : Valid state) (iterating : state.stage = .iterating) :
    Valid (state.received_one message) := by
  obtain ⟨room, _⟩ := iterating ▸ valid.stage
  have longer : (state.received ++ [message]).length = state.received.length + 1 :=
    List.length_append
  have grows : state.received.length ≤ (state.received ++ [message]).length :=
    longer ▸ Nat.le_succ _
  have collected : Valid
      { state with received := state.received ++ [message], stage := .ended } := by
    refine ⟨?_, valid.full, valid.earlier, ?_, ?_, valid.none_running iterating⟩
    · exact valid.within.trans (longer ▸ Nat.le_succ _)
    · intro number beyond
      exact valid.later number (grows.trans beyond)
    · intro number
      rw [valid.callbacks number]
      by_cases before : number < state.received.length
      · rw [List.getElem?_append_left before]
      · rw [valid.later number (Nat.le_of_not_lt before)]
        rfl
  have size : (state.received ++ [message]).length - state.gathered =
      state.received.length - state.gathered + 1 := by
    rw [longer, Nat.succ_sub valid.within]
  simp only [State.received_one, State.batch, List.length_drop, size]
  split
  case isTrue is_full =>
      exact collected.move ⟨fun _ => size.trans (Nat.le_antisymm room is_full),
        fun _ => valid.none_dropped iterating⟩
  case isFalse not_full =>
      rw [iterating]
      exact collected.move ⟨size.trans_lt (Nat.lt_of_not_le not_full),
        fun number own => valid.all_ready iterating own.1⟩

/-- One coroutine of the batch moves on. -/
theorem Valid.put (valid : Valid state) {remaining cancelled : Bool} {task : Task}
    {semaphore : ℕ} {called : List Message}
    (gathering : state.stage = .gathering remaining cancelled)
    (own : state.InBatch number) (kept : task ≠ .dropped)
    (calls : called = if task.called then state.received[number]?.toList else []) :
    Valid
      { state with
        tasks := Function.update state.tasks number task
        semaphore
        callbacks := Function.update state.callbacks number called } where
  within := valid.within
  full := valid.full
  earlier := by
    intro other before
    have apart := Nat.ne_of_lt (before.trans_le own.1)
    exact (Function.update_of_ne apart _ _).trans (valid.earlier other before)
  later := by
    intro other beyond
    have apart := Nat.ne_of_gt (own.2.trans_le beyond)
    exact (Function.update_of_ne apart _ _).trans (valid.later other beyond)
  callbacks := by
    intro other
    change Function.update state.callbacks number called other =
      if (Function.update state.tasks number task other).called then _ else _
    by_cases same : other = number
    · subst same
      rw [Function.update_self, Function.update_self]
      exact calls
    · rw [Function.update_of_ne same, Function.update_of_ne same]
      exact valid.callbacks other
  stage := by
    have fits := valid.stage
    rw [gathering] at fits ⊢
    refine ⟨fits.1, ?_⟩
    intro going other
    change Function.update state.tasks number task other ≠ .dropped
    by_cases same : other = number
    · subst same
      rw [Function.update_self]
      exact kept
    · rw [Function.update_of_ne same]
      exact fits.2 going other

/-- A callback runs only while its batch is gathered. -/
theorem Valid.gathering (valid : Valid state) (running : state.tasks number = .running) :
    ∃ remaining cancelled, state.stage = .gathering remaining cancelled := by
  cases where_it_is : state.stage with
  | iterating => exact absurd running (valid.none_running where_it_is number)
  | gathering remaining cancelled => exact ⟨remaining, cancelled, rfl⟩
  | ended =>
      have fits := valid.stage
      rw [where_it_is] at fits
      exact absurd running (fits number)

theorem Valid.in_batch (valid : Valid state) (running : state.tasks number = .running) :
    state.InBatch number := by
  constructor
  · by_contra early
    have done := valid.earlier number (Nat.lt_of_not_le early)
    exact absurd (running.symm.trans done) nofun
  · by_contra beyond
    have ready := valid.later number (Nat.le_of_not_lt beyond)
    exact absurd (running.symm.trans ready) nofun

theorem Valid.finished (valid : Valid state) (running : state.tasks number = .running) :
    Valid
      { state with
        tasks := Function.update state.tasks number .done
        semaphore := state.semaphore + 1 } := by
  obtain ⟨remaining, cancelled, gathering⟩ := valid.gathering running
  have called := valid.callbacks number
  rw [running] at called
  have moved : Valid
      { state with
        tasks := Function.update state.tasks number .done
        semaphore := state.semaphore + 1
        callbacks := Function.update state.callbacks number (state.callbacks number) } :=
    valid.put gathering (valid.in_batch running) nofun called
  rw [Function.update_eq_self] at moved
  exact moved

/-- Once a gather is over, no callback of it runs. -/
theorem Valid.none_running_of_ended (valid : Valid state)
    (all_ended : ∀ number < state.received.length, state.gathered ≤ number →
      (state.tasks number).ended = true) :
    ∀ number, state.tasks number ≠ .running := by
  intro number running
  obtain ⟨own, before⟩ := valid.in_batch running
  have finished := all_ended number before own
  rw [running] at finished
  contradiction

theorem Valid.cancel (valid : Valid state) {remaining cancelled : Bool}
    (gathering : state.stage = .gathering remaining cancelled) :
    Valid { state with stage := .gathering remaining true, tasks := state.cancel } where
  within := valid.within
  full := valid.full
  earlier := by
    intro number before
    have apart : ¬state.InBatch number := fun own => Nat.not_le_of_lt before own.1
    exact (if_neg (fun both => apart both.1)).trans (valid.earlier number before)
  later := by
    intro number beyond
    have apart : ¬state.InBatch number := fun own => Nat.not_le_of_lt own.2 beyond
    exact (if_neg (fun both => apart both.1)).trans (valid.later number beyond)
  callbacks := by
    intro number
    have calls := valid.callbacks number
    simp only [State.cancel]
    split
    case isTrue both =>
        rw [both.2] at calls
        exact calls
    case isFalse => exact calls
  stage := by
    have fits := valid.stage
    rw [gathering] at fits
    exact ⟨fits.1, nofun⟩

theorem Valid.next_batch (valid : Valid state) {remaining cancelled : Bool}
    (gathering : state.stage = .gathering remaining cancelled)
    (all_ended : ∀ number < state.received.length, state.gathered ≤ number →
      (state.tasks number).ended = true) :
    Valid (state.next_batch remaining cancelled) := by
  unfold State.next_batch
  split
  case isTrue => exact valid.move (valid.none_running_of_ended all_ended)
  case isFalse going =>
      have fits := valid.stage
      rw [gathering] at fits
      obtain ⟨not_last, not_cancelled⟩ := not_or.mp going
      have size := fits.1 (eq_false_of_ne_true not_last)
      have no_drop := fits.2 (eq_false_of_ne_true not_cancelled)
      have total : state.received.length = state.gathered + batch_size := by
        rw [← size, Nat.add_sub_cancel' valid.within]
      refine ⟨Nat.le_refl _, ?_, ?_, valid.later, valid.callbacks, ?_, ?_⟩
      · rw [total, Nat.add_mod_right, valid.full]
      · intro number before
        by_cases own : state.gathered ≤ number
        · exact Task.eq_done (all_ended number before own) (no_drop number)
        · exact valid.earlier number (Nat.lt_of_not_le own)
      · rw [Nat.sub_self]
        exact Nat.zero_lt_succ 9
      · intro number own
        exact absurd own.2 (Nat.not_lt_of_le own.1)

theorem Valid.process_message (valid : Valid state) {remaining cancelled : Bool}
    (gathering : state.stage = .gathering remaining cancelled)
    (found : state.received[number]? = some message) (own : state.gathered ≤ number)
    (ready : state.tasks number = .ready) :
    Valid (state.process_message number message) := by
  obtain ⟨before, _⟩ := List.getElem?_eq_some_iff.mp found
  have nothing := valid.callbacks number
  rw [ready] at nothing
  have called : state.callbacks number ++ [message] = state.received[number]?.toList := by
    rw [nothing, found]
    rfl
  have kept : Task.running ≠ .dropped := nofun
  exact valid.put gathering ⟨own, before⟩ kept called

theorem Valid.step {label : Label Message} (valid : Valid state)
    (taken : step state label = some after) : Valid after := by
  cases moves_of_step taken with
  | next message iterating => exact valid.received_one iterating
  | exhausted iterating _ => exact valid.move (valid.none_running iterating)
  | remaining iterating _ =>
      exact valid.move ⟨nofun, fun _ => valid.none_dropped iterating⟩
  | raised iterating => exact valid.move (valid.none_running iterating)
  | start gathering found own ready => exact valid.process_message gathering found own ready
  | finished outcome running => exact valid.finished running
  | cancel gathering => exact valid.cancel gathering
  | done gathering all_ended => exact valid.next_batch gathering all_ended

theorem valid_of_reachable {started : Bool}
    (reached : Reachable (consume Message started) state) : Valid state := by
  apply reached.invariant
  · exact Valid.start started
  · intro before label after valid _ taken
    exact valid.step taken

/-- A call that leaves its loop with a batch that is not gathered has called back for the
others only. -/
theorem delivered_iff_multiple (valid : Valid state)
    (iterating : state.stage = .iterating) :
    Delivered state ↔ state.received.length % batch_size = 0 := by
  obtain ⟨room, _⟩ := iterating ▸ valid.stage
  rw [delivered_iff_called valid]
  constructor
  · intro called
    have all : state.received.length ≤ state.gathered := by
      by_contra more
      have own := called state.gathered (Nat.lt_of_not_le more)
      rw [valid.all_ready iterating (Nat.le_refl _)] at own
      contradiction
    exact (Nat.le_antisymm all valid.within) ▸ valid.full
  · intro multiple number before
    have full := valid.full
    have within := valid.within
    have early : number < state.gathered := by
      unfold batch_size at room multiple full
      omega
    rw [valid.earlier number early]
    rfl

theorem delivered_iff_none_dropped (valid : Valid state)
    (all_ended : ∀ number < state.received.length, state.gathered ≤ number →
      (state.tasks number).ended = true) :
    Delivered state ↔
      ∀ number, state.InBatch number → state.tasks number ≠ .dropped := by
  rw [delivered_iff_called valid]
  constructor
  · intro called number own dropped
    have came := called number own.2
    rw [dropped] at came
    contradiction
  · intro none_dropped number before
    by_cases own : state.gathered ≤ number
    · rw [Task.eq_done (all_ended number before own) (none_dropped number ⟨own, before⟩)]
      rfl
    · rw [valid.earlier number (Nat.lt_of_not_le own)]
      rfl

end Delivery

/-- When the call ends, every message received has had its callback run once if and only
if the iterator did not raise with a batch that was not full, and no coroutine was
cancelled before it had started. -/
theorem delivered_iff {Message : Type} {started : Bool} {before after : State Message}
    {label : Label Message} (reached : Reachable (consume Message started) before)
    (taken : (consume Message started).step before label = some after)
    (ended : after.stage = .ended) :
    Delivered after ↔ Leaves before label := by
  have valid := valid_of_reachable reached
  cases moves_of_step taken with
  | next message iterating =>
      simp only [State.received_one] at ended
      split at ended
      case isTrue => contradiction
      case isFalse => exact absurd (iterating.symm.trans ended) nofun
  | exhausted iterating empty =>
      have all := List.drop_eq_nil_iff.mp empty
      have full : before.received.length % batch_size = 0 :=
        (Nat.le_antisymm all valid.within) ▸ valid.full
      exact iff_of_true ((delivered_iff_multiple valid iterating).mpr full) trivial
  | remaining => contradiction
  | raised iterating =>
      change Delivered before ↔ _
      exact delivered_iff_multiple valid iterating
  | start gathering => exact absurd (gathering.symm.trans ended) nofun
  | finished outcome running =>
      obtain ⟨remaining, cancelled, gathering⟩ := valid.gathering running
      exact absurd (gathering.symm.trans ended) nofun
  | cancel => contradiction
  | done gathering all_ended =>
      unfold State.next_batch at ended ⊢
      split
      case isTrue =>
          change Delivered before ↔ _
          exact delivered_iff_none_dropped valid all_ended
      case isFalse going =>
          rw [if_neg going] at ended
          contradiction

def after (labels : List (Label ℕ)) : State ℕ :=
  (labels.foldlM step (consume ℕ true).start).getD {}

/-- One message, of which the callback is running while the call waits for it. -/
def called_back : List (Label ℕ) :=
  [.next 7, .exhausted, .start 0, .finished 0 .returned]

theorem called_back_delivered : Delivered (after (called_back ++ [.done])) := by
  have gathered : Reachable (consume ℕ true) (after called_back) :=
    .follow (fun _ _ _ => trivial) .start
      (rfl : called_back.foldlM step (consume ℕ true).start = some _)
  have leaves : Leaves (after called_back) .done := by
    intro number own
    obtain rfl : number = 0 := Nat.lt_one_iff.mp own.2
    exact nofun
  exact (delivered_iff gathered rfl rfl).mpr leaves

/-- The iterator raises with one message collected. -/
def raised_late : List (Label ℕ) := [.next 7, .raised]

theorem raised_late_not_delivered : ∃ state, Reachable (consume ℕ true) state ∧
    state.stage = .ended ∧ ¬Delivered state := by
  refine ⟨after raised_late, ?_, rfl, ?_⟩
  · exact .follow (fun _ _ _ => trivial) .start
      (rfl : raised_late.foldlM step (consume ℕ true).start = some _)
  · intro delivered
    have once := delivered 0 7 rfl
    contradiction

end HftEngine.KafkaConsumer
