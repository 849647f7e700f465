import HftEngine.Backend.WebSocket.PriorityQueue
import HftEngine.Lib.Holdings
import HftEngine.Lib.Transition
import Mathlib.Algebra.Order.Group.Multiset

/-!
# The prioritized sender of a websocket

A background loop takes batches from the priority queue, packs each into one payload
and awaits its send.  The sender is started and stopped in the meantime.
-/

namespace HftEngine.WebSocket.Sender

open Transition Tasks Priority

/-- What is packed for a batch. -/
inductive Payload (Data : Type) where
  | single (data : Data)
  | batch (messages : List Data)

def Payload.of {Data : Type} : List (PrioritizedMessage Data) → Payload Data
  | [message] => .single message.data
  | messages => .batch (messages.map (·.data))

/-- Where a loop waits; the awaits of the queue's lock do not suspend it. -/
inductive Stage (Data : Type) where
  | ready
  | sending (batch : List (PrioritizedMessage Data))
  | sleeping
  | backing_off
  | ended

/-- The loop is about to check whether it is to go on. -/
def Stage.waits {Data : Type} : Stage Data → Bool
  | .ready => true
  | .sending _ => false
  | .sleeping => true
  | .backing_off => true
  | .ended => false

structure Loop (Data : Type) where
  stage : Stage Data := .ready
  cancelled : Bool := false

/-- The messages in the payload that a loop is sending. -/
def Loop.batch {Data : Type} (loop : Loop Data) : List (PrioritizedMessage Data) :=
  match loop.stage with
  | .sending batch => batch
  | _ => []

/-- The queue has the default limits. -/
def new_queue (Data : Type) : MessagePriorityQueue Data :=
  (MessagePriorityQueue.create Data (fun _ => none)).get rfl

/-- Loops and calls of `stop` are numbered; `stopping` holds the calls that await their
loop. -/
structure State (Data : Type) where
  queue : MessagePriorityQueue Data := new_queue Data
  running : Bool := false
  task : Option ℕ := none
  created : ℕ := 0
  loops : ℕ → Option (Loop Data) := fun _ => none
  stopping : Finset ℕ := ∅
  accepted : List (PrioritizedMessage Data) := []
  delivered : List (PrioritizedMessage Data) := []

inductive Outcome where
  | succeeded
  | failed
  | cancelled
  deriving DecidableEq

inductive Label (Data : Type) where
  | send (data : Data) (priority : MessagePriority) (message_type : String)
      (timestamp : ℚ)
  | start
  | stop (call : ℕ)
  | stopped (call : ℕ)
  | turn (id : ℕ)
  | sent (id : ℕ) (outcome : Outcome)

section Step

variable {Data : Type}

namespace State

def put (id : ℕ) (loop : Loop Data) (state : State Data) : State Data :=
  { state with loops := Function.update state.loops id (some loop) }

/-- `packb` is the encoder, with none where it raises. -/
def next_batch (packb : Payload Data → Option ByteArray) (batch_size : ℤ) (id : ℕ)
    (state : State Data) : State Data :=
  let (messages, queue) := state.queue.dequeue batch_size
  let state := { state with queue }
  if messages = [] then state.put id { stage := .sleeping }
  else
    match packb (.of messages) with
    | some _ => state.put id { stage := .sending messages }
    | none => state.put id { stage := .backing_off }

/-- A loop checks whether it is to go on, and takes the next batch. -/
def turn (packb : Payload Data → Option ByteArray) (batch_size : ℤ) (id : ℕ)
    (loop : Loop Data) (state : State Data) : State Data :=
  if loop.cancelled = true ∨ state.running = false then
    state.put id { loop with stage := .ended }
  else state.next_batch packb batch_size id

end State

/-- Where a loop is after a send.  A cancellation that was asked for is raised even
where the send has succeeded. -/
def Loop.after_send (outcome : Outcome) (loop : Loop Data) : Loop Data :=
  if loop.cancelled = true then { loop with stage := .ended }
  else
    match outcome with
    | .succeeded => { loop with stage := .sleeping }
    | .failed => { loop with stage := .backing_off }
    | .cancelled => { loop with stage := .ended }

def step (packb : Payload Data → Option ByteArray) (batch_size : ℤ)
    (state : State Data) : Label Data → Option (State Data)
  | .send data priority message_type timestamp =>
      let (queued, queue) := state.queue.enqueue data priority message_type timestamp
      some
        { state with
          queue
          accepted :=
            if queued then
              state.accepted ++ [{ priority, data, timestamp, message_type }]
            else state.accepted }
  | .start =>
      if state.running then some state
      else
        some
          { state with
            running := true
            task := some state.created
            created := state.created + 1
            loops := Function.update state.loops state.created (some {}) }
  | .stop call =>
      if call ∈ state.stopping then none
      else
        match state.task with
        | some task =>
            some
              { state with
                running := false
                loops := Function.update state.loops task
                  ((state.loops task).map (fun loop => { loop with cancelled := true }))
                stopping := insert call state.stopping }
        | none => some { state with running := false }
  | .stopped call =>
      if call ∈ state.stopping then
        some { state with task := none, stopping := state.stopping.erase call }
      else none
  | .turn id =>
      match state.loops id with
      | some loop =>
          if loop.stage.waits then some (state.turn packb batch_size id loop) else none
      | none => none
  | .sent id outcome =>
      match state.loops id with
      | some loop =>
          match loop.stage with
          | .sending batch =>
              let delivered :=
                if outcome = .succeeded then state.delivered ++ batch
                else state.delivered
              some ({ state with delivered }.put id (loop.after_send outcome))
          | _ => none
      | none => none

def sender (packb : Payload Data → Option ByteArray) (batch_size : ℤ) :
    System (State Data) (Label Data) where
  start := {}
  step := step packb batch_size

end Step

/-! ## What becomes of the messages -/

section Kept

variable {Data : Type}

def of_priority (priority : MessagePriority)
    (messages : List (PrioritizedMessage Data)) :
    Multiset (PrioritizedMessage Data) :=
  messages.filter (·.priority = priority)

/-- The messages that have been delivered or are still queued. -/
def accounted (priority : MessagePriority) (state : State Data) :
    Multiset (PrioritizedMessage Data) :=
  of_priority priority state.delivered + (state.queue.queues priority).items

/-- Each accepted message has been delivered or is still queued, those in a payload that
is being sent apart. -/
def Kept (state : State Data) : Prop :=
  ∀ priority, of_priority priority state.accepted =
    accounted priority state +
      held (fun loop => of_priority priority loop.batch) state.created state.loops

/-- Every batch can be encoded, and its send succeeds. -/
def Timely (packb : Payload Data → Option ByteArray) (batch_size : ℤ)
    (state : State Data) : Label Data → Prop
  | .turn id =>
      ∀ loop, state.loops id = some loop → loop.cancelled = false →
        state.running = true → (state.queue.dequeue batch_size).1 ≠ [] →
          packb (.of (state.queue.dequeue batch_size).1) ≠ none
  | .sent _ outcome => outcome = .succeeded
  | _ => True

/-! ## The invariant -/

structure Valid (state : State Data) : Prop where
  queue : state.queue.Valid (new_queue Data).limits
  started : ∀ id loop, state.loops id = some loop → id < state.created
  kept : Kept state

variable {packb : Payload Data → Option ByteArray} {batch_size : ℤ}
  {state after : State Data} {id : ℕ} {loop : Loop Data} {priority : MessagePriority}

theorem of_priority_append (first second : List (PrioritizedMessage Data)) :
    of_priority priority (first ++ second) =
      of_priority priority first + of_priority priority second := by
  rw [of_priority, List.filter_append, ← Multiset.coe_add]
  rfl

theorem Valid.put (valid : Valid state) (found : state.loops id = some loop)
    {new : Loop Data} {queue : MessagePriorityQueue Data}
    {delivered : List (PrioritizedMessage Data)}
    (still : queue.Valid (new_queue Data).limits)
    (moved : ∀ priority, accounted priority state + of_priority priority loop.batch =
      accounted priority { state with queue, delivered } +
        of_priority priority new.batch) :
    Valid ({ state with queue, delivered }.put id new) where
  queue := still
  started := by
    intro other current there
    by_cases same : other = id
    · exact same ▸ valid.started id loop found
    · simp only [State.put, Function.update_of_ne same] at there
      exact valid.started other current there
  kept := by
    intro priority
    have exchanged := moved priority
    apply held_exchange (valid.started id loop found) (valid.kept priority)
    rw [found]
    exact exchanged

theorem batch_of_waits (waits : loop.stage.waits = true) : loop.batch = [] := by
  unfold Loop.batch
  split
  case h_1 sending =>
      rw [sending] at waits
      contradiction
  case h_2 => rfl

/-- A loop that has held nothing changes to one that holds nothing. -/
theorem Valid.idle (valid : Valid state) (found : state.loops id = some loop)
    {new : Loop Data} (nothing : loop.batch = []) (still : new.batch = []) :
    Valid (state.put id new) := by
  apply valid.put found valid.queue
  intro priority
  rw [nothing, still]

theorem Valid.send (valid : Valid state) {data : Data} {own : MessagePriority}
    {message_type : String} {timestamp : ℚ}
    (taken : step packb batch_size state (.send data own message_type timestamp) =
      some after) : Valid after := by
  have queue := valid.queue.enqueue data own message_type timestamp
  rcases valid.queue.enqueue_cases data own message_type timestamp with
    ⟨_, refused⟩ | ⟨room, queued⟩
  · simp only [step, refused] at taken
    rw [refused] at queue
    rw [← Option.some.inj taken]
    exact ⟨queue, valid.started, valid.kept⟩
  · simp only [step, queued] at taken
    rw [queued] at queue
    rw [← Option.some.inj taken]
    refine ⟨queue, valid.started, ?_⟩
    intro priority
    have before := valid.kept priority
    simp only [accounted, if_true] at before ⊢
    rw [of_priority_append, before]
    by_cases same : own = priority
    · subst same
      have alone : of_priority own [(⟨own, data, timestamp, message_type⟩ :
          PrioritizedMessage Data)] = {⟨own, data, timestamp, message_type⟩} := by
        simp [of_priority]
      rw [Function.update_self, Deque.items_append room, ← Multiset.coe_add, alone,
        Multiset.coe_singleton, ← add_assoc, add_right_comm]
    · have nothing : of_priority priority [(⟨own, data, timestamp, message_type⟩ :
          PrioritizedMessage Data)] = 0 := by
        simp [of_priority, same]
      rw [Function.update_of_ne (Ne.symm same), nothing, add_zero]

theorem Valid.next_batch (valid : Valid state) (found : state.loops id = some loop)
    (nothing : loop.batch = [])
    (encodes : (state.queue.dequeue batch_size).1 ≠ [] →
      packb (.of (state.queue.dequeue batch_size).1) ≠ none) :
    Valid (state.next_batch packb batch_size id) := by
  have batched := valid.queue.batched MessagePriority.members_sorted batch_size
  have moved : ∀ new : Loop Data, new.batch = (state.queue.dequeue batch_size).1 →
      Valid ({ state with queue := (state.queue.dequeue batch_size).2 }.put id new) := by
    intro new takes
    apply valid.put found batched.valid
    intro priority
    have items := batched.taken.items priority
    simp only [accounted, nothing, takes]
    rw [items, ← Multiset.coe_add]
    change _ + (of_priority priority (state.queue.dequeue batch_size).1 + _) + 0 = _
    rw [add_zero, add_comm (of_priority _ _) (Multiset.ofList _), add_assoc]
  simp only [State.next_batch]
  split
  case isTrue empty => exact moved _ empty.symm
  case isFalse some_wait =>
      split
      case h_1 => exact moved _ rfl
      case h_2 refused => exact absurd refused (encodes some_wait)

theorem Valid.turn (valid : Valid state) (found : state.loops id = some loop)
    (nothing : loop.batch = [])
    (timely : Timely packb batch_size state (.turn id)) :
    Valid (state.turn packb batch_size id loop) := by
  unfold State.turn
  split
  case isTrue => exact valid.idle found nothing rfl
  case isFalse going =>
      obtain ⟨not_cancelled, running⟩ := not_or.mp going
      exact valid.next_batch found nothing (timely loop found
        (Bool.eq_false_of_not_eq_true not_cancelled)
        (Bool.eq_true_of_not_eq_false running))

theorem Valid.sent (valid : Valid state) {batch : List (PrioritizedMessage Data)}
    (found : state.loops id = some loop) (sending : loop.stage = .sending batch) :
    Valid ({ state with delivered := state.delivered ++ batch }.put id
      (loop.after_send .succeeded)) := by
  have holds : loop.batch = batch := by rw [Loop.batch, sending]
  have done : (loop.after_send .succeeded).batch = [] := by
    unfold Loop.after_send
    split <;> rfl
  apply valid.put found valid.queue
  intro priority
  simp only [accounted, holds, done, of_priority_append]
  exact (add_right_comm _ _ _).trans (add_zero _).symm

theorem Valid.stop (valid : Valid state) {call : ℕ}
    (taken : step packb batch_size state (.stop call) = some after) : Valid after := by
  obtain ⟨_, taken⟩ := Option.ite_none_left_eq_some.mp taken
  split at taken
  case h_1 task running =>
      rw [← Option.some.inj taken]
      cases found : state.loops task with
      | none =>
          have same : Function.update state.loops task none = state.loops := by
            rw [← found, Function.update_eq_self]
          simp only [Option.map_none, same]
          exact { valid with }
      | some loop =>
          have changed : Valid (state.put task { loop with cancelled := true }) := by
            apply valid.put found valid.queue
            intro priority
            rfl
          exact { changed with }
  case h_2 =>
      rw [← Option.some.inj taken]
      exact { valid with }

theorem Valid.step {label : Label Data} (valid : Valid state)
    (timely : Timely packb batch_size state label)
    (taken : step packb batch_size state label = some after) : Valid after := by
  cases label with
  | send data priority message_type timestamp => exact valid.send taken
  | start =>
      simp only [Sender.step] at taken
      split at taken
      case isTrue => exact Option.some.inj taken ▸ valid
      case isFalse =>
          rw [← Option.some.inj taken]
          refine ⟨valid.queue, ?_, ?_⟩
          · intro other current there
            by_cases same : other = state.created
            · exact same ▸ Nat.lt_succ_self _
            · simp only [Function.update_of_ne same] at there
              exact (valid.started other current there).trans (Nat.lt_succ_self _)
          · intro priority
            have before := valid.kept priority
            simp only [accounted] at before ⊢
            rw [held_start]
            exact before.trans (congrArg _ (add_zero _).symm)
  | stop call => exact valid.stop taken
  | stopped call =>
      obtain ⟨_, rfl⟩ := guarded_eq_some.mp taken
      exact { valid with }
  | turn id =>
      simp only [Sender.step] at taken
      split at taken
      case h_1 loop found =>
          obtain ⟨waits, rfl⟩ := guarded_eq_some.mp taken
          exact valid.turn found (batch_of_waits waits) timely
      case h_2 => contradiction
  | sent id outcome =>
      obtain rfl : outcome = .succeeded := timely
      simp only [Sender.step] at taken
      split at taken
      case h_1 loop found =>
          split at taken
          case h_1 batch sending => exact Option.some.inj taken ▸ valid.sent found sending
          case h_2 => contradiction
      case h_2 => contradiction

end Kept

/-- In every run in which each batch can be encoded and its send succeeds, every accepted
message is delivered, in a payload that is being sent or still queued. -/
theorem all_kept {Data : Type} {packb : Payload Data → Option ByteArray}
    {batch_size : ℤ} {state : State Data}
    (reached : ReachedBy (sender packb batch_size) (Timely packb batch_size) state) :
    Kept state := by
  have valid : Valid state := by
    apply reached.invariant
    · refine ⟨?_, nofun, fun _ => rfl⟩
      exact MessagePriorityQueue.Valid.create (Option.some_get _).symm
    · intro before label after valid timely taken
      exact valid.step timely taken
  exact valid.kept

/-- An encoder for numbers of one byte. -/
def packb : Payload ℕ → Option ByteArray
  | .single data => if data < 128 then some ⟨#[data.toUInt8]⟩ else none
  | .batch _ => none

def after (labels : List (Label ℕ)) : State ℕ :=
  (labels.foldlM (sender packb 5).step (sender packb 5).start).getD {}

/-- A message is sent. -/
def sent : List (Label ℕ) := [.send 7 .high "" 0, .start, .turn 0, .sent 0 .succeeded]

theorem sent_kept : Kept (after sent) := by
  have queued : ReachedBy (sender packb 5) (Timely packb 5)
      (after [.send 7 .high "" 0, .start]) :=
    .step (.step .start (show Timely _ _ _ (.send 7 .high "" 0) from trivial) rfl)
      (show Timely _ _ _ .start from trivial) rfl
  have encodes : Timely packb 5 (after [.send 7 .high "" 0, .start]) (.turn 0) := by
    intro loop _ _ _ _ refused
    contradiction
  have sending : ReachedBy (sender packb 5) (Timely packb 5)
      (after [.send 7 .high "" 0, .start, .turn 0]) := .step queued encodes rfl
  exact all_kept (.step sending (show Timely _ _ _ (.sent 0 .succeeded) from rfl) rfl)

/-- A send fails, and the loop goes on without the message. -/
def failed : List (Label ℕ) := [.send 7 .high "" 0, .start, .turn 0, .sent 0 .failed]

theorem failed_not_kept : ∃ state, Reachable (sender packb 5) state ∧ ¬Kept state := by
  refine ⟨after failed, ?_, ?_⟩
  · exact .follow (fun _ _ _ => trivial) .start
      (rfl : failed.foldlM (sender packb 5).step _ = some _)
  · intro kept
    have one := congrArg Multiset.card (kept .high)
    contradiction

end HftEngine.WebSocket.Sender
