import HftEngine.Lib.Deque
import Mathlib.Data.List.Perm.Basic
import Mathlib.Data.Nat.Basic
import Mathlib.Data.Rat.Defs
import Mathlib.Logic.Function.Basic
import Mathlib.Algebra.Order.Ring.Int

/-!
# The priority queue of a websocket

Messages wait in one bounded queue for each priority.  Every operation runs without
an interruption.
-/

namespace HftEngine.WebSocket.Priority

inductive MessagePriority where
  | critical
  | high
  | normal
  | low
  | bulk
  deriving DecidableEq

namespace MessagePriority

/-- The number of a priority; a lower one comes first. -/
def value : MessagePriority → ℕ
  | critical => 0
  | high => 1
  | normal => 2
  | low => 3
  | bulk => 4

theorem value_injective : Function.Injective value := by
  intro first second same
  cases first <;> cases second <;> first | rfl | contradiction

instance : LinearOrder MessagePriority := LinearOrder.lift' value value_injective

/-- The members in the order of an iteration. -/
def members : List MessagePriority := [critical, high, normal, low, bulk]

theorem mem_members (priority : MessagePriority) : priority ∈ members := by
  cases priority <;> decide

theorem members_sorted : members.Pairwise (· < ·) := by decide

end MessagePriority

structure PrioritizedMessage (Data : Type) where
  priority : MessagePriority
  data : Data
  timestamp : ℚ
  message_type : String

structure MessagePriorityQueue (Data : Type) where
  limits : MessagePriority → Option ℤ
  queues : MessagePriority → Deque (PrioritizedMessage Data)
  dropped_counts : MessagePriority → ℕ
  sent_counts : MessagePriority → ℕ

namespace MessagePriorityQueue

def DEFAULT_LIMITS : MessagePriority → Option ℤ
  | .critical => some 100
  | .high => some 500
  | .normal => some 1000
  | .low => some 200
  | .bulk => some 50

/-- `limits.get(priority, 100)`. -/
def limit (limits : MessagePriority → Option ℤ) (priority : MessagePriority) : ℤ :=
  (limits priority).getD 100

/-- The greatest length that a deque can be given. -/
def maxsize : ℤ := 2 ^ 63 - 1

variable {Data : Type}

/-- No limits, and an empty dictionary of them, stand for the default ones.  A deque
is refused a length that is negative or too large. -/
def create (Data : Type) (limits : MessagePriority → Option ℤ) :
    Option (MessagePriorityQueue Data) :=
  let limits :=
    if ∀ priority ∈ MessagePriority.members, limits priority = none then DEFAULT_LIMITS
    else limits
  if ∀ priority ∈ MessagePriority.members,
      0 ≤ limit limits priority ∧ limit limits priority ≤ maxsize then
    some
      { limits
        queues := fun priority => .empty (limit limits priority).toNat
        dropped_counts := fun _ => 0
        sent_counts := fun _ => 0 }
  else none

def enqueue (data : Data) (priority : MessagePriority) (message_type : String)
    (timestamp : ℚ) (queue : MessagePriorityQueue Data) :
    Bool × MessagePriorityQueue Data :=
  if limit queue.limits priority ≤ (queue.queues priority).items.length then
    (false,
      { queue with
        dropped_counts := Function.update queue.dropped_counts priority
          (queue.dropped_counts priority + 1) })
  else
    (true,
      { queue with
        queues := Function.update queue.queues priority
          ((queue.queues priority).append
            { priority, data, timestamp, message_type }) })

def dequeue_by_priority (priority : MessagePriority) (max_count : ℤ)
    (queue : MessagePriorityQueue Data) :
    List (PrioritizedMessage Data) × MessagePriorityQueue Data :=
  let (messages, rest) := (queue.queues priority).pop max_count
  (messages,
    { queue with
      queues := Function.update queue.queues priority rest
      sent_counts := Function.update queue.sent_counts priority
        (queue.sent_counts priority + messages.length) })

/-- The queues of `priorities` one after the other, until no more messages are
wanted. -/
def dequeue_all (queue : MessagePriorityQueue Data) :
    List MessagePriority → ℤ →
      List (PrioritizedMessage Data) × MessagePriorityQueue Data
  | [], _ => ([], queue)
  | priority :: priorities, remaining =>
      let (messages, queue) := queue.dequeue_by_priority priority remaining
      let remaining := remaining - messages.length
      if remaining = 0 then (messages, queue)
      else
        let (others, queue) := queue.dequeue_all priorities remaining
        (messages ++ others, queue)

def dequeue (batch_size : ℤ) (queue : MessagePriorityQueue Data) :
    List (PrioritizedMessage Data) × MessagePriorityQueue Data :=
  queue.dequeue_all MessagePriority.members batch_size

def clear (priority : Option MessagePriority) (queue : MessagePriorityQueue Data) :
    MessagePriorityQueue Data :=
  match priority with
  | some priority =>
      { queue with
        queues := Function.update queue.queues priority (queue.queues priority).clear }
  | none => { queue with queues := fun priority => (queue.queues priority).clear }

end MessagePriorityQueue

/-! ## Runs -/

inductive Operation (Data : Type) where
  | enqueue (data : Data) (priority : MessagePriority) (message_type : String)
      (timestamp : ℚ)
  | dequeue (batch_size : ℤ)
  | dequeue_by_priority (priority : MessagePriority) (max_count : ℤ)
  | clear (priority : Option MessagePriority)

inductive Result (Data : Type) where
  | queued (accepted : Bool)
  | messages (batch : List (PrioritizedMessage Data))
  | cleared

/-- An operation with its result and the queue around it. -/
structure Event (Data : Type) where
  before : MessagePriorityQueue Data
  operation : Operation Data
  result : Result Data
  after : MessagePriorityQueue Data

variable {Data : Type}

namespace MessagePriorityQueue

def perform (queue : MessagePriorityQueue Data) (operation : Operation Data) :
    Event Data :=
  match operation with
  | .enqueue data priority message_type timestamp =>
      let (accepted, after) := queue.enqueue data priority message_type timestamp
      ⟨queue, operation, .queued accepted, after⟩
  | .dequeue batch_size =>
      let (batch, after) := queue.dequeue batch_size
      ⟨queue, operation, .messages batch, after⟩
  | .dequeue_by_priority priority max_count =>
      let (batch, after) := queue.dequeue_by_priority priority max_count
      ⟨queue, operation, .messages batch, after⟩
  | .clear priority => ⟨queue, operation, .cleared, queue.clear priority⟩

/-- The events of a sequence of operations and the queue after them. -/
def run : MessagePriorityQueue Data → List (Operation Data) →
    List (Event Data) × MessagePriorityQueue Data
  | queue, [] => ([], queue)
  | queue, operation :: operations =>
      let event := queue.perform operation
      let (events, last) := event.after.run operations
      (event :: events, last)

end MessagePriorityQueue

namespace Event

/-- The messages of a priority that an event has accepted. -/
def accepted (priority : MessagePriority) (event : Event Data) :
    List (PrioritizedMessage Data) :=
  match event.operation, event.result with
  | .enqueue data own message_type timestamp, .queued true =>
      if own = priority then [{ priority := own, data, timestamp, message_type }] else []
  | _, _ => []

/-- The messages of a priority that an event has handed out. -/
def sent (priority : MessagePriority) (event : Event Data) :
    List (PrioritizedMessage Data) :=
  match event.result with
  | .messages batch => batch.filter (·.priority = priority)
  | _ => []

def cleared (priority : MessagePriority) (event : Event Data) :
    List (PrioritizedMessage Data) :=
  match event.operation with
  | .clear own =>
      if own = none ∨ own = some priority then (event.before.queues priority).items else []
  | _ => []

def dropped (priority : MessagePriority) (event : Event Data) : ℕ :=
  match event.operation, event.result with
  | .enqueue _ own _ _, .queued false => if own = priority then 1 else 0
  | _, _ => 0

/-- An enqueue is refused exactly at the limit, and then only counted; a batch is of at
most the size wanted and in order, and no message is left that comes before one of it. -/
def Lawful (limits : MessagePriority → Option ℤ) (event : Event Data) : Prop :=
  match event.operation with
  | .enqueue _ priority _ _ =>
      ∃ accepted, event.result = .queued accepted ∧
        (accepted = false ↔
          ((event.before.queues priority).items.length : ℤ) =
            MessagePriorityQueue.limit limits priority) ∧
        (accepted = false → event.after =
          { event.before with
            dropped_counts := Function.update event.before.dropped_counts priority
              (event.before.dropped_counts priority + 1) })
  | .dequeue batch_size =>
      ∃ batch, event.result = .messages batch ∧
        batch.length ≤ batch_size.toNat ∧
        batch.Pairwise (fun first second => first.priority ≤ second.priority) ∧
        ∀ message ∈ batch, ∀ priority < message.priority,
          (event.after.queues priority).items = []
  | .dequeue_by_priority priority max_count =>
      ∃ batch, event.result = .messages batch ∧
        batch.length ≤ max_count.toNat ∧ ∀ message ∈ batch, message.priority = priority
  | .clear _ => True

end Event

/-- What the events of a run say about a priority: its messages are handed out or
cleared in the order in which they were accepted, the others are still queued. -/
structure Conserved (limits : MessagePriority → Option ℤ) (priority : MessagePriority)
    (events : List (Event Data)) (last : MessagePriorityQueue Data) : Prop where
  in_order : events.flatMap (·.accepted priority) =
    events.flatMap (fun event => event.sent priority ++ event.cleared priority) ++
      (last.queues priority).items
  once : (events.flatMap (·.accepted priority)).Perm
    (events.flatMap (·.sent priority) ++ events.flatMap (·.cleared priority) ++
      (last.queues priority).items)
  sent_counts : last.sent_counts priority =
    (events.flatMap (·.sent priority)).length
  dropped_counts : last.dropped_counts priority =
    (events.map (·.dropped priority)).sum
  within : ((last.queues priority).items.length : ℤ) ≤
    MessagePriorityQueue.limit limits priority

/-! ## Taking messages -/

namespace MessagePriorityQueue

/-- A queue with its limits, and messages under their own priority. -/
structure Valid (limits : MessagePriority → Option ℤ)
    (queue : MessagePriorityQueue Data) : Prop where
  limits_eq : queue.limits = limits
  maxlen : ∀ priority, ((queue.queues priority).maxlen : ℤ) = limit limits priority
  filed : ∀ priority, ∀ message ∈ (queue.queues priority).items,
    message.priority = priority

/-- Messages have been taken from the queue and counted as sent. -/
structure Taken (before : MessagePriorityQueue Data)
    (batch : List (PrioritizedMessage Data)) (after : MessagePriorityQueue Data) :
    Prop where
  items : ∀ priority, (before.queues priority).items =
    batch.filter (·.priority = priority) ++ (after.queues priority).items
  sent_counts : ∀ priority, after.sent_counts priority =
    before.sent_counts priority + (batch.filter (·.priority = priority)).length
  dropped_counts : after.dropped_counts = before.dropped_counts

variable {limits : MessagePriority → Option ℤ} {queue : MessagePriorityQueue Data}
  {priority : MessagePriority}

/-- The messages of a deque that have been taken are of its priority. -/
theorem Valid.of_mem_batch (valid : queue.Valid limits) {max_count : ℤ}
    {message : PrioritizedMessage Data}
    (member : message ∈ (queue.dequeue_by_priority priority max_count).1) :
    message.priority = priority := by
  apply valid.filed priority
  rw [← Deque.drain_append max_count (queue.queues priority).items]
  exact List.mem_append_left _ member

theorem length_dequeue_by_priority (max_count : ℤ) :
    (queue.dequeue_by_priority priority max_count).1.length ≤ max_count.toNat :=
  Deque.length_drain_le max_count (queue.queues priority).items

theorem queues_dequeue_by_priority_self (max_count : ℤ) :
    (queue.dequeue_by_priority priority max_count).2.queues priority =
      ((queue.queues priority).pop max_count).2 :=
  Function.update_self _ _ _

theorem queues_dequeue_by_priority_of_ne {other : MessagePriority}
    (different : other ≠ priority) (max_count : ℤ) :
    (queue.dequeue_by_priority priority max_count).2.queues other = queue.queues other :=
  Function.update_of_ne different _ _

/-- A deque is emptied when fewer messages are taken than wanted. -/
theorem items_dequeue_by_priority {max_count : ℤ}
    (fewer : (queue.dequeue_by_priority priority max_count).1.length < max_count.toNat) :
    ((queue.dequeue_by_priority priority max_count).2.queues priority).items = [] := by
  rw [queues_dequeue_by_priority_self]
  by_contra rest
  have all := Deque.length_drain_of_rest rest
  exact fewer.ne all

theorem Valid.dequeue_by_priority (valid : queue.Valid limits)
    (priority : MessagePriority) (max_count : ℤ) :
    (queue.dequeue_by_priority priority max_count).2.Valid limits where
  limits_eq := valid.limits_eq
  maxlen := by
    intro other
    by_cases same : other = priority
    · subst same
      rw [queues_dequeue_by_priority_self]
      exact valid.maxlen other
    · rw [queues_dequeue_by_priority_of_ne same]
      exact valid.maxlen other
  filed := by
    intro other message member
    apply valid.filed other
    by_cases same : other = priority
    · subst same
      rw [queues_dequeue_by_priority_self] at member
      rw [← Deque.drain_append max_count (queue.queues other).items]
      exact List.mem_append_right _ member
    · rw [queues_dequeue_by_priority_of_ne same] at member
      exact member

theorem Valid.taken_by_priority (valid : queue.Valid limits)
    (priority : MessagePriority) (max_count : ℤ) :
    queue.Taken (queue.dequeue_by_priority priority max_count).1
      (queue.dequeue_by_priority priority max_count).2 := by
  have own : (queue.dequeue_by_priority priority max_count).1.filter
      (·.priority = priority) = (queue.dequeue_by_priority priority max_count).1 := by
    apply List.filter_eq_self.mpr
    intro message member
    exact decide_eq_true (valid.of_mem_batch member)
  have none_of : ∀ other, other ≠ priority →
      (queue.dequeue_by_priority priority max_count).1.filter (·.priority = other) =
        [] := by
    intro other different
    apply List.filter_eq_nil_iff.mpr
    intro message member is_other
    rw [valid.of_mem_batch member] at is_other
    exact different (of_decide_eq_true is_other).symm
  refine ⟨?_, ?_, rfl⟩
  · intro other
    by_cases same : other = priority
    · subst same
      rw [own, queues_dequeue_by_priority_self]
      exact (Deque.drain_append max_count (queue.queues other).items).symm
    · rw [none_of other same, queues_dequeue_by_priority_of_ne same, List.nil_append]
  · intro other
    by_cases same : other = priority
    · subst same
      rw [own]
      exact Function.update_self _ _ _
    · rw [none_of other same]
      exact Function.update_of_ne same _ _

theorem Taken.trans {before middle after : MessagePriorityQueue Data}
    {first second : List (PrioritizedMessage Data)} (taken : before.Taken first middle)
    (rest : middle.Taken second after) : before.Taken (first ++ second) after where
  items := by
    intro priority
    rw [taken.items, rest.items, List.filter_append, List.append_assoc]
  sent_counts := by
    intro priority
    rw [rest.sent_counts, taken.sent_counts, List.filter_append, List.length_append,
      Nat.add_assoc]
  dropped_counts := rest.dropped_counts.trans taken.dropped_counts

/-- A batch that has been taken from the queues of `priorities`. -/
structure Batched (limits : MessagePriority → Option ℤ)
    (priorities : List MessagePriority) (wanted : ℤ)
    (before : MessagePriorityQueue Data) (batch : List (PrioritizedMessage Data))
    (after : MessagePriorityQueue Data) : Prop where
  valid : after.Valid limits
  taken : before.Taken batch after
  among : ∀ message ∈ batch, message.priority ∈ priorities
  others : ∀ priority, priority ∉ priorities →
    after.queues priority = before.queues priority
  length : batch.length ≤ wanted.toNat
  sorted : batch.Pairwise (fun first second => first.priority ≤ second.priority)
  foremost : ∀ message ∈ batch, ∀ priority ∈ priorities, priority < message.priority →
    (after.queues priority).items = []

/-- The messages of one priority are all of the batch. -/
theorem Valid.batched_first (valid : queue.Valid limits)
    {priorities : List MessagePriority} (least : ∀ other ∈ priorities, priority < other)
    (wanted : ℤ) :
    Batched limits (priority :: priorities) wanted queue
      (queue.dequeue_by_priority priority wanted).1
      (queue.dequeue_by_priority priority wanted).2 where
  valid := valid.dequeue_by_priority priority wanted
  taken := valid.taken_by_priority priority wanted
  among := by
    intro message member
    rw [valid.of_mem_batch member]
    exact List.mem_cons_self
  others := by
    intro other absent
    exact queues_dequeue_by_priority_of_ne (List.ne_of_not_mem_cons absent) wanted
  length := length_dequeue_by_priority wanted
  sorted := by
    apply List.pairwise_of_forall_mem_list
    intro first in_batch second in_batch'
    rw [valid.of_mem_batch in_batch, valid.of_mem_batch in_batch']
  foremost := by
    intro message member other listed before
    rw [valid.of_mem_batch member] at before
    rcases List.mem_cons.mp listed with rfl | later
    · exact absurd before (lt_irrefl other)
    · exact absurd before (least other later).asymm

/-- Messages of later priorities follow those of the first where more are wanted. -/
theorem Batched.cons {priorities : List MessagePriority} {wanted : ℤ}
    {middle after : MessagePriorityQueue Data}
    {messages others : List (PrioritizedMessage Data)}
    (least : ∀ other ∈ priorities, priority < other)
    (first : Batched limits [priority] wanted queue messages middle)
    (emptied : messages.length < wanted.toNat → (middle.queues priority).items = [])
    (rest : Batched limits priorities (wanted - messages.length) middle others after) :
    Batched limits (priority :: priorities) wanted queue (messages ++ others) after where
  valid := rest.valid
  taken := first.taken.trans rest.taken
  among := by
    intro message member
    rcases List.mem_append.mp member with early | late
    · exact List.mem_cons.mpr (.inl (List.mem_singleton.mp (first.among message early)))
    · exact List.mem_cons_of_mem priority (rest.among message late)
  others := by
    intro other absent
    rw [rest.others other (List.not_mem_of_not_mem_cons absent)]
    apply first.others
    rw [List.mem_singleton]
    exact List.ne_of_not_mem_cons absent
  length := by
    have early := first.length
    have late := rest.length
    rw [List.length_append]
    omega
  sorted := by
    apply List.pairwise_append.mpr
    refine ⟨first.sorted, rest.sorted, ?_⟩
    intro message early other late
    rw [List.mem_singleton.mp (first.among message early)]
    exact (least other.priority (rest.among other late)).le
  foremost := by
    intro message member other listed before
    have own_left : (after.queues priority) = middle.queues priority := by
      apply rest.others
      intro later
      exact lt_irrefl priority (least priority later)
    rcases List.mem_append.mp member with early | late
    · rw [List.mem_singleton.mp (first.among message early)] at before
      rcases List.mem_cons.mp listed with rfl | later
      · exact absurd before (lt_irrefl other)
      · exact absurd before (least other later).asymm
    · rcases List.mem_cons.mp listed with rfl | later
      · rw [own_left]
        apply emptied
        have some_wanted := List.length_pos_of_mem late
        have at_most := rest.length
        omega
      · exact rest.foremost message late other later before

theorem Valid.batched {priorities : List MessagePriority} (valid : queue.Valid limits)
    (sorted : priorities.Pairwise (· < ·)) (wanted : ℤ) :
    Batched limits priorities wanted queue (queue.dequeue_all priorities wanted).1
      (queue.dequeue_all priorities wanted).2 := by
  induction priorities generalizing queue wanted with
  | nil =>
      exact
        { valid
          taken := ⟨fun _ => rfl, fun _ => rfl, rfl⟩
          among := fun _ absent => absurd absent List.not_mem_nil
          others := fun _ _ => rfl
          length := Nat.zero_le _
          sorted := .nil
          foremost := fun _ absent => absurd absent List.not_mem_nil }
  | cons priority priorities ih =>
      obtain ⟨least, sorted⟩ := List.pairwise_cons.mp sorted
      simp only [dequeue_all]
      split
      case isTrue => exact valid.batched_first least wanted
      case isFalse =>
          have alone : ∀ other ∈ ([] : List MessagePriority), priority < other := by
            intro other absent
            exact absurd absent List.not_mem_nil
          apply Batched.cons least (valid.batched_first alone wanted)
          · exact items_dequeue_by_priority
          · exact ih (valid.dequeue_by_priority priority wanted) sorted _

/-! ## One operation -/

theorem Valid.create {created : MessagePriorityQueue Data}
    {given : MessagePriority → Option ℤ} (made : create Data given = some created) :
    created.Valid created.limits := by
  obtain ⟨allowed, made⟩ := Option.ite_none_right_eq_some.mp made
  rw [← Option.some.inj made]
  refine ⟨rfl, ?_, ?_⟩
  · intro priority
    exact Int.toNat_of_nonneg (allowed priority (MessagePriority.mem_members priority)).1
  · intro priority message member
    cases member

/-- A deque is full exactly at its limit. -/
theorem Valid.length_le (valid : queue.Valid limits) (priority : MessagePriority) :
    ((queue.queues priority).items.length : ℤ) ≤ limit limits priority := by
  rw [← valid.maxlen priority]
  exact Int.ofNat_le.mpr (queue.queues priority).bounded

/-- What an event does to the messages and the counts of a priority. -/
structure Accounted (priority : MessagePriority) (event : Event Data) : Prop where
  items : (event.before.queues priority).items ++ event.accepted priority =
    event.sent priority ++ event.cleared priority ++ (event.after.queues priority).items
  sent_counts : event.after.sent_counts priority =
    event.before.sent_counts priority + (event.sent priority).length
  dropped_counts : event.after.dropped_counts priority =
    event.before.dropped_counts priority + event.dropped priority

theorem Valid.enqueue_cases (valid : queue.Valid limits) (data : Data)
    (priority : MessagePriority) (message_type : String) (timestamp : ℚ) :
    (((queue.queues priority).items.length : ℤ) = limit limits priority ∧
      queue.enqueue data priority message_type timestamp =
        (false,
          { queue with
            dropped_counts := Function.update queue.dropped_counts priority
              (queue.dropped_counts priority + 1) })) ∨
    ((queue.queues priority).items.length < (queue.queues priority).maxlen ∧
      queue.enqueue data priority message_type timestamp =
        (true,
          { queue with
            queues := Function.update queue.queues priority
              ((queue.queues priority).append
                { priority, data, timestamp, message_type }) })) := by
  have at_most := valid.length_le priority
  have own := valid.maxlen priority
  unfold enqueue
  rw [valid.limits_eq]
  by_cases full : limit limits priority ≤ (queue.queues priority).items.length
  · rw [if_pos full]
    exact .inl ⟨Int.le_antisymm at_most full, rfl⟩
  · rw [if_neg full]
    refine .inr ⟨?_, rfl⟩
    omega

theorem Valid.enqueue (valid : queue.Valid limits) (data : Data)
    (priority : MessagePriority) (message_type : String) (timestamp : ℚ) :
    (queue.enqueue data priority message_type timestamp).2.Valid limits := by
  rcases valid.enqueue_cases data priority message_type timestamp with
    ⟨_, taken⟩ | ⟨room, taken⟩
  · rw [taken]
    exact { valid with }
  · rw [taken]
    refine ⟨valid.limits_eq, ?_, ?_⟩
    · intro other
      by_cases same : other = priority
      · subst same
        simp only [Function.update_self]
        exact valid.maxlen other
      · simp only [Function.update_of_ne same]
        exact valid.maxlen other
    · intro other message member
      by_cases same : other = priority
      · subst same
        simp only [Function.update_self, Deque.items_append room] at member
        rcases List.mem_append.mp member with before | is_new
        · exact valid.filed other message before
        · rw [List.mem_singleton.mp is_new]
      · simp only [Function.update_of_ne same] at member
        exact valid.filed other message member

/-- A clearing leaves a deque as it is or empties it. -/
theorem queues_clear (own : Option MessagePriority) (priority : MessagePriority) :
    (queue.clear own).queues priority =
      if own = none ∨ own = some priority then (queue.queues priority).clear
      else queue.queues priority := by
  cases own with
  | none => exact (if_pos (.inl rfl)).symm
  | some own =>
      by_cases same : priority = own
      · subst same
        rw [if_pos (.inr rfl)]
        exact Function.update_self _ _ _
      · rw [if_neg]
        · exact Function.update_of_ne same _ _
        · rintro (impossible | equal)
          · contradiction
          · exact same (Option.some.inj equal).symm

theorem Valid.clear (valid : queue.Valid limits) (own : Option MessagePriority) :
    (queue.clear own).Valid limits where
  limits_eq := by
    cases own with
    | none => exact valid.limits_eq
    | some own => exact valid.limits_eq
  maxlen := by
    intro priority
    rw [queues_clear]
    split
    case isTrue => exact valid.maxlen priority
    case isFalse => exact valid.maxlen priority
  filed := by
    intro priority message member
    rw [queues_clear] at member
    split at member
    case isTrue => cases member
    case isFalse => exact valid.filed priority message member

theorem perform_enqueue (queue : MessagePriorityQueue Data) (data : Data)
    (priority : MessagePriority) (message_type : String) (timestamp : ℚ) :
    queue.perform (.enqueue data priority message_type timestamp) =
      ⟨queue, .enqueue data priority message_type timestamp,
        .queued (queue.enqueue data priority message_type timestamp).1,
        (queue.enqueue data priority message_type timestamp).2⟩ := rfl

theorem Valid.perform (valid : queue.Valid limits) (operation : Operation Data) :
    (queue.perform operation).after.Valid limits := by
  cases operation with
  | enqueue data priority message_type timestamp =>
      exact valid.enqueue data priority message_type timestamp
  | dequeue batch_size =>
      exact (valid.batched MessagePriority.members_sorted batch_size).valid
  | dequeue_by_priority priority max_count =>
      exact valid.dequeue_by_priority priority max_count
  | clear own => exact valid.clear own

/-- A batch accounts for the messages that are no longer there. -/
theorem Taken.accounted {batch : List (PrioritizedMessage Data)}
    {after : MessagePriorityQueue Data} (taken : queue.Taken batch after)
    {operation : Operation Data}
    (not_queued : ∀ priority, Event.accepted priority
      ⟨queue, operation, .messages batch, after⟩ = [])
    (not_cleared : ∀ priority, Event.cleared priority
      ⟨queue, operation, .messages batch, after⟩ = [])
    (not_dropped : ∀ priority, Event.dropped priority
      ⟨queue, operation, .messages batch, after⟩ = 0)
    (priority : MessagePriority) :
    Accounted priority ⟨queue, operation, .messages batch, after⟩ where
  items := by
    rw [not_queued, not_cleared, List.append_nil, List.append_nil]
    exact taken.items priority
  sent_counts := taken.sent_counts priority
  dropped_counts := by
    rw [not_dropped, Nat.add_zero]
    exact congrFun taken.dropped_counts priority

theorem Valid.accounted_enqueue (valid : queue.Valid limits) (data : Data)
    (own : MessagePriority) (message_type : String) (timestamp : ℚ)
    (priority : MessagePriority) :
    Accounted priority (queue.perform (.enqueue data own message_type timestamp)) := by
  rcases valid.enqueue_cases data own message_type timestamp with
    ⟨_, taken⟩ | ⟨room, taken⟩
  · rw [perform_enqueue, taken]
    refine ⟨List.append_nil _, rfl, ?_⟩
    simp only [Event.dropped]
    by_cases same : own = priority
    · subst same
      rw [if_pos rfl, Function.update_self]
    · rw [if_neg same, Function.update_of_ne (Ne.symm same), Nat.add_zero]
  · rw [perform_enqueue, taken]
    refine ⟨?_, rfl, rfl⟩
    simp only [Event.accepted, Event.sent, Event.cleared, List.nil_append]
    by_cases same : own = priority
    · subst same
      rw [if_pos rfl, Function.update_self, Deque.items_append room]
    · rw [if_neg same, Function.update_of_ne (Ne.symm same), List.append_nil]

theorem Valid.accounted (valid : queue.Valid limits) (operation : Operation Data)
    (priority : MessagePriority) : Accounted priority (queue.perform operation) := by
  cases operation with
  | enqueue data own message_type timestamp =>
      exact valid.accounted_enqueue data own message_type timestamp priority
  | dequeue batch_size =>
      have batched := valid.batched MessagePriority.members_sorted batch_size
      exact batched.taken.accounted (fun _ => rfl) (fun _ => rfl) (fun _ => rfl) priority
  | dequeue_by_priority own max_count =>
      have taken := valid.taken_by_priority own max_count
      exact taken.accounted (fun _ => rfl) (fun _ => rfl) (fun _ => rfl) priority
  | clear own =>
      refine ⟨?_, ?_, ?_⟩
      · simp only [MessagePriorityQueue.perform, Event.accepted, Event.sent, Event.cleared,
          queues_clear, List.append_nil, List.nil_append]
        split
        case isTrue => exact (List.append_nil _).symm
        case isFalse => rfl
      · cases own <;> rfl
      · cases own <;> rfl

theorem Valid.lawful (valid : queue.Valid limits) (operation : Operation Data) :
    (queue.perform operation).Lawful limits := by
  cases operation with
  | enqueue data priority message_type timestamp =>
      rcases valid.enqueue_cases data priority message_type timestamp with
        ⟨full, taken⟩ | ⟨room, taken⟩
      · rw [perform_enqueue, taken]
        refine ⟨false, rfl, iff_of_true rfl full, ?_⟩
        intro _
        trivial
      · rw [perform_enqueue, taken]
        have own := valid.maxlen priority
        have not_full : ((queue.queues priority).items.length : ℤ) ≠
            limit limits priority := by omega
        exact ⟨true, rfl, iff_of_false nofun not_full, nofun⟩
  | dequeue batch_size =>
      have batched := valid.batched MessagePriority.members_sorted batch_size
      refine ⟨_, rfl, batched.length, batched.sorted, ?_⟩
      intro message member priority before
      exact batched.foremost message member priority
        (MessagePriority.mem_members priority) before
  | dequeue_by_priority priority max_count =>
      refine ⟨_, rfl, length_dequeue_by_priority max_count, ?_⟩
      intro message member
      exact valid.of_mem_batch member
  | clear own => trivial

/-! ## Sequences of operations -/

theorem run_cons (queue : MessagePriorityQueue Data) (operation : Operation Data)
    (operations : List (Operation Data)) :
    queue.run (operation :: operations) =
      (queue.perform operation :: ((queue.perform operation).after.run operations).1,
        ((queue.perform operation).after.run operations).2) := rfl

theorem Valid.run (valid : queue.Valid limits) (operations : List (Operation Data)) :
    (queue.run operations).2.Valid limits := by
  induction operations generalizing queue with
  | nil => exact valid
  | cons operation operations ih => exact ih (valid.perform operation)

theorem Valid.run_lawful (valid : queue.Valid limits)
    (operations : List (Operation Data)) :
    ∀ event ∈ (queue.run operations).1, event.Lawful limits := by
  induction operations generalizing queue with
  | nil =>
      intro event absent
      exact absurd absent List.not_mem_nil
  | cons operation operations ih =>
      intro event member
      rcases List.mem_cons.mp member with rfl | later
      · exact valid.lawful operation
      · exact ih (valid.perform operation) event later

@[simp]
theorem before_perform (queue : MessagePriorityQueue Data) (operation : Operation Data) :
    (queue.perform operation).before = queue := by
  cases operation <;> rfl

/-- A run from any queue accounts for the messages in it and for those accepted. -/
theorem Valid.run_items (valid : queue.Valid limits) (operations : List (Operation Data))
    (priority : MessagePriority) :
    (queue.queues priority).items ++
        (queue.run operations).1.flatMap (·.accepted priority) =
      (queue.run operations).1.flatMap
          (fun event => event.sent priority ++ event.cleared priority) ++
        ((queue.run operations).2.queues priority).items := by
  induction operations generalizing queue with
  | nil => exact List.append_nil _
  | cons operation operations ih =>
      have first := (valid.accounted operation priority).items
      have rest := ih (valid.perform operation)
      rw [before_perform] at first
      simp only [run_cons, List.flatMap_cons]
      rw [← List.append_assoc, first, List.append_assoc, rest]
      simp only [List.append_assoc]

theorem Valid.run_sent_counts (valid : queue.Valid limits)
    (operations : List (Operation Data)) (priority : MessagePriority) :
    (queue.run operations).2.sent_counts priority = queue.sent_counts priority +
      ((queue.run operations).1.flatMap (·.sent priority)).length := by
  induction operations generalizing queue with
  | nil => rfl
  | cons operation operations ih =>
      have first := (valid.accounted operation priority).sent_counts
      have rest := ih (valid.perform operation)
      rw [before_perform] at first
      simp only [run_cons, List.flatMap_cons, List.length_append]
      rw [rest, first, Nat.add_assoc]

theorem Valid.run_dropped_counts (valid : queue.Valid limits)
    (operations : List (Operation Data)) (priority : MessagePriority) :
    (queue.run operations).2.dropped_counts priority = queue.dropped_counts priority +
      ((queue.run operations).1.map (·.dropped priority)).sum := by
  induction operations generalizing queue with
  | nil => rfl
  | cons operation operations ih =>
      have first := (valid.accounted operation priority).dropped_counts
      have rest := ih (valid.perform operation)
      rw [before_perform] at first
      simp only [run_cons, List.map_cons, List.sum_cons]
      rw [rest, first, Nat.add_assoc]

/-- Every sequence of operations on a new queue keeps to the limits, hands messages out
by priority and loses none that has been accepted. -/
theorem conserved {given : MessagePriority → Option ℤ}
    {queue : MessagePriorityQueue Data} (created : create Data given = some queue)
    (operations : List (Operation Data)) :
    (∀ event ∈ (queue.run operations).1, event.Lawful queue.limits) ∧
      ∀ priority, Conserved queue.limits priority (queue.run operations).1
        (queue.run operations).2 := by
  have valid := Valid.create created
  obtain ⟨_, made⟩ := Option.ite_none_right_eq_some.mp created
  have start := Option.some.inj made
  refine ⟨valid.run_lawful operations, ?_⟩
  intro priority
  have in_order := valid.run_items operations priority
  have sent_counts := valid.run_sent_counts operations priority
  have dropped_counts := valid.run_dropped_counts operations priority
  have no_items : (queue.queues priority).items = [] := by rw [← start]; rfl
  have none_sent : queue.sent_counts priority = 0 := by rw [← start]
  have none_dropped : queue.dropped_counts priority = 0 := by rw [← start]
  rw [no_items, List.nil_append] at in_order
  rw [none_sent, Nat.zero_add] at sent_counts
  rw [none_dropped, Nat.zero_add] at dropped_counts
  refine
    { in_order, sent_counts, dropped_counts
      once := ?_
      within := (valid.run operations).length_le priority }
  rw [in_order]
  apply List.Perm.append_right
  exact (List.flatMap_append_perm _ _ _).symm

/-- A queue of length one refuses the second message; a batch takes the first. -/
def small_limits : MessagePriority → Option ℤ := fun _ => some 1

theorem small_conserved :
    ∃ queue, create ℕ small_limits = some queue ∧
      Conserved queue.limits .high
        (queue.run [.enqueue 7 .high "" 0, .enqueue 8 .high "" 1, .dequeue 5]).1
        (queue.run [.enqueue 7 .high "" 0, .enqueue 8 .high "" 1, .dequeue 5]).2 := by
  refine ⟨_, rfl, ?_⟩
  exact (conserved (show create ℕ small_limits = some _ from rfl) _).2 .high

end MessagePriorityQueue

end HftEngine.WebSocket.Priority
