import Mathlib.Data.List.Basic
import Mathlib.Logic.Function.Basic

/-!
# The Kafka consumer with retries and a dead letter queue

`consume` handles one received message after the other.  The handler is called
up to three times; a message whose calls all raise goes to `send_to_dlq`,
which swallows every exception, and the offset is committed in either case.
What the handler, the DLQ producer and the broker do is part of each
`Delivery`.
-/

namespace HftEngine.RobustConsumer

/-- The parts of a consumer record that the consumer reads. -/
structure Message where
  partition : ℕ
  offset : ℕ
  key : Option ByteArray
  value : Option ByteArray

/-- An awaited call: `cancelled` stands for the exceptions that are not
instances of `Exception`. -/
inductive Outcome where
  | returns
  | raises
  | cancelled
  deriving DecidableEq, Repr

/-- The end of `dlq_producer.send`, which returns once the record is queued:
the record may be delivered or lost afterwards. -/
inductive SendOutcome where
  | delivered
  | lost
  | raises
  | cancelled
  deriving DecidableEq, Repr

/-- A received message with the outcomes of the calls made for it: the handler
by attempt, the DLQ send, and the commits of the `try` and of the `except`. -/
structure Delivery where
  message : Message
  running : Bool
  process_func : ℕ → Outcome
  send : SendOutcome
  commit : Outcome
  commit_after_dlq : Outcome

/-- What is observed of a run.  Received messages are numbered in order. -/
inductive Event where
  | received (number : ℕ) (message : Message)
  | processed (number : ℕ)
  | deadLettered (number : ℕ)
  | committed (offsets : ℕ → Option ℕ)

structure State where
  position : ℕ → Option ℕ
  count : ℕ
  messages_processed : ℕ
  messages_failed : ℕ
  messages_sent_to_dlq : ℕ
  events : List Event

def initial : State where
  position _ := none
  count := 0
  messages_processed := 0
  messages_failed := 0
  messages_sent_to_dlq := 0
  events := []

/-- `stop_after_attempt(3)`; the `max_retries` of the constructor is not read. -/
def attempts : ℕ := 3

namespace State

def log (state : State) (event : Event) : State :=
  { state with events := state.events ++ [event] }

/-- The iterator yields a message and the position moves behind it. -/
def receive (state : State) (message : Message) : State :=
  { state.log (.received state.count message) with
    position :=
      Function.update state.position message.partition (some (message.offset + 1))
    count := state.count + 1 }

/-- `consumer.commit()` without arguments commits every position. -/
def commit (state : State) : State :=
  state.log (.committed state.position)

end State

/-- `_process_with_retry` with `remaining` attempts left. -/
def process_with_retry (process_func : ℕ → Outcome) (number : ℕ) :
    (remaining attempt : ℕ) → State → State × Outcome
  | 0, _, state => (state, .raises)
  | remaining + 1, attempt, state =>
      match process_func attempt with
      | .returns =>
          ({ state.log (.processed number) with
              messages_processed := state.messages_processed + 1 }, .returns)
      | .raises =>
          process_with_retry process_func number remaining (attempt + 1)
            { state with messages_failed := state.messages_failed + 1 }
      | .cancelled => (state, .cancelled)

/-- `data.decode('utf-8') if data else None` does not raise. -/
def decodes : Option ByteArray → Bool
  | none => true
  | some bytes => bytes.isEmpty || bytes.validateUTF8

/-- `send_to_dlq`: only an exception outside `Exception` leaves it. -/
def send_to_dlq (delivery : Delivery) (number : ℕ) (state : State) :
    State × Outcome :=
  if decodes delivery.message.key && decodes delivery.message.value then
    match delivery.send with
    | .delivered =>
        ({ state.log (.deadLettered number) with
            messages_sent_to_dlq := state.messages_sent_to_dlq + 1 }, .returns)
    | .lost =>
        ({ state with
            messages_sent_to_dlq := state.messages_sent_to_dlq + 1 }, .returns)
    | .raises => (state, .returns)
    | .cancelled => (state, .cancelled)
  else (state, .returns)

/-- The `except Exception` branch of the loop body; the flag tells whether the
loop goes on. -/
def afterException (delivery : Delivery) (number : ℕ) (state : State) :
    State × Bool :=
  match send_to_dlq delivery number state with
  | (sent, .returns) =>
      match delivery.commit_after_dlq with
      | .returns => (sent.commit, true)
      | .raises => (sent, false)
      | .cancelled => (sent, false)
  | (sent, _) => (sent, false)

/-- The body of the loop for a message received while running. -/
def handle (delivery : Delivery) (number : ℕ) (state : State) : State × Bool :=
  match process_with_retry delivery.process_func number attempts 0 state with
  | (processed, .returns) =>
      match delivery.commit with
      | .returns => (processed.commit, true)
      | .raises => afterException delivery number processed
      | .cancelled => (processed, false)
  | (failed, .raises) => afterException delivery number failed
  | (failed, .cancelled) => (failed, false)

def consume : State → List Delivery → State
  | state, [] => state
  | state, delivery :: rest =>
      let received := state.receive delivery.message
      if delivery.running then
        match handle delivery state.count received with
        | (next, true) => consume next rest
        | (last, false) => last
      else received

/-! ## At least once or dead letter -/

/-- Every received message at or below a committed offset was handled by a call
that returned, or delivered to the DLQ topic. -/
def Covered (events : List Event) (offsets : ℕ → Option ℕ) : Prop :=
  ∀ number message, .received number message ∈ events →
    (∃ limit, offsets message.partition = some limit ∧ message.offset < limit) →
    .processed number ∈ events ∨ .deadLettered number ∈ events

def CommitsCovered (events : List Event) : Prop :=
  ∀ before offsets after, events = before ++ .committed offsets :: after →
    Covered before offsets

/-- How the handler calls end: with the first that does not raise, if any. -/
def Delivery.handlerOutcome (delivery : Delivery) : Outcome :=
  if delivery.process_func 0 ≠ .raises then delivery.process_func 0
  else if delivery.process_func 1 ≠ .raises then delivery.process_func 1
  else delivery.process_func 2

/-- Key and value can be written into the JSON of a dead letter. -/
def Delivery.Decodes (delivery : Delivery) : Prop :=
  decodes delivery.message.key ∧ decodes delivery.message.value

instance (delivery : Delivery) : Decidable delivery.Decodes :=
  inferInstanceAs (Decidable (_ ∧ _))

/-- A message whose handler calls all raise and whose offset is committed then
is text and its dead letter is delivered.  (A send that is cancelled ends the
loop before the commit.) -/
def Delivery.Accounted (delivery : Delivery) : Prop :=
  delivery.handlerOutcome = .raises → delivery.commit_after_dlq = .returns →
    delivery.Decodes ∧ (delivery.send = .delivered ∨ delivery.send = .cancelled)

/-- The `except` branch goes on to the next message. -/
def Delivery.Recovers (delivery : Delivery) : Prop :=
  ¬ (delivery.Decodes ∧ delivery.send = .cancelled) ∧
    delivery.commit_after_dlq = .returns

/-- The loop goes on to the next message. -/
def Delivery.Continues (delivery : Delivery) : Prop :=
  (delivery.handlerOutcome = .returns ∧
    (delivery.commit = .returns ∨
      (delivery.commit = .raises ∧ delivery.Recovers))) ∨
    (delivery.handlerOutcome = .raises ∧ delivery.Recovers)

/-- Every delivery that the running loop reaches is accounted for. -/
def AllAccounted : List Delivery → Prop
  | [] => True
  | delivery :: rest =>
      delivery.running → delivery.Accounted ∧ (delivery.Continues → AllAccounted rest)

theorem CommitsCovered.of_append {before after : List Event}
    (covered : CommitsCovered (before ++ after)) : CommitsCovered before := by
  intro first offsets second split
  apply covered first offsets (second ++ after)
  rw [split]
  simp

theorem commitsCovered_snoc (events : List Event) (event : Event) :
    CommitsCovered (events ++ [event]) ↔
      CommitsCovered events ∧
        ∀ offsets, event = .committed offsets → Covered events offsets := by
  constructor
  · intro covered
    refine ⟨covered.of_append, ?_⟩
    rintro offsets rfl
    exact covered events offsets [] rfl
  · rintro ⟨earlier, last⟩ before offsets after split
    rcases List.eq_nil_or_concat after with rfl | ⟨init, final, rfl⟩
    · obtain ⟨rfl, final_eq⟩ := List.append_inj' split rfl
      exact last offsets (by simpa using final_eq)
    · apply earlier before offsets init
      have : events ++ [event] = (before ++ .committed offsets :: init) ++ [final] := by
        simpa using split
      exact (List.append_inj' this rfl).1

/-- The outcome and the events of the handler calls. -/
theorem process_with_retry_spec (delivery : Delivery) (number : ℕ)
    (state : State) :
    ∃ processed : State,
      process_with_retry delivery.process_func number attempts 0 state =
          (processed, delivery.handlerOutcome) ∧
        processed.position = state.position ∧ processed.count = state.count ∧
        processed.events = state.events ++
          (if delivery.handlerOutcome = .returns then [.processed number] else []) := by
  cases first : delivery.process_func 0 with
  | returns =>
      simp [process_with_retry, attempts, Delivery.handlerOutcome, first, State.log]
  | cancelled => simp [process_with_retry, attempts, Delivery.handlerOutcome, first]
  | raises =>
      cases second : delivery.process_func 1 with
      | returns =>
          simp [process_with_retry, attempts, Delivery.handlerOutcome, first, second,
            State.log]
      | cancelled =>
          simp [process_with_retry, attempts, Delivery.handlerOutcome, first, second]
      | raises =>
          cases third : delivery.process_func 2 <;>
            simp [process_with_retry, attempts, Delivery.handlerOutcome, first, second,
              third, State.log]

/-- The event of a delivered dead letter, and the ways to leave the branch. -/
theorem afterException_spec (delivery : Delivery) (number : ℕ) (state : State) :
    ∃ sent : State, sent.position = state.position ∧ sent.count = state.count ∧
      sent.events = state.events ++
        (if delivery.Decodes ∧ delivery.send = .delivered then
          [.deadLettered number] else []) ∧
      (delivery.Recovers →
        afterException delivery number state = (sent.commit, true)) ∧
      (¬ delivery.Recovers → afterException delivery number state = (sent, false)) := by
  by_cases text : delivery.Decodes
  · have readable : (decodes delivery.message.key &&
        decodes delivery.message.value) = true := by
      simpa [Delivery.Decodes] using text
    refine ⟨(send_to_dlq delivery number state).1, ?_⟩
    cases sending : delivery.send <;>
      cases committing : delivery.commit_after_dlq <;>
        simp [afterException, send_to_dlq, readable, sending, committing,
          Delivery.Recovers, text, State.log]
  · have unreadable : (decodes delivery.message.key &&
        decodes delivery.message.value) = false := by
      simpa [Delivery.Decodes] using text
    refine ⟨(send_to_dlq delivery number state).1, ?_⟩
    cases committing : delivery.commit_after_dlq <;>
      simp [afterException, send_to_dlq, unreadable, committing,
        Delivery.Recovers, text]

/-- The message has been handled or its dead letter delivered. -/
def Resolved (events : List Event) (number : ℕ) : Prop :=
  .processed number ∈ events ∨ .deadLettered number ∈ events

/-- Before the message `number` is resolved: the earlier messages are, and every
commit so far was covered. -/
structure Pending (number : ℕ) (state : State) : Prop where
  commitsCovered : CommitsCovered state.events
  resolved : ∀ other message, .received other message ∈ state.events →
    other = number ∨ Resolved state.events other

/-- Between two messages. -/
structure Settled (state : State) : Prop where
  commitsCovered : CommitsCovered state.events
  resolved : ∀ other message, .received other message ∈ state.events →
    Resolved state.events other

theorem Settled.commit {state : State} (settled : Settled state) :
    Settled state.commit := by
  constructor
  · refine (commitsCovered_snoc _ _).mpr ⟨settled.commitsCovered, ?_⟩
    intro offsets _ number message received _
    exact settled.resolved number message received
  · intro other message received
    simp only [State.commit, State.log, List.mem_append, List.mem_singleton,
      reduceCtorEq, or_false] at received
    simpa [Resolved, State.commit, State.log] using
      settled.resolved other message received

/-- An event that resolves the pending message settles the state. -/
theorem Pending.resolve {number : ℕ} {state after : State}
    (pending : Pending number state) {event : Event}
    (resolves : event = .processed number ∨ event = .deadLettered number)
    (events : after.events = state.events ++ [event]) : Settled after := by
  constructor
  · rw [events]
    refine (commitsCovered_snoc _ _).mpr ⟨pending.commitsCovered, ?_⟩
    rintro offsets rfl
    simp at resolves
  · intro other message received
    have now : Resolved after.events number := by
      rcases resolves with rfl | rfl <;> simp [Resolved, events]
    have before : .received other message ∈ state.events := by
      rcases resolves with rfl | rfl <;> simpa [events] using received
    rcases pending.resolved other message before with rfl | earlier
    · exact now
    · rw [events]
      rcases earlier with processed | deadLettered
      · exact .inl (List.mem_append_left _ processed)
      · exact .inr (List.mem_append_left _ deadLettered)

theorem Settled.pending {number : ℕ} {state : State} (settled : Settled state) :
    Pending number state :=
  ⟨settled.commitsCovered, fun other message received =>
    .inr (settled.resolved other message received)⟩

theorem Settled.of_events {state after : State} (settled : Settled state)
    (events : after.events = state.events) : Settled after := by
  constructor
  · rw [events]
    exact settled.commitsCovered
  · rw [events]
    exact settled.resolved

/-- What a delivery leaves behind when it is accounted for. -/
def Safe (result : State × Bool) : Prop :=
  CommitsCovered result.1.events ∧ (result.2 = true → Settled result.1)

theorem Settled.safe {state : State} (settled : Settled state) (goes : Bool) :
    Safe (state, goes) :=
  ⟨settled.commitsCovered, fun _ => settled⟩

theorem afterException_settled {delivery : Delivery} {number : ℕ} {state : State}
    (settled : Settled state) : Safe (afterException delivery number state) := by
  obtain ⟨sent, -, -, events, recovers, ends⟩ :=
    afterException_spec delivery number state
  have still : Settled sent := by
    split at events
    · exact settled.pending.resolve (.inr rfl) events
    · exact settled.of_events (by simpa using events)
  by_cases goes : delivery.Recovers
  · rw [recovers goes]
    exact still.commit.safe true
  · rw [ends goes]
    exact still.safe false

theorem afterException_pending {delivery : Delivery} {number : ℕ} {state : State}
    (pending : Pending number state) (exhausted : delivery.handlerOutcome = .raises)
    (accounted : delivery.Accounted) :
    Safe (afterException delivery number state) := by
  obtain ⟨sent, -, -, events, recovers, ends⟩ :=
    afterException_spec delivery number state
  by_cases goes : delivery.Recovers
  · obtain ⟨text, sent_or_cancelled⟩ := accounted exhausted goes.2
    have delivered : delivery.send = .delivered :=
      sent_or_cancelled.resolve_right fun cancelled => goes.1 ⟨text, cancelled⟩
    have settled : Settled sent :=
      pending.resolve (.inr rfl) (by simpa [text, delivered] using events)
    rw [recovers goes]
    exact settled.commit.safe true
  · rw [ends goes]
    refine ⟨?_, by simp⟩
    split at events
    · exact (pending.resolve (.inr rfl) events).commitsCovered
    · simpa [events] using pending.commitsCovered

theorem handle_safe {delivery : Delivery} {number : ℕ} {state : State}
    (pending : Pending number state) (accounted : delivery.Accounted) :
    Safe (handle delivery number state) := by
  obtain ⟨processed, result, -, -, events⟩ :=
    process_with_retry_spec delivery number state
  unfold handle
  rw [result]
  cases outcome : delivery.handlerOutcome with
  | returns =>
      have settled : Settled processed :=
        pending.resolve (.inl rfl) (by simpa [outcome] using events)
      cases delivery.commit with
      | returns => exact settled.commit.safe true
      | raises => exact afterException_settled settled
      | cancelled => exact settled.safe false
  | raises =>
      have unchanged : processed.events = state.events := by
        simpa [outcome] using events
      refine afterException_pending ⟨?_, ?_⟩ outcome accounted
      · rw [unchanged]
        exact pending.commitsCovered
      · rw [unchanged]
        exact pending.resolved
  | cancelled =>
      refine ⟨?_, by simp⟩
      have unchanged : processed.events = state.events := by
        simpa [outcome] using events
      simpa [unchanged] using pending.commitsCovered

theorem handle_goes_iff (delivery : Delivery) (number : ℕ) (state : State) :
    (handle delivery number state).2 = true ↔ delivery.Continues := by
  obtain ⟨processed, result, -, -, -⟩ :=
    process_with_retry_spec delivery number state
  obtain ⟨sent, -, -, -, recovers, ends⟩ :=
    afterException_spec delivery number processed
  have branch : (afterException delivery number processed).2 = true ↔
      delivery.Recovers := by
    by_cases goes : delivery.Recovers
    · simp [recovers goes, goes]
    · simp [ends goes, goes]
  unfold handle
  rw [result]
  cases outcome : delivery.handlerOutcome with
  | returns =>
      cases committing : delivery.commit <;>
        simp [Delivery.Continues, outcome, committing, branch]
  | raises => simp [Delivery.Continues, outcome, branch]
  | cancelled => simp [Delivery.Continues, outcome]

/-- The events that one delivery may add. -/
def Event.Concerns (number : ℕ) : Event → Prop
  | .processed other => other = number
  | .deadLettered other => other = number
  | .committed _ => True
  | .received .. => False

/-- A step of the loop that only adds events of one delivery. -/
def Extends (number : ℕ) (before after : State) : Prop :=
  after.count = before.count ∧
    ∃ trace, after.events = before.events ++ trace ∧
      ∀ event ∈ trace, event.Concerns number

theorem Extends.trans {number : ℕ} {first second third : State}
    (left : Extends number first second) (right : Extends number second third) :
    Extends number first third := by
  obtain ⟨left_count, left_trace, left_events, left_concerns⟩ := left
  obtain ⟨right_count, right_trace, right_events, right_concerns⟩ := right
  refine ⟨right_count.trans left_count, left_trace ++ right_trace, ?_, ?_⟩
  · rw [right_events, left_events, List.append_assoc]
  · intro event member
    rcases List.mem_append.mp member with before | after
    · exact left_concerns event before
    · exact right_concerns event after

theorem Extends.of_optional {number : ℕ} {before after : State} {event : Event}
    {happens : Prop} [Decidable happens] (count : after.count = before.count)
    (events : after.events = before.events ++ (if happens then [event] else []))
    (concerns : event.Concerns number) : Extends number before after := by
  refine ⟨count, _, events, ?_⟩
  intro other member
  split at member
  · rw [List.mem_singleton.mp member]
    exact concerns
  · cases member

theorem Extends.commit (number : ℕ) (state : State) :
    Extends number state state.commit :=
  ⟨rfl, [.committed state.position], rfl, by simp [Event.Concerns]⟩

theorem afterException_extends (delivery : Delivery) (number : ℕ)
    (state : State) :
    Extends number state (afterException delivery number state).1 := by
  obtain ⟨sent, -, count, events, recovers, ends⟩ :=
    afterException_spec delivery number state
  have sending : Extends number state sent := .of_optional count events rfl
  by_cases goes : delivery.Recovers
  · rw [recovers goes]
    exact sending.trans (.commit number sent)
  · rw [ends goes]
    exact sending

theorem handle_extends (delivery : Delivery) (number : ℕ) (state : State) :
    Extends number state (handle delivery number state).1 := by
  obtain ⟨processed, result, -, count, events⟩ :=
    process_with_retry_spec delivery number state
  have calling : Extends number state processed := .of_optional count events rfl
  unfold handle
  rw [result]
  cases delivery.handlerOutcome with
  | returns =>
      cases delivery.commit with
      | returns => exact calling.trans (.commit number processed)
      | raises => exact calling.trans (afterException_extends delivery number processed)
      | cancelled => exact calling
  | raises => exact calling.trans (afterException_extends delivery number processed)
  | cancelled => exact calling

theorem consume_events_append (deliveries : List Delivery) (state : State) :
    ∃ later, (consume state deliveries).events = state.events ++ later := by
  induction deliveries generalizing state with
  | nil => exact ⟨[], by simp [consume]⟩
  | cons delivery rest ih =>
      simp only [consume]
      split
      · obtain ⟨-, trace, events, -⟩ := handle_extends delivery state.count
          (state.receive delivery.message)
        split
        case h_1 next handled =>
          rw [handled] at events
          obtain ⟨later, final⟩ := ih next
          refine ⟨.received state.count delivery.message :: (trace ++ later), ?_⟩
          rw [final, events]
          simp [State.receive, State.log]
        case h_2 last handled =>
          rw [handled] at events
          refine ⟨.received state.count delivery.message :: trace, ?_⟩
          rw [events]
          simp [State.receive, State.log]
      · exact ⟨[.received state.count delivery.message], rfl⟩

/-- A delivery that is not accounted for ends in a commit that covers it. -/
theorem handle_not_covered {delivery : Delivery} {number : ℕ} {state : State}
    (received : .received number delivery.message ∈ state.events)
    (position : state.position delivery.message.partition =
      some (delivery.message.offset + 1))
    (unresolved : ¬ Resolved state.events number)
    (unaccounted : ¬ delivery.Accounted) :
    ¬ CommitsCovered (handle delivery number state).1.events := by
  simp only [Delivery.Accounted, Classical.not_imp] at unaccounted
  obtain ⟨exhausted, commits, undelivered⟩ := unaccounted
  obtain ⟨failed, result, failed_position, -, failed_events⟩ :=
    process_with_retry_spec delivery number state
  obtain ⟨sent, sent_position, -, sent_events, recovers, -⟩ :=
    afterException_spec delivery number failed
  have goes : delivery.Recovers :=
    ⟨fun both => undelivered ⟨both.1, .inr both.2⟩, commits⟩
  have nothing_sent : ¬ (delivery.Decodes ∧ delivery.send = .delivered) :=
    fun both => undelivered ⟨both.1, .inl both.2⟩
  have events : sent.events = state.events := by
    simp [sent_events, failed_events, nothing_sent, exhausted]
  intro covered
  unfold handle at covered
  rw [result, exhausted] at covered
  simp only [recovers goes, State.commit, State.log] at covered
  have last := ((commitsCovered_snoc _ _).mp covered).2 _ rfl
  apply unresolved
  rw [← events]
  refine last number delivery.message (by rwa [events]) ⟨_, ?_, Nat.lt_succ_self _⟩
  rw [sent_position, failed_position]
  exact position

/-- Numbers not yet given out are unresolved. -/
def Fresh (state : State) : Prop :=
  ∀ number, state.count ≤ number → ¬ Resolved state.events number

theorem Fresh.after {number : ℕ} {before after : State} (fresh : Fresh before)
    (given : number < before.count) (extended : Extends number before after) :
    Fresh after := by
  obtain ⟨count, trace, events, concerns⟩ := extended
  intro other unused resolved
  have different : other ≠ number := by omega
  have before_resolved : Resolved before.events other := by
    rw [events] at resolved
    rcases resolved with processed | deadLettered
    · rcases List.mem_append.mp processed with early | new
      · exact .inl early
      · exact (different (concerns _ new)).elim
    · rcases List.mem_append.mp deadLettered with early | new
      · exact .inr early
      · exact (different (concerns _ new)).elim
  exact fresh other (by omega) before_resolved

theorem Fresh.receive {state : State} (fresh : Fresh state) (message : Message) :
    Fresh (state.receive message) := by
  intro other unused resolved
  apply fresh other (by simp only [State.receive] at unused; omega)
  simpa [Resolved, State.receive, State.log] using resolved

theorem Settled.receive {state : State} (settled : Settled state)
    (message : Message) : Pending state.count (state.receive message) := by
  constructor
  · exact (commitsCovered_snoc _ _).mpr ⟨settled.commitsCovered, by simp⟩
  · intro other content received
    rcases List.mem_append.mp received with earlier | new
    · right
      simpa [Resolved, State.receive, State.log] using
        settled.resolved other content earlier
    · left
      simp only [List.mem_singleton, Event.received.injEq] at new
      exact new.1

theorem consume_commitsCovered_iff (deliveries : List Delivery) {state : State}
    (settled : Settled state) (fresh : Fresh state) :
    CommitsCovered (consume state deliveries).events ↔ AllAccounted deliveries := by
  induction deliveries generalizing state with
  | nil => simpa [consume, AllAccounted] using settled.commitsCovered
  | cons delivery rest ih =>
      have pending := settled.receive delivery.message
      have extended := handle_extends delivery state.count
        (state.receive delivery.message)
      have goes_iff := handle_goes_iff delivery state.count
        (state.receive delivery.message)
      simp only [consume, AllAccounted]
      by_cases running : delivery.running = true
      · simp only [running, if_true, forall_const]
        by_cases accounted : delivery.Accounted
        · have safe := handle_safe pending accounted
          split
          case h_1 next handled =>
            rw [handled] at safe extended goes_iff
            have continues := goes_iff.mp rfl
            have next_fresh : Fresh next :=
              (fresh.receive delivery.message).after
                (by simp [State.receive]) extended
            simpa [accounted, continues] using ih (safe.2 rfl) next_fresh
          case h_2 last handled =>
            rw [handled] at safe goes_iff
            have stops : ¬ delivery.Continues := fun goes => by
              simpa using goes_iff.mpr goes
            simpa [accounted, stops] using safe.1
        · have unresolved : ¬ Resolved (state.receive delivery.message).events
              state.count := by
            intro resolved
            apply fresh state.count (Nat.le_refl _)
            simpa [Resolved, State.receive, State.log] using resolved
          have uncovered : ¬ CommitsCovered (handle delivery state.count
              (state.receive delivery.message)).1.events :=
            handle_not_covered (by simp [State.receive, State.log])
              (by simp [State.receive]) unresolved accounted
          simp only [accounted, false_and, iff_false]
          intro covered
          split at covered
          case h_1 next handled =>
            rw [handled] at uncovered
            obtain ⟨later, events⟩ := consume_events_append rest next
            rw [events] at covered
            exact uncovered covered.of_append
          case h_2 last handled =>
            rw [handled] at uncovered
            exact uncovered covered
      · simp only [running, Bool.false_eq_true, if_false, false_implies, iff_true]
        exact pending.commitsCovered

theorem initial_settled : Settled initial := by
  constructor
  · intro before offsets after split
    simp [initial] at split
  · intro other message received
    simp [initial] at received

theorem initial_fresh : Fresh initial := by
  intro number _ resolved
  simp [Resolved, initial] at resolved

/-- At least once or dead letter holds of a run exactly when every message that
exhausts its attempts and is committed is text whose dead letter arrives. -/
theorem consume_atLeastOnce_iff (deliveries : List Delivery) :
    CommitsCovered (consume initial deliveries).events ↔ AllAccounted deliveries :=
  consume_commitsCovered_iff deliveries initial_settled initial_fresh

/-- A payload that is not UTF-8, such as an Avro record, whose handler always
raises. -/
def binaryDelivery : Delivery where
  message := { partition := 0, offset := 7, key := none, value := some ⟨#[0xff]⟩ }
  running := true
  process_func _ := .raises
  send := .delivered
  commit := .returns
  commit_after_dlq := .returns

theorem consume_atLeastOnce_fails :
    ¬ CommitsCovered (consume initial [binaryDelivery]).events := by
  intro covered
  have outcome := covered [.received 0 binaryDelivery.message]
    (Function.update (fun _ => none) 0 (some 8)) [] rfl 0 binaryDelivery.message
    (by simp) ⟨8, rfl, by decide⟩
  simp at outcome

end HftEngine.RobustConsumer
