import HftEngine.Lib.Transition
import HftEngine.Lib.KeyedWrites
import Mathlib.Data.Int.Notation
import Mathlib.Data.Option.Basic

/-!
# Batches of the realtime service

The consumer appends each message to `message_buffer` and flushes it when it
is full; a second task flushes it every 20 ms.  `process_batch` copies and
clears the buffer and builds the pipeline without an await, so that a flush
suspends only at `pipeline.execute()`.  Of the commands of a pipeline the
model keeps the `SET`s; those on `latest:{symbol_id}` are writes of the key
`symbol_id`.  The tasks run until the service is told to stop.
-/

namespace HftEngine.Realtime

open Transition KeyedWrites

inductive Task where
  | consumer
  | flusher
  deriving DecidableEq, Repr

/-- What the service reads of a message, what `json.dumps` makes of it (none
where it raises), and `BATCH_SIZE`. -/
structure Service (Message : Type*) where
  symbol_id : Message → Option ℤ
  dumps : Message → Option String
  batch_size : ℕ := 20

/-- The globals of the service and the keys of Redis.  `inflight` lists the
pipelines that are being executed in the order in which their batches were
copied; `consumed` and `sets` record the messages consumed and the `SET`s
executed. -/
structure State (Message : Type*) where
  message_buffer : List Message
  inflight : List (Task × List (ℤ × String))
  redis : ℤ → Option String
  consumed : List Message
  sets : List (ℤ × String)

/-- How an awaited `pipeline.execute()` ends.  It may raise after Redis has
executed the transaction. -/
inductive ExecuteOutcome where
  | returns
  | raises (applied : Bool)
  deriving DecidableEq, Repr

def ExecuteOutcome.applied : ExecuteOutcome → Bool
  | .returns => true
  | .raises applied => applied

inductive Label (Message : Type*) where
  | consume (msg : Message)
  | timer
  | executed (task : Task) (outcome : ExecuteOutcome)

/-- The pipeline a task awaits, between those copied before it and after it. -/
def awaited {Command : Type*} (task : Task) :
    List (Task × Command) →
      Option (List (Task × Command) × Command × List (Task × Command))
  | [] => none
  | (owner, command) :: rest =>
      if owner = task then some ([], command, rest)
      else (awaited task rest).map
        (fun found => ((owner, command) :: found.1, found.2))

theorem awaited_eq {Command : Type*} {task : Task}
    {flushes earlier later : List (Task × Command)} {command : Command}
    (found : awaited task flushes = some (earlier, command, later)) :
    flushes = earlier ++ (task, command) :: later := by
  induction flushes generalizing earlier with
  | nil => cases found
  | cons flush rest ih =>
      unfold awaited at found
      split at found
      case isTrue own =>
        obtain ⟨rfl, rfl, rfl⟩ := Option.some.inj found
        rw [← own]
        rfl
      case isFalse =>
        obtain ⟨⟨front, own, back⟩, inRest, same⟩ := Option.map_eq_some_iff.mp found
        obtain ⟨rfl, rfl, rfl⟩ := same
        rw [ih inRest]
        rfl

variable {Message : Type*}

def State.append (state : State Message) (msg : Message) : State Message :=
  { state with
    message_buffer := state.message_buffer ++ [msg]
    consumed := state.consumed ++ [msg] }

namespace Service

variable (service : Service Message)

/-- `symbol_id` unless it is missing or 0. -/
def symbol (msg : Message) : Option ℤ :=
  (service.symbol_id msg).filter (fun id => id ≠ 0)

/-- The loop that fills the pipeline; none where `json.dumps` raises. -/
def pipeline : List Message → Option (List (ℤ × String))
  | [] => some []
  | msg :: batch =>
      match service.symbol msg with
      | none => pipeline batch
      | some symbol_id => do
          let json_data ← service.dumps msg
          let rest ← pipeline batch
          some ((symbol_id, json_data) :: rest)

/-- `process_batch` up to its await. -/
def process_batch (state : State Message) (task : Task) : State Message :=
  if state.message_buffer = [] then state
  else
    match service.pipeline state.message_buffer with
    | none => { state with message_buffer := [] }
    | some commands =>
        { state with
          message_buffer := []
          inflight := state.inflight ++ [(task, commands)] }

def process_message (state : State Message) (msg : Message) : State Message :=
  if service.batch_size ≤ (state.append msg).message_buffer.length then
    service.process_batch (state.append msg) .consumer
  else state.append msg

def step (state : State Message) : Label Message → Option (State Message)
  | .consume msg =>
      match awaited .consumer state.inflight with
      | none => some (service.process_message state msg)
      | some _ => none
  | .timer =>
      match awaited .flusher state.inflight with
      | none => some (service.process_batch state .flusher)
      | some _ => none
  | .executed task outcome =>
      match awaited task state.inflight with
      | none => none
      | some (earlier, commands, later) =>
          some
            { state with
              inflight := earlier ++ later
              redis := if outcome.applied then play state.redis commands
                else state.redis
              sets := if outcome.applied then state.sets ++ commands
                else state.sets }

/-- The service over a Redis with any contents. -/
def system (redis : ℤ → Option String) : System (State Message) (Label Message) where
  start :=
    { message_buffer := []
      inflight := []
      redis := redis
      consumed := []
      sets := [] }
  step := service.step

/-! ## The latest message of each symbol -/

def lastConsumed (state : State Message) (symbol_id : ℤ) : Option Message :=
  (state.consumed.filter (fun msg => service.symbol msg = some symbol_id)).getLast?

/-- Once all flushes have finished, `latest:{symbol_id}` holds the last
consumed message of the symbol. -/
def LatestStored (state : State Message) : Prop :=
  state.message_buffer = [] → state.inflight = [] →
    ∀ symbol_id, ∀ msg ∈ service.lastConsumed state symbol_id,
      ∃ json_data, service.dumps msg = some json_data ∧
        state.redis symbol_id = some json_data

/-- Every message of a symbol is in the buffer, in a pipeline that is being
executed, or set. -/
def NoneDropped (state : State Message) : Prop :=
  ∀ msg ∈ state.consumed, ∀ symbol_id ∈ service.symbol msg,
    msg ∈ state.message_buffer ∨
      ∃ json_data, service.dumps msg = some json_data ∧
        ((∃ flush ∈ state.inflight, (symbol_id, json_data) ∈ flush.2) ∨
          (symbol_id, json_data) ∈ state.sets)

/-- An execution that is not lost, of a pipeline that shares no symbol with one
copied before it and still being executed. -/
def InOrder (state : State Message) (task : Task) (outcome : ExecuteOutcome) :
    Prop :=
  ∀ found ∈ awaited task state.inflight,
    (outcome.applied = true ∨ found.2.1 = []) ∧
      ∀ flush ∈ found.1, DisjointKeys flush.2 found.2.1

/-- The steps that reach no defect of `process_batch`. -/
def Sound (state : State Message) : Label Message → Prop
  | .consume msg => service.symbol msg ≠ none → service.dumps msg ≠ none
  | .timer => True
  | .executed task outcome => InOrder state task outcome

section Decidability

instance (state : State Message) (task : Task) (outcome : ExecuteOutcome) :
    Decidable (InOrder state task outcome) :=
  inferInstanceAs (Decidable (∀ found ∈ awaited task state.inflight, _))

instance (state : State Message) :
    (label : Label Message) → Decidable (service.Sound state label)
  | .consume msg => inferInstanceAs
      (Decidable (service.symbol msg ≠ none → service.dumps msg ≠ none))
  | .timer => isTrue trivial
  | .executed task outcome =>
      inferInstanceAs (Decidable (InOrder state task outcome))

end Decidability

/-! ## Commands -/

/-- The `SET` of a message, if it has a symbol and can be serialised. -/
def command (msg : Message) : Option (ℤ × String) :=
  (service.symbol msg).bind
    (fun symbol_id => (service.dumps msg).map (fun json => (symbol_id, json)))

def commands (batch : List Message) : List (ℤ × String) :=
  batch.filterMap service.command

def Serialises (msg : Message) : Prop :=
  service.symbol msg ≠ none → service.dumps msg ≠ none

theorem pipeline_eq {batch : List Message}
    (serialise : ∀ msg ∈ batch, service.Serialises msg) :
    service.pipeline batch = some (service.commands batch) := by
  induction batch with
  | nil => rfl
  | cons msg batch ih =>
      have rest := ih (fun later member =>
        serialise later (List.mem_cons_of_mem _ member))
      have first := serialise msg List.mem_cons_self
      cases symbol : service.symbol msg with
      | none => simp [pipeline, commands, command, symbol, rest]
      | some symbol_id =>
          obtain ⟨json, dumped⟩ := Option.ne_none_iff_exists'.mp
            (first (by simp [symbol]))
          simp [pipeline, commands, command, symbol, dumped, rest]

/-- The last command of a symbol is that of its last message. -/
theorem last_command {batch : List Message} {symbol_id : ℤ} {msg : Message}
    (serialise : ∀ msg ∈ batch, service.Serialises msg)
    (last : (batch.filter (fun msg => service.symbol msg = some symbol_id)).getLast? =
      some msg) :
    ∃ json, service.dumps msg = some json ∧
      ((service.commands batch).filter
        (fun write => write.1 = symbol_id)).getLast? = some (symbol_id, json) := by
  induction batch using List.reverseRecOn with
  | nil => simp at last
  | append_singleton batch newest ih =>
      have earlier := ih (fun msg member =>
        serialise msg (List.mem_append_left _ member))
      have newestSerialises := serialise newest (by simp)
      by_cases same : service.symbol newest = some symbol_id
      · obtain ⟨json, dumped⟩ := Option.ne_none_iff_exists'.mp
          (newestSerialises (by simp [same]))
        have newestLast : newest = msg := by simpa [same] using last
        subst newestLast
        exact ⟨json, dumped, by simp [commands, command, same, dumped]⟩
      · obtain ⟨json, dumped, latest⟩ := earlier (by simpa [same] using last)
        refine ⟨json, dumped, ?_⟩
        have nothing : (service.commands [newest]).filter
            (fun write => write.1 = symbol_id) = [] := by
          cases other : service.symbol newest with
          | none => simp [commands, command, other]
          | some other_id =>
              have different : other_id ≠ symbol_id := by
                rintro rfl
                exact same other
              cases service.dumps newest <;>
                simp [commands, command, other, different]
        rw [commands, List.filterMap_append, List.filter_append] at *
        rw [show (List.filterMap service.command [newest]).filter
          (fun write => write.1 = symbol_id) = [] from nothing, List.append_nil]
        exact latest

/-! ## The invariant -/

/-- Redis, once the pipelines in flight and the buffer have been written in
the order of their messages, holds what all messages consumed would leave. -/
structure Consistent (redis : ℤ → Option String) (state : State Message) :
    Prop where
  serialise : ∀ msg ∈ state.consumed, service.Serialises msg
  buffered : state.message_buffer ⊆ state.consumed
  replayed : play state.redis (state.inflight.flatMap Prod.snd ++
    service.commands state.message_buffer) =
      play redis (service.commands state.consumed)
  kept : ∀ msg ∈ state.consumed, ∀ write ∈ service.command msg,
    msg ∈ state.message_buffer ∨
      (∃ flush ∈ state.inflight, write ∈ flush.2) ∨ write ∈ state.sets

variable {service} {redis : ℤ → Option String} {state : State Message}

namespace Consistent

theorem process_batch (consistent : service.Consistent redis state) (task : Task) :
    service.Consistent redis (service.process_batch state task) := by
  have serialise : ∀ msg ∈ state.message_buffer, service.Serialises msg :=
    fun msg member => consistent.serialise msg (consistent.buffered member)
  unfold Service.process_batch
  rw [service.pipeline_eq serialise]
  split
  case isTrue => exact consistent
  case isFalse =>
    refine ⟨consistent.serialise, by simp, ?_, ?_⟩
    · simpa [commands] using consistent.replayed
    · intro msg member write set
      right
      rcases consistent.kept msg member write set with waiting | flying | done
      · refine .inl ⟨_, List.mem_append_right _ List.mem_cons_self, ?_⟩
        exact List.mem_filterMap.mpr ⟨msg, waiting, set⟩
      · obtain ⟨flush, among, written⟩ := flying
        exact .inl ⟨flush, List.mem_append_left _ among, written⟩
      · exact .inr done

theorem append (consistent : service.Consistent redis state) {msg : Message}
    (serialises : service.Serialises msg) :
    service.Consistent redis (state.append msg) := by
  refine ⟨?_, ?_, ?_, ?_⟩
  · intro other member
    rcases List.mem_append.mp member with earlier | new
    · exact consistent.serialise other earlier
    · exact List.mem_singleton.mp new ▸ serialises
  · intro other member
    rcases List.mem_append.mp member with earlier | new
    · exact List.mem_append_left _ (consistent.buffered earlier)
    · exact List.mem_append_right _ new
  · have replayed := congrArg (fun store => play store (service.commands [msg]))
      consistent.replayed
    simpa [State.append, commands, ← play_append] using replayed
  · intro other member write set
    rcases List.mem_append.mp member with earlier | new
    · rcases consistent.kept other earlier write set with waiting | rest
      · exact .inl (List.mem_append_left _ waiting)
      · exact .inr rest
    · exact .inl (List.mem_append_right _ new)

theorem process_message (consistent : service.Consistent redis state)
    {msg : Message} (serialises : service.Serialises msg) :
    service.Consistent redis (service.process_message state msg) := by
  unfold Service.process_message
  split
  case isTrue => exact (consistent.append serialises).process_batch .consumer
  case isFalse => exact consistent.append serialises

/-- The end of an execution that kept its order. -/
theorem executed (consistent : service.Consistent redis state) {task : Task}
    {outcome : ExecuteOutcome} {earlier later : List (Task × List (ℤ × String))}
    {writes : List (ℤ × String)}
    (flying : state.inflight = earlier ++ (task, writes) :: later)
    (landed : outcome.applied = true ∨ writes = [])
    (disjoint : ∀ flush ∈ earlier, DisjointKeys flush.2 writes) :
    service.Consistent redis
      { state with
        inflight := earlier ++ later
        redis := if outcome.applied then play state.redis writes else state.redis
        sets := if outcome.applied then state.sets ++ writes else state.sets } := by
  have apart : DisjointKeys (earlier.flatMap Prod.snd) writes := by
    intro first member second written
    obtain ⟨flush, among, inFlush⟩ := List.mem_flatMap.mp member
    exact disjoint flush among first inFlush second written
  refine ⟨consistent.serialise, consistent.buffered, ?_, ?_⟩
  · have replayed := consistent.replayed
    simp only [flying, List.flatMap_append, List.flatMap_cons,
      List.append_assoc] at replayed ⊢
    rcases landed with applied | rfl
    · rw [if_pos applied, play_segment apart]
      simpa only [List.append_assoc] using replayed
    · simpa [play] using replayed
  · intro msg member write set
    rcases consistent.kept msg member write set with waiting | inFlight | done
    · exact .inl waiting
    · right
      obtain ⟨flush, among, written⟩ := inFlight
      rw [flying] at among
      rcases List.mem_append.mp among with before | rest
      · exact .inl ⟨flush, List.mem_append_left _ before, written⟩
      · rcases List.mem_cons.mp rest with rfl | after
        · rcases landed with applied | empty
          · right
            simpa [applied] using Or.inr written
          · simp [empty] at written
        · exact .inl ⟨flush, List.mem_append_right _ after, written⟩
    · right
      right
      dsimp only
      split
      case isTrue => exact List.mem_append_left _ done
      case isFalse => exact done

theorem latestStored (consistent : service.Consistent redis state) :
    service.LatestStored state := by
  intro emptied landed symbol_id msg last
  obtain ⟨json, dumped, latest⟩ :=
    service.last_command consistent.serialise last
  refine ⟨json, dumped, ?_⟩
  have replayed := consistent.replayed
  simp only [emptied, landed, commands, List.flatMap_nil, List.filterMap_nil,
    List.append_nil, play] at replayed
  rw [replayed]
  exact play_last redis _ latest

theorem noneDropped (consistent : service.Consistent redis state) :
    service.NoneDropped state := by
  intro msg member symbol_id symbol
  obtain ⟨json, dumped⟩ := Option.ne_none_iff_exists'.mp
    (consistent.serialise msg member (by simp [Option.mem_def.mp symbol]))
  rcases consistent.kept msg member (symbol_id, json)
      (by simp [command, Option.mem_def.mp symbol, dumped]) with waiting | kept
  · exact .inl waiting
  · exact .inr ⟨json, dumped, kept⟩

theorem step {after : State Message} {label : Label Message}
    (consistent : service.Consistent redis state)
    (sound : service.Sound state label)
    (taken : service.step state label = some after) :
    service.Consistent redis after := by
  cases label with
  | consume msg =>
      simp only [Service.step] at taken
      split at taken
      · exact Option.some.inj taken ▸ consistent.process_message sound
      · cases taken
  | timer =>
      simp only [Service.step] at taken
      split at taken
      · exact Option.some.inj taken ▸ consistent.process_batch .flusher
      · cases taken
  | executed task outcome =>
      simp only [Service.step] at taken
      split at taken
      case h_1 => cases taken
      case h_2 earlier writes later found =>
        obtain ⟨landed, disjoint⟩ := sound _ found
        exact Option.some.inj taken ▸
          consistent.executed (awaited_eq found) landed disjoint

end Consistent

end Service

/-- Messages that are their own symbol and always serialise. -/
def numbers : Service ℤ where
  symbol_id msg := some msg
  dumps msg := some (toString msg)

end HftEngine.Realtime
