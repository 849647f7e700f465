import HftEngine.Lib.Tasks
import HftEngine.Lib.Transition
import Mathlib.Data.List.Nodup

/-!
# The metrics stream of the admin service

A step runs the handler of a websocket or a collection task up to its next
`await`.  A task that has been cancelled gets a `CancelledError` at the `await` it
stands at, and ends.
-/

namespace HftEngine.Admin.MetricsStreaming

open Transition Tasks

/-- The `await` of a collection task.  The loop over the clients goes by index. -/
inductive Stage where
  | created
  | list_containers
  | gather
  | send_json (connection index : ℕ) (disconnected : List ℕ)
  | sleep
  | sleep_after_error
  deriving DecidableEq, Repr

structure Task where
  stage : Stage := .created
  cancelled : Bool := false
  deriving DecidableEq, Repr

/-- The manager, the tasks that have not ended and the websockets whose handlers
are receiving.  Websockets and tasks are numbered as they come. -/
structure State where
  active_connections : List ℕ := []
  is_running : Bool := false
  task : Option ℕ := none
  tasks : ℕ → Option Task := fun _ => none
  created : ℕ := 0
  accepted : ℕ := 0
  receiving : List ℕ := []

namespace State

variable (state : State)

def start_collection : State :=
  { state with
    is_running := true
    task := some state.created
    tasks := Function.update state.tasks state.created (some {})
    created := state.created + 1 }

def cancel (id : ℕ) : State :=
  { state with
    tasks := Function.update state.tasks id
      ((state.tasks id).map (fun task => { task with cancelled := true })) }

def stop_collection : State :=
  match state.task with
  | some id => { state with is_running := false }.cancel id
  | none => { state with is_running := false }

def connect (websocket : ℕ) : State :=
  let joined :=
    { state with active_connections := state.active_connections ++ [websocket] }
  if joined.is_running then joined else joined.start_collection

def disconnect (websocket : ℕ) : State :=
  let left :=
    { state with active_connections := state.active_connections.erase websocket }
  if left.active_connections = [] ∧ left.is_running then left.stop_collection
  else left

/-! ## The loop of a collection task -/

def goto (id : ℕ) (stage : Stage) : State :=
  { state with
    tasks := Function.update state.tasks id
      ((state.tasks id).map (fun task => { task with stage })) }

def finish (id : ℕ) : State :=
  { state with tasks := Function.update state.tasks id none }

/-- The condition of the `while` and the check after it. -/
def again (id : ℕ) : State :=
  if state.is_running then
    if state.active_connections = [] then state.finish id
    else state.goto id .list_containers
  else state.finish id

/-- The loop over the clients comes to the next one or to its end. -/
def next (id index : ℕ) (disconnected : List ℕ) : State :=
  match state.active_connections[index]? with
  | some connection => state.goto id (.send_json connection (index + 1) disconnected)
  | none => (disconnected.foldl disconnect state).goto id .sleep

/-- What is awaited returns or raises. -/
def resume (id : ℕ) (task : Task) (ok : Bool) : State :=
  if task.cancelled then state.finish id
  else
    match task.stage with
    | .created => state.again id
    | .list_containers => state.goto id (if ok then .gather else .sleep_after_error)
    | .gather => if ok then state.next id 0 [] else state.goto id .sleep_after_error
    | .send_json connection index disconnected =>
        state.next id index
          (if ok then disconnected else disconnected ++ [connection])
    | .sleep => state.again id
    | .sleep_after_error => state.again id

/-- A handler whose websocket has been accepted. -/
def accept : State :=
  { state with
    accepted := state.accepted + 1
    receiving := state.accepted :: state.receiving }

/-- The end of a handler. -/
def leave (websocket : ℕ) : State :=
  { state with receiving := state.receiving.erase websocket }

end State

inductive Label where
  | connect
  | disconnect (websocket : ℕ)
  | resume (id : ℕ) (ok : Bool)
  deriving DecidableEq, Repr

def step (state : State) : Label → Option State
  | .connect => some (state.accept.connect state.accepted)
  | .disconnect websocket =>
      if websocket ∈ state.receiving then
        some ((state.leave websocket).disconnect websocket)
      else none
  | .resume id ok => (state.tasks id).map (fun task => state.resume id task ok)

def system : System State Label where
  start := {}
  step := step

/-- The task has not ended, and nobody has asked it to. -/
def State.Collecting (state : State) (id : ℕ) : Prop :=
  ∃ task, state.tasks id = some task ∧ task.cancelled = false

def Task.connection (task : Task) : Option ℕ :=
  match task.stage with
  | .send_json connection _ _ => some connection
  | _ => none

/-- The task awaits a send to the websocket. -/
def State.Sending (state : State) (id websocket : ℕ) : Prop :=
  ∃ task, state.tasks id = some task ∧ task.connection = some websocket

/-! ## The invariant -/

/-- The task that collects is the last one; a task that has been cancelled awaits no
send to a client. -/
structure Task.Valid (state : State) (id : ℕ) (task : Task) : Prop where
  created : id < state.created
  last : task.cancelled = false → state.is_running = true ∧ id + 1 = state.created
  accepted : ∀ websocket ∈ task.connection, websocket < state.accepted
  gone : task.cancelled = true → ∀ websocket ∈ task.connection,
    websocket ∉ state.active_connections

structure Valid (state : State) : Prop where
  running : state.is_running = true ↔ state.active_connections ≠ []
  nodup : state.active_connections.Nodup
  handled : ∀ websocket ∈ state.active_connections, websocket ∈ state.receiving
  accepted : ∀ websocket ∈ state.receiving, websocket < state.accepted
  current : state.is_running = true →
    ∃ id, state.task = some id ∧ id + 1 = state.created ∧ state.Collecting id
  tasks : All (Task.Valid state) state.tasks

namespace Valid

variable {state : State} {id websocket : ℕ}

theorem start : Valid {} where
  running := by simp
  nodup := List.nodup_nil
  handled := by simp
  accepted := by simp
  current := by simp
  tasks := All.start _

/-- The handlers may have changed with the end of one. -/
theorem stop_collection (valid : Valid state) (running : state.is_running = true)
    {receiving : List ℕ} (accepted : ∀ other ∈ receiving, other < state.accepted) :
    Valid { state with active_connections := [], receiving }.stop_collection := by
  obtain ⟨id, same, last, task, live, uncancelled⟩ := valid.current running
  simp only [State.stop_collection, same, State.cancel, live, Option.map_some]
  constructor
  · simp
  · exact List.nodup_nil
  · simp
  · exact accepted
  · simp
  · apply all_update
    · intro other found different started
      have own := valid.tasks other found started
      refine ⟨own.created, ?_, own.accepted, by simp⟩
      -- The last task is the one that is cancelled.
      intro collecting
      have := (own.last collecting).2
      exact absurd (by omega) different
    · intro found changed
      cases changed
      have own := valid.tasks id task live
      exact ⟨own.created, by simp, own.accepted, by simp⟩

theorem disconnect (valid : Valid state) {receiving : List ℕ}
    (kept : ∀ other ∈ state.active_connections, other ≠ websocket → other ∈ receiving)
    (accepted : ∀ other ∈ receiving, other < state.accepted) :
    Valid ({ state with receiving }.disconnect websocket) := by
  unfold State.disconnect
  dsimp only
  split
  case isTrue stops =>
    rw [stops.1]
    exact valid.stop_collection stops.2 accepted
  case isFalse stays =>
    constructor
    · constructor
      · intro running empty
        exact stays ⟨empty, running⟩
      · intro some_left
        apply valid.running.mpr
        intro empty
        exact some_left (by rw [empty, List.erase_nil])
    · exact valid.nodup.erase websocket
    · intro other member
      obtain ⟨different, member⟩ := valid.nodup.mem_erase_iff.mp member
      exact kept other member different
    · exact accepted
    · exact valid.current
    · intro other found started
      have own := valid.tasks other found started
      refine ⟨own.created, own.last, own.accepted, ?_⟩
      intro cancelled connection awaited member
      exact own.gone cancelled connection awaited (List.mem_of_mem_erase member)

theorem cleanup (disconnected : List ℕ) :
    ∀ {state : State}, Valid state → Valid (disconnected.foldl State.disconnect state) := by
  induction disconnected with
  | nil =>
      intro state valid
      exact valid
  | cons websocket rest ih =>
      intro state valid
      have once : Valid (state.disconnect websocket) :=
        valid.disconnect (fun other member _ => valid.handled other member) valid.accepted
      exact ih once

theorem connect (valid : Valid state) :
    Valid (state.accept.connect state.accepted) := by
  have fresh : state.accepted ∉ state.active_connections := by
    intro member
    exact Nat.lt_irrefl _ (valid.accepted _ (valid.handled _ member))
  have nodup : (state.active_connections ++ [state.accepted]).Nodup :=
    List.nodup_append.mpr ⟨valid.nodup, List.nodup_singleton _,
      fun one member other same => by
        rw [List.mem_singleton.mp same]
        exact fun equal => fresh (equal ▸ member)⟩
  have handled : ∀ other ∈ state.active_connections ++ [state.accepted],
      other ∈ state.accepted :: state.receiving := by
    intro other member
    rcases List.mem_append.mp member with old | new
    · exact List.mem_cons_of_mem _ (valid.handled other old)
    · rw [List.mem_singleton.mp new]
      exact List.mem_cons_self
  have accepted : ∀ other ∈ state.accepted :: state.receiving,
      other < state.accepted + 1 := by
    intro other member
    rcases List.mem_cons.mp member with new | old
    · exact Nat.lt_succ_of_le (Nat.le_of_eq new)
    · exact Nat.lt_succ_of_lt (valid.accepted other old)
  have gone : ∀ task : Task, (∀ other ∈ task.connection, other < state.accepted) →
      (∀ other ∈ task.connection, other ∉ state.active_connections) →
      ∀ other ∈ task.connection, other ∉ state.active_connections ++ [state.accepted] := by
    intro task before left other awaited member
    rcases List.mem_append.mp member with old | new
    · exact left other awaited old
    · have := before other awaited
      rw [List.mem_singleton.mp new] at this
      exact Nat.lt_irrefl _ this
  unfold State.connect
  dsimp only [State.accept]
  split
  case isTrue running =>
    constructor
    · simp [running]
    · exact nodup
    · exact handled
    · exact accepted
    · exact valid.current
    · intro other found started
      have own := valid.tasks other found started
      refine ⟨own.created, own.last, ?_, ?_⟩
      · intro connection awaited
        exact Nat.lt_succ_of_lt (own.accepted connection awaited)
      · intro cancelled
        exact gone found own.accepted (own.gone cancelled)
  case isFalse idle =>
    constructor
    · simp [State.start_collection]
    · exact nodup
    · exact handled
    · exact accepted
    · intro _
      exact ⟨state.created, rfl, rfl, {}, Function.update_self .., rfl⟩
    · apply all_update
      · intro other found _ started
        have own := valid.tasks other found started
        refine ⟨Nat.lt_succ_of_lt own.created, ?_, ?_, ?_⟩
        · intro collecting
          exact absurd (own.last collecting).1 idle
        · intro connection awaited
          exact Nat.lt_succ_of_lt (own.accepted connection awaited)
        · intro cancelled
          exact gone found own.accepted (own.gone cancelled)
      · intro found same
        cases same
        exact ⟨Nat.lt_succ_self _, fun _ => ⟨rfl, rfl⟩, by simp [Task.connection], by simp⟩

theorem goto (valid : Valid state) {stage : Stage}
    (awaits : ∀ task, state.tasks id = some task → ∀ other,
      Task.connection { task with stage } = some other → task.cancelled = false ∧
        other ∈ state.active_connections) : Valid (state.goto id stage) where
  running := valid.running
  nodup := valid.nodup
  handled := valid.handled
  accepted := valid.accepted
  current := by
    intro running
    obtain ⟨last, same, number, task, live, uncancelled⟩ := valid.current running
    refine ⟨last, same, number, ?_⟩
    by_cases own : last = id
    · subst own
      exact ⟨{ task with stage }, by simp [State.goto, live], uncancelled⟩
    · exact ⟨task, by simp [State.goto, Function.update_of_ne own, live], uncancelled⟩
  tasks := by
    apply all_update
    · intro other found _ started
      obtain ⟨created, last, accepted, gone⟩ := valid.tasks other found started
      exact ⟨created, last, accepted, gone⟩
    · intro found changed
      obtain ⟨task, live, rfl⟩ := Option.map_eq_some_iff.mp changed
      have own := valid.tasks id task live
      refine ⟨own.created, own.last, ?_, ?_⟩
      · intro connection awaited
        exact valid.accepted _ (valid.handled _ (awaits task live _ awaited).2)
      · intro cancelled connection awaited
        have uncancelled := (awaits task live _ awaited).1
        dsimp only at cancelled
        rw [uncancelled] at cancelled
        cases cancelled

theorem finish (valid : Valid state)
    (cancelled : ∀ task, state.tasks id = some task → task.cancelled = true) :
    Valid (state.finish id) where
  running := valid.running
  nodup := valid.nodup
  handled := valid.handled
  accepted := valid.accepted
  current := by
    intro running
    obtain ⟨last, same, number, task, live, uncancelled⟩ := valid.current running
    refine ⟨last, same, number, task, ?_, uncancelled⟩
    have different : last ≠ id := by
      intro own
      have := cancelled task (own ▸ live)
      rw [uncancelled] at this
      cases this
    simp [State.finish, Function.update_of_ne different, live]
  tasks := by
    apply all_update
    · intro other found _ started
      obtain ⟨created, last, accepted, gone⟩ := valid.tasks other found started
      exact ⟨created, last, accepted, gone⟩
    · intro found none
      cases none

/-- A task that goes round again has clients. -/
theorem again (valid : Valid state) {task : Task} (live : state.tasks id = some task)
    (collecting : task.cancelled = false) : Valid (state.again id) := by
  have running := ((valid.tasks id task live).last collecting).1
  rw [State.again, if_pos running, if_neg (valid.running.mp running)]
  apply valid.goto
  intro _ _ other impossible
  cases impossible

theorem next (valid : Valid state) {task : Task} (live : state.tasks id = some task)
    (collecting : task.cancelled = false) (index : ℕ) (disconnected : List ℕ) :
    Valid (state.next id index disconnected) := by
  unfold State.next
  split
  case h_1 connection listed =>
    apply valid.goto
    intro found same other awaited
    rw [live] at same
    cases same
    cases awaited
    exact ⟨collecting, List.mem_of_getElem? listed⟩
  case h_2 =>
    apply (Valid.cleanup disconnected valid).goto
    intro _ _ other impossible
    cases impossible

theorem resume (valid : Valid state) {task : Task} (live : state.tasks id = some task)
    (ok : Bool) : Valid (state.resume id task ok) := by
  unfold State.resume
  split
  case isTrue cancelled =>
    apply valid.finish
    intro found same
    rw [live] at same
    cases same
    exact cancelled
  case isFalse uncancelled =>
    have collecting := Bool.eq_false_iff.mpr uncancelled
    cases task.stage with
    | created => exact valid.again live collecting
    | list_containers =>
        apply valid.goto
        intro _ _ other impossible
        cases ok <;> cases impossible
    | gather =>
        cases ok with
        | true => exact valid.next live collecting 0 []
        | false =>
            apply valid.goto
            intro _ _ other impossible
            cases impossible
    | send_json connection index disconnected =>
        exact valid.next live collecting index _
    | sleep => exact valid.again live collecting
    | sleep_after_error => exact valid.again live collecting

theorem step {label : Label} {after : State} (valid : Valid state)
    (taken : MetricsStreaming.step state label = some after) : Valid after := by
  cases label with
  | connect =>
      cases taken
      exact valid.connect
  | disconnect websocket =>
      obtain ⟨_, rfl⟩ := guarded_eq_some.mp taken
      apply valid.disconnect
      · intro other member different
        exact (List.mem_erase_of_ne different).mpr (valid.handled other member)
      · intro other member
        exact valid.accepted other (List.mem_of_mem_erase member)
  | resume id ok =>
      obtain ⟨task, live, rfl⟩ := Option.map_eq_some_iff.mp taken
      exact valid.resume live ok

theorem of_reachable (reached : Reachable system state) : Valid state :=
  reached.invariant start fun _ _ _ valid _ taken => valid.step taken

end Valid

/-- While a client is connected one task collects, the last that was started, and
while none is, no task does.  No client is sent to by any other task, and every client
has a handler that will take it off the list. -/
theorem collecting_iff {state : State} (reached : Reachable system state) :
    (∀ id, state.Collecting id ↔
      state.active_connections ≠ [] ∧ id + 1 = state.created) ∧
    (∀ id, ∀ websocket ∈ state.active_connections,
      state.Sending id websocket → state.Collecting id) ∧
    state.active_connections ⊆ state.receiving := by
  have valid := Valid.of_reachable reached
  refine ⟨?_, ?_, valid.handled⟩
  · intro id
    constructor
    · intro ⟨task, live, uncancelled⟩
      have own := (valid.tasks id task live).last uncancelled
      exact ⟨valid.running.mp own.1, own.2⟩
    · intro ⟨watched, number⟩
      obtain ⟨last, _, same, collecting⟩ := valid.current (valid.running.mpr watched)
      have : last = id := by omega
      exact this ▸ collecting
  · intro id websocket member ⟨task, live, awaited⟩
    refine ⟨task, live, ?_⟩
    cases cancelled : task.cancelled with
    | false => rfl
    | true => exact absurd member ((valid.tasks id task live).gone cancelled _ awaited)

/-- The only client leaves while the task sends to it, and another one comes before
the task is run again. -/
theorem collecting_iff_reconnect :
    ∃ state : State, (∀ id, state.Collecting id ↔ id = 1) ∧ state.Sending 0 0 := by
  obtain ⟨state, reached, clients, created, sending⟩ := ReachedBy.exists_of_run system
    (fun _ _ => True)
    (fun state => state.active_connections = [1] ∧ state.created = 2 ∧
      (state.tasks 0).bind Task.connection = some 0)
    [.connect, .resume 0 true, .resume 0 true, .resume 0 true, .disconnect 0, .connect]
    (by decide)
  refine ⟨state, ?_, ?_⟩
  · intro id
    rw [(collecting_iff reached).1 id, clients, created]
    simp
  · obtain ⟨task, live, awaited⟩ := Option.bind_eq_some_iff.mp sending
    exact ⟨task, live, awaited⟩

end HftEngine.Admin.MetricsStreaming
