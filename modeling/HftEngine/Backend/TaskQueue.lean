import HftEngine.Lib.Transition
import Mathlib.Data.Finset.Insert
import Mathlib.Data.Rat.Defs
import Mathlib.Logic.Function.Basic

/-!
# The background task queue

Tasks wait in a Redis list, and a result key holds the status of each.  A submission
pushes its task and then writes the key; workers pop tasks, run their handlers and write
the key as they go.
-/

namespace HftEngine.TaskQueue

open Transition

inductive TaskStatus where
  | pending
  | running
  | completed
  | failed
  deriving DecidableEq

/-- A status that ends a task. -/
def TaskStatus.final : TaskStatus → Bool
  | .pending => false
  | .running => false
  | .completed => true
  | .failed => true

/-- What a result key holds; the result is JSON text. -/
structure Record where
  status : TaskStatus
  result : Option String := none
  error : Option String := none
  started_at : Option ℚ := none
  completed_at : Option ℚ := none

structure TaskResult extends Record where
  task_id : String

structure Task (Payload : Type) where
  id : String
  type : String
  payload : Payload

/-- How a Redis command ends for the caller.  It may be executed although an exception
is raised, and the client executes it again when the reply is late. -/
inductive Reply where
  | ok
  | raised (error : String)
  | cancelled
  | repeated

/-- How a handler ends. -/
inductive Handled (Result : Type) where
  | returned (result : Result)
  | raised (error : String)
  | cancelled

/-- A submission that awaits its push, or the write of the key. -/
inductive Submission (Payload : Type) where
  | pushing (task : Task Payload)
  | marking (id : String)
  | ended

/-- Where a worker waits. -/
inductive Stage (Payload : Type) where
  | popping
  | starting (task : Task Payload)
  | handling (task : Task Payload)
  | storing (task : Task Payload) (result : String)
  | failing (task : Task Payload) (error : String)
  | sleeping
  | stopped

/-- The left end of the list is its head.  Workers and submissions are numbered;
`handlers` are those of the process of a worker.  `final` holds the tasks that have had a
final status, and `finished` what was stored for a task when a worker was done with
it. -/
structure State (Payload : Type) where
  queue : List (Task Payload) := []
  results : String → Option Record := fun _ => none
  handlers : ℕ → Finset String := fun _ => ∅
  running : ℕ → Bool := fun _ => false
  workers : ℕ → Option (Stage Payload) := fun _ => none
  submissions : ℕ → Option (Submission Payload) := fun _ => none
  drawn : Finset String := ∅
  final : Finset String := ∅
  finished : List (String × Option Record) := []

inductive Label (Payload Result : Type) where
  | register_handler (worker : ℕ) (task_type : String)
  | submit (call : ℕ) (task : Task Payload)
  | pushed (call : ℕ) (executed : Bool) (reply : Reply)
  | marked (call : ℕ) (executed : Bool) (reply : Reply)
  | start_worker (worker : ℕ)
  | stop_worker (worker : ℕ)
  | popped (worker : ℕ) (executed : Bool) (reply : Reply)
  | started (worker : ℕ) (time : ℚ) (executed : Bool) (reply : Reply)
  | handled (worker : ℕ) (outcome : Handled Result)
  | stored (worker : ℕ) (time : ℚ) (executed : Bool) (reply : Reply)
  | failed (worker : ℕ) (time : ℚ) (executed : Bool) (reply : Reply)
  | woken (worker : ℕ) (cancelled : Bool)
  | expire (id : String)

section Step

variable {Payload Result : Type}

namespace State

def get_result (task_id : String) (state : State Payload) : Option TaskResult :=
  (state.results task_id).map (fun record => { record with task_id })

def write (id : String) (record : Record) (state : State Payload) : State Payload :=
  { state with
    results := Function.update state.results id (some record)
    final := if record.status.final then insert id state.final else state.final }

/-- A write that may not have been executed. -/
def write_if (executed : Bool) (id : String) (record : Record) (state : State Payload) :
    State Payload :=
  if executed then state.write id record else state

def put (worker : ℕ) (stage : Stage Payload) (state : State Payload) : State Payload :=
  { state with workers := Function.update state.workers worker (some stage) }

/-- The loop goes on as long as the queue runs. -/
def again (worker : ℕ) (state : State Payload) : State Payload :=
  state.put worker (if state.running worker then .popping else .stopped)

def set_submission (call : ℕ) (submission : Submission Payload)
    (state : State Payload) : State Payload :=
  { state with
    submissions := Function.update state.submissions call (some submission) }

/-- A worker is done with a task. -/
def finish (task : Task Payload) (state : State Payload) : State Payload :=
  { state with finished := state.finished ++ [(task.id, state.results task.id)] }

/-- A worker has a task and looks for its handler. -/
def take (worker : ℕ) (task : Task Payload) (state : State Payload) : State Payload :=
  if task.type ∈ state.handlers worker then state.put worker (.starting task)
  else (state.finish task).again worker

end State

/-- `dumps` is the encoding of a handler's result, or the exception that it raises. -/
def step (dumps : Result → Except String String) (state : State Payload) :
    Label Payload Result → Option (State Payload)
  | .register_handler worker task_type =>
      some
        { state with
          handlers := Function.update state.handlers worker
            (insert task_type (state.handlers worker)) }
  | .submit call task =>
      match state.submissions call with
      | none =>
          some
            ({ state with drawn := insert task.id state.drawn }.set_submission call
              (.pushing task))
      | some _ => none
  | .pushed call executed reply =>
      match state.submissions call with
      | some (.pushing task) =>
          let state :=
            if executed then { state with queue := task :: state.queue } else state
          match reply with
          | .ok => if executed then some (state.set_submission call (.marking task.id))
              else none
          | .raised _ => some (state.set_submission call .ended)
          | .cancelled => some (state.set_submission call .ended)
          | .repeated => some state
      | _ => none
  | .marked call executed reply =>
      match state.submissions call with
      | some (.marking id) =>
          let state := state.write_if executed id { status := .pending }
          match reply with
          | .ok => if executed then some (state.set_submission call .ended) else none
          | .raised _ => some (state.set_submission call .ended)
          | .cancelled => some (state.set_submission call .ended)
          | .repeated => some state
      | _ => none
  | .start_worker worker =>
      match state.workers worker with
      | none =>
          some
            ({ state with running := Function.update state.running worker true }.put
              worker .popping)
      | some _ => none
  | .stop_worker worker =>
      some { state with running := Function.update state.running worker false }
  | .popped worker executed reply =>
      match state.workers worker, executed, state.queue.getLast? with
      | some .popping, false, _ =>
          match reply with
          | .ok => some (state.again worker)
          | .raised _ => some (state.put worker .sleeping)
          | .cancelled => some (state.put worker .stopped)
          | .repeated => some state
      | some .popping, true, some task =>
          let state := { state with queue := state.queue.dropLast }
          match reply with
          | .ok => some (state.take worker task)
          | .raised _ => some (state.put worker .sleeping)
          | .cancelled => some (state.put worker .stopped)
          | .repeated => some state
      | _, _, _ => none
  | .started worker time executed reply =>
      match state.workers worker with
      | some (.starting task) =>
          let state :=
            state.write_if executed task.id { status := .running, started_at := time }
          match reply with
          | .ok => if executed then some (state.put worker (.handling task)) else none
          | .raised _ => some ((state.finish task).put worker .sleeping)
          | .cancelled => some ((state.finish task).put worker .stopped)
          | .repeated => some state
      | _ => none
  | .handled worker outcome =>
      match state.workers worker with
      | some (.handling task) =>
          match outcome with
          | .returned result =>
              match dumps result with
              | .ok text => some (state.put worker (.storing task text))
              | .error error => some (state.put worker (.failing task error))
          | .raised error => some (state.put worker (.failing task error))
          | .cancelled => some ((state.finish task).put worker .stopped)
      | _ => none
  | .stored worker time executed reply =>
      match state.workers worker with
      | some (.storing task result) =>
          let state := state.write_if executed task.id
            { status := .completed, result, completed_at := time }
          match reply with
          | .ok => if executed then some ((state.finish task).again worker) else none
          | .raised error => some (state.put worker (.failing task error))
          | .cancelled => some ((state.finish task).put worker .stopped)
          | .repeated => some state
      | _ => none
  | .failed worker time executed reply =>
      match state.workers worker with
      | some (.failing task error) =>
          let state := state.write_if executed task.id
            { status := .failed, error, completed_at := time }
          match reply with
          | .ok => if executed then some ((state.finish task).again worker) else none
          | .raised _ => some ((state.finish task).put worker .sleeping)
          | .cancelled => some ((state.finish task).put worker .stopped)
          | .repeated => some state
      | _ => none
  | .woken worker cancelled =>
      match state.workers worker with
      | some .sleeping =>
          if cancelled then some (state.put worker .stopped) else some (state.again worker)
      | _ => none
  | .expire id => some { state with results := Function.update state.results id none }

def task_queue (Payload : Type) {Result : Type}
    (dumps : Result → Except String String) :
    System (State Payload) (Label Payload Result) where
  start := {}
  step := step dumps

end Step

/-! ## The status of a task -/

section Settles

variable {Payload Result : Type}

/-- What is stored for a task, if anything, has a final status. -/
def Ended (stored : Option Record) : Prop :=
  ∃ record, stored = some record ∧ record.status.final = true

/-- A task that has had a final status is not stored with another one, and a worker is
done with a task when its stored status is final. -/
structure Settles (state : State Payload) : Prop where
  forward : ∀ id record, state.results id = some record → record.status.final = false →
    id ∉ state.final
  finished : ∀ entry ∈ state.finished, Ended entry.2

/-- A poll of a task that has ended gets a final status, or nothing once the key is gone. -/
theorem Settles.get_result {state : State Payload} (settles : Settles state)
    {task_id : String} {result : TaskResult} (ended : task_id ∈ state.final)
    (got : state.get_result task_id = some result) : result.status.final = true := by
  obtain ⟨record, stored, rfl⟩ := Option.map_eq_some_iff.mp got
  by_contra not_final
  exact settles.forward task_id record stored (eq_false_of_ne_true not_final) ended

/-- The task that a worker has in hand. -/
def Stage.task : Stage Payload → Option (Task Payload)
  | .popping => none
  | .starting task => some task
  | .handling task => some task
  | .storing task _ => some task
  | .failing task _ => some task
  | .sleeping => none
  | .stopped => none

/-- The status of the task in hand has been written, or is final anyway. -/
def Secured (worker : ℕ) (executed : Bool) (state : State Payload) : Prop :=
  ∀ stage task, state.workers worker = some stage → stage.task = some task →
    executed = true ∨ Ended (state.results task.id)

/-- The id of a task is drawn once and its push executed once.  The key is marked while
the task has not ended.  A task that is taken has a handler, which is not cancelled, and
the write before it succeeds.  A worker gives a task up when a final status is stored. -/
def Timely (state : State Payload) : Label Payload Result → Prop
  | .submit _ task => task.id ∉ state.drawn
  | .pushed _ executed reply => executed = true → reply ≠ .repeated
  | .marked call executed _ =>
      executed = true → ∀ id, state.submissions call = some (.marking id) →
        id ∉ state.final
  | .popped worker executed reply =>
      executed = true → reply = .ok → ∀ task, state.queue.getLast? = some task →
        task.type ∈ state.handlers worker
  | .started _ _ _ reply => reply = .ok ∨ reply = .repeated
  | .handled _ outcome => outcome ≠ .cancelled
  | .stored worker _ executed reply =>
      reply = .cancelled → Secured worker executed state
  | .failed worker _ executed reply =>
      reply = .ok ∨ reply = .repeated ∨ Secured worker executed state
  | _ => True

/-! ## Where a task is -/

inductive Place where
  | unborn
  | drawn (call : ℕ)
  | queued
  | working (worker : ℕ)
  | writing (worker : ℕ)

/-- The task may have had a final status. -/
def Place.late : Place → Bool
  | .unborn => false
  | .drawn _ => false
  | .queued => false
  | .working _ => false
  | .writing _ => true

/-- The place of the task that a worker has in hand. -/
def Stage.place (worker : ℕ) : Stage Payload → Option (String × Place)
  | .popping => none
  | .starting task => some (task.id, .working worker)
  | .handling task => some (task.id, .working worker)
  | .storing task _ => some (task.id, .writing worker)
  | .failing task _ => some (task.id, .writing worker)
  | .sleeping => none
  | .stopped => none

/-- Each task is in one place; one that a worker is done with stays in its last. -/
structure Valid (place : String → Place) (state : State Payload) : Prop where
  nodup : (state.queue.map Task.id).Nodup
  queued : ∀ task ∈ state.queue, place task.id = .queued
  held : ∀ worker stage id own, state.workers worker = some stage →
    stage.place worker = some (id, own) → place id = own
  pushing : ∀ call task, state.submissions call = some (.pushing task) →
    place task.id = .drawn call
  unborn : ∀ id, id ∉ state.drawn → place id = .unborn
  early : ∀ id, (place id).late = false → id ∉ state.final
  settles : Settles state

variable {place : String → Place} {state after : State Payload} {worker : ℕ}
  {id : String} {stage new : Stage Payload} {task : Task Payload}

/-! ## Writes -/

theorem Settles.write (settles : Settles state) {record : Record}
    (open_task : record.status.final = false → id ∉ state.final) :
    Settles (state.write id record) where
  forward := by
    intro other stored found not_final
    by_cases same : other = id
    · subst same
      simp only [State.write, Function.update_self, Option.some.injEq] at found
      subst found
      simp only [State.write, not_final, Bool.false_eq_true, if_false]
      exact open_task not_final
    · simp only [State.write, Function.update_of_ne same] at found
      have not_ended := settles.forward other stored found not_final
      simp only [State.write]
      split
      case isTrue =>
          intro member
          exact (Finset.mem_insert.mp member).elim same not_ended
      case isFalse => exact not_ended
  finished := settles.finished

theorem Settles.write_if (settles : Settles state) {record : Record} (executed : Bool)
    (open_task : executed = true → record.status.final = false → id ∉ state.final) :
    Settles (state.write_if executed id record) := by
  unfold State.write_if
  split
  case isTrue done => exact settles.write (open_task done)
  case isFalse => exact settles

theorem Settles.finish (settles : Settles state) (ended : Ended (state.results task.id)) :
    Settles (state.finish task) where
  forward := settles.forward
  finished := by
    intro entry member
    rcases List.mem_append.mp member with before | is_new
    · exact settles.finished entry before
    · rw [List.mem_singleton.mp is_new]
      exact ended

theorem mem_final_write_if {record : Record} {executed : Bool} {other : String}
    (member : other ∈ (state.write_if executed id record).final) :
    other ∈ state.final ∨ other = id ∧ record.status.final = true := by
  unfold State.write_if State.write at member
  split at member
  case isTrue =>
      simp only at member
      split at member
      case isTrue ends => exact (Finset.mem_insert.mp member).symm.imp_right (⟨·, ends⟩)
      case isFalse => exact .inl member
  case isFalse => exact .inl member

/-! ## One operation -/

/-- The tasks stay in their places. -/
theorem Valid.stay (valid : Valid place state) (queue : after.queue.Sublist state.queue)
    (held : ∀ worker stage id own, after.workers worker = some stage →
      stage.place worker = some (id, own) → place id = own)
    (submissions : ∀ call task, after.submissions call = some (.pushing task) →
      state.submissions call = some (.pushing task))
    (drawn : after.drawn = state.drawn)
    (final : ∀ id ∈ after.final, id ∈ state.final ∨ (place id).late = true)
    (settles : Settles after) : Valid place after where
  nodup := valid.nodup.sublist (queue.map Task.id)
  queued := by
    intro task member
    exact valid.queued task (queue.subset member)
  held := held
  pushing := by
    intro call task found
    exact valid.pushing call task (submissions call task found)
  unborn := by
    rw [drawn]
    exact valid.unborn
  early := by
    intro id not_late member
    rcases final id member with before | late
    · exact valid.early id not_late before
    · rw [not_late] at late
      contradiction
  settles := settles

/-- The stages after one worker has changed. -/
theorem Valid.held_put (valid : Valid place state)
    (own : ∀ id own, new.place worker = some (id, own) → place id = own) :
    ∀ other stage id own, (state.put worker new).workers other = some stage →
      stage.place other = some (id, own) → place id = own := by
  intro other stage id is_own found placed
  by_cases same : other = worker
  · subst same
    simp only [State.put, Function.update_self, Option.some.injEq] at found
    subst found
    exact own id is_own placed
  · simp only [State.put, Function.update_of_ne same] at found
    exact valid.held other stage id is_own found placed

/-- A worker without a task in hand. -/
theorem Valid.idle (valid : Valid place state) (nothing : new.place worker = none) :
    Valid place (state.put worker new) := by
  apply valid.stay
  · exact List.Sublist.refl _
  · apply valid.held_put
    intro id own impossible
    rw [nothing] at impossible
    contradiction
  · intro call task found
    exact found
  · rfl
  · intro id member
    exact .inl member
  · exact ⟨valid.settles.forward, valid.settles.finished⟩

theorem Valid.again (valid : Valid place state) : Valid place (state.again worker) := by
  apply valid.idle
  split <;> rfl

theorem Valid.finish (valid : Valid place state) (ended : Ended (state.results task.id)) :
    Valid place (state.finish task) :=
  { valid with settles := valid.settles.finish ended }

/-- A write of the key of a task, with a final status only when it is written. -/
theorem Valid.write_if (valid : Valid place state) {record : Record} {executed : Bool}
    (open_task : executed = true → record.status.final = false → id ∉ state.final)
    (late : record.status.final = true → (place id).late = true) :
    Valid place (state.write_if executed id record) := by
  have same : (state.write_if executed id record).queue = state.queue ∧
      (state.write_if executed id record).workers = state.workers ∧
      (state.write_if executed id record).submissions = state.submissions ∧
      (state.write_if executed id record).drawn = state.drawn := by
    unfold State.write_if
    split <;> exact ⟨rfl, rfl, rfl, rfl⟩
  obtain ⟨queue, workers, submissions, drawn⟩ := same
  apply valid.stay
  · rw [queue]
  · rw [workers]
    exact valid.held
  · rw [submissions]
    intro call task found
    exact found
  · exact drawn
  · intro other member
    rcases mem_final_write_if member with before | ⟨rfl, ends⟩
    · exact .inl before
    · exact .inr (late ends)
  · exact valid.settles.write_if executed open_task

theorem Valid.set_submission (valid : Valid place state) {call : ℕ}
    {submission : Submission Payload}
    (settled : ∀ task, submission ≠ .pushing task) :
    Valid place (state.set_submission call submission) := by
  apply valid.stay
  · exact List.Sublist.refl _
  · exact valid.held
  · intro other task found
    by_cases same : other = call
    · subst same
      simp only [State.set_submission, Function.update_self, Option.some.injEq] at found
      exact absurd found (settled task)
    · simp only [State.set_submission, Function.update_of_ne same] at found
      exact found
  · rfl
  · intro id member
    exact .inl member
  · exact ⟨valid.settles.forward, valid.settles.finished⟩

/-- A stage has its worker's number in the place of its task. -/
theorem place_of_held {own : Place} (placed : stage.place worker = some (id, own)) :
    own = .working worker ∨ own = .writing worker := by
  cases stage <;> simp [Stage.place] at placed <;> simp [placed]

/-- One task moves from one place to another. -/
theorem Valid.move (valid : Valid place state) {from_place to_place : Place}
    (moved : place id = from_place)
    (nodup : (after.queue.map Task.id).Nodup)
    (queued : ∀ task ∈ after.queue, task.id = id ∧ to_place = .queued ∨
      task.id ≠ id ∧ task ∈ state.queue)
    (held : ∀ worker stage other own, after.workers worker = some stage →
      stage.place worker = some (other, own) → other = id ∧ own = to_place ∨
        other ≠ id ∧ state.workers worker = some stage)
    (pushing : ∀ call task, after.submissions call = some (.pushing task) →
      task.id = id ∧ to_place = .drawn call ∨
        task.id ≠ id ∧ state.submissions call = some (.pushing task))
    (drawn : ∀ other ∉ after.drawn, other ≠ id ∧ other ∉ state.drawn)
    (early : from_place.late = false) (final : after.final = state.final)
    (settles : Settles after) :
    Valid (Function.update place id to_place) after where
  nodup := nodup
  queued := by
    intro task member
    rcases queued task member with ⟨rfl, rfl⟩ | ⟨different, before⟩
    · exact Function.update_self _ _ _
    · rw [Function.update_of_ne different]
      exact valid.queued task before
  held := by
    intro worker stage other own found placed
    rcases held worker stage other own found placed with ⟨rfl, rfl⟩ | ⟨different, before⟩
    · exact Function.update_self _ _ _
    · rw [Function.update_of_ne different]
      exact valid.held worker stage other own before placed
  pushing := by
    intro call task found
    rcases pushing call task found with ⟨rfl, rfl⟩ | ⟨different, before⟩
    · exact Function.update_self _ _ _
    · rw [Function.update_of_ne different]
      exact valid.pushing call task before
  unborn := by
    intro other absent
    obtain ⟨different, before⟩ := drawn other absent
    rw [Function.update_of_ne different]
    exact valid.unborn other before
  early := by
    intro other not_late
    rw [final]
    by_cases same : other = id
    · rw [same]
      exact valid.early id (moved ▸ early)
    · rw [Function.update_of_ne same] at not_late
      exact valid.early other not_late
  settles := settles

/-! ## Tasks in other places -/

theorem ne_of_place {other : String} {first second : Place} (here : place id = first)
    (there : place other = second) (apart : second ≠ first) : other ≠ id := by
  rintro rfl
  exact apart (there.symm.trans here)

theorem Valid.queued_ne (valid : Valid place state) {own : Place} (here : place id = own)
    (member : task ∈ state.queue) (apart : .queued ≠ own) : task.id ≠ id :=
  ne_of_place here (valid.queued task member) apart

theorem Valid.held_ne (valid : Valid place state) {own held : Place} {other : String}
    (here : place id = own) (found : state.workers worker = some stage)
    (placed : stage.place worker = some (other, held))
    (apart : .working worker ≠ own ∧ .writing worker ≠ own) : other ≠ id := by
  apply ne_of_place here (valid.held worker stage other held found placed)
  rcases place_of_held placed with rfl | rfl
  · exact apart.1
  · exact apart.2

theorem Valid.pushing_ne (valid : Valid place state) {own : Place} {call : ℕ}
    (here : place id = own) (found : state.submissions call = some (.pushing task))
    (apart : .drawn call ≠ own) : task.id ≠ id :=
  ne_of_place here (valid.pushing call task found) apart

theorem Valid.drawn_ne (valid : Valid place state) {own : Place} {other : String}
    (here : place id = own) (absent : other ∉ state.drawn) (apart : .unborn ≠ own) :
    other ≠ id :=
  ne_of_place here (valid.unborn other absent) apart

/-! ## From place to place -/

theorem Valid.submit (valid : Valid place state) {call : ℕ}
    (fresh : task.id ∉ state.drawn) :
    Valid (Function.update place task.id (.drawn call))
      ({ state with drawn := insert task.id state.drawn }.set_submission call
        (.pushing task)) := by
  have unborn := valid.unborn task.id fresh
  apply valid.move unborn
  · exact valid.nodup
  · intro other member
    exact .inr ⟨valid.queued_ne unborn member nofun, member⟩
  · intro worker stage other own found placed
    exact .inr ⟨valid.held_ne unborn found placed ⟨nofun, nofun⟩, found⟩
  · intro other submitted found
    by_cases same : other = call
    · subst same
      simp only [State.set_submission, Function.update_self, Option.some.injEq,
        Submission.pushing.injEq] at found
      subst found
      exact .inl ⟨rfl, rfl⟩
    · simp only [State.set_submission, Function.update_of_ne same] at found
      exact .inr ⟨valid.pushing_ne unborn found nofun, found⟩
  · intro other absent
    exact ⟨fun same => absent (same ▸ Finset.mem_insert_self _ _),
      fun member => absent (Finset.mem_insert_of_mem member)⟩
  · rfl
  · rfl
  · exact ⟨valid.settles.forward, valid.settles.finished⟩

theorem Valid.push (valid : Valid place state) {call : ℕ}
    (found : state.submissions call = some (.pushing task))
    {submission : Submission Payload} (settled : ∀ task, submission ≠ .pushing task) :
    Valid (Function.update place task.id .queued)
      ({ state with queue := task :: state.queue }.set_submission call submission) := by
  have drawn := valid.pushing call task found
  apply valid.move drawn
  · apply List.nodup_cons.mpr
    refine ⟨?_, valid.nodup⟩
    intro listed
    obtain ⟨other, member, same⟩ := List.mem_map.mp listed
    exact valid.queued_ne drawn member nofun same
  · intro other member
    rcases List.mem_cons.mp member with rfl | before
    · exact .inl ⟨rfl, rfl⟩
    · exact .inr ⟨valid.queued_ne drawn before nofun, before⟩
  · intro worker stage other own there placed
    exact .inr ⟨valid.held_ne drawn there placed ⟨nofun, nofun⟩, there⟩
  · intro other submitted there
    by_cases same : other = call
    · subst same
      simp only [State.set_submission, Function.update_self, Option.some.injEq] at there
      exact absurd there (settled submitted)
    · simp only [State.set_submission, Function.update_of_ne same] at there
      refine .inr ⟨valid.pushing_ne drawn there ?_, there⟩
      intro equal
      exact same (Place.drawn.inj equal)
  · intro other absent
    exact ⟨valid.drawn_ne drawn absent nofun, absent⟩
  · rfl
  · rfl
  · exact ⟨valid.settles.forward, valid.settles.finished⟩

theorem Valid.pop (valid : Valid place state)
    (last : state.queue.getLast? = some task) :
    Valid (Function.update place task.id (.working worker))
      ({ state with queue := state.queue.dropLast }.put worker (.starting task)) := by
  have split : state.queue = state.queue.dropLast ++ [task] :=
    (List.dropLast_append_getLast? task last).symm
  have queued : place task.id = .queued := by
    apply valid.queued
    rw [split]
    exact List.mem_append_right _ (List.mem_singleton_self task)
  have unique := valid.nodup
  rw [split, List.map_append, List.nodup_append] at unique
  obtain ⟨nodup, _, apart⟩ := unique
  apply valid.move queued
  · exact nodup
  · intro other member
    refine .inr ⟨?_, List.mem_of_mem_dropLast member⟩
    exact apart other.id (List.mem_map_of_mem member) task.id List.mem_cons_self
  · intro other stage id own found placed
    by_cases same : other = worker
    · subst same
      simp only [State.put, Function.update_self, Option.some.injEq] at found
      subst found
      simp only [Stage.place, Option.some.injEq, Prod.mk.injEq] at placed
      exact .inl ⟨placed.1.symm, placed.2.symm⟩
    · simp only [State.put, Function.update_of_ne same] at found
      exact .inr ⟨valid.held_ne queued found placed ⟨nofun, nofun⟩, found⟩
  · intro call submitted found
    exact .inr ⟨valid.pushing_ne queued found nofun, found⟩
  · intro other absent
    exact ⟨valid.drawn_ne queued absent nofun, absent⟩
  · rfl
  · rfl
  · exact ⟨valid.settles.forward, valid.settles.finished⟩

/-- A handler has ended, and its worker goes on to write the final status. -/
theorem Valid.handled (valid : Valid place state)
    (found : state.workers worker = some (.handling task))
    (writes : new.place worker = some (task.id, .writing worker)) :
    Valid (Function.update place task.id (.writing worker)) (state.put worker new) := by
  have working : place task.id = .working worker :=
    valid.held worker (.handling task) _ _ found rfl
  apply valid.move working
  · exact valid.nodup
  · intro other member
    exact .inr ⟨valid.queued_ne working member nofun, member⟩
  · intro other stage id own there placed
    by_cases same : other = worker
    · subst same
      simp only [State.put, Function.update_self, Option.some.injEq] at there
      subst there
      rw [writes] at placed
      simp only [Option.some.injEq, Prod.mk.injEq] at placed
      exact .inl ⟨placed.1.symm, placed.2.symm⟩
    · simp only [State.put, Function.update_of_ne same] at there
      refine .inr ⟨valid.held_ne working there placed ⟨?_, nofun⟩, there⟩
      intro equal
      exact same (Place.working.inj equal)
  · intro call submitted there
    exact .inr ⟨valid.pushing_ne working there nofun, there⟩
  · intro other absent
    exact ⟨valid.drawn_ne working absent nofun, absent⟩
  · rfl
  · rfl
  · exact ⟨valid.settles.forward, valid.settles.finished⟩

/-! ## One step -/

/-- A worker keeps the task that it has in hand. -/
theorem Valid.carry (valid : Valid place state) (found : state.workers worker = some stage)
    (same : new.place worker = stage.place worker) : Valid place (state.put worker new) := by
  apply valid.stay
  · exact List.Sublist.refl _
  · apply valid.held_put
    intro id own placed
    exact valid.held worker stage id own found (same ▸ placed)
  · intro call task found
    exact found
  · rfl
  · intro id member
    exact .inl member
  · exact ⟨valid.settles.forward, valid.settles.finished⟩

/-- Tasks leave the list without being taken. -/
theorem Valid.drop (valid : Valid place state) :
    Valid place { state with queue := state.queue.dropLast } := by
  apply valid.stay
  · exact List.dropLast_sublist state.queue
  · exact valid.held
  · intro call task found
    exact found
  · rfl
  · intro id member
    exact .inl member
  · exact ⟨valid.settles.forward, valid.settles.finished⟩

theorem workers_write_if (executed : Bool) (record : Record) :
    (state.write_if executed id record).workers = state.workers := by
  unfold State.write_if
  split <;> rfl

/-- After the write of a final status, or where one was stored before, a task has
ended. -/
theorem ended_write_if {record : Record} {executed : Bool}
    (final : record.status.final = true)
    (secured : executed = true ∨ Ended (state.results id)) :
    Ended ((state.write_if executed id record).results id) := by
  unfold State.write_if
  split
  case isTrue => exact ⟨record, Function.update_self _ _ _, final⟩
  case isFalse not_executed => exact secured.resolve_left not_executed

variable {dumps : Result → Except String String}

theorem Valid.pushed (valid : Valid place state) {call : ℕ} {executed : Bool}
    {reply : Reply} (once : executed = true → reply ≠ .repeated)
    (taken : step dumps state (.pushed call executed reply) = some after) :
    ∃ place, Valid place after := by
  unfold step at taken
  dsimp only at taken
  split at taken
  case h_2 => contradiction
  case h_1 task found =>
      cases executed with
      | true =>
          cases reply with
          | ok =>
              rw [← Option.some.inj taken]
              exact ⟨_, valid.push found nofun⟩
          | raised error =>
              rw [← Option.some.inj taken]
              exact ⟨_, valid.push found nofun⟩
          | cancelled =>
              rw [← Option.some.inj taken]
              exact ⟨_, valid.push found nofun⟩
          | repeated => exact absurd rfl (once rfl)
      | false =>
          cases reply with
          | ok => contradiction
          | raised error =>
              exact ⟨place, Option.some.inj taken ▸ valid.set_submission nofun⟩
          | cancelled =>
              exact ⟨place, Option.some.inj taken ▸ valid.set_submission nofun⟩
          | repeated => exact ⟨place, Option.some.inj taken ▸ valid⟩

theorem Valid.marked (valid : Valid place state) {call : ℕ} {executed : Bool}
    {reply : Reply}
    (open_task : executed = true → ∀ id,
      state.submissions call = some (.marking id) → id ∉ state.final)
    (taken : step dumps state (.marked call executed reply) = some after) :
    Valid place after := by
  unfold step at taken
  dsimp only at taken
  split at taken
  case h_2 => contradiction
  case h_1 id found =>
      have written : Valid place (state.write_if executed id { status := .pending }) := by
        apply valid.write_if
        · intro done _
          exact open_task done id found
        · intro impossible
          contradiction
      cases reply with
      | ok =>
          obtain ⟨_, rfl⟩ := guarded_eq_some.mp taken
          exact written.set_submission nofun
      | raised error => exact Option.some.inj taken ▸ written.set_submission nofun
      | cancelled => exact Option.some.inj taken ▸ written.set_submission nofun
      | repeated => exact Option.some.inj taken ▸ written

theorem Valid.popped (valid : Valid place state) {executed : Bool} {reply : Reply}
    (has_handler : executed = true → reply = .ok → ∀ task,
      state.queue.getLast? = some task → task.type ∈ state.handlers worker)
    (taken : step dumps state (.popped worker executed reply) = some after) :
    ∃ place, Valid place after := by
  unfold step at taken
  dsimp only at taken
  split at taken
  case h_1 =>
      cases reply with
      | ok => exact ⟨place, Option.some.inj taken ▸ valid.again⟩
      | raised error => exact ⟨place, Option.some.inj taken ▸ valid.idle rfl⟩
      | cancelled => exact ⟨place, Option.some.inj taken ▸ valid.idle rfl⟩
      | repeated => exact ⟨place, Option.some.inj taken ▸ valid⟩
  case h_2 task _ last =>
      cases reply with
      | ok =>
          have handler := has_handler rfl rfl task last
          rw [← Option.some.inj taken, State.take, if_pos handler]
          exact ⟨_, valid.pop last⟩
      | raised error => exact ⟨place, Option.some.inj taken ▸ valid.drop.idle rfl⟩
      | cancelled => exact ⟨place, Option.some.inj taken ▸ valid.drop.idle rfl⟩
      | repeated => exact ⟨place, Option.some.inj taken ▸ valid.drop⟩
  case h_3 => contradiction

theorem Valid.started (valid : Valid place state) {time : ℚ} {executed : Bool}
    {reply : Reply} (succeeds : reply = .ok ∨ reply = .repeated)
    (taken : step dumps state (.started worker time executed reply) = some after) :
    Valid place after := by
  unfold step at taken
  dsimp only at taken
  split at taken
  case h_2 => contradiction
  case h_1 task found =>
      have working := valid.held worker (.starting task) _ _ found rfl
      have written : Valid place (state.write_if executed task.id
          { status := .running, started_at := time }) := by
        apply valid.write_if
        · intro _ _
          apply valid.early
          rw [working]
          rfl
        · intro impossible
          contradiction
      rcases succeeds with rfl | rfl
      · obtain ⟨_, rfl⟩ := guarded_eq_some.mp taken
        apply written.carry
        · rw [workers_write_if]
          exact found
        · rfl
      · exact Option.some.inj taken ▸ written

theorem Valid.after_handler (valid : Valid place state) {outcome : Handled Result}
    (not_cancelled : outcome ≠ .cancelled)
    (taken : step dumps state (.handled worker outcome) = some after) :
    ∃ place, Valid place after := by
  unfold step at taken
  dsimp only at taken
  split at taken
  case h_2 => contradiction
  case h_1 task found =>
      cases outcome with
      | returned result =>
          simp only at taken
          split at taken
          case h_1 => exact ⟨_, Option.some.inj taken ▸ valid.handled found rfl⟩
          case h_2 => exact ⟨_, Option.some.inj taken ▸ valid.handled found rfl⟩
      | raised error => exact ⟨_, Option.some.inj taken ▸ valid.handled found rfl⟩
      | cancelled => exact absurd rfl not_cancelled

/-- The write of a final status. -/
theorem Valid.write_final (valid : Valid place state) {record : Record} {executed : Bool}
    (found : state.workers worker = some stage)
    (writes : stage.place worker = some (id, .writing worker))
    (final : record.status.final = true) :
    Valid place (state.write_if executed id record) := by
  apply valid.write_if
  · intro _ not_final
    rw [final] at not_final
    contradiction
  · intro _
    rw [valid.held worker stage id _ found writes]
    rfl

theorem Valid.stored (valid : Valid place state) {time : ℚ} {executed : Bool}
    {reply : Reply} (secured : reply = .cancelled → Secured worker executed state)
    (taken : step dumps state (.stored worker time executed reply) = some after) :
    Valid place after := by
  unfold step at taken
  dsimp only at taken
  split at taken
  case h_2 => contradiction
  case h_1 task result found =>
      have written : Valid place (state.write_if executed task.id
          { status := .completed, result, completed_at := time }) :=
        valid.write_final found rfl rfl
      cases reply with
      | ok =>
          obtain ⟨done, rfl⟩ := guarded_eq_some.mp taken
          have ended := written.finish (ended_write_if rfl (.inl done))
          exact ended.again
      | raised error =>
          rw [← Option.some.inj taken]
          apply written.carry
          · rw [workers_write_if]
            exact found
          · rfl
      | cancelled =>
          have ended := written.finish (ended_write_if rfl
            (secured rfl (.storing task result) task found rfl))
          exact Option.some.inj taken ▸ ended.idle rfl
      | repeated => exact Option.some.inj taken ▸ written

theorem Valid.failed (valid : Valid place state) {time : ℚ} {executed : Bool}
    {reply : Reply}
    (secured : reply = .ok ∨ reply = .repeated ∨ Secured worker executed state)
    (taken : step dumps state (.failed worker time executed reply) = some after) :
    Valid place after := by
  unfold step at taken
  dsimp only at taken
  split at taken
  case h_2 => contradiction
  case h_1 task error found =>
      have written : Valid place (state.write_if executed task.id
          { status := .failed, error, completed_at := time }) :=
        valid.write_final found rfl rfl
      cases reply with
      | ok =>
          obtain ⟨done, rfl⟩ := guarded_eq_some.mp taken
          have ended := written.finish (ended_write_if rfl (.inl done))
          exact ended.again
      | raised other =>
          have secured := (secured.resolve_left nofun).resolve_left nofun
          have ended := written.finish (ended_write_if rfl
            (secured (.failing task error) task found rfl))
          exact Option.some.inj taken ▸ ended.idle rfl
      | cancelled =>
          have secured := (secured.resolve_left nofun).resolve_left nofun
          have ended := written.finish (ended_write_if rfl
            (secured (.failing task error) task found rfl))
          exact Option.some.inj taken ▸ ended.idle rfl
      | repeated => exact Option.some.inj taken ▸ written

theorem Valid.expire (valid : Valid place state) (gone : String) :
    Valid place { state with results := Function.update state.results gone none } := by
  refine { valid with settles := ⟨?_, valid.settles.finished⟩ }
  intro id record found
  by_cases same : id = gone
  · simp only [same, Function.update_self] at found
    contradiction
  · simp only [Function.update_of_ne same] at found
    exact valid.settles.forward id record found

theorem Valid.step {label : Label Payload Result} (valid : Valid place state)
    (timely : Timely state label) (taken : step dumps state label = some after) :
    ∃ place, Valid place after := by
  have settles := valid.settles
  cases label with
  | register_handler worker task_type =>
      rw [← Option.some.inj taken]
      exact ⟨place, { valid with settles := ⟨settles.forward, settles.finished⟩ }⟩
  | submit call task =>
      unfold TaskQueue.step at taken
      dsimp only at taken
      split at taken
      case h_1 => exact ⟨_, Option.some.inj taken ▸ valid.submit timely⟩
      case h_2 => contradiction
  | pushed call executed reply => exact valid.pushed timely taken
  | marked call executed reply => exact ⟨place, valid.marked timely taken⟩
  | start_worker worker =>
      unfold TaskQueue.step at taken
      dsimp only at taken
      split at taken
      case h_1 =>
          rw [← Option.some.inj taken]
          have runs : Valid place
              { state with running := Function.update state.running worker true } :=
            { valid with settles := ⟨settles.forward, settles.finished⟩ }
          exact ⟨place, runs.idle rfl⟩
      case h_2 => contradiction
  | stop_worker worker =>
      rw [← Option.some.inj taken]
      exact ⟨place, { valid with settles := ⟨settles.forward, settles.finished⟩ }⟩
  | popped worker executed reply => exact valid.popped timely taken
  | started worker time executed reply => exact ⟨place, valid.started timely taken⟩
  | handled worker outcome => exact valid.after_handler timely taken
  | stored worker time executed reply => exact ⟨place, valid.stored timely taken⟩
  | failed worker time executed reply => exact ⟨place, valid.failed timely taken⟩
  | woken worker cancelled =>
      unfold TaskQueue.step at taken
      dsimp only at taken
      split at taken
      case h_1 =>
          split at taken
          case isTrue => exact ⟨place, Option.some.inj taken ▸ valid.idle rfl⟩
          case isFalse => exact ⟨place, Option.some.inj taken ▸ valid.again⟩
      case h_2 => contradiction
  | expire id => exact ⟨place, Option.some.inj taken ▸ valid.expire id⟩

end Settles

/-- In every run with timely steps the status of a task does not go back from a final
one, and a worker is done with a task when its status is final. -/
theorem status_settles {Payload Result : Type} {dumps : Result → Except String String}
    {state : State Payload}
    (reached : ReachedBy (task_queue Payload dumps) Timely state) : Settles state := by
  have valid : ∃ place, Valid place state := by
    apply reached.invariant
    · refine ⟨fun _ => .unborn, ?_⟩
      exact
        { nodup := List.nodup_nil
          queued := fun _ absent => absurd absent List.not_mem_nil
          held := fun _ _ _ _ found => nomatch found
          pushing := fun _ _ found => nomatch found
          unborn := fun _ _ => rfl
          early := fun _ _ => Finset.notMem_empty _
          settles :=
            { forward := fun _ _ found => nomatch found
              finished := fun _ absent => absurd absent List.not_mem_nil } }
    · intro before label after ⟨place, valid⟩ timely taken
      exact valid.step timely taken
  obtain ⟨place, valid⟩ := valid
  exact valid.settles

/-- `json.dumps` of a natural number. -/
def dumps (result : ℕ) : Except String String :=
  .ok (toString result)

def after (labels : List (Label Unit ℕ)) : State Unit :=
  (labels.foldlM (task_queue Unit dumps).step (task_queue Unit dumps).start).getD {}

/-- A task is submitted and its key marked before a worker takes it. -/
def marked_first : List (Label Unit ℕ) :=
  [.register_handler 0 "greeks", .start_worker 0, .submit 0 ⟨"a", "greeks", ()⟩,
    .pushed 0 true .ok, .marked 0 true .ok, .popped 0 true .ok, .started 0 1 true .ok,
    .handled 0 (.returned 7), .stored 0 2 true .ok]

theorem marked_first_settles : Settles (after marked_first) := by
  have ready : ReachedBy (task_queue Unit dumps) Timely (after (marked_first.take 2)) :=
    .step (.step .start (show Timely _ (.register_handler 0 "greeks") from trivial) rfl)
      (show Timely _ (.start_worker 0) from trivial) rfl
  have fresh : Timely (after (marked_first.take 2))
      (.submit 0 ⟨"a", "greeks", ()⟩ : Label Unit ℕ) := Finset.notMem_empty "a"
  have once : Timely (after (marked_first.take 3))
      (.pushed 0 true .ok : Label Unit ℕ) := nofun
  have open_task : Timely (after (marked_first.take 4))
      (.marked 0 true .ok : Label Unit ℕ) := fun _ id _ => Finset.notMem_empty id
  have has_handler : Timely (after (marked_first.take 5))
      (.popped 0 true .ok : Label Unit ℕ) := by
    intro _ _ task last
    obtain rfl := Option.some.inj last
    decide
  have marked : ReachedBy (task_queue Unit dumps) Timely (after (marked_first.take 6)) :=
    .step (.step (.step (.step ready fresh rfl) once rfl) open_task rfl) has_handler rfl
  have starts : Timely (after (marked_first.take 6))
      (.started 0 1 true .ok : Label Unit ℕ) := .inl rfl
  have returns : Timely (after (marked_first.take 7))
      (.handled 0 (.returned 7) : Label Unit ℕ) := nofun
  have stores : Timely (after (marked_first.take 8))
      (.stored 0 2 true .ok : Label Unit ℕ) := nofun
  exact status_settles (.step (.step (.step marked starts rfl) returns rfl) stores rfl)

/-- The worker has done the task before its key is marked. -/
def marked_late : List (Label Unit ℕ) :=
  [.register_handler 0 "greeks", .start_worker 0, .submit 0 ⟨"a", "greeks", ()⟩,
    .pushed 0 true .ok, .popped 0 true .ok, .started 0 1 true .ok,
    .handled 0 (.returned 7), .stored 0 2 true .ok, .marked 0 true .ok]

/-- A task without a handler is given up. -/
def no_handler : List (Label Unit ℕ) :=
  [.start_worker 0, .submit 0 ⟨"a", "greeks", ()⟩, .pushed 0 true .ok,
    .marked 0 true .ok, .popped 0 true .ok]

theorem marked_late_and_no_handler_not_settles :
    (∃ state, Reachable (task_queue Unit dumps) state ∧ "a" ∈ state.final ∧
      ¬Settles state) ∧
    ∃ state, Reachable (task_queue Unit dumps) state ∧ state.finished ≠ [] ∧
      ¬Settles state := by
  constructor
  · refine ⟨after marked_late, ?_, by decide, ?_⟩
    · exact .follow (fun _ _ _ => trivial) .start
        (rfl : marked_late.foldlM (task_queue Unit dumps).step _ = some _)
    · intro settles
      exact settles.forward "a" _ rfl rfl (by decide)
  · refine ⟨after no_handler, ?_, by decide, ?_⟩
    · exact .follow (fun _ _ _ => trivial) .start
        (rfl : no_handler.foldlM (task_queue Unit dumps).step _ = some _)
    · intro settles
      obtain ⟨record, stored, final⟩ := settles.finished _ List.mem_cons_self
      obtain rfl := Option.some.inj stored
      contradiction

end HftEngine.TaskQueue
