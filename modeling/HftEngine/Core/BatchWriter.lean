import HftEngine.Lib.Transition
import Mathlib.Logic.Function.Basic
import Mathlib.Algebra.Order.Field.Rat

/-!
# The batch writer

Any number of tasks call `add` and `flush_all`, or run the auto-flush loop.
Each batch key has its own `asyncio.Lock`, which is not reentrant.  A task
suspends while it waits for a lock and while it awaits `write_callback`;
every caller of `_flush_batch` holds the lock of the key, and the exception
handler of `_flush_batch` asks for that lock again.
-/

namespace HftEngine.BatchWriter

open Transition

/-- The arguments of the constructor; `write_callback` tells whether one is
set. -/
structure Config where
  batch_size : ℤ := 1000
  flush_interval : ℚ := 5
  write_callback : Bool := false

/-- Who called `_flush_batch`, with the keys a sweep has still to visit. -/
inductive Caller (Key : Type*) where
  | add
  | flush_all (rest : List Key)
  | auto_flush (now : ℚ) (rest : List Key)

/-- What a task does once it has the lock it waits for. -/
inductive Request (Key Item : Type*) where
  | append (item : Item)
  | flush (caller : Caller Key)

inductive Position (Key Item : Type*) where
  | idle
  | awaitLock (request : Request Key Item) (key : Key)
  | writing (caller : Caller Key) (key : Key) (batch : List Item)
  | restoring (caller : Caller Key) (key : Key) (batch : List Item)

/-- The attributes of the writer and the positions of its tasks.  `accepted`
and `written` record the items appended by `add` and those of the writes that
returned. -/
structure State (Key Item Task : Type*) where
  batches : Key → List Item
  keys : List Key
  batch_locks : Key → Option Task
  last_flush_times : Key → Option ℚ
  total_items : ℕ
  total_batches : ℕ
  total_flushes : ℕ
  tasks : Task → Position Key Item
  accepted : List (Key × Item)
  written : List (Key × Item)

inductive WriteOutcome where
  | returns
  | raises
  deriving DecidableEq, Repr

/-- The steps; `clock` is what `datetime.now()` reads during the step. -/
inductive Label (Key Item Task : Type*) where
  | add (task : Task) (item : Item) (batch_key : Key)
  | flush_all (task : Task)
  | tick (task : Task) (clock : ℚ)
  | acquire (task : Task) (clock : ℚ)
  | written (task : Task) (outcome : WriteOutcome) (clock : ℚ)

variable {Key Item Task : Type*} [DecidableEq Key] [DecidableEq Task]

/-- The first key of a sweep of the auto-flush loop that is due.  Looking a
key up in `last_flush_times` creates its entry. -/
def firstDue (config : Config) (now clock : ℚ) :
    (Key → Option ℚ) → List Key → (Key → Option ℚ) × Option (Key × List Key)
  | times, [] => (times, none)
  | times, key :: rest =>
      let last := (times key).getD clock
      let seen := Function.update times key (some last)
      if config.flush_interval ≤ now - last then (seen, some (key, rest))
      else firstDue config now clock seen rest

namespace State

def setTask (state : State Key Item Task) (task : Task)
    (position : Position Key Item) : State Key Item Task :=
  { state with tasks := Function.update state.tasks task position }

def setLock (state : State Key Item Task) (key : Key) (owner : Option Task) :
    State Key Item Task :=
  { state with batch_locks := Function.update state.batch_locks key owner }

/-- The rest of the caller after `_flush_batch` returned and the lock was
released: the next key of a sweep, or the end of the call. -/
def resume (config : Config) (state : State Key Item Task) (task : Task)
    (clock : ℚ) : Caller Key → State Key Item Task
  | .add => state.setTask task .idle
  | .flush_all [] => state.setTask task .idle
  | .flush_all (key :: rest) =>
      state.setTask task (.awaitLock (.flush (.flush_all rest)) key)
  | .auto_flush now keys =>
      match firstDue config now clock state.last_flush_times keys with
      | (times, none) =>
          { state.setTask task .idle with last_flush_times := times }
      | (times, some (key, rest)) =>
          { state.setTask task (.awaitLock (.flush (.auto_flush now rest)) key) with
            last_flush_times := times }

/-- Leave the `async with` of the key and go on with the caller. -/
def finish (config : Config) (state : State Key Item Task) (task : Task)
    (caller : Caller Key) (key : Key) (clock : ℚ) : State Key Item Task :=
  (state.setLock key none).resume config task clock caller

/-- `_flush_batch` up to the await of `write_callback`. -/
def flush_batch (config : Config) (state : State Key Item Task) (task : Task)
    (caller : Caller Key) (key : Key) (clock : ℚ) : State Key Item Task :=
  let batch := state.batches key
  if batch = [] then
    state.finish config task caller key clock
  else
    let taken := { state with
      batches := Function.update state.batches key []
      last_flush_times := Function.update state.last_flush_times key (some clock) }
    if config.write_callback then
      taken.setTask task (.writing caller key batch)
    else
      taken.finish config task caller key clock

/-- The statements of `add` before the size test. -/
def append (state : State Key Item Task) (key : Key) (item : Item) :
    State Key Item Task :=
  { state with
    batches := Function.update state.batches key (state.batches key ++ [item])
    keys := if key ∈ state.keys then state.keys else state.keys ++ [key]
    accepted := state.accepted ++ [(key, item)] }

/-- The statements after `write_callback` returned. -/
def recordWrite (state : State Key Item Task) (key : Key) (batch : List Item) :
    State Key Item Task :=
  { state with
    total_items := state.total_items + batch.length
    total_batches := state.total_batches + 1
    total_flushes := state.total_flushes + 1
    written := state.written ++ batch.map (fun item => (key, item)) }

/-- The body of an `async with self.batch_locks[key]` just entered. -/
def enter (config : Config) (state : State Key Item Task) (task : Task)
    (request : Request Key Item) (key : Key) (clock : ℚ) :
    State Key Item Task :=
  match request with
  | .append item =>
      let appended := state.append key item
      if config.batch_size ≤ ((appended.batches key).length : ℤ) then
        appended.flush_batch config task .add key clock
      else
        appended.finish config task .add key clock
  | .flush caller => state.flush_batch config task caller key clock

end State

def step (config : Config) (state : State Key Item Task) :
    Label Key Item Task → Option (State Key Item Task)
  | .add task item key =>
      match state.tasks task with
      | .idle => some (state.setTask task (.awaitLock (.append item) key))
      | _ => none
  | .flush_all task =>
      match state.tasks task with
      | .idle => some (state.resume config task 0 (.flush_all state.keys))
      | _ => none
  | .tick task clock =>
      match state.tasks task with
      | .idle => some (state.resume config task clock (.auto_flush clock state.keys))
      | _ => none
  | .acquire task clock =>
      match state.tasks task with
      | .awaitLock request key =>
          match state.batch_locks key with
          | none =>
              some ((state.setLock key (some task)).enter config task request key clock)
          | some _ => none
      | .restoring caller key batch =>
          match state.batch_locks key with
          | none =>
              some (({ state with
                batches := Function.update state.batches key
                  (state.batches key ++ batch) } : State Key Item Task).finish
                config task caller key clock)
          | some _ => none
      | _ => none
  | .written task outcome clock =>
      match state.tasks task with
      | .writing caller key batch =>
          match outcome with
          | .returns =>
              some ((state.recordWrite key batch).finish config task caller key clock)
          | .raises => some (state.setTask task (.restoring caller key batch))
      | _ => none

/-- A new writer. -/
def system (config : Config) (Key Item Task : Type*) [DecidableEq Key]
    [DecidableEq Task] : System (State Key Item Task) (Label Key Item Task) where
  start :=
    { batches := fun _ => []
      keys := []
      batch_locks := fun _ => none
      last_flush_times := fun _ => none
      total_items := 0
      total_batches := 0
      total_flushes := 0
      tasks := fun _ => .idle
      accepted := []
      written := [] }
  step := step config

/-! ## Conservation of items and absence of self-waiting -/

/-- The lock that a task waits for. -/
def Position.waitsFor : Position Key Item → Option Key
  | .awaitLock _ key => some key
  | .restoring _ key _ => some key
  | .idle => none
  | .writing .. => none

/-- The item is in the buffer of its key, in a batch being written, or was
passed to a write that returned. -/
def Located (state : State Key Item Task) (key : Key) (item : Item) : Prop :=
  item ∈ state.batches key ∨
    (∃ task caller batch,
      state.tasks task = .writing caller key batch ∧ item ∈ batch) ∨
    (key, item) ∈ state.written

def NoItemLost (state : State Key Item Task) : Prop :=
  ∀ key item, (key, item) ∈ state.accepted → Located state key item

def NoSelfWait (state : State Key Item Task) : Prop :=
  ∀ task key, (state.tasks task).waitsFor = some key →
    state.batch_locks key ≠ some task

/-- The task is about to take a non-empty batch out of the buffer. -/
def TakesBatch (config : Config) (state : State Key Item Task) :
    Position Key Item → Prop
  | .awaitLock (.append _) key =>
      config.batch_size ≤ ((state.batches key).length + 1 : ℤ)
  | .awaitLock (.flush _) key => state.batches key ≠ []
  | _ => False

/-- Steps without a failed write: a batch is taken only when there is a
callback to write it, and the callback returns. -/
def WritesSucceed (config : Config) (state : State Key Item Task) :
    Label Key Item Task → Prop
  | .acquire task _ =>
      config.write_callback = true ∨ ¬ TakesBatch config state (state.tasks task)
  | .written _ outcome _ => outcome = .returns
  | _ => True

instance [DecidableEq Item] (config : Config) (state : State Key Item Task) :
    (position : Position Key Item) → Decidable (TakesBatch config state position)
  | .awaitLock (.append _) key =>
      inferInstanceAs
        (Decidable (config.batch_size ≤ ((state.batches key).length + 1 : ℤ)))
  | .awaitLock (.flush _) key =>
      inferInstanceAs (Decidable (state.batches key ≠ []))
  | .idle | .writing .. | .restoring .. => isFalse id

instance [DecidableEq Item] (config : Config) (state : State Key Item Task) :
    (label : Label Key Item Task) → Decidable (WritesSucceed config state label)
  | .acquire task _ =>
      inferInstanceAs (Decidable (config.write_callback = true ∨
        ¬ TakesBatch config state (state.tasks task)))
  | .written _ outcome _ => inferInstanceAs (Decidable (outcome = .returns))
  | .add .. | .flush_all _ | .tick .. => isTrue trivial

/-- Neither writing nor in the exception handler. -/
def Position.Quiet : Position Key Item → Prop
  | .idle => True
  | .awaitLock .. => True
  | .writing .. => False
  | .restoring .. => False

/-- The locks are held by the tasks that await a write, and by no other. -/
def HeldByWriters (locks : Key → Option Task)
    (tasks : Task → Position Key Item) : Prop :=
  ∀ key task, locks key = some task ↔
    ∃ caller batch, tasks task = .writing caller key batch

structure Invariant (state : State Key Item Task) : Prop where
  noItemLost : NoItemLost state
  heldByWriters : HeldByWriters state.batch_locks state.tasks
  notRestoring : ∀ task caller key batch,
    state.tasks task ≠ .restoring caller key batch

omit [DecidableEq Key] in
theorem Position.Quiet.not_writing {position : Position Key Item}
    (quiet : position.Quiet) {caller : Caller Key} {key : Key}
    {batch : List Item} : position ≠ .writing caller key batch := by
  rintro rfl
  exact quiet

omit [DecidableEq Key] in
theorem Position.Quiet.not_restoring {position : Position Key Item}
    (quiet : position.Quiet) {caller : Caller Key} {key : Key}
    {batch : List Item} : position ≠ .restoring caller key batch := by
  rintro rfl
  exact quiet

namespace HeldByWriters

variable {locks : Key → Option Task} {tasks : Task → Position Key Item}

omit [DecidableEq Key] in
theorem move (held : HeldByWriters locks tasks) {task : Task}
    {position : Position Key Item} (before : (tasks task).Quiet)
    (quiet : position.Quiet) :
    HeldByWriters locks (Function.update tasks task position) := by
  intro key other
  rw [held key other]
  by_cases same : other = task
  · subst other
    simp [before.not_writing, quiet.not_writing]
  · simp [Function.update_of_ne same]

theorem take (held : HeldByWriters locks tasks) {task : Task} {key : Key}
    (free : locks key = none) (before : (tasks task).Quiet)
    (caller : Caller Key) (batch : List Item) :
    HeldByWriters (Function.update locks key (some task))
      (Function.update tasks task (.writing caller key batch)) := by
  intro lock other
  by_cases owner : other = task
  · subst other
    by_cases same : lock = key
    · subst lock
      simp
    · have elsewhere : locks lock ≠ some task := by
        intro owned
        obtain ⟨caller, batch, writing⟩ := (held lock task).mp owned
        exact before.not_writing writing
      simp [Function.update_of_ne same, elsewhere, Ne.symm same]
  · rw [Function.update_of_ne owner]
    by_cases same : lock = key
    · subst lock
      have unowned : ¬ ∃ caller batch, tasks other = .writing caller key batch := by
        rw [← held key other, free]
        simp
      simpa [Ne.symm owner] using unowned
    · rw [Function.update_of_ne same]
      exact held lock other

theorem release (held : HeldByWriters locks tasks) {task : Task} {key : Key}
    {position : Position Key Item}
    (owner : ∀ other, locks key = some other → other = task)
    (only : ∀ caller lock batch,
      tasks task = .writing caller lock batch → lock = key)
    (quiet : position.Quiet) :
    HeldByWriters (Function.update locks key none)
      (Function.update tasks task position) := by
  intro lock other
  by_cases taken : other = task
  · subst other
    have elsewhere : Function.update locks key none lock ≠ some task := by
      by_cases same : lock = key
      · simp [same]
      · rw [Function.update_of_ne same]
        intro owned
        obtain ⟨caller, batch, writing⟩ := (held lock task).mp owned
        exact same (only caller lock batch writing)
    simp [elsewhere, quiet.not_writing]
  · rw [Function.update_of_ne taken]
    by_cases same : lock = key
    · subst lock
      have unowned : ¬ ∃ caller batch, tasks other = .writing caller key batch := by
        rw [← held key other]
        exact fun owned => taken (owner other owned)
      simpa using unowned
    · rw [Function.update_of_ne same]
      exact held lock other

end HeldByWriters

/-- Going on with a caller only moves the task to a position in which it is not
writing, and may create entries of `last_flush_times`. -/
theorem resume_eq (config : Config) (state : State Key Item Task) (task : Task)
    (clock : ℚ) (caller : Caller Key) :
    ∃ (position : Position Key Item) (times : Key → Option ℚ),
      position.Quiet ∧
        state.resume config task clock caller =
          { state.setTask task position with last_flush_times := times } := by
  cases caller with
  | add => exact ⟨.idle, _, trivial, rfl⟩
  | flush_all rest =>
      cases rest with
      | nil => exact ⟨.idle, _, trivial, rfl⟩
      | cons key rest => exact ⟨.awaitLock _ key, _, trivial, rfl⟩
  | auto_flush now keys =>
      simp only [State.resume]
      split
      case h_1 times _ => exact ⟨.idle, times, trivial, rfl⟩
      case h_2 times key rest _ => exact ⟨.awaitLock _ key, times, trivial, rfl⟩

omit [DecidableEq Key] [DecidableEq Task] in
/-- The three parts of the state that locate items, before and after a step
that keeps every located item located. -/
theorem Located.mono {before after : State Key Item Task} {key : Key}
    {item : Item} (located : Located before key item)
    (buffered : ∀ key item, item ∈ before.batches key → Located after key item)
    (writing : ∀ task caller key batch item,
      before.tasks task = .writing caller key batch → item ∈ batch →
      Located after key item)
    (written : before.written ⊆ after.written) : Located after key item := by
  rcases located with inBuffer | ⟨task, caller, batch, position, member⟩ | wrote
  · exact buffered key item inBuffer
  · exact writing task caller key batch item position member
  · exact .inr (.inr (written wrote))

omit [DecidableEq Key] in
/-- Moving a task that is not writing loses no batch. -/
theorem writing_of_update {tasks : Task → Position Key Item} {task other : Task}
    {position : Position Key Item} (before : (tasks task).Quiet)
    {caller : Caller Key} {key : Key} {batch : List Item}
    (writing : tasks other = .writing caller key batch) :
    Function.update tasks task position other = .writing caller key batch := by
  have different : other ≠ task := by
    rintro rfl
    exact before.not_writing writing
  rw [Function.update_of_ne different, writing]

omit [DecidableEq Key] in
theorem notRestoring_update {tasks : Task → Position Key Item} {task : Task}
    {position : Position Key Item}
    (none_restoring : ∀ task caller key batch,
      tasks task ≠ .restoring caller key batch)
    (next : ∀ caller key batch, position ≠ .restoring caller key batch) :
    ∀ other caller key batch,
      Function.update tasks task position other ≠ .restoring caller key batch := by
  intro other caller key batch
  by_cases same : other = task
  · subst other
    simpa using next caller key batch
  · simpa [Function.update_of_ne same] using none_restoring other caller key batch

namespace Invariant

variable {config : Config} {state : State Key Item Task} {task : Task}

omit [DecidableEq Key] in
/-- A task that is not writing may move to any position without a lock. -/
theorem setTask (inv : Invariant state) (before : (state.tasks task).Quiet)
    {position : Position Key Item} (quiet : position.Quiet) :
    Invariant (state.setTask task position) := by
  refine ⟨?_, inv.heldByWriters.move before quiet,
    notRestoring_update inv.notRestoring fun _ _ _ => quiet.not_restoring⟩
  intro key item accepted
  refine (inv.noItemLost key item accepted).mono (fun _ _ member => .inl member)
    ?_ (List.Subset.refl _)
  intro other caller key batch item writing member
  exact .inr (.inl ⟨other, caller, batch, writing_of_update before writing, member⟩)

theorem resume (inv : Invariant state) (before : (state.tasks task).Quiet)
    (clock : ℚ) (caller : Caller Key) :
    Invariant (state.resume config task clock caller) := by
  obtain ⟨position, times, quiet, result⟩ :=
    resume_eq config state task clock caller
  have moved := inv.setTask before quiet
  rw [result]
  exact ⟨moved.noItemLost, moved.heldByWriters, moved.notRestoring⟩

end Invariant

/-- Leaving the `async with` of a key: what the task itself was writing must
have been accounted for elsewhere. -/
theorem finish_invariant {config : Config} {state : State Key Item Task}
    {task : Task} {key : Key}
    (located : ∀ key item, (key, item) ∈ state.accepted →
      item ∈ state.batches key ∨
        (∃ other caller batch, other ≠ task ∧
          state.tasks other = .writing caller key batch ∧ item ∈ batch) ∨
        (key, item) ∈ state.written)
    (released : ∀ position : Position Key Item, position.Quiet →
      HeldByWriters (Function.update state.batch_locks key none)
        (Function.update state.tasks task position))
    (notRestoring : ∀ task caller key batch,
      state.tasks task ≠ .restoring caller key batch)
    (caller : Caller Key) (clock : ℚ) :
    Invariant (state.finish config task caller key clock) := by
  obtain ⟨position, times, quiet, result⟩ :=
    resume_eq config (state.setLock key none) task clock caller
  rw [State.finish, result]
  refine ⟨?_, released position quiet,
    notRestoring_update notRestoring fun _ _ _ => quiet.not_restoring⟩
  intro other_key item accepted
  rcases located other_key item accepted with
    buffered | ⟨other, caller, batch, different, writing, member⟩ | wrote
  · exact .inl buffered
  · refine .inr (.inl ⟨other, caller, batch, ?_, member⟩)
    rw [← writing]
    exact Function.update_of_ne different _ _
  · exact .inr (.inr wrote)

/-- The state inside an `async with` that a waiting task has just entered. -/
structure Entered (state : State Key Item Task) (task : Task) (key : Key) :
    Prop where
  noItemLost : NoItemLost state
  quiet : (state.tasks task).Quiet
  locked : ∃ locks, HeldByWriters locks state.tasks ∧ locks key = none ∧
    state.batch_locks = Function.update locks key (some task)
  notRestoring : ∀ task caller key batch,
    state.tasks task ≠ .restoring caller key batch

namespace Entered

variable {config : Config} {state : State Key Item Task} {task : Task} {key : Key}

omit [DecidableEq Task] in
theorem append (entered : Entered state task key) (item : Item) :
    Entered (state.append key item) task key := by
  refine ⟨?_, entered.quiet, entered.locked, entered.notRestoring⟩
  intro other_key other accepted
  rcases List.mem_append.mp accepted with earlier | new
  · refine (entered.noItemLost other_key other earlier).mono ?_ ?_
      (List.Subset.refl _)
    · intro place member buffered
      left
      by_cases same : place = key
      · subst place
        simp [State.append, buffered]
      · simpa [State.append, Function.update_of_ne same] using buffered
    · intro owner caller place batch member writing inBatch
      exact .inr (.inl ⟨owner, caller, batch, writing, inBatch⟩)
  · obtain ⟨rfl, rfl⟩ : other_key = key ∧ other = item := by simpa using new
    left
    simp [State.append]

theorem finish (entered : Entered state task key) (caller : Caller Key)
    (clock : ℚ) : Invariant (state.finish config task caller key clock) := by
  obtain ⟨locks, held, free, locked⟩ := entered.locked
  refine finish_invariant ?_ ?_ entered.notRestoring caller clock
  · intro place item accepted
    rcases entered.noItemLost place item accepted with
      buffered | ⟨other, caller, batch, writing, member⟩ | wrote
    · exact .inl buffered
    · refine .inr (.inl ⟨other, caller, batch, ?_, writing, member⟩)
      rintro rfl
      exact entered.quiet.not_writing writing
    · exact .inr (.inr wrote)
  · intro position quiet
    rw [locked, Function.update_idem]
    refine held.release ?_ ?_ quiet
    · simp [free]
    · intro caller lock batch writing
      exact (entered.quiet.not_writing writing).elim

/-- The batch moves from the buffer to the task that awaits its write. -/
theorem flush_batch (entered : Entered state task key) (caller : Caller Key)
    (clock : ℚ)
    (writes : config.write_callback = true ∨ state.batches key = []) :
    Invariant (state.flush_batch config task caller key clock) := by
  unfold State.flush_batch
  by_cases empty : state.batches key = []
  · simp only [empty, if_true]
    exact entered.finish caller clock
  · have callback := writes.resolve_right empty
    simp only [empty, if_false, callback, if_true]
    obtain ⟨locks, held, free, locked⟩ := entered.locked
    refine ⟨?_, ?_, notRestoring_update entered.notRestoring (by simp)⟩
    · intro place item accepted
      refine (entered.noItemLost place item accepted).mono ?_ ?_
        (List.Subset.refl _)
      · intro place item buffered
        by_cases same : place = key
        · subst place
          exact .inr (.inl ⟨task, caller, _, Function.update_self _ _ _, buffered⟩)
        · left
          simpa [State.setTask, Function.update_of_ne same] using buffered
      · intro other owner place batch item writing member
        exact .inr (.inl ⟨other, owner, batch,
          writing_of_update entered.quiet writing, member⟩)
    · show HeldByWriters state.batch_locks _
      rw [locked]
      exact held.take free entered.quiet caller _

end Entered

namespace Invariant

variable {config : Config} {state : State Key Item Task} {task : Task}

theorem enter (inv : Invariant state) {request : Request Key Item} {key : Key}
    (waiting : state.tasks task = .awaitLock request key)
    (free : state.batch_locks key = none) (clock : ℚ)
    (writes : config.write_callback = true ∨
      ¬ TakesBatch config state (state.tasks task)) :
    Invariant ((state.setLock key (some task)).enter config task request key
      clock) := by
  have entered : Entered (state.setLock key (some task)) task key := by
    refine ⟨inv.noItemLost, ?_, ⟨_, inv.heldByWriters, free, rfl⟩,
      inv.notRestoring⟩
    simp [State.setLock, waiting, Position.Quiet]
  rw [waiting] at writes
  cases request with
  | append item =>
      simp only [State.enter]
      split
      case isTrue full =>
        refine (entered.append item).flush_batch .add clock (.inl ?_)
        refine writes.resolve_right (not_not.mpr ?_)
        simpa [State.append, State.setLock, TakesBatch] using full
      case isFalse => exact (entered.append item).finish .add clock
  | flush caller =>
      apply entered.flush_batch caller clock
      simpa [TakesBatch, State.setLock] using writes

theorem write_returns (inv : Invariant state) {caller : Caller Key} {key : Key}
    {batch : List Item}
    (writing : state.tasks task = .writing caller key batch) (clock : ℚ) :
    Invariant ((state.recordWrite key batch).finish config task caller key
      clock) := by
  have owner := (inv.heldByWriters key task).mpr ⟨caller, batch, writing⟩
  apply finish_invariant
  · intro place item accepted
    rcases inv.noItemLost place item accepted with
      buffered | ⟨other, other_caller, other_batch, position, member⟩ | wrote
    · exact .inl buffered
    · by_cases same : other = task
      · subst other
        obtain ⟨-, rfl, rfl⟩ : caller = other_caller ∧ key = place ∧
            batch = other_batch := by
          simpa [writing] using position
        exact .inr (.inr (by simp [State.recordWrite, member]))
      · exact .inr (.inl ⟨other, other_caller, other_batch, same, position, member⟩)
    · exact .inr (.inr (List.mem_append_left _ wrote))
  · intro position quiet
    apply inv.heldByWriters.release
    · intro other owned
      exact Option.some.inj (owned.symm.trans owner)
    · intro other_caller lock other_batch position
      have owned := (inv.heldByWriters lock task).mpr ⟨_, _, position⟩
      rw [writing] at position
      simp only [Position.writing.injEq] at position
      exact position.2.1.symm
    · exact quiet
  · exact inv.notRestoring

theorem step {after : State Key Item Task} {label : Label Key Item Task}
    (inv : Invariant state) (succeed : WritesSucceed config state label)
    (taken : BatchWriter.step config state label = some after) :
    Invariant after := by
  cases label with
  | add task item key =>
      simp only [BatchWriter.step] at taken
      split at taken
      case h_1 idle =>
        exact Option.some.inj taken ▸
          inv.setTask (by simp [idle, Position.Quiet]) trivial
      case h_2 => cases taken
  | flush_all task =>
      simp only [BatchWriter.step] at taken
      split at taken
      case h_1 idle =>
        exact Option.some.inj taken ▸
          inv.resume (by simp [idle, Position.Quiet]) 0 _
      case h_2 => cases taken
  | tick task clock =>
      simp only [BatchWriter.step] at taken
      split at taken
      case h_1 idle =>
        exact Option.some.inj taken ▸
          inv.resume (by simp [idle, Position.Quiet]) clock _
      case h_2 => cases taken
  | acquire task clock =>
      simp only [BatchWriter.step] at taken
      split at taken
      case h_1 request key waiting =>
        split at taken
        case h_1 free =>
          exact Option.some.inj taken ▸ inv.enter waiting free clock succeed
        case h_2 => cases taken
      case h_2 caller key batch restoring =>
        exact (inv.notRestoring task caller key batch restoring).elim
      case h_3 => cases taken
  | written task outcome clock =>
      simp only [BatchWriter.step] at taken
      split at taken
      case h_1 caller key batch writing =>
        have returned : outcome = .returns := succeed
        subst outcome
        exact Option.some.inj taken ▸ inv.write_returns writing clock
      case h_2 => cases taken

omit [DecidableEq Key] [DecidableEq Task] in
theorem noSelfWait (inv : Invariant state) : NoSelfWait state := by
  intro task key waits owned
  obtain ⟨caller, batch, writing⟩ := (inv.heldByWriters key task).mp owned
  simp [writing, Position.waitsFor] at waits

end Invariant

/-- Without a failed write no item is lost and no task waits for its own lock. -/
theorem conserved_of_writesSucceed {config : Config}
    {state : State Key Item Task}
    (reached : ReachedBy (system config Key Item Task) (WritesSucceed config)
      state) :
    NoItemLost state ∧ NoSelfWait state := by
  have inv : Invariant state := by
    refine reached.invariant (I := Invariant) ?_ ?_
    · constructor
      · intro key item accepted
        simp [system] at accepted
      · intro key task
        simp [system]
      · intro task caller key batch
        simp [system]
    · intro before label after inv succeed taken
      exact inv.step succeed taken
  exact ⟨inv.noItemLost, inv.noSelfWait⟩

/-- Two tasks add to one key; the first item waits in the buffer and both are
written when the batch is full. -/
theorem conserved_of_writesSucceed_written :
    ∃ state,
      (ReachedBy (system ⟨2, 5, true⟩ String ℕ Bool) (WritesSucceed ⟨2, 5, true⟩)
          state ∧ state.written = [("ticks", 1), ("ticks", 2)]) ∧
        NoItemLost state ∧ NoSelfWait state := by
  obtain ⟨state, reached, written⟩ := ReachedBy.exists_of_run
    (system ⟨2, 5, true⟩ String ℕ Bool) (WritesSucceed ⟨2, 5, true⟩)
    (fun state => state.written = [("ticks", 1), ("ticks", 2)])
    [.add false 1 "ticks", .add true 2 "ticks", .acquire false 0,
      .acquire true 0, .written true .returns 1] (by decide)
  exact ⟨state, ⟨reached, written⟩, conserved_of_writesSucceed reached⟩

/-- A failed write leaves its task waiting for the lock it holds, with the
batch neither in the buffer nor written. -/
theorem conserved_fails :
    ∃ state, Reachable (system ⟨1, 5, true⟩ String ℕ Unit) state ∧
      ¬ NoItemLost state ∧ ¬ NoSelfWait state := by
  obtain ⟨state, reached, waits, owner, accepted, buffer, written⟩ :=
    ReachedBy.exists_of_run (system ⟨1, 5, true⟩ String ℕ Unit)
      (fun _ _ => True)
      (fun state => (state.tasks ()).waitsFor = some "ticks" ∧
        state.batch_locks "ticks" = some () ∧
        state.accepted = [("ticks", 1)] ∧ state.batches "ticks" = [] ∧
        state.written = [])
      [.add () 1 "ticks", .acquire () 0, .written () .raises 1]
      (by decide)
  refine ⟨state, reached, ?_, fun distinct => distinct () "ticks" waits owner⟩
  intro kept
  rcases kept "ticks" 1 (by simp [accepted]) with
    buffered | ⟨task, caller, batch, writing, _⟩ | wrote
  · simp [buffer] at buffered
  · cases task
    simp [writing, Position.waitsFor] at waits
  · simp [written] at wrote

end HftEngine.BatchWriter
