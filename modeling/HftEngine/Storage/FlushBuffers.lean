import HftEngine.Lib.Transition
import Mathlib.Logic.Function.Basic
import Mathlib.Data.Rat.Defs
import Mathlib.Algebra.Order.Field.Rat
import Mathlib.Data.Fintype.Defs
import Mathlib.Data.Finset.Insert
import Mathlib.Data.Fintype.Basic

/-!
# Buffered writes of the storage service

Two tasks share `market_buffer` and `option_buffer`: the consumer runs
`process_message`, which appends records and flushes when the buffers are
large, and `time_based_flush` flushes periodically.  A flush suspends at each
`session.execute` and at the commit of `write_session`; everything between two
awaits is one step.  The exception handler of `flush_buffers` is inside the
`async with`, so `write_session` commits after a failed execute too.
-/

namespace HftEngine.Storage

open Transition

/-- The buffers, one for each table that `flush_buffers` inserts into. -/
inductive Table where
  | market
  | option
  deriving DecidableEq, Repr

instance : Fintype Table where
  elems := {.market, .option}
  complete table := by cases table <;> simp

/-- The tasks that call `flush_buffers`. -/
inductive Task where
  | consumer
  | flusher
  deriving DecidableEq, Repr

instance : Fintype Task where
  elems := {.consumer, .flusher}
  complete task := by cases task <;> simp

/-- The synchronous part of `process_message`: the records it appends, and
whether a conversion raised, in which case its handler skips the flush. -/
structure Received (Row : Type*) where
  rows : Table → List Row
  raised : Bool

/-- An open `write_session`: the rows its transaction has inserted, and whether
a failed statement has left the transaction aborted. -/
structure Session (Row : Type*) where
  inserted : Table → List Row
  aborted : Bool

/-- Where a task stands in `flush_buffers`. -/
inductive Flush (Row : Type*) where
  | idle
  | execute (session : Session Row) (table : Table) (prepared : List Row)
  | commit (session : Session Row)
  | dead

/-- The globals of the service with the database.  `appended` and `committed`
record every row ever buffered and every row of a committed transaction. -/
structure State (Row : Type*) where
  buffer : Table → List Row
  flush : Task → Flush Row
  last_flush : ℚ
  appended : Table → List Row
  committed : Table → List Row

/-- The dynamic settings read by `get_adaptive_batch_size`. -/
structure BatchConfig where
  storage_min_batch_size : ℤ := 2000
  storage_max_batch_size : ℤ := 50000

def get_adaptive_batch_size (config : BatchConfig) (time_since_flush : ℚ) : ℤ :=
  if time_since_flush < 3 / 10 then
    config.storage_max_batch_size
  else if time_since_flush < 7 / 10 then
    config.storage_min_batch_size * 3
  else
    config.storage_min_batch_size

/-- How an awaited `session.execute` ends.  A failure on the server aborts the
transaction; one raised before the statement is sent does not. -/
inductive ExecuteOutcome where
  | returns
  | raises (aborts : Bool)
  deriving DecidableEq, Repr

/-- How the awaited commit ends. -/
inductive CommitOutcome where
  | returns
  | raises
  deriving DecidableEq, Repr

inductive Label (Message : Type*) where
  | receive (message : Message) (config : BatchConfig) (now : ℚ)
  | timer (now : ℚ)
  | executed (task : Task) (outcome : ExecuteOutcome) (now : ℚ)
  | committed (task : Task) (outcome : CommitOutcome)

variable {Message Row : Type*}

namespace State

def setFlush (state : State Row) (task : Task) (position : Flush Row) :
    State Row :=
  { state with flush := Function.update state.flush task position }

def clear (state : State Row) (table : Table) : State Row :=
  { state with buffer := Function.update state.buffer table [] }

def append (state : State Row) (received : Received Row) : State Row :=
  { state with
    buffer := fun table => state.buffer table ++ received.rows table
    appended := fun table => state.appended table ++ received.rows table }

def total_buffered (state : State Row) : ℤ :=
  (state.buffer .market).length + (state.buffer .option).length

/-- The end of the `try` body of `flush_buffers`: `last_flush` is set and
`write_session` starts to commit. -/
def finishInserts (state : State Row) (task : Task) (session : Session Row)
    (now : ℚ) : State Row :=
  { state.setFlush task (.commit session) with last_flush := now }

/-- `if option_buffer:` and what follows it. -/
def insertOptions (state : State Row) (task : Task) (session : Session Row)
    (now : ℚ) : State Row :=
  if state.buffer .option = [] then
    state.finishInserts task session now
  else
    state.setFlush task (.execute session .option (state.buffer .option))

/-- `flush_buffers` up to its first await. -/
def flush_buffers (state : State Row) (task : Task) (now : ℚ) : State Row :=
  if state.buffer .market = [] ∧ state.buffer .option = [] then
    state
  else if state.buffer .market = [] then
    state.insertOptions task ⟨fun _ => [], false⟩ now
  else
    state.setFlush task
      (.execute ⟨fun _ => [], false⟩ .market (state.buffer .market))

end State

def Session.insert (session : Session Row) (table : Table) (prepared : List Row) :
    Session Row :=
  { session with
    inserted := Function.update session.inserted table
      (session.inserted table ++ prepared) }

/-- The statement after a successful execute: the buffer is cleared, and the
option part follows the market part without an await in between. -/
def State.afterExecute (state : State Row) (task : Task) (session : Session Row)
    (table : Table) (prepared : List Row) (now : ℚ) : State Row :=
  match table with
  | .market =>
      (state.clear .market).insertOptions task (session.insert .market prepared) now
  | .option =>
      (state.clear .option).finishInserts task (session.insert .option prepared) now

/-- The end of a flush: a commit that raises leaves `flush_buffers`.  The
handler of `process_message` swallows it; `time_based_flush` has none. -/
def afterCommit (task : Task) : CommitOutcome → Flush Row
  | .returns => .idle
  | .raises =>
      match task with
      | .consumer => .idle
      | .flusher => .dead

/-- Rows that a commit makes durable: an aborted transaction is rolled back. -/
def Session.durable (session : Session Row) : CommitOutcome → Table → List Row
  | .returns => if session.aborted then fun _ => [] else session.inserted
  | .raises => fun _ => []

def step (process_message : Message → Received Row) (state : State Row) :
    Label Message → Option (State Row)
  | .receive message config now =>
      match state.flush .consumer with
      | .idle =>
          let received := process_message message
          let buffered := state.append received
          if received.raised then
            some buffered
          else if get_adaptive_batch_size config (now - state.last_flush) ≤
              buffered.total_buffered then
            some (buffered.flush_buffers .consumer now)
          else
            some buffered
      | _ => none
  | .timer now =>
      match state.flush .flusher with
      | .idle => some (state.flush_buffers .flusher now)
      | _ => none
  | .executed task outcome now =>
      match state.flush task with
      | .execute session table prepared =>
          match outcome with
          | .returns =>
              some (state.afterExecute task session table prepared now)
          | .raises aborts =>
              some (state.setFlush task
                (.commit { session with aborted := session.aborted || aborts }))
      | _ => none
  | .committed task outcome =>
      match state.flush task with
      | .commit session =>
          some { state.setFlush task (afterCommit task outcome) with
            committed := fun table =>
              state.committed table ++ session.durable outcome table }
      | _ => none

/-- The storage service from empty buffers, imported at time `started`. -/
def system (process_message : Message → Received Row) (started : ℚ) :
    System (State Row) (Label Message) where
  start :=
    { buffer := fun _ => []
      flush := fun _ => .idle
      last_flush := started
      appended := fun _ => []
      committed := fun _ => [] }
  step := step process_message

/-! ## What becomes of a buffered row -/

/-- The rows that a flush has inserted in its open transaction. -/
def Flush.inserted : Flush Row → Table → List Row
  | .execute session _ _ => session.inserted
  | .commit session => session.inserted
  | .idle => fun _ => []
  | .dead => fun _ => []

/-- The rows that a flush in progress holds: those inserted in its transaction
and those of the insert it awaits. -/
def Flush.held : Flush Row → Table → List Row
  | .execute session awaited prepared => fun table =>
      session.inserted table ++ (if awaited = table then prepared else [])
  | .commit session => session.inserted
  | .idle => fun _ => []
  | .dead => fun _ => []

/-- Every row ever appended is in its buffer, held by a flush in progress, or
contained in an insert whose transaction committed. -/
def NoRecordLost (state : State Row) : Prop :=
  ∀ table, ∀ row ∈ state.appended table,
    row ∈ state.buffer table ∨
      (∃ task, row ∈ (state.flush task).held table) ∨
      row ∈ state.committed table

/-- Clearing the buffer of the awaited insert removes only rows of it. -/
def Flush.ClearsOnlyInserted (buffer : Table → List Row) : Flush Row → Prop
  | .execute _ table prepared => ∀ row ∈ buffer table, row ∈ prepared
  | _ => True

/-- The awaited commit loses nothing: the transaction commits, or no execute of
it has returned, so that no buffer has been cleared for it. -/
def Flush.CommitsOrEmpty (outcome : CommitOutcome) : Flush Row → Prop
  | .commit session =>
      (outcome = .returns ∧ session.aborted = false) ∨
        ∀ table, session.inserted table = []
  | _ => True

/-- The steps that reach neither defect of `flush_buffers`. -/
def Sound (state : State Row) : Label Message → Prop
  | .executed task .returns _ =>
      (state.flush task).ClearsOnlyInserted state.buffer
  | .committed task outcome => (state.flush task).CommitsOrEmpty outcome
  | _ => True

section Decidability

variable [DecidableEq Row]

instance (state : State Row) : Decidable (NoRecordLost state) :=
  inferInstanceAs (Decidable (∀ table, ∀ row ∈ state.appended table,
    row ∈ state.buffer table ∨
      (∃ task, row ∈ (state.flush task).held table) ∨
      row ∈ state.committed table))

instance (buffer : Table → List Row) :
    (flush : Flush Row) → Decidable (flush.ClearsOnlyInserted buffer)
  | .execute _ table prepared =>
      inferInstanceAs (Decidable (∀ row ∈ buffer table, row ∈ prepared))
  | .idle | .commit _ | .dead => isTrue trivial

instance (outcome : CommitOutcome) :
    (flush : Flush Row) → Decidable (flush.CommitsOrEmpty outcome)
  | .commit session =>
      inferInstanceAs (Decidable ((outcome = .returns ∧ session.aborted = false) ∨
        ∀ table, session.inserted table = []))
  | .idle | .execute .. | .dead => isTrue trivial

instance (state : State Row) :
    (label : Label Message) → Decidable (Sound state label)
  | .executed task .returns _ =>
      inferInstanceAs (Decidable ((state.flush task).ClearsOnlyInserted _))
  | .committed task outcome =>
      inferInstanceAs (Decidable ((state.flush task).CommitsOrEmpty outcome))
  | .receive .. | .timer _ | .executed _ (.raises _) _ => isTrue trivial

end Decidability

/-- The inductive form of `NoRecordLost`.  A prepared insert does not count,
since its rows are still in the buffer until they are inserted. -/
def Secured (state : State Row) : Prop :=
  ∀ table, ∀ row ∈ state.appended table,
    row ∈ state.buffer table ∨
      (∃ task, row ∈ (state.flush task).inserted table) ∨
      row ∈ state.committed table

theorem Flush.inserted_subset_held (flush : Flush Row) (table : Table) :
    flush.inserted table ⊆ flush.held table := by
  cases flush <;> simp [Flush.inserted, Flush.held]

theorem Secured.noRecordLost {state : State Row} (secured : Secured state) :
    NoRecordLost state := by
  intro table row member
  rcases secured table row member with buffered | ⟨task, inserted⟩ | committed
  · exact .inl buffered
  · exact .inr (.inl ⟨task, Flush.inserted_subset_held _ _ inserted⟩)
  · exact .inr (.inr committed)

/-- What a step of one task leaves alone: the ghost record of appended rows,
the committed rows and the position of the other task. -/
structure Frame (task : Task) (before after : State Row) : Prop where
  appended : after.appended = before.appended
  committed : after.committed = before.committed
  others : ∀ other, other ≠ task → after.flush other = before.flush other

theorem Frame.setFlush (state : State Row) (task : Task) (position : Flush Row) :
    Frame task state (state.setFlush task position) where
  appended := rfl
  committed := rfl
  others _ different := Function.update_of_ne different _ _

@[simp] theorem setFlush_self (state : State Row) (task : Task)
    (position : Flush Row) :
    (state.setFlush task position).flush task = position :=
  Function.update_self _ _ _

theorem Frame.finishInserts (state : State Row) (task : Task)
    (session : Session Row) (now : ℚ) :
    Frame task state (state.finishInserts task session now) where
  appended := rfl
  committed := rfl
  others := (Frame.setFlush state task (.commit session)).others

theorem Frame.insertOptions (state : State Row) (task : Task)
    (session : Session Row) (now : ℚ) :
    Frame task state (state.insertOptions task session now) := by
  unfold State.insertOptions
  split
  · exact Frame.finishInserts state task session now
  · exact Frame.setFlush state task _

theorem insertOptions_buffer (state : State Row) (task : Task)
    (session : Session Row) (now : ℚ) :
    (state.insertOptions task session now).buffer = state.buffer := by
  unfold State.insertOptions
  split <;> rfl

theorem insertOptions_inserted (state : State Row) (task : Task)
    (session : Session Row) (now : ℚ) :
    ((state.insertOptions task session now).flush task).inserted =
      session.inserted := by
  unfold State.insertOptions
  split <;> simp [State.finishInserts, Flush.inserted]

/-- A step of one task that keeps the buffers and the rows the task has
inserted keeps every row secured. -/
theorem Secured.move {before after : State Row} {task : Task}
    (secured : Secured before) (frame : Frame task before after)
    (buffer : after.buffer = before.buffer)
    (kept : ∀ table, (before.flush task).inserted table ⊆
      (after.flush task).inserted table) :
    Secured after := by
  intro table row member
  rw [frame.appended] at member
  rw [buffer, frame.committed]
  rcases secured table row member with buffered | ⟨owner, inserted⟩ | durable
  · exact .inl buffered
  · refine .inr (.inl ⟨owner, ?_⟩)
    by_cases same : owner = task
    · subst owner
      exact kept table inserted
    · rw [frame.others owner same]
      exact inserted
  · exact .inr (.inr durable)

/-- A flush starts with an empty transaction and touches no buffer. -/
theorem Secured.flush_buffers {state : State Row} {task : Task}
    (secured : Secured state) (idle : state.flush task = .idle) (now : ℚ) :
    Secured (state.flush_buffers task now) := by
  have nothing : ∀ table, (state.flush task).inserted table = [] := by
    intro table
    rw [idle]
    rfl
  unfold State.flush_buffers
  split
  · exact secured
  · split
    · refine secured.move (Frame.insertOptions state task _ now)
        (insertOptions_buffer state task _ now) ?_
      intro table row inserted
      simp [nothing] at inserted
    · apply secured.move (Frame.setFlush state task _) rfl
      intro table row inserted
      simp [nothing] at inserted

theorem Secured.append {state : State Row} (secured : Secured state)
    (received : Received Row) : Secured (state.append received) := by
  intro table row member
  rcases List.mem_append.mp member with earlier | new
  · rcases secured table row earlier with buffered | kept
    · exact .inl (List.mem_append_left _ buffered)
    · exact .inr kept
  · exact .inl (List.mem_append_right _ new)

/-- The rows of a cleared buffer are those of the insert that returned, so they
move from the buffer into the open transaction. -/
theorem Secured.clear {before after : State Row} {task : Task}
    {session : Session Row} {table : Table} {prepared : List Row}
    (secured : Secured before)
    (position : before.flush task = .execute session table prepared)
    (covered : ∀ row ∈ before.buffer table, row ∈ prepared)
    (frame : Frame task before after)
    (buffer : after.buffer = Function.update before.buffer table [])
    (inserted : (after.flush task).inserted =
      (session.insert table prepared).inserted) :
    Secured after := by
  have now_inserted : ∀ other row, row ∈ session.inserted other ∨
      (other = table ∧ row ∈ prepared) →
      row ∈ (after.flush task).inserted other := by
    intro other row source
    rw [inserted]
    by_cases same : other = table
    · subst other
      simpa [Session.insert] using source
    · simpa [Session.insert, same] using source
  intro other row member
  rw [frame.appended] at member
  rw [frame.committed]
  rcases secured other row member with buffered | ⟨owner, before_inserted⟩ | durable
  · by_cases same : other = table
    · subst other
      exact .inr (.inl ⟨task, now_inserted table row
        (.inr ⟨rfl, covered row buffered⟩)⟩)
    · left
      rw [buffer, Function.update_of_ne same]
      exact buffered
  · refine .inr (.inl ⟨owner, ?_⟩)
    by_cases same : owner = task
    · subst owner
      rw [position] at before_inserted
      exact now_inserted other row (.inl before_inserted)
    · rw [frame.others owner same]
      exact before_inserted
  · exact .inr (.inr durable)

theorem Secured.afterExecute {state : State Row} {task : Task}
    {session : Session Row} {table : Table} {prepared : List Row}
    (secured : Secured state)
    (position : state.flush task = .execute session table prepared)
    (covered : ∀ row ∈ state.buffer table, row ∈ prepared) (now : ℚ) :
    Secured (state.afterExecute task session table prepared now) := by
  cases table with
  | market =>
      have frame := Frame.insertOptions (state.clear .market) task
        (session.insert .market prepared) now
      exact secured.clear position covered ⟨frame.1, frame.2, frame.3⟩
        (insertOptions_buffer _ _ _ _) (insertOptions_inserted _ _ _ _)
  | option =>
      have frame := Frame.finishInserts (state.clear .option) task
        (session.insert .option prepared) now
      exact secured.clear position covered ⟨frame.1, frame.2, frame.3⟩ rfl
        (by simp [State.afterExecute, State.finishInserts, Flush.inserted])

/-- A commit that returns makes the inserted rows durable; one that does not
may only end a transaction without rows. -/
theorem Secured.commit {state : State Row} {task : Task}
    {session : Session Row} (secured : Secured state)
    (position : state.flush task = .commit session) (outcome : CommitOutcome)
    (meets : (outcome = .returns ∧ session.aborted = false) ∨
      ∀ table, session.inserted table = []) :
    Secured { state.setFlush task (afterCommit task outcome) with
      committed := fun table =>
        state.committed table ++ session.durable outcome table } := by
  intro table row member
  rcases secured table row member with buffered | ⟨owner, inserted⟩ | durable
  · exact .inl buffered
  · by_cases same : owner = task
    · subst owner
      rw [position] at inserted
      rcases meets with ⟨rfl, healthy⟩ | empty
      · right
        right
        exact List.mem_append_right _ (by
          simpa [Session.durable, healthy, Flush.inserted] using inserted)
      · simp [Flush.inserted, empty table] at inserted
    · refine .inr (.inl ⟨owner, ?_⟩)
      rwa [(Frame.setFlush state task _).others owner same]
  · exact .inr (.inr (List.mem_append_left _ durable))

variable {process_message : Message → Received Row}

theorem Secured.step {state after : State Row} {label : Label Message}
    (secured : Secured state) (sound : Sound state label)
    (taken : step process_message state label = some after) :
    Secured after := by
  cases label with
  | receive message config now =>
      simp only [Storage.step] at taken
      split at taken
      case h_1 idle =>
        have appended := secured.append (process_message message)
        split at taken
        · exact Option.some.inj taken ▸ appended
        · split at taken
          · exact Option.some.inj taken ▸ appended.flush_buffers idle now
          · exact Option.some.inj taken ▸ appended
      case h_2 => cases taken
  | timer now =>
      simp only [Storage.step] at taken
      split at taken
      case h_1 idle => exact Option.some.inj taken ▸ secured.flush_buffers idle now
      case h_2 => cases taken
  | executed task outcome now =>
      simp only [Storage.step] at taken
      split at taken
      case h_1 session table prepared position =>
        cases outcome with
        | returns =>
            exact Option.some.inj taken ▸
              secured.afterExecute position
                (by simpa [Sound, position, Flush.ClearsOnlyInserted] using sound) now
        | raises aborts =>
            refine Option.some.inj taken ▸
              secured.move (Frame.setFlush state task _) rfl ?_
            intro table row inserted
            rw [position] at inserted
            simpa [Flush.inserted] using inserted
      case h_2 => cases taken
  | committed task outcome =>
      simp only [Storage.step] at taken
      split at taken
      case h_1 session position =>
        exact Option.some.inj taken ▸
          secured.commit position outcome
            (by simpa [Sound, position, Flush.CommitsOrEmpty] using sound)
      case h_2 => cases taken

/-- In a run that reaches neither defect, no buffered row is lost. -/
theorem noRecordLost_of_sound {started : ℚ} {state : State Row}
    (reached : ReachedBy (system process_message started) Sound state) :
    NoRecordLost state := by
  have secured : Secured state := by
    refine reached.invariant (I := Secured) ?_ ?_
    · intro table row member
      simp [system] at member
    · intro before label after secured sound taken
      exact secured.step sound taken
  exact secured.noRecordLost

/-- One market row for each message. -/
def oneRow (message : ℕ) : Received ℕ where
  rows table := if table = .market then [message] else []
  raised := false

/-- The periodic flush writes a row and commits. -/
theorem noRecordLost_of_sound_written :
    ∃ state, (ReachedBy (system oneRow 0) Sound state ∧
      state.committed .market = [7]) ∧ NoRecordLost state := by
  obtain ⟨state, reached, written⟩ := ReachedBy.exists_of_run
    (system oneRow 0) Sound (fun state => state.committed .market = [7])
    [.receive 7 {} 0, .timer 1, .executed .flusher .returns 1,
      .committed .flusher .returns] (by with_unfolding_all decide)
  exact ⟨state, ⟨reached, written⟩, noRecordLost_of_sound reached⟩

/-- A row that arrives while the insert of an earlier one is awaited is cleared
with it: the periodic flush reads row 1, row 2 is appended, the execute
returns and both leave the buffer. -/
theorem noRecordLost_fails :
    ∃ state, Reachable (system oneRow 0) state ∧ ¬ NoRecordLost state :=
  ReachedBy.exists_of_run _ _ _
    [.receive 1 {} 0, .timer 1, .receive 2 {} 1, .executed .flusher .returns 1]
    (by with_unfolding_all decide)

end HftEngine.Storage
