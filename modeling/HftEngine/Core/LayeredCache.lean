import HftEngine.Lib.Tasks
import HftEngine.Lib.Transition
import Mathlib.Order.MinMax
import Mathlib.Order.Nat
import Mathlib.Tactic.Common

/-!
# The layered cache

Any number of tasks call `get`, `set` and `delete` of a `LayeredCacheManager`
with one L1 in memory and an L2 in Redis.  A task suspends at a call of Redis:
the command is executed in one step, and the task goes on in another.  A value
is kept with the task that has set it, and the deletions are numbered in the
order in which they begin.
-/

namespace HftEngine.LayeredCache

open Transition

/-- `json`, `pickle`, or any other text, which stands for `str` and `decode`. -/
inductive Method where
  | json
  | pickle
  | other
  deriving DecidableEq

inductive Task (Value Bytes : Type) where
  | getting (key : String) (deserialize : Method) (since : ℕ)
  | received (key : String) (deserialize : Method) (since : ℕ)
      (reply : Option (Bytes × ℕ))
  | got (key : String) (result : Option (Value × ℕ)) (since : ℕ)
  | setting (key : String) (serialized : Bytes)
  | stored
  | set (successful : Bool) (deletes : ℕ)
  | deleting (key : String) (number : ℕ)
  | executed (key : String) (number : ℕ) (present : Bool)
  | deleted (from_l2 : Bool)

structure Stats where
  l1_hits : ℕ := 0
  l1_misses : ℕ := 0
  l2_hits : ℕ := 0
  l2_misses : ℕ := 0
  l2_sets : ℕ := 0
  l2_deletes : ℕ := 0

/-- The stores and the tasks, with the number of deletions that have begun and,
for every key, of the newest one that has popped it from L1, has been executed
in L2 and has completed. -/
structure State (Value Bytes : Type) where
  l1 : String → Option (Value × ℕ) := fun _ => none
  l2 : String → Option (Bytes × ℕ) := fun _ => none
  stats : Stats := {}
  tasks : ℕ → Option (Task Value Bytes) := fun _ => none
  deletes : ℕ := 0
  popped : String → ℕ := fun _ => 0
  executed : String → ℕ := fun _ => 0
  completed : String → ℕ := fun _ => 0

/-- A command that fails is not executed; an error after that is a reply that is
lost.  Entries of either store expire at any time. -/
inductive Label (Value : Type) where
  | get (id : ℕ) (key : String) (deserialize : Method)
  | redis_get (id : ℕ)
  | get_failed (id : ℕ)
  | get_resume (id : ℕ)
  | set (id : ℕ) (key : String) (value : Value) (serialize : Method)
  | redis_setex (id : ℕ)
  | set_failed (id : ℕ)
  | set_resume (id : ℕ) (ok : Bool)
  | delete (id : ℕ) (key : String)
  | redis_delete (id : ℕ)
  | delete_failed (id : ℕ)
  | delete_resume (id : ℕ) (ok : Bool)
  | expire_l1 (key : String)
  | expire_l2 (key : String)

/-- What a manager is used with: whether it has a connection, and how values are
written and read. -/
structure Setting (Value Bytes : Type) where
  redis : Bool
  serialize : Method → Value → Option Bytes
  deserialize : Method → Bytes → Option Value

variable {Value Bytes : Type}

namespace State

def setTask (id : ℕ) (task : Task Value Bytes) (state : State Value Bytes) :
    State Value Bytes :=
  { state with tasks := Function.update state.tasks id (some task) }

def put_l1 (key : String) (entry : Option (Value × ℕ)) (state : State Value Bytes) :
    State Value Bytes :=
  { state with l1 := Function.update state.l1 key entry }

def put_l2 (key : String) (entry : Option (Bytes × ℕ)) (state : State Value Bytes) :
    State Value Bytes :=
  { state with l2 := Function.update state.l2 key entry }

def count (change : Stats → Stats) (state : State Value Bytes) : State Value Bytes :=
  { state with stats := change state.stats }

/-! ## get -/

def get (setting : Setting Value Bytes) (id : ℕ) (key : String) (deserialize : Method)
    (state : State Value Bytes) : State Value Bytes :=
  match state.l1 key with
  | some entry =>
      (state.count (fun stats => { stats with l1_hits := stats.l1_hits + 1 })).setTask id
        (.got key (some entry) (state.completed key))
  | none =>
      (state.count (fun stats =>
        { stats with l1_misses := stats.l1_misses + 1 })).setTask
        id (if setting.redis then .getting key deserialize (state.completed key)
          else .got key none (state.completed key))

/-- The rest of `get` after the reply of Redis. -/
def get_resume (setting : Setting Value Bytes) (id : ℕ) (key : String)
    (deserialize : Method) (since : ℕ) (reply : Option (Bytes × ℕ))
    (state : State Value Bytes) : State Value Bytes :=
  match reply with
  | none =>
      (state.count (fun stats =>
        { stats with l2_misses := stats.l2_misses + 1 })).setTask
        id (.got key none since)
  | some (bytes, setter) =>
      let counted :=
        state.count (fun stats => { stats with l2_hits := stats.l2_hits + 1 })
      match setting.deserialize deserialize bytes with
      | none => counted.setTask id (.got key none since)
      | some value =>
          (counted.put_l1 key (some (value, setter))).setTask id
            (.got key (some (value, setter)) since)

/-! ## set -/

def set (setting : Setting Value Bytes) (id : ℕ) (key : String) (value : Value)
    (serialize : Method) (state : State Value Bytes) : State Value Bytes :=
  (state.put_l1 key (some (value, id))).setTask id
    (match setting.redis, setting.serialize serialize value with
    | true, some serialized => .setting key serialized
    | _, _ => .set false state.deletes)

def set_resume (id : ℕ) (ok : Bool) (state : State Value Bytes) : State Value Bytes :=
  (state.count (fun stats =>
    { stats with l2_sets := stats.l2_sets + ok.toNat })).setTask id
      (.set ok state.deletes)

/-! ## delete -/

/-- The deletion of a key from L1. -/
def pop (key : String) (state : State Value Bytes) : State Value Bytes :=
  { state.put_l1 key none with
    deletes := state.deletes + 1
    popped := Function.update state.popped key (state.deletes + 1) }

def complete (key : String) (number : ℕ) (state : State Value Bytes) :
    State Value Bytes :=
  { state with
    completed := Function.update state.completed key
      (max (state.completed key) number) }

def delete (setting : Setting Value Bytes) (id : ℕ) (key : String)
    (state : State Value Bytes) : State Value Bytes :=
  let number := state.deletes + 1
  if setting.redis then (state.pop key).setTask id (.deleting key number)
  else ((state.pop key).complete key number).setTask id (.deleted false)

/-- The deletion of a key from L2. -/
def erase (key : String) (number : ℕ) (state : State Value Bytes) :
    State Value Bytes :=
  { state.put_l2 key none with
    executed := Function.update state.executed key (max (state.executed key) number) }

def redis_delete (id : ℕ) (key : String) (number : ℕ) (state : State Value Bytes) :
    State Value Bytes :=
  (state.erase key number).setTask id (.executed key number (state.l2 key).isSome)

def delete_resume (id : ℕ) (key : String) (number : ℕ) (present ok : Bool)
    (state : State Value Bytes) : State Value Bytes :=
  ((state.count (fun stats =>
    { stats with l2_deletes := stats.l2_deletes + ok.toNat })).complete key
      number).setTask id (.deleted (ok && present))

end State

def step (setting : Setting Value Bytes) (state : State Value Bytes) :
    Label Value → Option (State Value Bytes)
  | .get id key deserialize =>
      match state.tasks id with
      | none => some (state.get setting id key deserialize)
      | some _ => none
  | .redis_get id =>
      match state.tasks id with
      | some (.getting key deserialize since) =>
          some (state.setTask id (.received key deserialize since (state.l2 key)))
      | _ => none
  | .get_failed id =>
      match state.tasks id with
      | some (.getting key _ since) => some (state.setTask id (.got key none since))
      | some (.received key _ since _) => some (state.setTask id (.got key none since))
      | _ => none
  | .get_resume id =>
      match state.tasks id with
      | some (.received key deserialize since reply) =>
          some (state.get_resume setting id key deserialize since reply)
      | _ => none
  | .set id key value serialize =>
      match state.tasks id with
      | none => some (state.set setting id key value serialize)
      | some _ => none
  | .redis_setex id =>
      match state.tasks id with
      | some (.setting key serialized) =>
          some ((state.put_l2 key (some (serialized, id))).setTask id .stored)
      | _ => none
  | .set_failed id =>
      match state.tasks id with
      | some (.setting _ _) => some (state.set_resume id false)
      | _ => none
  | .set_resume id ok =>
      match state.tasks id with
      | some .stored => some (state.set_resume id ok)
      | _ => none
  | .delete id key =>
      match state.tasks id with
      | none => some (state.delete setting id key)
      | some _ => none
  | .redis_delete id =>
      match state.tasks id with
      | some (.deleting key number) => some (state.redis_delete id key number)
      | _ => none
  | .delete_failed id =>
      match state.tasks id with
      | some (.deleting key number) =>
          some (state.delete_resume id key number false false)
      | _ => none
  | .delete_resume id ok =>
      match state.tasks id with
      | some (.executed key number present) =>
          some (state.delete_resume id key number present ok)
      | _ => none
  | .expire_l1 key => some (state.put_l1 key none)
  | .expire_l2 key => some (state.put_l2 key none)

def system (setting : Setting Value Bytes) :
    System (State Value Bytes) (Label Value) where
  start := {}
  step := step setting

/-! ## What a get may return -/

/-- A value is recent for a deletion unless its `set` returned before the deletion
began. -/
def Recent (state : State Value Bytes) (setter number : ℕ) : Prop :=
  ∀ successful deletes, state.tasks setter = some (.set successful deletes) →
    number ≤ deletes

/-- No `get` returns a value that was set before the newest deletion of the key
that had completed when it started. -/
def Coherent (state : State Value Bytes) : Prop :=
  ∀ id key value setter since,
    state.tasks id = some (.got key (some (value, setter)) since) →
    Recent state setter since

/-- A `get` takes nothing to L1 that was set before the newest deletion there, and
Redis executes every deletion. -/
def Timely (state : State Value Bytes) : Label Value → Prop
  | .get_resume id =>
      ∀ key deserialize since bytes setter,
        state.tasks id = some (.received key deserialize since (some (bytes, setter))) →
        Recent state setter (state.popped key)
  | .delete_failed _ => False
  | _ => True

/-! ## The invariant -/

/-- What no step takes back. -/
structure Extends (before after : State Value Bytes) : Prop where
  deletes : before.deletes ≤ after.deletes
  popped : ∀ key, before.popped key ≤ after.popped key
  executed : ∀ key, before.executed key ≤ after.executed key
  recent : ∀ setter number, number ≤ before.deletes →
    Recent before setter number → Recent after setter number

/-- What is known of a task between its steps. -/
def Task.Valid (state : State Value Bytes) : Task Value Bytes → Prop
  | .getting key _ since => since ≤ state.executed key
  | .received _ _ since (some (_, setter)) =>
      since ≤ state.deletes ∧ Recent state setter since
  | .got _ (some (_, setter)) since => since ≤ state.deletes ∧ Recent state setter since
  | .deleting key number => number ≤ state.popped key
  | .executed key number _ => number ≤ state.popped key ∧ number ≤ state.executed key
  | _ => True

structure Valid (setting : Setting Value Bytes) (state : State Value Bytes) : Prop where
  popped : ∀ key, state.popped key ≤ state.deletes
  executed : ∀ key, state.executed key ≤ state.deletes
  completed_popped : ∀ key, state.completed key ≤ state.popped key
  completed_executed : setting.redis = true →
    ∀ key, state.completed key ≤ state.executed key
  l1 : ∀ key value setter, state.l1 key = some (value, setter) →
    Recent state setter (state.popped key)
  l2 : ∀ key bytes setter, state.l2 key = some (bytes, setter) →
    Recent state setter (state.executed key)
  tasks : Tasks.All (fun _ task => task.Valid state) state.tasks

namespace Extends

theorem of_same_tasks {before after : State Value Bytes}
    (tasks : after.tasks = before.tasks) (deletes : before.deletes ≤ after.deletes)
    (popped : ∀ key, before.popped key ≤ after.popped key)
    (executed : ∀ key, before.executed key ≤ after.executed key) :
    Extends before after where
  deletes := deletes
  popped := popped
  executed := executed
  recent := by
    intro setter number _ recent
    rwa [Recent, tasks]

/-- A task that has set its value has seen every deletion begin. -/
theorem setTask {id : ℕ} {task : Task Value Bytes} {state : State Value Bytes}
    (seen : ∀ successful deletes, task = .set successful deletes →
      state.deletes ≤ deletes) : Extends state (state.setTask id task) where
  deletes := le_rfl
  popped := fun _ => le_rfl
  executed := fun _ => le_rfl
  recent := by
    intro setter number begun recent successful deletes found
    by_cases same : setter = id
    · subst same
      simp only [State.setTask, Function.update_self, Option.some.injEq] at found
      exact begun.trans (seen successful deletes found)
    · simp only [State.setTask, Function.update_of_ne same] at found
      exact recent successful deletes found

end Extends

theorem Task.Valid.extend {before after : State Value Bytes} {task : Task Value Bytes}
    (valid : task.Valid before) (grown : Extends before after) : task.Valid after := by
  cases task with
  | getting key deserialize since => exact le_trans valid (grown.executed key)
  | received key deserialize since reply =>
      cases reply with
      | none => trivial
      | some entry =>
          exact ⟨valid.1.trans grown.deletes, grown.recent _ _ valid.1 valid.2⟩
  | got key result since =>
      cases result with
      | none => trivial
      | some entry =>
          exact ⟨valid.1.trans grown.deletes, grown.recent _ _ valid.1 valid.2⟩
  | deleting key number => exact le_trans valid (grown.popped key)
  | executed key number present =>
      exact ⟨valid.1.trans (grown.popped key), valid.2.trans (grown.executed key)⟩
  | setting | stored | set | deleted => trivial

section Steps

variable {setting : Setting Value Bytes} {state : State Value Bytes} {id : ℕ}
  {key : String}

theorem valid_start : Valid setting ({} : State Value Bytes) where
  popped := fun _ => le_rfl
  executed := fun _ => le_rfl
  completed_popped := fun _ => le_rfl
  completed_executed := fun _ _ => le_rfl
  l1 := by
    intro key value setter impossible
    cases impossible
  l2 := by
    intro key bytes setter impossible
    cases impossible
  tasks := .start _

theorem Valid.setTask (valid : Valid setting state) {task : Task Value Bytes}
    (own : task.Valid state)
    (seen : ∀ successful deletes, task = .set successful deletes →
      state.deletes ≤ deletes) : Valid setting (state.setTask id task) := by
  have grown : Extends state (state.setTask id task) := .setTask seen
  exact
    { popped := valid.popped
      executed := valid.executed
      completed_popped := valid.completed_popped
      completed_executed := valid.completed_executed
      l1 := fun key value setter found =>
        grown.recent _ _ (valid.popped key) (valid.l1 key value setter found)
      l2 := fun key bytes setter found =>
        grown.recent _ _ (valid.executed key) (valid.l2 key bytes setter found)
      tasks := Tasks.All.update
        (fun id task found => (valid.tasks id task found).extend grown)
        (own.extend grown) }

theorem Valid.count (valid : Valid setting state) (change : Stats → Stats) :
    Valid setting (state.count change) :=
  ⟨valid.popped, valid.executed, valid.completed_popped, valid.completed_executed,
    valid.l1, valid.l2, valid.tasks⟩

theorem Valid.put_l1 (valid : Valid setting state) {entry : Option (Value × ℕ)}
    (recent : ∀ value setter, entry = some (value, setter) →
      Recent state setter (state.popped key)) :
    Valid setting (state.put_l1 key entry) where
  popped := valid.popped
  executed := valid.executed
  completed_popped := valid.completed_popped
  completed_executed := valid.completed_executed
  l1 := by
    intro other value setter found
    by_cases same : other = key
    · subst same
      simp only [State.put_l1, Function.update_self] at found
      exact recent value setter found
    · simp only [State.put_l1, Function.update_of_ne same] at found
      exact valid.l1 other value setter found
  l2 := valid.l2
  tasks := valid.tasks

theorem Valid.put_l2 (valid : Valid setting state) {entry : Option (Bytes × ℕ)}
    (recent : ∀ bytes setter, entry = some (bytes, setter) →
      Recent state setter (state.executed key)) :
    Valid setting (state.put_l2 key entry) where
  popped := valid.popped
  executed := valid.executed
  completed_popped := valid.completed_popped
  completed_executed := valid.completed_executed
  l1 := valid.l1
  l2 := by
    intro other bytes setter found
    by_cases same : other = key
    · subst same
      simp only [State.put_l2, Function.update_self] at found
      exact recent bytes setter found
    · simp only [State.put_l2, Function.update_of_ne same] at found
      exact valid.l2 other bytes setter found
  tasks := valid.tasks

theorem Recent.mono {setter number other : ℕ} (recent : Recent state setter number)
    (earlier : other ≤ number) : Recent state setter other := by
  intro successful deletes found
  exact earlier.trans (recent successful deletes found)

/-- A value that is being set is recent for every deletion. -/
theorem recent_of_not_set {setter : ℕ}
    (not_set : ∀ successful deletes, state.tasks setter ≠ some
    (.set successful deletes))
    (number : ℕ) : Recent state setter number := by
  intro successful deletes found
  exact absurd found (not_set successful deletes)

theorem Valid.get (valid : Valid setting state) (id : ℕ) (key : String)
    (deserialize : Method) : Valid setting (state.get setting id key deserialize) := by
  unfold State.get
  split
  case h_1 entry found =>
      apply (valid.count _).setTask
      · have current := valid.completed_popped key
        exact ⟨current.trans (valid.popped key), (valid.l1 key _ _ found).mono current⟩
      · simp
  case h_2 =>
      split
      case isTrue connected =>
          exact (valid.count _).setTask (valid.completed_executed connected key)
            (by simp)
      case isFalse => exact (valid.count _).setTask trivial (by simp)

theorem Valid.redis_get (valid : Valid setting state) {deserialize : Method} {since : ℕ}
    (found : state.tasks id = some (.getting key deserialize since)) :
    Valid setting
      (state.setTask id (.received key deserialize since (state.l2 key))) := by
  have executed : since ≤ state.executed key := valid.tasks id _ found
  apply valid.setTask _ (by simp)
  cases stored : state.l2 key with
  | none => trivial
  | some entry =>
      exact ⟨executed.trans (valid.executed key),
        (valid.l2 key _ _ stored).mono executed⟩

theorem Valid.get_resume (valid : Valid setting state) {deserialize : Method}
    {since : ℕ} {reply : Option (Bytes × ℕ)}
    (found : state.tasks id = some (.received key deserialize since reply))
    (timely : ∀ bytes setter, reply = some (bytes, setter) →
      Recent state setter (state.popped key)) :
    Valid setting (state.get_resume setting id key deserialize since reply) := by
  have own := valid.tasks id _ found
  unfold State.get_resume
  split
  case h_1 => exact (valid.count _).setTask trivial (by simp)
  case h_2 bytes setter =>
      have counted :=
        valid.count (fun stats => { stats with l2_hits := stats.l2_hits + 1 })
      split
      case h_1 => exact counted.setTask trivial (by simp)
      case h_2 value _ =>
          have populated : Valid setting (State.put_l1 key (some (value, setter))
              (state.count (fun stats =>
                { stats with l2_hits := stats.l2_hits + 1 }))) := by
            apply counted.put_l1
            intro _ other same
            obtain ⟨-, rfl⟩ := Prod.mk.inj (Option.some.inj same)
            exact timely bytes setter rfl
          exact populated.setTask own (by simp)

theorem Valid.set (valid : Valid setting state) (fresh : state.tasks id = none)
    (key : String) (value : Value) (serialize : Method) :
    Valid setting (state.set setting id key value serialize) := by
  have begun : Valid setting (state.put_l1 key (some (value, id))) := by
    apply valid.put_l1
    intro _ setter same
    obtain ⟨-, rfl⟩ := Prod.mk.inj (Option.some.inj same)
    apply recent_of_not_set
    simp [fresh]
  unfold State.set
  split
  case h_1 => exact begun.setTask trivial (by simp)
  case h_2 =>
      apply begun.setTask
      · trivial
      · intro successful deletes same
        exact (Task.set.inj same).2.le

theorem Valid.redis_setex (valid : Valid setting state) {serialized : Bytes}
    (found : state.tasks id = some (.setting key serialized)) :
    Valid setting ((state.put_l2 key (some (serialized, id))).setTask id .stored) := by
  have written : Valid setting (state.put_l2 key (some (serialized, id))) := by
    apply valid.put_l2
    intro _ setter same
    obtain ⟨-, rfl⟩ := Prod.mk.inj (Option.some.inj same)
    apply recent_of_not_set
    simp [found]
  exact written.setTask trivial (by simp)

theorem Valid.set_resume (valid : Valid setting state) (id : ℕ) (ok : Bool) :
    Valid setting (state.set_resume id ok) := by
  apply (valid.count _).setTask
  · trivial
  · intro successful deletes same
    exact (Task.set.inj same).2.le

theorem Valid.pop (valid : Valid setting state) (key : String) :
    Valid setting (state.pop key) := by
  have raised : ∀ other,
      state.popped other ≤ Function.update state.popped key (state.deletes + 1)
        other := by
    intro other
    by_cases same : other = key
    · subst same
      rw [Function.update_self]
      exact (valid.popped other).trans (Nat.le_succ _)
    · rw [Function.update_of_ne same]
  have grown : Extends state (state.pop key) :=
    .of_same_tasks rfl (Nat.le_succ _) raised (fun _ => le_rfl)
  constructor
  case popped =>
    intro other
    by_cases same : other = key
    · subst same
      simp only [State.pop, Function.update_self]
      exact le_rfl
    · simp only [State.pop, Function.update_of_ne same]
      exact (valid.popped other).trans (Nat.le_succ _)
  case executed => exact fun other => (valid.executed other).trans (Nat.le_succ _)
  case completed_popped =>
    exact fun other => (valid.completed_popped other).trans (raised other)
  case completed_executed => exact valid.completed_executed
  case l1 =>
    intro other value setter found
    by_cases same : other = key
    · subst same
      simp [State.pop, State.put_l1] at found
    · simp only [State.pop, State.put_l1, Function.update_of_ne same] at found ⊢
      exact valid.l1 other value setter found
  case l2 =>
    intro other bytes setter found
    exact valid.l2 other bytes setter found
  case tasks =>
    intro other task found
    exact (valid.tasks other task found).extend grown

theorem Valid.complete (valid : Valid setting state) {number : ℕ}
    (popped : number ≤ state.popped key)
    (executed : setting.redis = true → number ≤ state.executed key) :
    Valid setting (state.complete key number) := by
  refine ⟨valid.popped, valid.executed, ?_, ?_, valid.l1, valid.l2, valid.tasks⟩
  · apply Function.forall_update_iff _ (fun other done => done ≤ state.popped other)
      |>.mpr
    exact ⟨max_le (valid.completed_popped key) popped,
      fun other _ => valid.completed_popped other⟩
  · intro connected
    apply Function.forall_update_iff _ (fun other done => done ≤ state.executed other)
      |>.mpr
    exact ⟨max_le (valid.completed_executed connected key) (executed connected),
      fun other _ => valid.completed_executed connected other⟩

theorem Valid.delete (valid : Valid setting state) (id : ℕ) (key : String) :
    Valid setting (state.delete setting id key) := by
  have popped := valid.pop key
  have number : state.deletes + 1 ≤ (state.pop key).popped key := by
    simp [State.pop]
  unfold State.delete
  split
  case isTrue => exact popped.setTask number (by simp)
  case isFalse disconnected =>
      have completed : Valid setting
          ((state.pop key).complete key (state.deletes + 1)) := by
        apply popped.complete number
        intro connected
        exact absurd connected disconnected
      exact completed.setTask trivial (by simp)

theorem Valid.erase (valid : Valid setting state) {number : ℕ}
    (begun : number ≤ state.deletes) : Valid setting (state.erase key number) := by
  have raised : ∀ other, state.executed other ≤
      Function.update state.executed key (max (state.executed key) number) other := by
    apply Function.forall_update_iff _ (fun other done => state.executed other ≤ done)
      |>.mpr
    exact ⟨le_max_left _ _, fun _ _ => le_rfl⟩
  have grown : Extends state (state.erase key number) :=
    .of_same_tasks rfl le_rfl (fun _ => le_rfl) raised
  constructor
  case popped => exact valid.popped
  case executed =>
    apply Function.forall_update_iff _ (fun _ done => done ≤ state.deletes) |>.mpr
    exact ⟨max_le (valid.executed key) begun, fun other _ => valid.executed other⟩
  case completed_popped => exact valid.completed_popped
  case completed_executed =>
    exact fun connected other =>
      (valid.completed_executed connected other).trans (raised other)
  case l1 => exact valid.l1
  case l2 =>
    intro other bytes setter found
    by_cases same : other = key
    · subst same
      simp [State.erase, State.put_l2] at found
    · simp only [State.erase, State.put_l2, Function.update_of_ne same] at found ⊢
      exact valid.l2 other bytes setter found
  case tasks =>
    intro other task found
    exact (valid.tasks other task found).extend grown

theorem Valid.redis_delete (valid : Valid setting state) {number : ℕ}
    (found : state.tasks id = some (.deleting key number)) :
    Valid setting (state.redis_delete id key number) := by
  have popped : number ≤ state.popped key := valid.tasks id _ found
  have executed : number ≤ (state.erase key number).executed key := by
    simp [State.erase]
  exact (valid.erase (popped.trans (valid.popped key))).setTask ⟨popped, executed⟩
    (by simp)

theorem Valid.delete_resume (valid : Valid setting state) {number : ℕ} {present : Bool}
    (found : state.tasks id = some (.executed key number present)) (ok : Bool) :
    Valid setting (state.delete_resume id key number present ok) := by
  have own : number ≤ state.popped key ∧ number ≤ state.executed key :=
    valid.tasks id _ found
  exact ((valid.count _).complete own.1 (fun _ => own.2)).setTask trivial (by simp)

theorem Valid.step (valid : Valid setting state) {label : Label Value}
    {after : State Value Bytes} (timely : Timely state label)
    (taken : step setting state label = some after) : Valid setting after := by
  cases label with
  | get id key deserialize =>
      simp only [LayeredCache.step] at taken
      split at taken
      case h_1 => exact Option.some.inj taken ▸ valid.get id key deserialize
      case h_2 => contradiction
  | redis_get id =>
      simp only [LayeredCache.step] at taken
      split at taken
      case h_1 found => exact Option.some.inj taken ▸ valid.redis_get found
      case h_2 => contradiction
  | get_failed id =>
      simp only [LayeredCache.step] at taken
      split at taken
      case h_1 => exact Option.some.inj taken ▸ valid.setTask trivial (by simp)
      case h_2 => exact Option.some.inj taken ▸ valid.setTask trivial (by simp)
      case h_3 => contradiction
  | get_resume id =>
      simp only [LayeredCache.step] at taken
      split at taken
      case h_1 key deserialize since reply found =>
          obtain rfl := Option.some.inj taken
          apply valid.get_resume found
          intro bytes setter same
          exact timely key deserialize since bytes setter (same ▸ found)
      case h_2 => contradiction
  | set id key value serialize =>
      simp only [LayeredCache.step] at taken
      split at taken
      case h_1 fresh =>
          exact Option.some.inj taken ▸ valid.set fresh key value serialize
      case h_2 => contradiction
  | redis_setex id =>
      simp only [LayeredCache.step] at taken
      split at taken
      case h_1 found => exact Option.some.inj taken ▸ valid.redis_setex found
      case h_2 => contradiction
  | set_failed id =>
      simp only [LayeredCache.step] at taken
      split at taken
      case h_1 => exact Option.some.inj taken ▸ valid.set_resume id false
      case h_2 => contradiction
  | set_resume id ok =>
      simp only [LayeredCache.step] at taken
      split at taken
      case h_1 => exact Option.some.inj taken ▸ valid.set_resume id ok
      case h_2 => contradiction
  | delete id key =>
      simp only [LayeredCache.step] at taken
      split at taken
      case h_1 => exact Option.some.inj taken ▸ valid.delete id key
      case h_2 => contradiction
  | redis_delete id =>
      simp only [LayeredCache.step] at taken
      split at taken
      case h_1 found => exact Option.some.inj taken ▸ valid.redis_delete found
      case h_2 => contradiction
  | delete_failed id => exact timely.elim
  | delete_resume id ok =>
      simp only [LayeredCache.step] at taken
      split at taken
      case h_1 found => exact Option.some.inj taken ▸ valid.delete_resume found ok
      case h_2 => contradiction
  | expire_l1 key =>
      obtain rfl := Option.some.inj taken
      exact valid.put_l1 (by simp)
  | expire_l2 key =>
      obtain rfl := Option.some.inj taken
      exact valid.put_l2 (by simp)

end Steps

/-! ## Coherence -/

/-- In every run with timely steps no `get` returns what was set before a deletion
that had completed when it started. -/
theorem get_recent_after_delete {setting : Setting Value Bytes}
    {state : State Value Bytes}
    (reached : ReachedBy (system setting) Timely state) : Coherent state := by
  have valid : Valid setting state := by
    apply reached.invariant valid_start
    intro before label after valid timely taken
    exact valid.step timely taken
  intro id key value setter since got
  exact (valid.tasks id _ got).2

/-- A manager with a connection whose values are texts of themselves. -/
def plain : Setting ℕ ℕ where
  redis := true
  serialize := fun _ value => some value
  deserialize := fun _ bytes => some bytes

def after (labels : List (Label ℕ)) : State ℕ ℕ :=
  (labels.foldlM (step plain) {}).getD {}

def set_and_read : List (Label ℕ) :=
  [.set 0 "pcr:13" 7 .json, .redis_setex 0, .set_resume 0 true, .expire_l1 "pcr:13",
    .get 1 "pcr:13" .json, .redis_get 1]

/-- The value is deleted, and read again. -/
def delete_and_get : List (Label ℕ) :=
  [.delete 2 "pcr:13", .redis_delete 2, .delete_resume 2 true, .get 3 "pcr:13" .json]

theorem coherent_set_and_read :
    Coherent (after (set_and_read ++ .get_resume 1 :: delete_and_get)) := by
  have read : ReachedBy (system plain) Timely (after set_and_read) :=
    ReachedBy.follow (by simp [Timely, set_and_read]) .start
      (rfl : set_and_read.foldlM (step plain) {} = some _)
  have recent : Timely (after set_and_read) (.get_resume 1) := by
    intro key deserialize since bytes setter found
    obtain ⟨rfl, -, -, same⟩ := Task.received.inj (Option.some.inj found)
    intro successful deletes _
    exact Nat.zero_le _
  have populated : ReachedBy (system plain) Timely
      (after (set_and_read ++ [.get_resume 1])) := .step read recent rfl
  have deleted : ReachedBy (system plain) Timely
      (after (set_and_read ++ .get_resume 1 :: delete_and_get)) :=
    ReachedBy.follow (by simp [Timely, delete_and_get]) populated
      (rfl : delete_and_get.foldlM (step plain)
        (after (set_and_read ++ [.get_resume 1])) = some _)
  exact get_recent_after_delete deleted

/-- The read takes to L1 what it has read before the deletion. -/
def populated_late : List (Label ℕ) :=
  set_and_read ++ [.delete 2 "pcr:13", .redis_delete 2, .delete_resume 2 true,
    .get_resume 1, .get 3 "pcr:13" .json]

theorem populated_late_not_coherent :
    Reachable (system plain) (after populated_late) ∧
      ¬Coherent (after populated_late) := by
  constructor
  · exact ReachedBy.follow (fun _ _ _ => trivial) .start
      (rfl : populated_late.foldlM (step plain) {} = some _)
  · intro coherent
    exact absurd (coherent 3 "pcr:13" 7 0 1 rfl true 0 rfl) (by decide)

end HftEngine.LayeredCache
