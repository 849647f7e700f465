import HftEngine.Lib.Tasks
import HftEngine.Lib.Transition
import Mathlib.Data.List.AList
import Mathlib.Order.Nat

/-!
# The query cache

Any number of tasks call `get_or_fetch`, `set`, `delete`, `clear` and
`invalidate_pattern`.  A task suspends where it waits for the lock and where it
awaits `fetch_func`, and may be cancelled there.  The value of an entry is kept
with the number of the invalidations that had completed when its fetch began or
when it was set.
-/

namespace HftEngine.QueryCache

open Transition

structure Entry (Value : Type) where
  value : Value
  written : ℕ

inductive Operation (Value : Type) where
  | get_or_fetch (key : String)
  | set (key : String) (value : Value)
  | delete (key : String)
  | clear
  | invalidate_pattern (pattern : String)

/-- How a task ends.  A value that is returned comes with the newest
invalidation of its key that had completed then. -/
inductive Outcome (Value : Type) where
  | returned (key : String) (entry : Entry Value) (since : ℕ)
  | set
  | deleted (present : Bool)
  | cleared
  | invalidated (keys : ℕ)
  | failed

inductive Task (Value : Type) where
  | waiting (operation : Operation Value)
  | fetching (key : String) (began : ℕ)
  | finished (outcome : Outcome Value)

abbrev Entries (Value : Type) := AList (fun _ : String => Entry Value)

/-- The attributes of the cache and its tasks; `clock` counts the invalidations
that have completed, and `invalidated` has the newest one of each key. -/
structure State (Value : Type) where
  cache : Entries Value := ∅
  lock : Option ℕ := none
  hits : ℕ := 0
  misses : ℕ := 0
  total_requests : ℕ := 0
  tasks : ℕ → Option (Task Value) := fun _ => none
  clock : ℕ := 0
  invalidated : String → ℕ := fun _ => 0

/-- An entry is dropped when its time has run out, or to make room. -/
inductive Label (Value : Type) where
  | call (id : ℕ) (operation : Operation Value)
  | acquire (id : ℕ)
  | fetched (id : ℕ) (value : Value)
  | fetch_failed (id : ℕ)
  | cancel (id : ℕ)
  | drop (key : String)

variable {Value : Type}

namespace State

def setTask (id : ℕ) (task : Task Value) (state : State Value) : State Value :=
  { state with tasks := Function.update state.tasks id (some task) }

def hit (id : ℕ) (key : String) (entry : Entry Value) (state : State Value) :
    State Value :=
  { state with hits := state.hits + 1 }.setTask id
    (.finished (.returned key entry (state.invalidated key)))

/-- `get_or_fetch` up to the lock. -/
def get_or_fetch (id : ℕ) (key : String) (state : State Value) : State Value :=
  let counted := { state with total_requests := state.total_requests + 1 }
  match state.cache.lookup key with
  | some entry => counted.hit id key entry
  | none => counted.setTask id (.waiting (.get_or_fetch key))

/-- `get_or_fetch` with the lock, up to the end of `fetch_func`. -/
def get_or_fetch_locked (id : ℕ) (key : String) (state : State Value) : State Value :=
  match state.cache.lookup key with
  | some entry => state.hit id key entry
  | none =>
      { state with misses := state.misses + 1, lock := some id }.setTask id
        (.fetching key state.clock)

def store (key : String) (entry : Entry Value) (state : State Value) : State Value :=
  { state with cache := state.cache.insert key entry }

/-- The end of `get_or_fetch` after the fetch. -/
def store_fetched (id : ℕ) (key : String) (entry : Entry Value) (state : State Value) :
    State Value :=
  { state.store key entry with lock := none }.setTask id
    (.finished (.returned key entry (state.invalidated key)))

def set (key : String) (value : Value) (state : State Value) : State Value :=
  state.store key { value, written := state.clock }

/-- The cache after an invalidation, which completes. -/
def invalidate (cache : Entries Value) (covers : String → Bool) (state : State Value) :
    State Value :=
  { state with
    cache
    clock := state.clock + 1
    invalidated := fun key =>
      if covers key then state.clock + 1 else state.invalidated key }

def delete (id : ℕ) (key : String) (state : State Value) : State Value :=
  (state.invalidate (state.cache.erase key) (· = key)).setTask id
    (.finished (.deleted (state.cache.lookup key).isSome))

def clear (id : ℕ) (state : State Value) : State Value :=
  (state.invalidate ∅ (fun _ => true)).setTask id (.finished .cleared)

def delete_keys (keys : List String) (cache : Entries Value) : Entries Value :=
  keys.foldl (fun cache key => cache.erase key) cache

def invalidate_pattern (fnmatch : String → String → Bool) (id : ℕ) (pattern : String)
    (state : State Value) : State Value :=
  let keys_to_delete := state.cache.keys.filter (fnmatch · pattern)
  (state.invalidate (delete_keys keys_to_delete state.cache)
    (fnmatch · pattern)).setTask
    id (.finished (.invalidated keys_to_delete.length))

end State

/-- What a task does between taking the lock and its next suspension or its end. -/
def perform (fnmatch : String → String → Bool) (id : ℕ) (state : State Value) :
    Operation Value → State Value
  | .get_or_fetch key => state.get_or_fetch_locked id key
  | .set key value => (state.set key value).setTask id (.finished .set)
  | .delete key => state.delete id key
  | .clear => state.clear id
  | .invalidate_pattern pattern => state.invalidate_pattern fnmatch id pattern

def step (fnmatch : String → String → Bool) (state : State Value) :
    Label Value → Option (State Value)
  | .call id operation =>
      match state.tasks id, operation with
      | none, .get_or_fetch key => some (state.get_or_fetch id key)
      | none, operation => some (state.setTask id (.waiting operation))
      | some _, _ => none
  | .acquire id =>
      match state.lock, state.tasks id with
      | none, some (.waiting operation) => some (perform fnmatch id state operation)
      | _, _ => none
  | .fetched id value =>
      match state.tasks id with
      | some (.fetching key began) =>
          some (state.store_fetched id key { value, written := began })
      | _ => none
  | .fetch_failed id =>
      match state.tasks id with
      | some (.fetching _ _) =>
          some ({ state with lock := none }.setTask id (.finished .failed))
      | _ => none
  | .cancel id =>
      match state.tasks id with
      | some (.waiting _) => some (state.setTask id (.finished .failed))
      | _ => none
  | .drop key => some { state with cache := state.cache.erase key }

def system (fnmatch : String → String → Bool) : System (State Value) (Label Value) where
  start := {}
  step := step fnmatch

/-! ## What an invalidation leaves -/

theorem lookup_delete_keys (keys : List String) (cache : Entries Value) (key : String) :
    (State.delete_keys keys cache).lookup key =
      if key ∈ keys then none else cache.lookup key := by
  induction keys generalizing cache with
  | nil => simp [State.delete_keys]
  | cons head keys ih =>
      rw [State.delete_keys, List.foldl_cons, ← State.delete_keys, ih]
      by_cases same : key = head
      · subst same
        simp
      · simp [same]

/-- Nothing that is covered is left, and nothing is changed. -/
def Leaves (covers : String → Bool) (before after : Entries Value) : Prop :=
  ∀ key entry, after.lookup key = some entry →
    covers key = false ∧ before.lookup key = some entry

theorem leaves_erase (key : String) (cache : Entries Value) :
    Leaves (· = key) cache (cache.erase key) := by
  intro other entry found
  by_cases same : other = key
  · subst same
    simp at found
  · rw [AList.lookup_erase_ne same] at found
    exact ⟨decide_eq_false same, found⟩

theorem leaves_clear (cache : Entries Value) : Leaves (fun _ => true) cache ∅ := by
  intro key entry found
  simp at found

theorem leaves_delete_keys (covers : String → Bool) (cache : Entries Value) :
    Leaves covers cache (State.delete_keys (cache.keys.filter covers) cache) := by
  intro key entry found
  rw [lookup_delete_keys] at found
  split at found
  case isTrue => contradiction
  case isFalse kept =>
      have present : key ∈ cache.keys := by
        rw [← AList.mem_keys, ← AList.lookup_isSome, found, Option.isSome_some]
      refine ⟨?_, found⟩
      rw [List.mem_filter, not_and] at kept
      exact eq_false_of_ne_true (kept present)

/-! ## The invariant -/

/-- What is returned is not older than the invalidation it comes with. -/
def Outcome.Valid : Outcome Value → Prop
  | .returned _ entry since => since ≤ entry.written
  | _ => True

/-- A fetch holds the lock, and no invalidation has completed since it began. -/
def Task.Valid (lock : Option ℕ) (clock : ℕ) (id : ℕ) : Task Value → Prop
  | .waiting _ => True
  | .fetching _ began => lock = some id ∧ began = clock
  | .finished outcome => outcome.Valid

structure Valid (state : State Value) : Prop where
  cache : ∀ key entry, state.cache.lookup key = some entry →
    state.invalidated key ≤ entry.written
  clock : ∀ key, state.invalidated key ≤ state.clock
  tasks : Tasks.All (Task.Valid state.lock state.clock) state.tasks

section Steps

variable {state : State Value} {id : ℕ} {key : String}

theorem valid_start : Valid ({} : State Value) where
  cache := by
    intro key entry impossible
    simp at impossible
  clock := fun _ => le_rfl
  tasks := .start _

theorem Valid.setTask (valid : Valid state) {task : Task Value}
    (own : task.Valid state.lock state.clock id) : Valid (state.setTask id task) where
  cache := valid.cache
  clock := valid.clock
  tasks := valid.tasks.update own

theorem Valid.hit (valid : Valid state) {entry : Entry Value}
    (found : state.cache.lookup key = some entry) : Valid (state.hit id key entry) where
  cache := valid.cache
  clock := valid.clock
  tasks := valid.tasks.update (valid.cache key entry found)

theorem Valid.get_or_fetch (valid : Valid state) (id : ℕ) (key : String) :
    Valid (state.get_or_fetch id key) := by
  have counted : Valid { state with total_requests := state.total_requests + 1 } :=
    ⟨valid.cache, valid.clock, valid.tasks⟩
  unfold State.get_or_fetch
  split
  case h_1 entry found => exact counted.hit found
  case h_2 => exact counted.setTask trivial

/-- While the lock is free nothing is being fetched. -/
theorem Valid.tasks_of_free (valid : Valid state) (free : state.lock = none)
    (lock : Option ℕ) (clock : ℕ) : Tasks.All (Task.Valid lock clock) state.tasks := by
  intro id task found
  have own := valid.tasks id task found
  cases task with
  | waiting operation => trivial
  | fetching key began =>
      have held := own.1
      rw [free] at held
      contradiction
  | finished outcome => exact own

/-- While a task fetches, no other does. -/
theorem Valid.others (valid : Valid state) {began : ℕ}
    (fetching : state.tasks id = some (.fetching key began))
    {other : ℕ} {task : Task Value} (different : other ≠ id)
    (found : state.tasks other = some task) (lock : Option ℕ) :
    task.Valid lock state.clock other := by
  have own := valid.tasks other task found
  cases task with
  | waiting operation => trivial
  | fetching key began =>
      have held := (valid.tasks id _ fetching).1
      exact absurd (Option.some.inj (own.1.symm.trans held)) different
  | finished outcome => exact own

theorem Valid.get_or_fetch_locked (valid : Valid state) (free : state.lock = none)
    (id : ℕ) (key : String) : Valid (state.get_or_fetch_locked id key) := by
  unfold State.get_or_fetch_locked
  split
  case h_1 entry found => exact valid.hit found
  case h_2 =>
      refine ⟨valid.cache, valid.clock, ?_⟩
      exact (valid.tasks_of_free free _ _).update ⟨rfl, rfl⟩

theorem Valid.store (valid : Valid state) {entry : Entry Value}
    (recent : state.invalidated key ≤ entry.written) :
    Valid (state.store key entry) where
  cache := by
    intro other found stored
    by_cases same : other = key
    · subst same
      rw [State.store, AList.lookup_insert] at stored
      obtain rfl := Option.some.inj stored
      exact recent
    · rw [State.store, AList.lookup_insert_ne same] at stored
      exact valid.cache other found stored
  clock := valid.clock
  tasks := valid.tasks

theorem Valid.invalidate (valid : Valid state) (free : state.lock = none)
    {covers : String → Bool} {cache : Entries Value}
    (leaves : Leaves covers state.cache cache) :
    Valid (state.invalidate cache covers) where
  cache := by
    intro key entry found
    obtain ⟨kept, before⟩ := leaves key entry found
    simp only [State.invalidate, kept, Bool.false_eq_true, if_false]
    exact valid.cache key entry before
  clock := by
    intro key
    simp only [State.invalidate]
    split
    case isTrue => exact le_rfl
    case isFalse => exact (valid.clock key).trans (Nat.le_succ _)
  tasks := valid.tasks_of_free free _ _

theorem Valid.perform (valid : Valid state) (fnmatch : String → String → Bool)
    (free : state.lock = none) (id : ℕ) (operation : Operation Value) :
    Valid (perform fnmatch id state operation) := by
  cases operation with
  | get_or_fetch key => exact valid.get_or_fetch_locked free id key
  | set key value => exact (valid.store (valid.clock key)).setTask trivial
  | delete key => exact (valid.invalidate free (leaves_erase key _)).setTask trivial
  | clear => exact (valid.invalidate free (leaves_clear _)).setTask trivial
  | invalidate_pattern pattern =>
      exact (valid.invalidate free (leaves_delete_keys _ _)).setTask trivial

theorem Valid.store_fetched (valid : Valid state) {began : ℕ}
    (fetching : state.tasks id = some (.fetching key began)) (value : Value) :
    Valid (state.store_fetched id key { value, written := began }) := by
  have recent : state.invalidated key ≤ began :=
    (valid.clock key).trans (valid.tasks id _ fetching).2.ge
  have stored : Valid (state.store key { value, written := began }) :=
    valid.store recent
  refine ⟨stored.cache, stored.clock, ?_⟩
  apply Tasks.all_update
  · intro other found different started
    exact valid.others fetching different started none
  · intro found same
    exact Option.some.inj same ▸ recent

theorem Valid.fetch_failed (valid : Valid state) {began : ℕ}
    (fetching : state.tasks id = some (.fetching key began)) :
    Valid ({ state with lock := none }.setTask id (.finished .failed)) := by
  refine ⟨valid.cache, valid.clock, ?_⟩
  apply Tasks.all_update
  · intro other found different started
    exact valid.others fetching different started none
  · intro found same
    exact Option.some.inj same ▸ trivial

theorem Valid.drop (valid : Valid state) (key : String) :
    Valid { state with cache := state.cache.erase key } where
  cache := by
    intro other entry found
    exact valid.cache other entry (leaves_erase key _ other entry found).2
  clock := valid.clock
  tasks := valid.tasks

theorem Valid.step (valid : Valid state) {fnmatch : String → String → Bool}
    {label : Label Value} {after : State Value}
    (taken : step fnmatch state label = some after) : Valid after := by
  cases label with
  | call id operation =>
      simp only [QueryCache.step] at taken
      split at taken
      case h_1 key _ => exact Option.some.inj taken ▸ valid.get_or_fetch id key
      case h_2 => exact Option.some.inj taken ▸ valid.setTask trivial
      case h_3 => contradiction
  | acquire id =>
      simp only [QueryCache.step] at taken
      split at taken
      case h_1 operation free _ =>
          exact Option.some.inj taken ▸ valid.perform fnmatch free id operation
      case h_2 => contradiction
  | fetched id value =>
      simp only [QueryCache.step] at taken
      split at taken
      case h_1 key began fetching =>
          exact Option.some.inj taken ▸ valid.store_fetched fetching value
      case h_2 => contradiction
  | fetch_failed id =>
      simp only [QueryCache.step] at taken
      split at taken
      case h_1 key began fetching =>
          exact Option.some.inj taken ▸ valid.fetch_failed fetching
      case h_2 => contradiction
  | cancel id =>
      simp only [QueryCache.step] at taken
      split at taken
      case h_1 => exact Option.some.inj taken ▸ valid.setTask trivial
      case h_2 => contradiction
  | drop key => exact Option.some.inj taken ▸ valid.drop key

theorem valid_of_reachable {fnmatch : String → String → Bool}
    (reached : Reachable (system fnmatch) state) : Valid state := by
  apply reached.invariant valid_start
  intro before label after valid _ taken
  exact valid.step taken

end Steps

/-! ## The start of a fetch -/

section Fetches

variable {state : State Value} {key : String} {id began : ℕ}

theorem fetching_of_setTask {other : ℕ} {task : Task Value}
    (idle : ∀ key began, task ≠ .fetching key began)
    (fetching : (state.setTask other task).tasks id = some (.fetching key began)) :
    state.tasks id = some (.fetching key began) := by
  by_cases same : id = other
  · subst same
    simp only [State.setTask, Function.update_self, Option.some.injEq] at fetching
    exact absurd fetching (idle key began)
  · simpa only [State.setTask, Function.update_of_ne same] using fetching

theorem fetching_of_get_or_fetch {other : ℕ} {wanted : String}
    (fetching : (state.get_or_fetch other wanted).tasks id =
      some (.fetching key began)) :
    state.tasks id = some (.fetching key began) := by
  unfold State.get_or_fetch at fetching
  split at fetching
  all_goals exact fetching_of_setTask (by simp) fetching

theorem fetching_of_perform {fnmatch : String → String → Bool} {other : ℕ}
    {operation : Operation Value}
    (fetching : (perform fnmatch other state operation).tasks id =
      some (.fetching key began)) :
    state.tasks id = some (.fetching key began) ∨ state.cache.lookup key = none := by
  cases operation with
  | get_or_fetch wanted =>
      simp only [perform, State.get_or_fetch_locked] at fetching
      split at fetching
      case h_1 => exact .inl (fetching_of_setTask (by simp) fetching)
      case h_2 absent =>
          by_cases same : id = other
          · subst same
            simp only [State.setTask, Function.update_self, Option.some.injEq,
              Task.fetching.injEq] at fetching
            exact .inr (fetching.1 ▸ absent)
          · left
            simpa only [State.setTask, Function.update_of_ne same] using fetching
  | set wanted value => exact .inl (fetching_of_setTask (by simp) fetching)
  | delete wanted => exact .inl (fetching_of_setTask (by simp) fetching)
  | clear => exact .inl (fetching_of_setTask (by simp) fetching)
  | invalidate_pattern pattern => exact .inl (fetching_of_setTask (by simp) fetching)

/-- A step that starts a fetch finds no entry of its key. -/
theorem lookup_of_fetch_starts {fnmatch : String → String → Bool}
    {label : Label Value} {after : State Value}
    (taken : step fnmatch state label = some after)
    (fetching : after.tasks id = some (.fetching key began)) :
    state.tasks id = some (.fetching key began) ∨ state.cache.lookup key = none := by
  cases label with
  | call other operation =>
      simp only [step] at taken
      split at taken
      case h_1 =>
          exact .inl (fetching_of_get_or_fetch (Option.some.inj taken ▸ fetching))
      case h_2 =>
          exact .inl (fetching_of_setTask (by simp) (Option.some.inj taken ▸ fetching))
      case h_3 => contradiction
  | acquire other =>
      simp only [step] at taken
      split at taken
      case h_1 => exact fetching_of_perform (Option.some.inj taken ▸ fetching)
      case h_2 => contradiction
  | fetched other value | fetch_failed other | cancel other =>
      simp only [step] at taken
      split at taken
      case h_1 =>
          exact .inl (fetching_of_setTask (by simp) (Option.some.inj taken ▸ fetching))
      case h_2 => contradiction
  | drop wanted =>
      obtain rfl := Option.some.inj taken
      exact .inl fetching

end Fetches

/-! ## Single flight and invalidation -/

structure Coherent (fnmatch : String → String → Bool) (state : State Value) : Prop where
  one_fetch : ∀ id key began other wanted since,
    state.tasks id = some (.fetching key began) →
    state.tasks other = some (.fetching wanted since) → id = other
  fetch_absent : ∀ label after id key began, step fnmatch state label = some after →
    state.tasks id ≠ some (.fetching key began) →
    after.tasks id = some (.fetching key began) → state.cache.lookup key = none
  returned_fresh : ∀ id key entry since,
    state.tasks id = some (.finished (.returned key entry since)) →
    since ≤ entry.written

theorem single_flight_and_fresh {fnmatch : String → String → Bool} {state : State Value}
    (reached : Reachable (system fnmatch) state) : Coherent fnmatch state := by
  have valid := valid_of_reachable reached
  constructor
  · intro id key began other wanted since first second
    have held := (valid.tasks id _ first).1
    exact Option.some.inj (held.symm.trans (valid.tasks other _ second).1)
  · intro label after id key began taken idle fetching
    exact (lookup_of_fetch_starts taken fetching).resolve_left idle
  · intro id key entry since returned
    exact valid.tasks id _ returned

/-- A snapshot is fetched, invalidated while another task waits for it, and
fetched again. -/
def fetched_twice : List (Label ℕ) :=
  [.call 0 (.get_or_fetch "snapshot:13"), .acquire 0,
    .call 1 (.invalidate_pattern "snapshot:*"), .call 2 (.get_or_fetch "snapshot:13"),
    .fetched 0 7, .acquire 1, .acquire 2, .fetched 2 8]

def matches_snapshot (key pattern : String) : Bool :=
  key = "snapshot:13" && pattern = "snapshot:*"

def after (labels : List (Label ℕ)) : State ℕ :=
  (labels.foldlM (step matches_snapshot) {}).getD {}

theorem coherent_fetched_twice :
    Coherent matches_snapshot (after fetched_twice) ∧
      (after fetched_twice).tasks 2 =
        some (.finished (.returned "snapshot:13" { value := 8, written := 1 } 1)) :=
  ⟨single_flight_and_fresh (.follow (fun _ _ _ => trivial) .start
    (rfl : fetched_twice.foldlM (step matches_snapshot) {} = some _)), rfl⟩

end HftEngine.QueryCache
