import HftEngine.Lib.Holdings
import HftEngine.Lib.Tasks
import HftEngine.Lib.Transition

/-!
# Coalesced calls of a cached function

The calls of a cached function with one key.  A call that finds a future under the key
awaits it; another one puts its own future there, looks into the cache and runs the
function.
-/

namespace HftEngine.Cached

open Transition Tasks

/-- The exceptions that the wrapper raises itself, and those of what it calls. -/
inductive Exc (Error : Type) where
  | error (error : Error)
  | invalid_state
  | attribute_error

/-- A result is none for the value `None`. -/
inductive Future (Value Error : Type) where
  | pending
  | result (result : Option Value)
  | exception (exception : Exc Error)
  | cancelled

/-- A waiter is marked when it is cancelled itself, and so is a call that ends with a
cancellation.  A call that has returned a result has it from a future. -/
inductive Stage (Value Error : Type) where
  | waiting (future : ℕ) (cancelled : Bool)
  | connecting
  | getting
  | calling
  | storing (result : Value)
  | returned (result : Option Value) (future : ℕ)
  | raised (exception : Exc Error)
  | cancelled (own : Bool)

/-- How an await ends. -/
inductive Outcome (α Error : Type) where
  | ok (value : α)
  | raised (error : Error)
  | cancelled

/-- Calls and their futures have the same numbers; `in_flight` is the entry of the key. -/
structure State (Value Error : Type) where
  created : ℕ := 0
  calls : ℕ → Option (Stage Value Error) := fun _ => none
  futures : ℕ → Future Value Error := fun _ => .pending
  in_flight : Option ℕ := none

/-- What is got from the cache is none on a miss, and raises an exception where it is
not JSON. -/
inductive Label (Value Error : Type) where
  | call
  | wake (id : ℕ)
  | cancel (id : ℕ)
  | connected (id : ℕ) (outcome : Outcome Unit Error)
  | got (id : ℕ) (outcome : Outcome (Option (Option Value)) Error)
  | called (id : ℕ) (outcome : Outcome (Option Value) Error)
  | stored (id : ℕ) (outcome : Outcome Unit Error)

section Step

variable {Value Error : Type}

namespace State

def put (id : ℕ) (stage : Stage Value Error) (state : State Value Error) :
    State Value Error :=
  { state with calls := Function.update state.calls id (some stage) }

/-- A call becomes an owner, with a new future under the key. -/
def own (id : ℕ) (state : State Value Error) : State Value Error :=
  { state with in_flight := some id }.put id .connecting

/-- A future that is done refuses a result and an exception, and the entry stays. -/
def finish (id : ℕ) (result : Option Value) (state : State Value Error) :
    State Value Error :=
  match state.futures id with
  | .pending =>
      { state with
        futures := Function.update state.futures id (.result result)
        in_flight := none }.put id (.returned result id)
  | _ => state.put id (.raised .invalid_state)

def fail (id : ℕ) (exception : Exc Error) (state : State Value Error) :
    State Value Error :=
  match state.futures id with
  | .pending =>
      { state with
        futures := Function.update state.futures id (.exception exception)
        in_flight := none }.put id (.raised exception)
  | _ => state.put id (.raised .invalid_state)

/-- A call awaits a future.  Where it has got an exception, the call goes on as an
owner; a cancellation ends it. -/
def await (id future : ℕ) (cancelled : Bool) (state : State Value Error) :
    State Value Error :=
  if cancelled then state.put id (.cancelled true)
  else
    match state.futures future with
    | .pending => state.put id (.waiting future false)
    | .result result => state.put id (.returned result future)
    | .exception _ => state.own id
    | .cancelled => state.put id (.cancelled false)

/-- Cancelling a waiter cancels the future that it awaits, if this is not done. -/
def cancel (id future : ℕ) (state : State Value Error) : State Value Error :=
  match state.futures future with
  | .pending =>
      { state with
        futures := Function.update state.futures future .cancelled }.put id
          (.waiting future true)
  | _ => state.put id (.waiting future true)

end State

/-- `dumps` is the encoding of a result, with none where it raises.  Its handler names an
exception that does not exist, so whatever is raised in this place, a cancellation
included, turns into the exception of that. -/
def step (dumps : Value → Option String) (state : State Value Error) :
    Label Value Error → Option (State Value Error)
  | .call =>
      let id := state.created
      let state := { state with created := id + 1 }
      match state.in_flight with
      | some future => some (state.await id future false)
      | none => some (state.own id)
  | .wake id =>
      match state.calls id with
      | some (.waiting future cancelled) =>
          match state.futures future with
          | .pending => none
          | _ => some (state.await id future cancelled)
      | _ => none
  | .cancel id =>
      match state.calls id with
      | some (.waiting future false) => some (state.cancel id future)
      | _ => none
  | .connected id outcome =>
      match state.calls id, outcome with
      | some .connecting, .ok () => some (state.put id .getting)
      | some .connecting, .raised error => some (state.fail id (.error error))
      | some .connecting, .cancelled => some (state.put id (.cancelled true))
      | _, _ => none
  | .got id outcome =>
      match state.calls id, outcome with
      | some .getting, .ok (some result) => some (state.finish id result)
      | some .getting, .ok none => some (state.put id .calling)
      | some .getting, .raised error => some (state.fail id (.error error))
      | some .getting, .cancelled => some (state.put id (.cancelled true))
      | _, _ => none
  | .called id outcome =>
      match state.calls id, outcome with
      | some .calling, .ok (some result) =>
          match dumps result with
          | some _ => some (state.put id (.storing result))
          | none => some (state.fail id .attribute_error)
      | some .calling, .ok none => some (state.finish id none)
      | some .calling, .raised error => some (state.fail id (.error error))
      | some .calling, .cancelled => some (state.put id (.cancelled true))
      | _, _ => none
  | .stored id outcome =>
      match state.calls id, outcome with
      | some (.storing result), .ok () => some (state.finish id (some result))
      | some (.storing _), .raised _ => some (state.fail id .attribute_error)
      | some (.storing _), .cancelled => some (state.fail id .attribute_error)
      | _, _ => none

def wrapper (dumps : Value → Option String) :
    System (State Value Error) (Label Value Error) where
  start := {}
  step := step dumps

end Step

/-! ## How the calls end -/

section Settles

variable {Value Error : Type}

/-- An owner that has not ended waits for the end of one of its own awaits. -/
def Stage.owns : Stage Value Error → Bool
  | .connecting => true
  | .getting => true
  | .calling => true
  | .storing _ => true
  | _ => false

def Owner (id : ℕ) (state : State Value Error) : Prop :=
  ∃ stage, state.calls id = some stage ∧ stage.owns = true

/-- The most steps that a call can still take. -/
def Stage.steps : Stage Value Error → ℕ
  | .waiting _ false => 6
  | .waiting _ true => 5
  | .connecting => 4
  | .getting => 3
  | .calling => 2
  | .storing _ => 1
  | .returned _ _ => 0
  | .raised _ => 0
  | .cancelled _ => 0

/-- The most steps that the calls can still take together. -/
def work (state : State Value Error) : ℕ :=
  held Stage.steps state.created state.calls

/-- The entry of the key is the future of an owner that has not ended.  A waiter's
future is done or such an owner's.  A result that a call has returned is the one that
the owner of its future has returned, and a call that ends with a cancellation has been
cancelled itself. -/
structure Settles (state : State Value Error) : Prop where
  key : ∀ id, state.in_flight = some id → Owner id state
  waiters : ∀ id future cancelled,
    state.calls id = some (.waiting future cancelled) →
      state.futures future ≠ .pending ∨ Owner future state
  results : ∀ id result future, state.calls id = some (.returned result future) →
    state.calls future = some (.returned result future)
  cancelled : ∀ id own, state.calls id = some (.cancelled own) → own = true

/-- Nothing refers to the future of a call: it is not under the key, and no call waits
for it. -/
def Unshared (id : ℕ) (state : State Value Error) : Prop :=
  state.in_flight ≠ some id ∧
    ∀ other future cancelled, state.calls other = some (.waiting future cancelled) →
      future ≠ id

/-- A waiter is cancelled only when its future is done, and an owner before it stores
its result only when nothing refers to its future. -/
def Timely (state : State Value Error) : Label Value Error → Prop
  | .cancel id => ∀ future, state.calls id = some (.waiting future false) →
      state.futures future ≠ .pending
  | .connected id .cancelled => Unshared id state
  | .got id .cancelled => Unshared id state
  | .called id .cancelled => Unshared id state
  | _ => True

/-! ## The invariant -/

/-- A future is done as its own call has ended. -/
structure Valid (state : State Value Error) : Prop where
  started : ∀ id stage, state.calls id = some stage → id < state.created
  result : ∀ id result, state.futures id = .result result →
    state.calls id = some (.returned result id)
  exception : ∀ id exception, state.futures id = .exception exception →
    state.calls id = some (.raised exception)
  intact : ∀ id, state.futures id ≠ .cancelled
  returned : ∀ id result future, state.calls id = some (.returned result future) →
    state.futures future = .result result
  key : ∀ id, state.in_flight = some id → Owner id state
  waiters : ∀ id future cancelled,
    state.calls id = some (.waiting future cancelled) →
      state.futures future ≠ .pending ∨ Owner future state
  cancelled : ∀ id own, state.calls id = some (.cancelled own) → own = true

variable {dumps : Value → Option String} {state after : State Value Error}
  {id future : ℕ} {stage new : Stage Value Error}

theorem Valid.settles (valid : Valid state) : Settles state where
  key := valid.key
  waiters := valid.waiters
  results := by
    intro id result future returned
    exact valid.result future result (valid.returned id result future returned)
  cancelled := valid.cancelled

/-- The future of a call that has not ended is pending. -/
theorem Valid.pending (valid : Valid state)
    (going : ∀ stage, state.calls id = some stage → 0 < stage.steps) :
    state.futures id = .pending := by
  cases same : state.futures id with
  | pending => rfl
  | result result =>
      have ended := going _ (valid.result id result same)
      contradiction
  | exception exception =>
      have ended := going _ (valid.exception id exception same)
      contradiction
  | cancelled => exact absurd same (valid.intact id)

theorem going_of_owns (owns : stage.owns = true) : 0 < stage.steps := by
  cases stage <;> first | contradiction | exact Nat.zero_lt_succ _

theorem Owner.pending (owner : Owner id state) (valid : Valid state) :
    state.futures id = .pending := by
  obtain ⟨stage, found, owns⟩ := owner
  apply valid.pending
  intro current same
  obtain rfl := Option.some.inj (found.symm.trans same)
  exact going_of_owns owns

/-- The other calls stay as they are. -/
theorem calls_put_of_ne {other : ℕ} (different : other ≠ id) :
    (state.put id new).calls other = state.calls other :=
  Function.update_of_ne different _ _

theorem calls_put_self : (state.put id new).calls id = some new :=
  Function.update_self _ _ _

theorem Owner.put {other : ℕ} (owner : Owner other state)
    (still : other = id → new.owns = true) : Owner other (state.put id new) := by
  by_cases same : other = id
  · exact ⟨new, same ▸ calls_put_self, still same⟩
  · obtain ⟨stage, found, owns⟩ := owner
    exact ⟨stage, (calls_put_of_ne same).trans found, owns⟩

/-- A call that has not ended goes on; an owner that gives up is not referred to. -/
theorem Valid.put (valid : Valid state) (within : id < state.created)
    (going : ∀ stage, state.calls id = some stage → 0 < stage.steps)
    (owns : new.owns = true ∨ Unshared id state)
    (returned : ∀ result future, new = .returned result future →
      state.futures future = .result result)
    (waits : ∀ future cancelled, new = .waiting future cancelled →
      state.futures future ≠ .pending ∨ future ≠ id ∧ Owner future state)
    (cancelled : ∀ own, new = .cancelled own → own = true) :
    Valid (state.put id new) where
  started := by
    intro other stage found
    by_cases same : other = id
    · exact same ▸ within
    · exact valid.started other stage ((calls_put_of_ne same).symm.trans found)
  result := by
    intro other result done
    have found := valid.result other result done
    have different : other ≠ id := by
      intro same
      have ended := going _ (same ▸ found)
      contradiction
    exact (calls_put_of_ne different).trans found
  exception := by
    intro other exception done
    have found := valid.exception other exception done
    have different : other ≠ id := by
      intro same
      have ended := going _ (same ▸ found)
      contradiction
    exact (calls_put_of_ne different).trans found
  intact := valid.intact
  returned := by
    intro other result future found
    by_cases same : other = id
    · rw [same, calls_put_self] at found
      exact returned result future (Option.some.inj found)
    · exact valid.returned other result future ((calls_put_of_ne same).symm.trans found)
  key := by
    intro other entry
    apply (valid.key other entry).put
    intro same
    apply owns.resolve_right
    intro unshared
    exact unshared.1 (same ▸ entry)
  waiters := by
    intro other future mark found
    by_cases same : other = id
    · rw [same, calls_put_self] at found
      rcases waits future mark (Option.some.inj found) with done | ⟨different, owner⟩
      · exact .inl done
      · exact .inr (owner.put (fun equal => absurd equal different))
    · rw [calls_put_of_ne same] at found
      rcases valid.waiters other future mark found with done | owner
      · exact .inl done
      · right
        apply owner.put
        intro equal
        apply owns.resolve_right
        intro unshared
        exact unshared.2 other future mark found equal
  cancelled := by
    intro other own found
    by_cases same : other = id
    · rw [same, calls_put_self] at found
      exact cancelled own (Option.some.inj found)
    · exact valid.cancelled other own ((calls_put_of_ne same).symm.trans found)

/-- A call that has not ended becomes an owner. -/
theorem Valid.own (valid : Valid state) (within : id < state.created)
    (going : ∀ stage, state.calls id = some stage → 0 < stage.steps) :
    Valid (state.own id) := by
  have changed : Valid (state.put id .connecting) :=
    valid.put within going (.inl rfl) nofun nofun nofun
  refine { changed with key := ?_ }
  intro other entry
  obtain rfl := Option.some.inj entry
  exact ⟨.connecting, calls_put_self, rfl⟩

/-- An owner ends with its future, and the entry of the key goes. -/
theorem Valid.done (valid : Valid state) (owner : Owner id state)
    {done : Future Value Error}
    (matching : (∃ result, done = .result result ∧ new = .returned result id) ∨
      ∃ exception, done = .exception exception ∧ new = .raised exception) :
    Valid ({ state with
      futures := Function.update state.futures id done
      in_flight := none }.put id new) := by
  have waiting_for : state.futures id = .pending := owner.pending valid
  have not_pending : done ≠ .pending := by
    rcases matching with ⟨_, rfl, _⟩ | ⟨_, rfl, _⟩ <;> nofun
  obtain ⟨stage, found, owns⟩ := owner
  refine
    { started := ?_
      result := ?_
      exception := ?_
      intact := ?_
      returned := ?_
      key := nofun
      waiters := ?_
      cancelled := ?_ }
  · intro other current there
    by_cases same : other = id
    · exact same ▸ valid.started id stage found
    · exact valid.started other current ((calls_put_of_ne same).symm.trans there)
  · intro other result is_result
    by_cases same : other = id
    · subst same
      simp only [State.put, Function.update_self] at is_result ⊢
      rcases matching with ⟨own, rfl, rfl⟩ | ⟨_, rfl, _⟩
      · obtain rfl := Future.result.inj is_result
        rfl
      · contradiction
    · simp only [State.put, Function.update_of_ne same] at is_result ⊢
      exact valid.result other result is_result
  · intro other exception is_exception
    by_cases same : other = id
    · subst same
      simp only [State.put, Function.update_self] at is_exception ⊢
      rcases matching with ⟨_, rfl, _⟩ | ⟨own, rfl, rfl⟩
      · contradiction
      · obtain rfl := Future.exception.inj is_exception
        rfl
    · simp only [State.put, Function.update_of_ne same] at is_exception ⊢
      exact valid.exception other exception is_exception
  · intro other
    by_cases same : other = id
    · subst same
      simp only [State.put, Function.update_self]
      rcases matching with ⟨_, rfl, _⟩ | ⟨_, rfl, _⟩ <;> nofun
    · simp only [State.put, Function.update_of_ne same]
      exact valid.intact other
  · intro other result future there
    by_cases same : other = id
    · subst same
      rw [calls_put_self] at there
      rcases matching with ⟨own, rfl, rfl⟩ | ⟨_, _, rfl⟩
      · obtain ⟨rfl, rfl⟩ := Stage.returned.inj (Option.some.inj there)
        exact Function.update_self _ _ _
      · cases there
    · rw [calls_put_of_ne same] at there
      have done_before := valid.returned other result future there
      have different : future ≠ id := by
        rintro rfl
        rw [waiting_for] at done_before
        contradiction
      simp only [State.put, Function.update_of_ne different]
      exact done_before
  · intro other future mark there
    have before : state.calls other = some (.waiting future mark) := by
      by_cases same : other = id
      · subst same
        rw [calls_put_self] at there
        rcases matching with ⟨_, _, rfl⟩ | ⟨_, _, rfl⟩ <;> cases there
      · exact (calls_put_of_ne same).symm.trans there
    by_cases same : future = id
    · left
      simp only [State.put, same, Function.update_self]
      exact not_pending
    · simp only [State.put, Function.update_of_ne same]
      rcases valid.waiters other future mark before with is_done | owner
      · exact .inl is_done
      · exact .inr (owner.put (fun equal => absurd equal same))
  · intro other own there
    by_cases same : other = id
    · subst same
      rw [calls_put_self] at there
      rcases matching with ⟨_, _, rfl⟩ | ⟨_, _, rfl⟩ <;> cases there
    · exact valid.cancelled other own ((calls_put_of_ne same).symm.trans there)

theorem Valid.finish (valid : Valid state) (owner : Owner id state)
    (result : Option Value) : Valid (state.finish id result) := by
  rw [State.finish, owner.pending valid]
  exact valid.done owner (.inl ⟨result, rfl, rfl⟩)

theorem Valid.fail (valid : Valid state) (owner : Owner id state)
    (exception : Exc Error) : Valid (state.fail id exception) := by
  rw [State.fail, owner.pending valid]
  exact valid.done owner (.inr ⟨exception, rfl, rfl⟩)

theorem Valid.await (valid : Valid state) (within : id < state.created)
    (going : ∀ stage, state.calls id = some stage → 0 < stage.steps)
    (unshared : Unshared id state)
    (waits : state.futures future ≠ .pending ∨ future ≠ id ∧ Owner future state)
    (cancelled : Bool) : Valid (state.await id future cancelled) := by
  unfold State.await
  split
  case isTrue =>
      apply valid.put within going (.inr unshared)
      · nofun
      · nofun
      · intro own same
        exact (Stage.cancelled.inj same).symm
  case isFalse =>
      split
      case h_1 pending =>
          apply valid.put within going (.inr unshared)
          · nofun
          · intro other mark same
            obtain ⟨rfl, _⟩ := Stage.waiting.inj same
            exact waits
          · nofun
      case h_2 result done =>
          apply valid.put within going (.inr unshared)
          · intro other_result other same
            obtain ⟨rfl, rfl⟩ := Stage.returned.inj same
            exact done
          · nofun
          · nofun
      case h_3 => exact valid.own within going
      case h_4 impossible => exact absurd impossible (valid.intact future)

/-- Nothing refers to the future of a call that is not an owner and has not ended. -/
theorem Valid.unshared (valid : Valid state)
    (going : ∀ stage, state.calls id = some stage → 0 < stage.steps)
    (not_owner : ∀ stage, state.calls id = some stage → stage.owns = false) :
    Unshared id state := by
  have no_owner : ¬Owner id state := by
    intro ⟨stage, found, owns⟩
    rw [not_owner stage found] at owns
    contradiction
  constructor
  · intro entry
    exact no_owner (valid.key id entry)
  · intro other future mark found same
    subst same
    rcases valid.waiters other future mark found with done | owner
    · exact done (valid.pending going)
    · exact no_owner owner

/-- What a waiter waits for is another call. -/
theorem Valid.waits (valid : Valid state) {mark : Bool}
    (found : state.calls id = some (.waiting future mark)) :
    state.futures future ≠ .pending ∨ future ≠ id ∧ Owner future state := by
  rcases valid.waiters id future mark found with done | owner
  · exact .inl done
  · refine .inr ⟨?_, owner⟩
    intro same
    obtain ⟨stage, is_stage, owns⟩ := owner
    rw [same, found] at is_stage
    rw [← Option.some.inj is_stage] at owns
    contradiction

theorem step_call : step dumps state .call =
    match state.in_flight with
    | some future =>
        some ({ state with created := state.created + 1 }.await state.created future false)
    | none => some ({ state with created := state.created + 1 }.own state.created) := rfl

theorem step_wake : step dumps state (.wake id) =
    match state.calls id with
    | some (.waiting future cancelled) =>
        match state.futures future with
        | .pending => none
        | _ => some (state.await id future cancelled)
    | _ => none := rfl

theorem step_cancel : step dumps state (.cancel id) =
    match state.calls id with
    | some (.waiting future false) => some (state.cancel id future)
    | _ => none := rfl

theorem Valid.call (valid : Valid state)
    (taken : step dumps state .call = some after) : Valid after := by
  have fresh : ∀ stage, state.calls state.created ≠ some stage := by
    intro stage found
    exact lt_irrefl _ (valid.started state.created stage found)
  have grown : Valid { state with created := state.created + 1 } :=
    { valid with
      started := by
        intro id stage found
        exact (valid.started id stage found).trans (Nat.lt_succ_self _) }
  have going : ∀ stage, state.calls state.created = some stage → 0 < stage.steps := by
    intro stage found
    exact absurd found (fresh stage)
  rw [step_call] at taken
  split at taken
  case h_1 future entry =>
      rw [← Option.some.inj taken]
      have owner := valid.key future entry
      apply grown.await (Nat.lt_succ_self _) going
      · apply grown.unshared going
        intro stage found
        exact absurd found (fresh stage)
      · right
        refine ⟨?_, owner⟩
        obtain ⟨stage, found, _⟩ := owner
        exact (valid.started future stage found).ne
  case h_2 => exact Option.some.inj taken ▸ grown.own (Nat.lt_succ_self _) going

theorem Valid.wake (valid : Valid state)
    (taken : step dumps state (.wake id) = some after) : Valid after := by
  rw [step_wake] at taken
  split at taken
  case h_1 future mark found =>
      have going : ∀ stage, state.calls id = some stage → 0 < stage.steps := by
        intro stage same
        obtain rfl := Option.some.inj (found.symm.trans same)
        cases mark <;> exact Nat.zero_lt_succ _
      have not_owner : ∀ stage, state.calls id = some stage → stage.owns = false := by
        intro stage same
        obtain rfl := Option.some.inj (found.symm.trans same)
        rfl
      split at taken
      case h_1 => contradiction
      case h_2 =>
          exact Option.some.inj taken ▸ valid.await (valid.started id _ found) going
            (valid.unshared going not_owner) (valid.waits found) mark
  case h_2 => contradiction

theorem Valid.cancel (valid : Valid state) (timely : Timely state (.cancel id))
    (taken : step dumps state (.cancel id) = some after) : Valid after := by
  rw [step_cancel] at taken
  split at taken
  case h_1 future found =>
      have going : ∀ stage, state.calls id = some stage → 0 < stage.steps := by
        intro stage same
        obtain rfl := Option.some.inj (found.symm.trans same)
        exact Nat.zero_lt_succ _
      have not_owner : ∀ stage, state.calls id = some stage → stage.owns = false := by
        intro stage same
        obtain rfl := Option.some.inj (found.symm.trans same)
        rfl
      have done := timely future found
      have marked : state.cancel id future = state.put id (.waiting future true) := by
        unfold State.cancel
        split
        case h_1 pending => exact absurd pending done
        case h_2 => rfl
      rw [← Option.some.inj taken, marked]
      apply valid.put (valid.started id _ found) going
        (.inr (valid.unshared going not_owner))
      · nofun
      · intro other mark same
        obtain ⟨rfl, _⟩ := Stage.waiting.inj same
        exact .inl done
      · nofun
  case h_2 => contradiction

/-- An owner goes on to its next await, or gives up when nothing refers to its
future. -/
theorem Valid.advance (valid : Valid state) (found : state.calls id = some stage)
    (owned : stage.owns = true)
    (owns : new.owns = true ∨ new = .cancelled true ∧ Unshared id state) :
    Valid (state.put id new) := by
  have going : ∀ stage, state.calls id = some stage → 0 < stage.steps := by
    intro current same
    obtain rfl := Option.some.inj (found.symm.trans same)
    exact going_of_owns owned
  apply valid.put (valid.started id stage found) going
  · exact owns.imp_right And.right
  · rintro result future rfl
    rcases owns with impossible | ⟨impossible, _⟩ <;> contradiction
  · rintro future mark rfl
    rcases owns with impossible | ⟨impossible, _⟩ <;> contradiction
  · rintro own rfl
    rcases owns with impossible | ⟨same, _⟩
    · contradiction
    · exact Stage.cancelled.inj same

/-- The next await of an owner that is connecting, getting, calling or storing, or its
end. -/
inductive OwnerMoves (state : State Value Error) (label : Label Value Error) (id : ℕ)
    (stage : Stage Value Error) : State Value Error → Prop where
  | goes_on (new : Stage Value Error) (owns : new.owns = true)
      (fewer : new.steps < stage.steps) : OwnerMoves state label id stage (state.put id new)
  | gives_up (unshared : Timely state label → Unshared id state) :
      OwnerMoves state label id stage (state.put id (.cancelled true))
  | finishes (result : Option Value) :
      OwnerMoves state label id stage (state.finish id result)
  | fails (exception : Exc Error) :
      OwnerMoves state label id stage (state.fail id exception)

/-- A step is a new call, a step of a waiter or a move of an owner. -/
inductive Moves (state : State Value Error) (label : Label Value Error)
    (after : State Value Error) : Prop where
  | call (same : label = .call)
  | wake (id : ℕ) (same : label = .wake id)
  | cancel (id : ℕ) (same : label = .cancel id)
  | owner (id : ℕ) (stage : Stage Value Error) (found : state.calls id = some stage)
      (owned : stage.owns = true) (moves : OwnerMoves state label id stage after)

theorem moves_of_step {label : Label Value Error}
    (taken : step dumps state label = some after) : Moves state label after := by
  cases label with
  | call => exact .call rfl
  | wake id => exact .wake id rfl
  | cancel id => exact .cancel id rfl
  | connected id outcome =>
      simp only [Cached.step] at taken
      split at taken
      case h_1 found =>
          exact .owner id _ found rfl
            (Option.some.inj taken ▸ .goes_on _ rfl (Nat.lt_succ_self _))
      case h_2 found => exact .owner id _ found rfl (Option.some.inj taken ▸ .fails _)
      case h_3 found =>
          exact .owner id _ found rfl
            (Option.some.inj taken ▸ .gives_up (fun unshared => unshared))
      case h_4 => contradiction
  | got id outcome =>
      simp only [Cached.step] at taken
      split at taken
      case h_1 found => exact .owner id _ found rfl (Option.some.inj taken ▸ .finishes _)
      case h_2 found =>
          exact .owner id _ found rfl
            (Option.some.inj taken ▸ .goes_on _ rfl (Nat.lt_succ_self _))
      case h_3 found => exact .owner id _ found rfl (Option.some.inj taken ▸ .fails _)
      case h_4 found =>
          exact .owner id _ found rfl
            (Option.some.inj taken ▸ .gives_up (fun unshared => unshared))
      case h_5 => contradiction
  | called id outcome =>
      simp only [Cached.step] at taken
      split at taken
      case h_1 found =>
          split at taken
          case h_1 =>
              exact .owner id _ found rfl
                (Option.some.inj taken ▸ .goes_on _ rfl (Nat.lt_succ_self _))
          case h_2 => exact .owner id _ found rfl (Option.some.inj taken ▸ .fails _)
      case h_2 found => exact .owner id _ found rfl (Option.some.inj taken ▸ .finishes _)
      case h_3 found => exact .owner id _ found rfl (Option.some.inj taken ▸ .fails _)
      case h_4 found =>
          exact .owner id _ found rfl
            (Option.some.inj taken ▸ .gives_up (fun unshared => unshared))
      case h_5 => contradiction
  | stored id outcome =>
      simp only [Cached.step] at taken
      split at taken
      case h_1 found => exact .owner id _ found rfl (Option.some.inj taken ▸ .finishes _)
      case h_2 found => exact .owner id _ found rfl (Option.some.inj taken ▸ .fails _)
      case h_3 found => exact .owner id _ found rfl (Option.some.inj taken ▸ .fails _)
      case h_4 => contradiction

theorem Valid.owner_moves {label : Label Value Error} (valid : Valid state)
    (timely : Timely state label) (found : state.calls id = some stage)
    (owned : stage.owns = true) (moves : OwnerMoves state label id stage after) :
    Valid after := by
  cases moves with
  | goes_on new owns _ => exact valid.advance found owned (.inl owns)
  | gives_up unshared => exact valid.advance found owned (.inr ⟨rfl, unshared timely⟩)
  | finishes result => exact valid.finish ⟨stage, found, owned⟩ result
  | fails exception => exact valid.fail ⟨stage, found, owned⟩ exception

theorem Valid.step {label : Label Value Error} (valid : Valid state)
    (timely : Timely state label) (taken : step dumps state label = some after) :
    Valid after := by
  cases moves_of_step taken with
  | call same =>
      subst same
      exact valid.call taken
  | wake id same =>
      subst same
      exact valid.wake taken
  | cancel id same =>
      subst same
      exact valid.cancel timely taken
  | owner id stage found owned moves =>
      exact valid.owner_moves timely found owned moves

/-! ## Progress -/

/-- A call changes to a stage with fewer steps to take. -/
def Advances (id : ℕ) (stage : Stage Value Error) (state after : State Value Error) :
    Prop :=
  ∃ new, after.calls = Function.update state.calls id (some new) ∧
    after.created = state.created ∧ new.steps < stage.steps

theorem Advances.work_lt (advances : Advances id stage state after)
    (found : state.calls id = some stage) (within : id < state.created) :
    work after < work state := by
  obtain ⟨new, calls, created, fewer⟩ := advances
  have changed : held Stage.steps state.created
        (Function.update state.calls id (some new)) +
          (state.calls id).elim 0 Stage.steps =
      held Stage.steps state.created state.calls + new.steps :=
    held_update within (some new)
  rw [found] at changed
  simp only [Option.elim_some] at changed
  unfold work
  rw [calls, created]
  omega

theorem advances_put (fewer : new.steps < stage.steps) :
    Advances id stage state (state.put id new) := ⟨new, rfl, rfl, fewer⟩

theorem advances_finish (owned : stage.owns = true) (result : Option Value) :
    Advances id stage state (state.finish id result) := by
  unfold State.finish
  split <;> exact ⟨_, rfl, rfl, going_of_owns owned⟩

theorem advances_fail (owned : stage.owns = true) (exception : Exc Error) :
    Advances id stage state (state.fail id exception) := by
  unfold State.fail
  split <;> exact ⟨_, rfl, rfl, going_of_owns owned⟩

theorem advances_await {mark : Bool} (done : state.futures future ≠ .pending) :
    Advances id (.waiting future mark) state (state.await id future mark) := by
  have five : 5 ≤ (.waiting future mark : Stage Value Error).steps := by
    cases mark <;> simp [Stage.steps]
  unfold State.await
  split
  case isTrue => exact advances_put (Nat.lt_of_lt_of_le (by simp [Stage.steps]) five)
  case isFalse =>
      split
      case h_1 pending => exact absurd pending done
      case h_2 => exact advances_put (Nat.lt_of_lt_of_le (by simp [Stage.steps]) five)
      case h_3 => exact ⟨_, rfl, rfl, Nat.lt_of_lt_of_le (by simp [Stage.steps]) five⟩
      case h_4 => exact advances_put (Nat.lt_of_lt_of_le (by simp [Stage.steps]) five)

theorem advances_cancel :
    Advances id (.waiting future false) state (state.cancel id future) := by
  unfold State.cancel
  split <;> exact ⟨_, rfl, rfl, by simp [Stage.steps]⟩

/-- Every step but a new call is one of a call that has not ended. -/
theorem OwnerMoves.advances {label : Label Value Error} (owned : stage.owns = true)
    (moves : OwnerMoves state label id stage after) : Advances id stage state after := by
  cases moves with
  | goes_on new _ fewer => exact advances_put fewer
  | gives_up => exact advances_put (going_of_owns owned)
  | finishes result => exact advances_finish owned result
  | fails exception => exact advances_fail owned exception

theorem advances_step {label : Label Value Error} (not_call : label ≠ .call)
    (taken : step dumps state label = some after) :
    ∃ id stage, state.calls id = some stage ∧ Advances id stage state after := by
  cases moves_of_step taken with
  | call same => exact absurd same not_call
  | wake id same =>
      subst same
      simp only [Cached.step] at taken
      split at taken
      case h_1 found =>
          split at taken
          case h_1 => contradiction
          case h_2 done =>
              exact ⟨id, _, found, Option.some.inj taken ▸ advances_await done⟩
      case h_2 => contradiction
  | cancel id same =>
      subst same
      simp only [Cached.step] at taken
      split at taken
      case h_1 found => exact ⟨id, _, found, Option.some.inj taken ▸ advances_cancel⟩
      case h_2 => contradiction
  | owner id stage found owned moves => exact ⟨id, stage, found, moves.advances owned⟩

end Settles

/-- In every run with timely cancellations no call waits for what does not come, and
each step that is not a new call leaves fewer steps to take. -/
theorem coalescing_settles {Value Error : Type} {dumps : Value → Option String}
    {state : State Value Error}
    (reached : ReachedBy (wrapper dumps) Timely state) :
    Settles state ∧
      ∀ label after, label ≠ .call → step dumps state label = some after →
        work after < work state := by
  have valid : Valid state := by
    apply reached.invariant
    · exact
        { started := nofun
          result := nofun
          exception := nofun
          intact := nofun
          returned := nofun
          key := nofun
          waiters := nofun
          cancelled := nofun }
    · intro before label after valid timely taken
      exact valid.step timely taken
  refine ⟨valid.settles, ?_⟩
  intro label after not_call taken
  obtain ⟨id, stage, found, advances⟩ := advances_step not_call taken
  exact advances.work_lt found (valid.started id stage found)

/-- `json.dumps` of a natural number. -/
def dumps (value : ℕ) : Option String :=
  some (toString value)

def after (labels : List (Label ℕ String)) : State ℕ String :=
  (labels.foldlM (wrapper dumps).step (wrapper dumps).start).getD {}

/-- Two calls share a result. -/
def shared : List (Label ℕ String) :=
  [.call, .call, .connected 0 (.ok ()), .got 0 (.ok none), .called 0 (.ok (some 7)),
    .stored 0 (.ok ()), .wake 1]

theorem shared_settles : Settles (after shared) := by
  have permitted : ∀ label ∈ shared, ∀ state, Timely state label := by
    intro label member state
    simp only [shared, List.mem_cons, List.not_mem_nil, or_false] at member
    rcases member with rfl | rfl | rfl | rfl | rfl | rfl | rfl <;> trivial
  have reached : ReachedBy (wrapper dumps) Timely (after shared) :=
    .follow permitted .start (rfl : shared.foldlM (wrapper dumps).step _ = some _)
  exact (coalescing_settles reached).1

/-- An owner is cancelled while it runs the function. -/
def owner_cancelled : List (Label ℕ String) :=
  [.call, .call, .connected 0 (.ok ()), .got 0 (.ok none), .called 0 .cancelled]

/-- One of two waiters is cancelled, and the other one with it. -/
def waiter_cancelled : List (Label ℕ String) :=
  [.call, .call, .call, .cancel 1, .wake 2]

/-- The key stays and the waiter waits for an owner that has ended; a waiter ends with a
cancellation of another one. -/
theorem cancelled_not_settles :
    (∃ state : State ℕ String, Reachable (wrapper dumps) state ∧
      state.in_flight = some 0 ∧ state.calls 1 = some (.waiting 0 false) ∧
      ¬Owner 0 state) ∧
    ∃ state : State ℕ String, Reachable (wrapper dumps) state ∧ ¬Settles state := by
  constructor
  · refine ⟨after owner_cancelled, ?_, rfl, rfl, ?_⟩
    · exact .follow (fun _ _ _ => trivial) .start
        (rfl : owner_cancelled.foldlM (wrapper dumps).step _ = some _)
    · intro ⟨stage, found, owns⟩
      obtain rfl := Option.some.inj found
      contradiction
  · refine ⟨after waiter_cancelled, ?_, ?_⟩
    · exact .follow (fun _ _ _ => trivial) .start
        (rfl : waiter_cancelled.foldlM (wrapper dumps).step _ = some _)
    · intro settles
      have own := settles.cancelled 2 false rfl
      contradiction

end HftEngine.Cached
