import HftEngine.Lib.Tasks
import HftEngine.Lib.Transition
import Mathlib.Order.Lattice
import Mathlib.Order.Nat
import Mathlib.Order.Basic

/-!
# The Dhan tokens

An admin request commits new tokens, writes them to Redis and publishes a
notification.  Every instance of the ingestion has a `TokenCacheManager` with an
L1 of its own, an L2 in Redis that all share, and a `ConfigManager`, which is not
told of the new tokens.  The listener of an instance takes a notification, and
loads the tokens as a call of `get_dhan_tokens` does.
-/

namespace HftEngine.DhanTokens

open Transition

/-! ## Tokens -/

inductive Field where
  | auth_token
  | authorization_token
  deriving DecidableEq

/-- How many updates have set each of the tokens. -/
abbrev Version := Field → ℕ

structure Tokens where
  text : Field → String
  version : Version

/-- The rows of a table with the tokens, of which some may be missing. -/
structure Rows where
  text : Field → Option String
  version : Version := fun _ => 0

/-- The tokens of a request, of which empty ones are ignored. -/
def provided (request : Field → Option String) (field : Field) : Option String :=
  (request field).filter (· ≠ "")

/-- None where the request is refused, since it provides no token. -/
def update_dhan_tokens (request : Field → Option String) (rows : Rows) : Option Rows :=
  if provided request .auth_token = none ∧ provided request .authorization_token = none
  then none
  else some
    { text := fun field => (provided request field).or (rows.text field)
      version := fun field =>
        rows.version field + (provided request field).isSome.toNat }

/-- What an update that has committed a version writes to Redis: the tokens that
it does not provide are read again. -/
def current_tokens (request : Field → Option String) (committed : Version)
    (rows : Rows) :
    Tokens where
  text := fun field => (provided request field).getD ((rows.text field).getD "")
  version := fun field =>
    if (provided request field).isSome then committed field else rows.version field

def load_from_config (defaults : Field → String) (config : Rows) : Tokens where
  text := fun field => (config.text field).getD (defaults field)
  version := config.version

/-! ## Updates, notifications and loads -/

inductive Update where
  | committed (request : Field → Option String)
  | read (tokens : Tokens)
  | written

inductive Loader (Id : Type) where
  | get (id : ℕ)
  | listener (service : Id)
  deriving DecidableEq

inductive Stage where
  | reading
  | received (reply : Option Tokens)
  | storing (tokens : Tokens)
  | stored (tokens : Tokens)
  | returned (tokens : Tokens)

/-- The listener loads for the version of a notification; a call comes with what
its instance had processed when it started. -/
structure Task (Id : Type) where
  service : Id
  version : Version
  stage : Stage

/-- The updates are kept with the version that they have committed; `written` is
the newest one that an update has written to Redis, and `processed` the newest
whose notification an instance has processed. -/
structure State (Id : Type) where
  rows : Rows
  configs : Id → Rows
  redis : Option Tokens := none
  l1 : Id → Option Tokens := fun _ => none
  updates : ℕ → Option (Version × Update) := fun _ => none
  notifications : Id → List Version := fun _ => []
  tasks : Loader Id → Option (Task Id) := fun _ => none
  written : Version := fun _ => 0
  processed : Id → Version := fun _ _ => 0

/-- `ok` says that Redis has executed a command; its errors are swallowed. -/
inductive Label (Id : Type) where
  | update (id : ℕ) (request : Field → Option String)
  | read_rows (id : ℕ)
  | write (id : ℕ)
  | publish (id : ℕ)
  | update_failed (id : ℕ)
  | reload (service : Id) (field : Field)
  | get (id : ℕ) (service : Id)
  | take (service : Id)
  | redis_get (loader : Loader Id) (ok : Bool)
  | resume (loader : Loader Id)
  | redis_setex (loader : Loader Id) (ok : Bool)
  | finish (loader : Loader Id)
  | expire

section Step

variable {Id : Type} [DecidableEq Id]

namespace State

def setUpdate (id : ℕ) (update : Option (Version × Update)) (state : State Id) :
    State Id :=
  { state with updates := Function.update state.updates id update }

def setTask (loader : Loader Id) (task : Option (Task Id)) (state : State Id) :
    State Id :=
  { state with tasks := Function.update state.tasks loader task }

def set_redis (tokens : Option Tokens) (state : State Id) : State Id :=
  { state with redis := tokens }

def set_l1 (service : Id) (tokens : Option Tokens) (state : State Id) : State Id :=
  { state with l1 := Function.update state.l1 service tokens }

/-- `_reload_single_config`; a row that is missing changes nothing. -/
def reload (service : Id) (field : Field) (state : State Id) : State Id :=
  match state.rows.text field with
  | some text =>
      let config := state.configs service
      { state with
        configs := Function.update state.configs service
          { text := Function.update config.text field (some text)
            version := Function.update config.version field
              (state.rows.version field) } }
  | none => state

def get (id : ℕ) (service : Id) (state : State Id) : State Id :=
  let stage :=
    match state.l1 service with
    | some tokens => Stage.returned tokens
    | none => .reading
  state.setTask (.get id) (some { service, version := state.processed service, stage })

def take (service : Id) (version : Version) (rest : List Version) (state : State Id) :
    State Id :=
  { state.set_l1 service none with
    notifications := Function.update state.notifications service rest }.setTask
      (.listener service) (some { service, version, stage := .reading })

/-- The tokens are in L1 at last: a call returns them, and the notification has
been processed. -/
def conclude (loader : Loader Id) (task : Task Id) (tokens : Tokens)
    (state : State Id) :
    State Id :=
  let cached := state.set_l1 task.service (some tokens)
  match loader with
  | .get id => cached.setTask (.get id) (some { task with stage := .returned tokens })
  | .listener service =>
      { cached with
        processed := Function.update state.processed service
          (state.processed service ⊔ task.version) }.setTask (.listener service) none

/-- What follows the reply of Redis. -/
def resume (defaults : Field → String) (loader : Loader Id) (task : Task Id)
    (reply : Option Tokens) (state : State Id) : State Id :=
  match reply with
  | some tokens => state.conclude loader task tokens
  | none =>
      let tokens := load_from_config defaults (state.configs task.service)
      state.setTask loader (some { task with stage := .storing tokens })

end State

def step (defaults : Field → String) (state : State Id) : Label Id → Option (State Id)
  | .update id request =>
      match state.updates id, update_dhan_tokens request state.rows with
      | none, some rows =>
          some ({ state with rows }.setUpdate id
            (some (rows.version, .committed request)))
      | _, _ => none
  | .read_rows id =>
      match state.updates id with
      | some (version, .committed request) =>
          some (state.setUpdate id
            (some (version, .read (current_tokens request version state.rows))))
      | _ => none
  | .write id =>
      match state.updates id with
      | some (version, .read tokens) =>
          some ({ state.set_redis (some tokens) with
            written := state.written ⊔ version }.setUpdate id
              (some (version, .written)))
      | _ => none
  | .publish id =>
      match state.updates id with
      | some (version, .written) =>
          some { state.setUpdate id none with
            notifications := fun service => state.notifications service ++ [version] }
      | _ => none
  | .update_failed id =>
      match state.updates id with
      | some _ => some (state.setUpdate id none)
      | none => none
  | .reload service field => some (state.reload service field)
  | .get id service =>
      match state.tasks (.get id) with
      | none => some (state.get id service)
      | some _ => none
  | .take service =>
      match state.tasks (.listener service), state.notifications service with
      | none, version :: rest => some (state.take service version rest)
      | _, _ => none
  | .redis_get loader ok =>
      match state.tasks loader with
      | some { service, version, stage := .reading } =>
          some (state.setTask loader (some
            { service, version
              stage := .received (if ok then state.redis else none) }))
      | _ => none
  | .resume loader =>
      match state.tasks loader with
      | some { service, version, stage := .received reply } =>
          some (state.resume defaults loader
            { service, version, stage := .received reply } reply)
      | _ => none
  | .redis_setex loader ok =>
      match state.tasks loader with
      | some { service, version, stage := .storing tokens } =>
          let stored := if ok then state.set_redis (some tokens) else state
          some (stored.setTask loader (some
            { service, version, stage := .stored tokens }))
      | _ => none
  | .finish loader =>
      match state.tasks loader with
      | some { service, version, stage := .stored tokens } =>
          some (state.conclude loader
            { service, version, stage := .stored tokens } tokens)
      | _ => none
  | .expire => some (state.set_redis none)

def start (rows : Rows) : State Id where
  rows
  configs := fun _ => rows

def system (defaults : Field → String) (rows : Rows) :
    System (State Id) (Label Id) where
  start := start rows
  step := step defaults

end Step

/-! ## Freshness -/

section Fresh

variable {Id : Type}

/-- A call returns tokens at least as new as every update whose notification its
instance had processed when it started. -/
def Fresh (state : State Id) : Prop :=
  ∀ id service version tokens,
    state.tasks (.get id) = some { service, version, stage := .returned tokens } →
    version ≤ tokens.version

/-- Nothing is taken to an L1 that is older than what its instance has processed
or is processing, or to Redis that is older than what an update has written
there. -/
def Timely (defaults : Field → String) (state : State Id) : Label Id → Prop
  | .write id =>
      ∀ version tokens, state.updates id = some (version, .read tokens) →
        state.written ≤ tokens.version
  | .resume (.get id) =>
      ∀ service version tokens, state.tasks (.get id) =
        some { service, version, stage := .received (some tokens) } →
        state.processed service ≤ tokens.version
  | .resume (.listener service) =>
      ∀ host version, state.tasks (.listener service) =
        some { service := host, version, stage := .received none } →
        let tokens := load_from_config defaults (state.configs service)
        version ≤ tokens.version ∧ state.processed service ≤ tokens.version
  | .redis_setex loader ok =>
      ok = true → ∀ service version tokens, state.tasks loader =
        some { service, version, stage := .storing tokens } →
        state.written ≤ tokens.version
  | .finish (.get id) =>
      ∀ service version tokens, state.tasks (.get id) =
        some { service, version, stage := .stored tokens } →
        state.processed service ≤ tokens.version
  | _ => True

/-! ## The invariant -/

/-- The tokens that a listener has to take to L1. -/
def Stage.pending? : Stage → Option Tokens
  | .received reply => reply
  | .storing tokens | .stored tokens => some tokens
  | .reading | .returned _ => none

def Stage.returned? : Stage → Option Tokens
  | .returned tokens => some tokens
  | .reading | .received _ | .storing _ | .stored _ => none

structure GetValid (processed : Id → Version) (task : Task Id) : Prop where
  processed : task.version ≤ processed task.service
  returned : ∀ tokens, task.stage.returned? = some tokens →
    task.version ≤ tokens.version

structure ListenerValid (written processed : Version) (service : Id) (task : Task Id) :
    Prop where
  service : task.service = service
  written : task.version ≤ written
  pending : ∀ tokens, task.stage.pending? = some tokens →
    task.version ≤ tokens.version ∧ processed ≤ tokens.version

def Task.Valid (written : Version) (processed : Id → Version) (loader : Loader Id)
    (task : Task Id) : Prop :=
  match loader with
  | .get _ => GetValid processed task
  | .listener service => ListenerValid written (processed service) service task

def Update.Valid (rows : Rows) (written : Version) (update : Version × Update) : Prop :=
  update.1 ≤ rows.version ∧
    match update.2 with
    | .committed _ => True
    | .read tokens => update.1 ≤ tokens.version
    | .written => update.1 ≤ written

structure Valid (state : State Id) : Prop where
  redis : ∀ tokens, state.redis = some tokens → state.written ≤ tokens.version
  l1 : ∀ service tokens, state.l1 service = some tokens →
    state.processed service ≤ tokens.version
  processed : ∀ service, state.processed service ≤ state.written
  updates : Tasks.All (fun _ => Update.Valid state.rows state.written) state.updates
  notifications : ∀ service, ∀ version ∈ state.notifications service,
    version ≤ state.written
  tasks : Tasks.All (Task.Valid state.written state.processed) state.tasks

section Steps

variable {state : State Id} {defaults : Field → String}

theorem valid_start (rows : Rows) : Valid (start rows : State Id) where
  redis := by
    intro tokens impossible
    cases impossible
  l1 := by
    intro service tokens impossible
    cases impossible
  processed := fun _ => le_rfl
  updates := .start _
  notifications := by
    intro service version impossible
    cases impossible
  tasks := .start _

theorem Valid.setUpdate (valid : Valid state) {id : ℕ} {update : Version × Update}
    (own : Update.Valid state.rows state.written update) :
    Valid (state.setUpdate id (some update)) :=
  { valid with updates := valid.updates.update own }

/-! ### Updates -/

theorem Valid.update (valid : Valid state) {request : Field → Option String}
    {rows : Rows}
    (accepted : update_dhan_tokens request state.rows = some rows) (id : ℕ) :
    Valid ({ state with rows }.setUpdate id
      (some (rows.version, .committed request))) := by
  have grown : state.rows.version ≤ rows.version := by
    unfold update_dhan_tokens at accepted
    split at accepted
    case isTrue => contradiction
    case isFalse =>
        obtain rfl := Option.some.inj accepted
        exact fun field => Nat.le_add_right _ _
  have committed : Valid { state with rows } :=
    { valid with
      updates := fun other update found =>
        ⟨(valid.updates other update found).1.trans grown,
          (valid.updates other update found).2⟩ }
  exact committed.setUpdate ⟨le_rfl, trivial⟩

theorem Valid.read_rows (valid : Valid state) {id : ℕ} {version : Version}
    {request : Field → Option String}
    (found : state.updates id = some (version, .committed request)) :
    Valid (state.setUpdate id
      (some (version, .read (current_tokens request version state.rows)))) := by
  have committed : version ≤ state.rows.version := (valid.updates id _ found).1
  apply valid.setUpdate
  refine ⟨committed, ?_⟩
  intro field
  simp only [current_tokens]
  split
  case isTrue => exact le_rfl
  case isFalse => exact committed field

theorem Task.Valid.write {written later : Version} {processed : Id → Version}
    {loader : Loader Id} {task : Task Id} (valid : task.Valid written processed loader)
    (grown : written ≤ later) : task.Valid later processed loader := by
  cases loader with
  | get id => exact valid
  | listener service => exact ⟨valid.service, valid.written.trans grown, valid.pending⟩

theorem Valid.write (valid : Valid state) {id : ℕ} {version : Version} {tokens : Tokens}
    (found : state.updates id = some (version, .read tokens))
    (timely : state.written ≤ tokens.version) :
    Valid ({ state.set_redis (some tokens) with
      written := state.written ⊔ version }.setUpdate id
        (some (version, .written))) := by
  have own := valid.updates id _ found
  have grown : state.written ≤ state.written ⊔ version := le_sup_left
  have written : Valid { state.set_redis (some tokens) with
      written := state.written ⊔ version } :=
    { redis := fun _ same => Option.some.inj same ▸ sup_le timely own.2
      l1 := valid.l1
      processed := fun service => (valid.processed service).trans grown
      updates := by
        intro other update present
        obtain ⟨committed, stage⟩ := valid.updates other update present
        refine ⟨committed, ?_⟩
        cases done : update.2 with
        | committed request => trivial
        | read tokens =>
            rw [done] at stage
            exact stage
        | written =>
            rw [done] at stage
            exact le_trans stage grown
      notifications := fun service old member =>
        (valid.notifications service old member).trans grown
      tasks := fun loader task present => (valid.tasks loader task present).write
        grown }
  exact written.setUpdate ⟨own.1, le_sup_right⟩

theorem Valid.publish (valid : Valid state) {id : ℕ} {version : Version}
    (found : state.updates id = some (version, .written)) :
    Valid { state.setUpdate id none with
      notifications := fun service => state.notifications service ++ [version] } :=
  { valid with
    updates := valid.updates.clear id
    notifications := by
      intro service other member
      rcases List.mem_append.mp member with waiting | published
      · exact valid.notifications service other waiting
      · rw [List.mem_singleton.mp published]
        exact (valid.updates id _ found).2 }

/-! ### Calls and listeners -/

/-- A stage of a call that has returned nothing yet. -/
theorem Task.Valid.of_get {id : ℕ} {task : Task Id} {stage : Stage}
    (valid : task.Valid state.written state.processed (.get id))
    (silent : stage.returned? = none) :
    Task.Valid state.written state.processed (.get id) { task with stage } :=
  ⟨valid.processed, by simp [silent]⟩

theorem Task.Valid.of_listener {service : Id} {task : Task Id} {stage : Stage}
    (valid : task.Valid state.written state.processed (.listener service))
    (pending : ∀ tokens, stage.pending? = some tokens →
      task.version ≤ tokens.version ∧ state.processed service ≤ tokens.version) :
    Task.Valid state.written state.processed (.listener service) { task with stage } :=
  ⟨valid.service, valid.written, pending⟩

variable [DecidableEq Id]

theorem Valid.reload (valid : Valid state) (service : Id) (field : Field) :
    Valid (state.reload service field) := by
  unfold State.reload
  split
  case h_1 => exact { valid with }
  case h_2 => exact valid

theorem Valid.setTask (valid : Valid state) {loader : Loader Id} {task : Task Id}
    (own : task.Valid state.written state.processed loader) :
    Valid (state.setTask loader (some task)) :=
  { valid with tasks := valid.tasks.update own }

theorem Valid.set_l1 (valid : Valid state) {service : Id} {tokens : Option Tokens}
    (recent : ∀ found, tokens = some found →
      state.processed service ≤ found.version) : Valid (state.set_l1 service tokens) :=
  { valid with
    l1 := by
      intro other found cached
      by_cases same : other = service
      · subst same
        simp only [State.set_l1, Function.update_self] at cached
        exact recent found cached
      · simp only [State.set_l1, Function.update_of_ne same] at cached
        exact valid.l1 other found cached }

theorem Valid.get (valid : Valid state) (id : ℕ) (service : Id) :
    Valid (state.get id service) := by
  apply valid.setTask
  refine ⟨le_rfl, ?_⟩
  intro tokens returned
  cases cached : state.l1 service with
  | none => simp [cached, Stage.returned?] at returned
  | some found =>
      simp only [cached, Stage.returned?, Option.some.injEq] at returned
      exact returned ▸ valid.l1 service found cached

theorem Valid.take (valid : Valid state) {service : Id} {version : Version}
    {rest : List Version} (waiting : state.notifications service = version :: rest) :
    Valid (state.take service version rest) := by
  have published : ∀ other ∈ version :: rest, other ≤ state.written := by
    rw [← waiting]
    exact valid.notifications service
  have cleared : Valid (state.set_l1 service none) := valid.set_l1 (by simp)
  have taken : Valid { state.set_l1 service none with
      notifications := Function.update state.notifications service rest } :=
    { cleared with
      notifications := by
        apply Function.forall_update_iff _
          (fun _ waiting => ∀ version ∈ waiting, version ≤ state.written) |>.mpr
        exact ⟨fun other member => published other (List.mem_cons_of_mem _ member),
          fun other _ => valid.notifications other⟩ }
  apply taken.setTask
  exact ⟨rfl, published version List.mem_cons_self, by simp [Stage.pending?]⟩

/-- Redis has for a listener the tokens that its notification tells of. -/
theorem Valid.redis_get (valid : Valid state) {loader : Loader Id} {service : Id}
    {version : Version}
    (found : state.tasks loader = some { service, version, stage := .reading })
    (ok : Bool) :
    Valid (state.setTask loader (some
      { service, version
        stage := .received (if ok then state.redis else none) })) := by
  have own := valid.tasks loader _ found
  apply valid.setTask
  cases loader with
  | get id => exact Task.Valid.of_get own rfl
  | listener host =>
      apply Task.Valid.of_listener own
      intro tokens reply
      have cached : state.redis = some tokens := by
        cases ok with
        | true => simpa [Stage.pending?] using reply
        | false => simp [Stage.pending?] at reply
      have recent := valid.redis tokens cached
      exact ⟨own.written.trans recent, (valid.processed host).trans recent⟩

theorem Valid.redis_setex (valid : Valid state) {loader : Loader Id} {service : Id}
    {version : Version} {tokens : Tokens}
    (found : state.tasks loader =
      some { service, version, stage := .storing tokens }) {ok : Bool}
    (timely : ok = true → state.written ≤ tokens.version) :
    Valid ((if ok then state.set_redis (some tokens) else state).setTask loader
      (some { service, version, stage := .stored tokens })) := by
  have own := valid.tasks loader _ found
  have stored : Valid (if ok then state.set_redis (some tokens) else state) := by
    split
    case isTrue written =>
        exact { valid with
          redis := fun _ same => Option.some.inj same ▸ timely written }
    case isFalse => exact valid
  apply stored.setTask
  have unchanged : Task.Valid state.written state.processed loader
      { service, version, stage := .stored tokens } := by
    cases loader with
    | get id => exact Task.Valid.of_get own rfl
    | listener host => exact Task.Valid.of_listener own own.pending
  cases ok <;> exact unchanged

theorem Valid.conclude_get (valid : Valid state) {id : ℕ} {task : Task Id}
    {tokens : Tokens} (found : state.tasks (.get id) = some task)
    (timely : state.processed task.service ≤ tokens.version) :
    Valid (state.conclude (.get id) task tokens) := by
  have own : GetValid state.processed task := valid.tasks _ _ found
  have cached : Valid (state.set_l1 task.service (some tokens)) := by
    apply valid.set_l1
    intro other same
    exact Option.some.inj same ▸ timely
  apply cached.setTask
  refine ⟨own.processed, ?_⟩
  intro other same
  exact Option.some.inj same ▸ own.processed.trans timely

theorem Valid.conclude_listener (valid : Valid state) {service : Id} {task : Task Id}
    {tokens : Tokens} (found : state.tasks (.listener service) = some task)
    (pending : task.stage.pending? = some tokens) :
    Valid (state.conclude (.listener service) task tokens) := by
  have own : ListenerValid state.written (state.processed service) service task :=
    valid.tasks _ _ found
  have recent := own.pending tokens pending
  have grown : state.processed ≤ Function.update state.processed service
      (state.processed service ⊔ task.version) := by
    apply (Function.forall_update_iff _
      (fun other later => state.processed other ≤ later)).mpr
    exact ⟨le_sup_left, fun _ _ => le_rfl⟩
  simp only [State.conclude, own.service]
  exact
    { redis := valid.redis
      l1 := by
        intro other cached present
        by_cases same : other = service
        · subst same
          simp only [State.setTask, State.set_l1, Function.update_self,
            Option.some.injEq] at present ⊢
          exact present ▸ sup_le recent.2 recent.1
        · simp only [State.setTask, State.set_l1,
            Function.update_of_ne same] at present ⊢
          exact valid.l1 other cached present
      processed := by
        apply Function.forall_update_iff _ (fun _ later => later ≤ state.written) |>.mpr
        exact ⟨sup_le (valid.processed service) own.written,
          fun other _ => valid.processed other⟩
      updates := valid.updates
      notifications := valid.notifications
      tasks := by
        apply Tasks.all_update
        · intro loader other different present
          have others := valid.tasks loader other present
          cases loader with
          | get id => exact ⟨others.processed.trans (grown _), others.returned⟩
          | listener host =>
              have elsewhere : host ≠ service := fun same => different (same ▸ rfl)
              simp only [Task.Valid, State.setTask, State.set_l1,
                Function.update_of_ne elsewhere]
              exact others
        · simp }

theorem Valid.resume (valid : Valid state) {loader : Loader Id} {service : Id}
    {version : Version} {reply : Option Tokens}
    (found : state.tasks loader =
      some { service, version, stage := .received reply })
    (timely : Timely defaults state (.resume loader)) :
    Valid (state.resume defaults loader
      { service, version, stage := .received reply } reply) := by
  have own := valid.tasks loader _ found
  cases reply with
  | some tokens =>
      cases loader with
      | get id => exact valid.conclude_get found (timely service version tokens found)
      | listener host => exact valid.conclude_listener found rfl
  | none =>
      apply valid.setTask
      cases loader with
      | get id => exact Task.Valid.of_get own rfl
      | listener host =>
          apply Task.Valid.of_listener own
          intro tokens loaded
          have host_is : service = host := own.service
          have recent := timely service version found
          rw [← host_is] at recent ⊢
          exact Option.some.inj loaded ▸ recent

theorem Valid.step (valid : Valid state) {label : Label Id} {after : State Id}
    (timely : Timely defaults state label)
    (taken : step defaults state label = some after) : Valid after := by
  cases label with
  | update id request =>
      simp only [DhanTokens.step] at taken
      split at taken
      case h_1 accepted => exact Option.some.inj taken ▸ valid.update accepted id
      case h_2 => contradiction
  | read_rows id =>
      simp only [DhanTokens.step] at taken
      split at taken
      case h_1 found => exact Option.some.inj taken ▸ valid.read_rows found
      case h_2 => contradiction
  | write id =>
      simp only [DhanTokens.step] at taken
      split at taken
      case h_1 found =>
          exact Option.some.inj taken ▸ valid.write found (timely _ _ found)
      case h_2 => contradiction
  | publish id =>
      simp only [DhanTokens.step] at taken
      split at taken
      case h_1 found => exact Option.some.inj taken ▸ valid.publish found
      case h_2 => contradiction
  | update_failed id =>
      simp only [DhanTokens.step] at taken
      split at taken
      case h_1 =>
          obtain rfl := Option.some.inj taken
          exact { valid with updates := valid.updates.clear id }
      case h_2 => contradiction
  | reload service field => exact Option.some.inj taken ▸ valid.reload service field
  | get id service =>
      simp only [DhanTokens.step] at taken
      split at taken
      case h_1 => exact Option.some.inj taken ▸ valid.get id service
      case h_2 => contradiction
  | take service =>
      simp only [DhanTokens.step] at taken
      split at taken
      case h_1 waiting => exact Option.some.inj taken ▸ valid.take waiting
      case h_2 => contradiction
  | redis_get loader ok =>
      simp only [DhanTokens.step] at taken
      split at taken
      case h_1 found => exact Option.some.inj taken ▸ valid.redis_get found ok
      case h_2 => contradiction
  | resume loader =>
      simp only [DhanTokens.step] at taken
      split at taken
      case h_1 found => exact Option.some.inj taken ▸ valid.resume found timely
      case h_2 => contradiction
  | redis_setex loader ok =>
      simp only [DhanTokens.step] at taken
      split at taken
      case h_1 found =>
          obtain rfl := Option.some.inj taken
          exact valid.redis_setex found (fun stored => timely stored _ _ _ found)
      case h_2 => contradiction
  | finish loader =>
      simp only [DhanTokens.step] at taken
      split at taken
      case h_1 found =>
          obtain rfl := Option.some.inj taken
          cases loader with
          | get id => exact valid.conclude_get found (timely _ _ _ found)
          | listener host => exact valid.conclude_listener found rfl
      case h_2 => contradiction
  | expire =>
      obtain rfl := Option.some.inj taken
      exact { valid with
        redis := by
          intro tokens impossible
          cases impossible }

end Steps

/-- In every run with timely steps a call returns tokens at least as new as every
update whose notification had been processed when it started. -/
theorem get_dhan_tokens_fresh [DecidableEq Id] {defaults : Field → String} {rows : Rows}
    {state : State Id} (reached : ReachedBy (system defaults rows) (Timely defaults)
      state) :
    Fresh state := by
  have valid : Valid state := by
    apply reached.invariant (valid_start rows)
    intro before label after valid timely taken
    exact valid.step timely taken
  intro id service version tokens returned
  have own : GetValid state.processed _ := valid.tasks _ _ returned
  exact own.returned tokens rfl

end Fresh

/-! ## Runs of one instance -/

def first_rows : Rows where
  text := fun _ => some "first"

def second_token (field : Field) : Option String :=
  match field with
  | .auth_token => some "second"
  | .authorization_token => none

def after (labels : List (Label Unit)) : State Unit :=
  (labels.foldlM (step (fun _ => "default")) (start first_rows)).getD (start first_rows)

abbrev started : System (State Unit) (Label Unit) :=
  system (fun _ => "default") first_rows

/-- An admin changes a token, and its instance is told and takes it to L1. -/
def update_and_take : List (Label Unit) :=
  [.update 0 second_token, .read_rows 0, .write 0, .publish 0, .take (),
    .redis_get (.listener ()) true, .resume (.listener ())]

theorem fresh_update_and_take :
    Fresh (after (update_and_take ++ [.get 0 ()])) := by
  have read : ReachedBy started (Timely (fun _ => "default"))
      (after [.update 0 second_token, .read_rows 0]) :=
    ReachedBy.follow (by simp [Timely]) .start
      (rfl : [Label.update 0 second_token, .read_rows 0].foldlM
        (step (fun _ => "default")) (start first_rows) = some _)
  have first : Timely (fun _ => "default")
      (after [.update 0 second_token, .read_rows 0]) (.write 0) := by
    intro version tokens _ field
    exact Nat.zero_le _
  have taken : ReachedBy started (Timely (fun _ => "default"))
      (after [.update 0 second_token, .read_rows 0, .write 0, .publish 0, .take (),
        .redis_get (.listener ()) true]) :=
    ReachedBy.follow (by simp [Timely]) (.step read first rfl)
      (rfl : [Label.publish 0, .take (), .redis_get (.listener ()) true].foldlM
        (step (fun _ => "default")) (after [.update 0 second_token, .read_rows 0,
          .write 0]) = some _)
  have found : Timely (fun _ => "default")
      (after [.update 0 second_token, .read_rows 0, .write 0, .publish 0, .take (),
        .redis_get (.listener ()) true]) (.resume (.listener ())) := by
    intro host version received
    obtain ⟨-, -, same⟩ := Task.mk.inj (Option.some.inj received)
    cases same
  have resumed : ReachedBy started (Timely (fun _ => "default"))
      (after update_and_take) := .step taken found rfl
  have returned : ReachedBy started (Timely (fun _ => "default"))
      (after (update_and_take ++ [.get 0 ()])) :=
    ReachedBy.follow (by simp [Timely]) resumed
      (rfl : [Label.get 0 ()].foldlM (step (fun _ => "default"))
        (after update_and_take) = some _)
  exact get_dhan_tokens_fresh returned

/-- A call has loaded the old token before the update, and stores it after. -/
def overtaken : List (Label Unit) :=
  [.get 0 (), .redis_get (.get 0) true, .resume (.get 0)] ++ update_and_take ++
    [.redis_setex (.get 0) true, .finish (.get 0)]

/-- The notification has been processed and no call is in flight, and the next one
returns the old token. -/
theorem overtaken_stale :
    Reachable started (after overtaken) ∧
    (after overtaken).processed () .auth_token = 1 ∧
    (∀ id task, (after overtaken).tasks (.get id) = some task →
      ∃ tokens, task.stage = .returned tokens) ∧
    Reachable started (after (overtaken ++ [.get 1 ()])) ∧
    ¬Fresh (after (overtaken ++ [.get 1 ()])) := by
  have reached : Reachable started (after overtaken) :=
    ReachedBy.follow (fun _ _ _ => trivial) .start
      (rfl : overtaken.foldlM (step (fun _ => "default")) (start first_rows) = some _)
  have called : Reachable started (after (overtaken ++ [.get 1 ()])) :=
    ReachedBy.follow (fun _ _ _ => trivial) reached
      (rfl : [Label.get 1 ()].foldlM (step (fun _ => "default")) (after overtaken) =
        some _)
  refine ⟨reached, rfl, ?_, called, ?_⟩
  · intro id task found
    cases id with
    | zero => exact ⟨_, congrArg Task.stage (Option.some.inj found).symm⟩
    | succ id => cases found
  · intro fresh
    have newer := fresh 1 () _ _ rfl .auth_token
    exact absurd newer (by decide)

end HftEngine.DhanTokens
