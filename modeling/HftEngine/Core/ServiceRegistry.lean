import HftEngine.Lib.Tasks
import HftEngine.Lib.Transition
import Mathlib.Data.Finset.Erase
import Mathlib.Data.Finset.Insert

/-!
# The in-memory service registry

Instances are registered under the name of their service.  A registration with a health
check url starts a loop that requests it, and removes the instance by its id when a check
fails.
-/

namespace HftEngine.ServiceRegistry

open Transition Tasks

/-- Registrations are numbered; two with the same data are different objects. -/
structure ServiceInstance where
  number : ℕ
  service_name : String
  instance_id : String
  health_check_url : Option String
  deriving DecidableEq

/-- A url that is the empty text counts as none. -/
def ServiceInstance.checked (inst : ServiceInstance) : Bool :=
  inst.health_check_url.any (· ≠ "")

def task_key (service_name instance_id : String) : String :=
  service_name ++ ":" ++ instance_id

/-- Where a check goes on once its client is closed. -/
inductive Exit where
  | sleep
  | stop
  | except
  | cancel
  deriving DecidableEq

/-- Where a loop waits: to be started, for the response, for its client to close, or for
the next check. -/
inductive Stage where
  | created
  | requesting
  | closing (exit : Exit)
  | sleeping
  | ended
  deriving DecidableEq

/-- `cancelled` is a cancellation that has been asked for and not yet been raised. -/
structure Loop where
  inst : ServiceInstance
  stage : Stage := .created
  cancelled : Bool := false

/-- How the await of a loop ends.  After a start or a sleep, `raised` means that no client
can be made. -/
inductive Outcome where
  | returned
  | responded (status_code : ℤ)
  | raised
  | cancelled
  deriving DecidableEq

namespace Loop

/-- The loop goes on with its checks. -/
def running (loop : Loop) : Bool :=
  !loop.cancelled && loop.stage ≠ .ended && loop.stage ≠ .closing .cancel

/-- The event loop raises a cancellation at the next turn; what the client makes of it is
left open. -/
def admits (loop : Loop) (outcome : Outcome) : Bool :=
  match loop.stage with
  | .created => !loop.cancelled || outcome = .cancelled
  | .sleeping => !loop.cancelled || outcome = .cancelled
  | _ => true

/-- Where the loop waits next. -/
def next (loop : Loop) : Outcome → Option Stage
  | .returned =>
      match loop.stage with
      | .created => some .requesting
      | .requesting => none
      | .closing .sleep => some .sleeping
      | .closing _ => some .ended
      | .sleeping => some .requesting
      | .ended => none
  | .responded status_code =>
      match loop.stage with
      | .requesting => some (.closing (if status_code ≠ 200 then .stop else .sleep))
      | _ => none
  | .raised =>
      match loop.stage with
      | .requesting => some (.closing .except)
      | .ended => none
      | _ => some .ended
  | .cancelled =>
      match loop.stage with
      | .requesting => some (.closing .cancel)
      | .ended => none
      | _ => some .ended

/-- The check has failed, and the instance is removed before the loop waits again. -/
def removes (loop : Loop) : Outcome → Bool
  | .returned => loop.stage = .closing .except
  | .responded status_code => status_code ≠ 200
  | .raised => loop.stage ≠ .requesting
  | .cancelled => false

end Loop

/-- Loops have the number of the registration that has started them; `deregistered` holds
the instances that have not been registered again. -/
structure State where
  services : String → List ServiceInstance := fun _ => []
  health_checks : String → Option ℕ := fun _ => none
  registered : ℕ := 0
  loops : ℕ → Option Loop := fun _ => none
  deregistered : Finset (String × String) := ∅

inductive Label where
  | register (service_name instance_id : String) (health_check_url : Option String)
  | deregister (service_name instance_id : String)
  | turn (number : ℕ) (outcome : Outcome)

namespace State

def remove (service_name instance_id : String) (state : State) : State :=
  { state with
    services := Function.update state.services service_name
      ((state.services service_name).filter (·.instance_id ≠ instance_id)) }

/-- Cancel the task of a key, if there is one. -/
def cancel (key : String) (state : State) : State :=
  { state with
    loops :=
      match state.health_checks key with
      | some number =>
          Function.update state.loops number
            ((state.loops number).map (fun loop => { loop with cancelled := true }))
      | none => state.loops }

def add (inst : ServiceInstance) (state : State) : State :=
  { state with
    services := Function.update state.services inst.service_name
      (state.services inst.service_name ++ [inst])
    registered := state.registered + 1
    deregistered := state.deregistered.erase (inst.service_name, inst.instance_id) }

def start (key : String) (inst : ServiceInstance) (state : State) : State :=
  { state with
    health_checks := Function.update state.health_checks key (some inst.number)
    loops := Function.update state.loops inst.number (some { inst }) }

def register_memory (inst : ServiceInstance) (state : State) : State :=
  let state := (state.remove inst.service_name inst.instance_id).add inst
  let key := task_key inst.service_name inst.instance_id
  if inst.checked then (state.cancel key).start key inst else state

def deregister (service_name instance_id : String) (state : State) : State :=
  let key := task_key service_name instance_id
  let state := (state.remove service_name instance_id).cancel key
  { state with
    health_checks := Function.update state.health_checks key none
    deregistered := insert (service_name, instance_id) state.deregistered }

def turn (number : ℕ) (loop : Loop) (stage : Stage) (outcome : Outcome) (state : State) :
    State :=
  let state :=
    if loop.removes outcome then state.remove loop.inst.service_name loop.inst.instance_id
    else state
  { state with
    loops := Function.update state.loops number (some { inst := loop.inst, stage }) }

end State

def step (state : State) : Label → Option State
  | .register service_name instance_id health_check_url =>
      some (state.register_memory
        { number := state.registered, service_name, instance_id, health_check_url })
  | .deregister service_name instance_id =>
      some (state.deregister service_name instance_id)
  | .turn number outcome =>
      match state.loops number with
      | some loop =>
          if loop.admits outcome then
            (loop.next outcome).map (fun stage => state.turn number loop stage outcome)
          else none
      | none => none

def registry : System State Label where
  start := {}
  step := step

/-! ## What leaves the registry -/

/-- The registration is replaced or deregistered, or its own check fails. -/
def Departs (state : State) (service_name : String) (inst : ServiceInstance) :
    Label → Prop
  | .register service id _ => service = service_name ∧ id = inst.instance_id
  | .deregister service id => service = service_name ∧ id = inst.instance_id
  | .turn number outcome =>
      ∃ loop, state.loops number = some loop ∧ loop.inst = inst ∧
        loop.removes outcome = true

/-- What a registration leaves by, and that no check of a deregistered instance runs. -/
structure Sound (before : State) (label : Label) (after : State) : Prop where
  departs : ∀ service_name, ∀ inst ∈ before.services service_name,
    inst ∉ after.services service_name → Departs before service_name inst label
  quiet : ∀ number loop, after.loops number = some loop →
    (loop.inst.service_name, loop.inst.instance_id) ∈ after.deregistered →
      loop.running = false

/-- An instance is registered without a url only while no loop of it runs.  The client of a
check lets a cancellation through, and closes after it without another exception. -/
def Timely (state : State) : Label → Prop
  | .register service_name instance_id health_check_url =>
      health_check_url.any (· ≠ "") = false →
        ∀ number loop, state.loops number = some loop →
          loop.inst.service_name = service_name → loop.inst.instance_id = instance_id →
            loop.running = false
  | .deregister _ _ => True
  | .turn number outcome =>
      ∀ loop, state.loops number = some loop →
        (loop.cancelled = true → outcome = .cancelled) ∧
          (loop.stage = .closing .cancel → outcome ≠ .raised)

/-! ## The invariant -/

/-- A loop that runs is the current one of its key, its instance is not deregistered, and
nothing else is registered under the id of its instance. -/
structure Loop.Owns (state : State) (number : ℕ) (loop : Loop) : Prop where
  current : state.health_checks (task_key loop.inst.service_name loop.inst.instance_id) =
    some number
  wanted : (loop.inst.service_name, loop.inst.instance_id) ∉ state.deregistered
  own : ∀ inst ∈ state.services loop.inst.service_name,
    inst.instance_id = loop.inst.instance_id → inst = loop.inst

structure Loop.Valid (state : State) (number : ℕ) (loop : Loop) : Prop where
  started : number < state.registered
  owns : loop.running = true → loop.Owns state number

def Valid (state : State) : Prop := All (Loop.Valid state) state.loops

section Registry

variable {state after : State} {number : ℕ} {loop : Loop} {inst : ServiceInstance}
  {service_name instance_id key : String}

theorem mem_remove {service : String} :
    inst ∈ (state.remove service_name instance_id).services service ↔
      inst ∈ state.services service ∧
        ¬(service_name = service ∧ instance_id = inst.instance_id) := by
  by_cases same : service = service_name
  · subst same
    simp only [State.remove, Function.update_self, List.mem_filter, decide_eq_true_iff,
      true_and, ne_comm, ne_eq]
  · simp only [State.remove, Function.update_of_ne same, Ne.symm same, false_and,
      not_false_iff, and_true]

theorem mem_add {service : String} {old : ServiceInstance}
    (found : old ∈ state.services service) : old ∈ (state.add inst).services service := by
  by_cases same : service = inst.service_name
  · subst same
    simp only [State.add, Function.update_self]
    exact List.mem_append_left _ found
  · simp only [State.add, Function.update_of_ne same]
    exact found

/-- A registration is the only one under its id. -/
theorem eq_of_registered {old : ServiceInstance}
    (found : old ∈ ((state.remove inst.service_name inst.instance_id).add inst).services
      inst.service_name)
    (same : old.instance_id = inst.instance_id) : old = inst := by
  simp only [State.add, Function.update_self] at found
  rcases List.mem_append.mp found with left | new
  · exact absurd ⟨rfl, same.symm⟩ (mem_remove.mp left).2
  · exact List.mem_singleton.mp new

theorem mem_of_add {service : String} {old : ServiceInstance}
    (apart : ¬(inst.service_name = service ∧ inst.instance_id = old.instance_id))
    (found : old ∈ (state.add inst).services service) : old ∈ state.services service := by
  by_cases same : service = inst.service_name
  · subst same
    simp only [State.add, Function.update_self] at found
    rcases List.mem_append.mp found with left | new
    · exact left
    · exact absurd ⟨rfl, congrArg _ (List.mem_singleton.mp new).symm⟩ apart
  · simp only [State.add, Function.update_of_ne same] at found
    exact found

/-! ### Cancellation -/

/-- A loop after a cancellation is as before, or cancelled. -/
theorem cancel_cases (found : (state.cancel key).loops number = some loop) :
    (state.loops number = some loop ∧ state.health_checks key ≠ some number) ∨
      ∃ old, state.loops number = some old ∧ loop = { old with cancelled := true } := by
  cases checking : state.health_checks key with
  | some own =>
      simp only [State.cancel, checking] at found
      by_cases same : number = own
      · subst same
        rw [Function.update_self] at found
        obtain ⟨old, there, changed⟩ := Option.map_eq_some_iff.mp found
        exact .inr ⟨old, there, changed.symm⟩
      · rw [Function.update_of_ne same] at found
        refine .inl ⟨found, ?_⟩
        intro current
        exact same (Option.some.inj current).symm
  | none =>
      simp only [State.cancel, checking] at found
      exact .inl ⟨found, nofun⟩

/-- A loop that runs after a cancellation has another key. -/
theorem Loop.Valid.uncancelled (valid : HftEngine.ServiceRegistry.Valid state)
    (found : (state.cancel key).loops number = some loop) :
    number < state.registered ∧
      (loop.running = true → loop.Owns state number ∧
        task_key loop.inst.service_name loop.inst.instance_id ≠ key) := by
  rcases cancel_cases found with ⟨there, other⟩ | ⟨old, there, rfl⟩
  · have own := valid number loop there
    refine ⟨own.started, ?_⟩
    intro runs
    have owns := own.owns runs
    refine ⟨owns, ?_⟩
    intro same
    exact other (same ▸ owns.current)
  · exact ⟨(valid number old there).started, nofun⟩

/-! ### Registration -/

/-- A loop of another instance is not concerned. -/
theorem Loop.Owns.registered (owns : loop.Owns state number)
    (apart : ¬(inst.service_name = loop.inst.service_name ∧
      inst.instance_id = loop.inst.instance_id)) :
    loop.Owns ((state.remove inst.service_name inst.instance_id).add inst) number where
  current := owns.current
  wanted := by
    intro found
    exact owns.wanted (Finset.mem_of_mem_erase found)
  own := by
    intro old found same
    have left := mem_of_add (same ▸ apart) found
    exact owns.own old (mem_remove.mp left).1 same

theorem Valid.register_unchecked (valid : Valid state)
    (quiet : ∀ number loop, state.loops number = some loop →
      loop.inst.service_name = inst.service_name →
        loop.inst.instance_id = inst.instance_id → loop.running = false) :
    Valid ((state.remove inst.service_name inst.instance_id).add inst) := by
  intro number loop found
  have own := valid number loop found
  refine ⟨own.started.trans (Nat.lt_succ_self _), ?_⟩
  intro runs
  apply (own.owns runs).registered
  intro same
  have still := quiet number loop found same.1.symm same.2.symm
  exact absurd (runs.symm.trans still) nofun

theorem Valid.register_checked (valid : Valid state)
    (fresh : inst.number = state.registered) :
    Valid ((((state.remove inst.service_name inst.instance_id).add inst).cancel
      (task_key inst.service_name inst.instance_id)).start
        (task_key inst.service_name inst.instance_id) inst) := by
  apply all_update
  · intro number loop _ found
    have cancelled : (state.cancel
        (task_key inst.service_name inst.instance_id)).loops number = some loop := found
    obtain ⟨started, owns⟩ := Loop.Valid.uncancelled valid cancelled
    refine ⟨started.trans (Nat.lt_succ_self _), ?_⟩
    intro runs
    obtain ⟨owns, other⟩ := owns runs
    have apart : ¬(inst.service_name = loop.inst.service_name ∧
        inst.instance_id = loop.inst.instance_id) := by
      intro same
      exact other (congrArg₂ task_key same.1 same.2).symm
    have still := owns.registered apart
    exact ⟨(Function.update_of_ne other _ _).trans still.current, still.wanted, still.own⟩
  · intro loop new
    obtain rfl := Option.some.inj new
    refine ⟨fresh ▸ Nat.lt_succ_self _, ?_⟩
    intro _
    refine ⟨Function.update_self _ _ _, Finset.notMem_erase _ _, ?_⟩
    intro old found same
    exact eq_of_registered found same

/-! ### Deregistration -/

theorem Valid.deregister (valid : Valid state) :
    Valid (state.deregister service_name instance_id) := by
  intro number loop found
  have cancelled : (state.cancel (task_key service_name instance_id)).loops number =
      some loop := found
  obtain ⟨started, owns⟩ := Loop.Valid.uncancelled valid cancelled
  refine ⟨started, ?_⟩
  intro runs
  obtain ⟨owns, other⟩ := owns runs
  refine ⟨(Function.update_of_ne other _ _).trans owns.current, ?_, ?_⟩
  · intro found
    rcases Finset.mem_insert.mp found with same | earlier
    · obtain ⟨service, id⟩ := Prod.mk.inj same
      exact other (congrArg₂ task_key service id)
    · exact owns.wanted earlier
  · intro inst found same
    exact owns.own inst (mem_remove.mp found).1 same

/-! ### The turns of a loop -/

section Turn

variable {outcome : Outcome} {stage : Stage}

theorem open_of_next (next : loop.next outcome = some stage) : loop.stage ≠ .ended := by
  intro ended
  cases outcome with
  | returned => simp [Loop.next, ended] at next
  | responded status_code => simp [Loop.next, ended] at next
  | raised => simp [Loop.next, ended] at next
  | cancelled => simp [Loop.next, ended] at next

/-- A cancellation that is raised ends the loop, once its client is closed. -/
theorem next_cancelled (next : loop.next .cancelled = some stage) :
    stage = .ended ∨ stage = .closing .cancel := by
  cases where_it_is : loop.stage with
  | created => simp_all [Loop.next]
  | requesting => simp_all [Loop.next]
  | closing exit => simp_all [Loop.next]
  | sleeping => simp_all [Loop.next]
  | ended => simp_all [Loop.next]

theorem next_closing (closing : loop.stage = .closing .cancel)
    (next : loop.next outcome = some stage) : stage = .ended := by
  cases outcome with
  | returned => simp_all [Loop.next]
  | responded status_code => simp_all [Loop.next]
  | raised => simp_all [Loop.next]
  | cancelled => simp_all [Loop.next]

/-- A loop that has not ended runs, unless it is cancelled. -/
theorem running_of_open (not_ended : loop.stage ≠ .ended)
    (not_cancelled : loop.cancelled ≠ true) (not_closing : loop.stage ≠ .closing .cancel) :
    loop.running = true := by
  simp [Loop.running, not_ended, not_cancelled, not_closing]

/-- A loop that runs after its turn has run before it. -/
theorem running_of_next (next : loop.next outcome = some stage)
    (through : loop.cancelled = true → outcome = .cancelled)
    (runs : ({ inst := loop.inst, stage } : Loop).running = true) :
    loop.running = true := by
  apply running_of_open (open_of_next next)
  · intro cancelled
    rw [through cancelled] at next
    rcases next_cancelled next with rfl | rfl
    · contradiction
    · contradiction
  · intro closing
    rw [next_closing closing next] at runs
    contradiction

/-- A loop that removes its instance runs. -/
theorem running_of_removes (next : loop.next outcome = some stage)
    (through : loop.cancelled = true → outcome = .cancelled)
    (closes : loop.stage = .closing .cancel → outcome ≠ .raised)
    (removes : loop.removes outcome = true) : loop.running = true := by
  apply running_of_open (open_of_next next)
  · intro cancelled
    rw [through cancelled] at removes
    contradiction
  · intro closing
    cases outcome with
    | returned => simp [Loop.removes, closing] at removes
    | responded status_code => simp [Loop.next, closing] at next
    | raised => exact closes closing rfl
    | cancelled => contradiction

/-- The services after a turn hold no instance that they did not hold. -/
theorem mem_of_turn {service : String}
    (found : inst ∈ (state.turn number loop stage outcome).services service) :
    inst ∈ state.services service := by
  simp only [State.turn] at found
  split at found
  case isTrue => exact (mem_remove.mp found).1
  case isFalse => exact found

theorem Loop.Owns.turn {other : ℕ} {own : Loop} (owns : own.Owns state other) :
    own.Owns (state.turn number loop stage outcome) other := by
  refine ⟨?_, ?_, ?_⟩
  · unfold State.turn
    split
    case isTrue => exact owns.current
    case isFalse => exact owns.current
  · unfold State.turn
    split
    case isTrue => exact owns.wanted
    case isFalse => exact owns.wanted
  · intro inst found same
    exact owns.own inst (mem_of_turn found) same

theorem registered_turn :
    (state.turn number loop stage outcome).registered = state.registered := by
  unfold State.turn
  split <;> rfl

theorem loops_turn : (state.turn number loop stage outcome).loops =
    Function.update state.loops number (some { inst := loop.inst, stage }) := by
  unfold State.turn
  split <;> rfl

theorem Valid.turn (valid : Valid state) (found : state.loops number = some loop)
    (next : loop.next outcome = some stage)
    (through : loop.cancelled = true → outcome = .cancelled) :
    Valid (state.turn number loop stage outcome) := by
  unfold ServiceRegistry.Valid
  rw [loops_turn]
  apply all_update
  · intro other own _ there
    have before := valid other own there
    refine ⟨before.started.trans_eq registered_turn.symm, ?_⟩
    intro runs
    exact (before.owns runs).turn
  · intro own new
    obtain rfl := Option.some.inj new
    have before := valid number loop found
    refine ⟨before.started.trans_eq registered_turn.symm, ?_⟩
    intro runs
    have owns : loop.Owns (state.turn number loop stage outcome) number :=
      (before.owns (running_of_next next through runs)).turn
    exact ⟨owns.current, owns.wanted, owns.own⟩

end Turn

/-! ## What a step does -/

/-- A turn is taken by a loop that waits for it. -/
theorem turn_cases {outcome : Outcome}
    (taken : step state (.turn number outcome) = some after) :
    ∃ loop stage, state.loops number = some loop ∧ loop.next outcome = some stage ∧
      after = state.turn number loop stage outcome := by
  simp only [step] at taken
  split at taken
  case h_1 loop found =>
      obtain ⟨_, taken⟩ := Option.ite_none_right_eq_some.mp taken
      obtain ⟨stage, next, result⟩ := Option.map_eq_some_iff.mp taken
      exact ⟨loop, stage, found, next, result.symm⟩
  case h_2 => contradiction

theorem Valid.step {label : Label} (valid : Valid state) (timely : Timely state label)
    (taken : step state label = some after) : Valid after := by
  cases label with
  | register service_name instance_id health_check_url =>
      rw [← Option.some.inj taken]
      unfold State.register_memory
      split
      case isTrue => exact valid.register_checked rfl
      case isFalse unchecked =>
          exact valid.register_unchecked (timely (eq_false_of_ne_true unchecked))
  | deregister service_name instance_id =>
      exact Option.some.inj taken ▸ valid.deregister
  | turn number outcome =>
      obtain ⟨loop, stage, found, next, rfl⟩ := turn_cases taken
      exact valid.turn found next (timely loop found).1

/-- What a registration replaces is registered under its id. -/
theorem departs_register {service : String} {old : ServiceInstance}
    (found : old ∈ state.services service)
    (gone : old ∉ (state.register_memory inst).services service) :
    inst.service_name = service ∧ inst.instance_id = old.instance_id := by
  by_contra apart
  have left : old ∈ ((state.remove inst.service_name inst.instance_id).add inst).services
      service := mem_add (mem_remove.mpr ⟨found, apart⟩)
  have same : (state.register_memory inst).services =
      ((state.remove inst.service_name inst.instance_id).add inst).services := by
    unfold State.register_memory
    split <;> rfl
  exact gone (same ▸ left)

theorem departs_deregister {service : String}
    (found : inst ∈ state.services service)
    (gone : inst ∉ (state.deregister service_name instance_id).services service) :
    service_name = service ∧ instance_id = inst.instance_id := by
  by_contra apart
  exact gone (mem_remove.mpr ⟨found, apart⟩)

/-- A turn removes nothing but the registration that has started the loop. -/
theorem departs_turn {outcome : Outcome} {stage : Stage} {service : String}
    (valid : Valid state) (there : state.loops number = some loop)
    (next : loop.next outcome = some stage)
    (through : loop.cancelled = true → outcome = .cancelled)
    (closes : loop.stage = .closing .cancel → outcome ≠ .raised)
    (found : inst ∈ state.services service)
    (gone : inst ∉ (state.turn number loop stage outcome).services service) :
    loop.inst = inst ∧ loop.removes outcome = true := by
  simp only [State.turn] at gone
  split at gone
  case isTrue removes =>
      have runs := running_of_removes next through closes removes
      have owns := (valid number loop there).owns runs
      have same : loop.inst.service_name = service ∧
          loop.inst.instance_id = inst.instance_id := by
        by_contra apart
        exact gone (mem_remove.mpr ⟨found, apart⟩)
      obtain ⟨rfl, id⟩ := same
      exact ⟨(owns.own inst found id.symm).symm, removes⟩
  case isFalse => exact absurd found gone

theorem departs_of_step {label : Label} (valid : Valid state) (timely : Timely state label)
    (taken : step state label = some after) {service : String}
    (found : inst ∈ state.services service) (gone : inst ∉ after.services service) :
    Departs state service inst label := by
  cases label with
  | register service_name instance_id health_check_url =>
      rw [← Option.some.inj taken] at gone
      exact departs_register found gone
  | deregister service_name instance_id =>
      rw [← Option.some.inj taken] at gone
      exact departs_deregister found gone
  | turn number outcome =>
      obtain ⟨loop, stage, there, next, rfl⟩ := turn_cases taken
      obtain ⟨through, closes⟩ := timely loop there
      exact ⟨loop, there, departs_turn valid there next through closes found gone⟩

end Registry

/-- In every run in which an instance is registered without a url only while no loop of it
runs, and a cancelled loop is ended by its cancellation, a registration leaves the registry
only by being replaced or deregistered or by a failure of its own check, and no loop of a
deregistered instance runs. -/
theorem departures_own {before after : State} {label : Label}
    (reached : ReachedBy registry Timely before) (timely : Timely before label)
    (taken : registry.step before label = some after) : Sound before label after := by
  have valid : Valid before := by
    apply reached.invariant
    · exact .start _
    · intro earlier label later valid timely taken
      exact valid.step timely taken
  constructor
  · intro service inst found gone
    exact departs_of_step valid timely taken found gone
  · intro number loop found deregistered
    by_contra runs
    have own := (valid.step timely taken) number loop found
    exact (own.owns (Bool.eq_true_of_not_eq_false runs)).wanted deregistered

def after (labels : List Label) : State := (labels.foldlM step registry.start).getD {}

/-- A check is waiting for its response. -/
def checked : List Label := [.register "processor" "p1" (some "/health"), .turn 0 .returned]

theorem checked_departs : Sound (after checked) (.turn 0 (.responded 503))
    (after (checked ++ [.turn 0 (.responded 503)])) := by
  have starts : Timely registry.start (.register "processor" "p1" (some "/health")) := by
    intro unchecked
    contradiction
  have registered : ReachedBy registry Timely
      (after [.register "processor" "p1" (some "/health")]) := .step .start starts rfl
  have waits : Timely (after [.register "processor" "p1" (some "/health")])
      (.turn 0 .returned) := by
    intro loop found
    obtain rfl := Option.some.inj found
    exact ⟨nofun, nofun⟩
  have responds : Timely (after checked) (.turn 0 (.responded 503)) := by
    intro loop found
    obtain rfl := Option.some.inj found
    exact ⟨nofun, nofun⟩
  exact departures_own (.step registered waits rfl) responds rfl

/-- The instance is registered again without a url, and the first check fails. -/
def registered_again : List Label := checked ++ [.register "processor" "p1" none]

theorem registered_again_not_own : ∃ before after, Reachable registry before ∧
    registry.step before (.turn 0 (.responded 503)) = some after ∧
      ¬Sound before (.turn 0 (.responded 503)) after := by
  refine ⟨after registered_again, _, ?_, rfl, ?_⟩
  · exact .follow (fun _ _ _ => trivial) .start
      (rfl : registered_again.foldlM step registry.start = some _)
  · intro sound
    obtain ⟨loop, found, own, _⟩ := sound.departs "processor"
      ⟨1, "processor", "p1", none⟩ (.head _) nofun
    obtain rfl := Option.some.inj found
    contradiction

end HftEngine.ServiceRegistry
