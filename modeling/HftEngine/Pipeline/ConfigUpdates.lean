import HftEngine.Admin.Config
import HftEngine.Lib.Transition
import Mathlib.Logic.Function.Basic

/-!
# Configuration changes from the admin service to the others

The admin service commits an operation and then broadcasts its message, if it
has one; other operations may come between, and the broadcast may fail.  Every
service takes its messages in order, and reads the table when it takes one.
-/

namespace HftEngine.ConfigUpdates

open Py Config Admin Transition

/-- A service, with the message it is at and the table that it read for it. -/
structure Service where
  configs : Configs
  queue : List Message
  handling : Option (Message × Table)

structure State (Id : Type) where
  table : Table
  /-- The messages of operations that have committed, not yet broadcast. -/
  publishing : List Message
  services : Id → Service

inductive Operation where
  | update_config (key value : String)
  | delete_config (key : String)
  | initialize_configs
  | import_configs (configs : Value)

/-- The table after an operation; none where it fails. -/
def Operation.apply (columns : Columns) (table : Table) : Operation → Option Table
  | .update_config key value => some (Admin.update_config key value table)
  | .delete_config key => Admin.delete_config key table
  | .initialize_configs => some (Admin.initialize_configs table)
  | .import_configs configs => Admin.import_configs columns configs table

def Operation.messages : Operation → List Message
  | .update_config key _ => [{ key := some key, action := "update" }]
  | .delete_config key => [{ key := some key, action := "delete" }]
  | .initialize_configs | .import_configs _ => []

/-- A path without a key leads to none of the two routes. -/
def Operation.routed : Operation → Bool
  | .update_config key _ | .delete_config key => key ≠ ""
  | .initialize_configs | .import_configs _ => true

inductive Label (Id : Type) where
  | commit (operation : Operation)
  | broadcast (position : ℕ)
  | broadcast_fails (position : ℕ)
  /-- Anyone may ask for a full reload. -/
  | broadcast_reload_all
  | take (service : Id)
  | finish (service : Id)

section Step

variable {Id : Type} [DecidableEq Id]

def Service.receive (message : Message) (service : Service) : Service :=
  { service with queue := service.queue ++ [message] }

def Service.take (table : Table) (service : Service) : Option Service :=
  match service.handling, service.queue with
  | none, message :: queue =>
      some { service with queue, handling := some (message, table) }
  | _, _ => none

def Service.finish (service : Service) : Option Service :=
  service.handling.map (fun (message, table) =>
    { service with configs := handle message table service.configs, handling := none })

def step (columns : Columns) (state : State Id) : Label Id → Option (State Id)
  | .commit operation =>
      if operation.routed then
        (operation.apply columns state.table).map (fun table =>
          { state with table, publishing := state.publishing ++ operation.messages })
      else none
  | .broadcast position =>
      state.publishing[position]?.map (fun message =>
        { state with
          publishing := state.publishing.eraseIdx position
          services := fun id => (state.services id).receive message })
  | .broadcast_fails position =>
      state.publishing[position]?.map (fun _ =>
        { state with publishing := state.publishing.eraseIdx position })
  | .broadcast_reload_all =>
      some { state with services := fun id =>
        (state.services id).receive { key := none, action := "reload_all" } }
  | .take id =>
      ((state.services id).take state.table).map (fun service =>
        { state with services := Function.update state.services id service })
  | .finish id =>
      (state.services id).finish.map (fun service =>
        { state with services := Function.update state.services id service })

def system (columns : Columns) (initial : State Id) : System (State Id) (Label Id) where
  start := initial
  step := step columns

end Step

/-! ## Agreement -/

/-- What a service serves is what the table holds, typed. -/
def Agrees (configs : Configs) (table : Table) : Prop :=
  ∀ key, configs.lookup key = typed table key

/-- Every message has been broadcast and processed. -/
structure Settled {Id : Type} (state : State Id) : Prop where
  published : state.publishing = []
  processed : ∀ id, (state.services id).queue = [] ∧ (state.services id).handling = none

def AllAgree {Id : Type} (state : State Id) : Prop :=
  ∀ id, Agrees (state.services id).configs state.table

/-- An operation that changes what is served under a key is an update, and
broadcasts do not fail. -/
def Announced {Id : Type} (columns : Columns) (state : State Id) : Label Id → Prop
  | .commit (.update_config _ _) => True
  | .commit operation =>
      ∀ table, operation.apply columns state.table = some table →
        ∀ key, typed table key = typed state.table key
  | .broadcast_fails _ => False
  | _ => True

/-- The message that makes a service read a key again. -/
def update_of (key : String) : Message :=
  { key := some key, action := "update" }

/-- A service that takes the message will serve the key as the table has it. -/
def Refreshes (message : Message) (table : Table) (key : String) : Prop :=
  (message = update_of key ∧ key ≠ "") ∨
    (message.action = "reload_all" ∧ (typed table key).isSome)

/-- What a service will serve under a key when it has finished its message. -/
def Service.pending (service : Service) (key : String) : Option Value :=
  match service.handling with
  | none => service.configs.lookup key
  | some (message, table) => (handle message table service.configs).lookup key

/-- The key is going to be read again by every service, or is as in the table. -/
def Tracked {Id : Type} (state : State Id) : Prop :=
  ∀ id key,
    (∃ message ∈ state.publishing ++ (state.services id).queue,
      Refreshes message state.table key) ∨
    (state.services id).pending key = typed state.table key

/-! ## What each step preserves -/

section Preserved

variable {Id : Type} {columns : Columns}

theorem handle_refreshes {message : Message} {table : Table} {key : String}
    (refreshes : Refreshes message table key) (configs : Configs) :
    (handle message table configs).lookup key = typed table key := by
  rcases refreshes with ⟨rfl, named⟩ | ⟨reload, present⟩
  · simp only [handle, update_of, if_true, if_neg named]
    rw [lookup_reload_single, if_pos rfl]
  · have different : message.action ≠ "update" := by
      rw [reload]
      decide
    obtain ⟨value, found⟩ := Option.isSome_iff_exists.mp present
    rw [handle, if_neg different, if_pos reload, lookup_reload_from_db, found]
    rfl

/-- A change of other rows leaves a message as good as before. -/
theorem Refreshes.congr {message : Message} {table other : Table} {key : String}
    (refreshes : Refreshes message table key)
    (same : typed other key = typed table key) : Refreshes message other key := by
  rcases refreshes with update | ⟨reload, present⟩
  · exact .inl update
  · exact .inr ⟨reload, same ▸ present⟩

/-- An update changes what is typed under its own key only. -/
theorem typed_update_config {key other : String} (different : other ≠ key)
    (value : String) (table : Table) :
    typed (update_config key value table) other = typed table other := by
  unfold typed update_config
  cases table.lookup key with
  | none => rw [AList.lookup_insert_ne different]
  | some config => rw [AList.lookup_insert_ne different]

/-- What an announced operation does to each key. -/
theorem typed_commit {state : State Id} {operation : Operation} {table : Table}
    (announced : Announced columns state (.commit operation))
    (routed : operation.routed)
    (applied : operation.apply columns state.table = some table) (key : String) :
    (key ≠ "" ∧ update_of key ∈ operation.messages) ∨
      typed table key = typed state.table key := by
  cases operation with
  | update_config changed value =>
      rw [Operation.apply, Option.some.injEq] at applied
      subst applied
      by_cases same : key = changed
      · subst same
        exact .inl ⟨of_decide_eq_true routed, List.mem_singleton_self _⟩
      · exact .inr (typed_update_config same value state.table)
  | delete_config => exact .inr (announced table applied key)
  | initialize_configs => exact .inr (announced table applied key)
  | import_configs => exact .inr (announced table applied key)

theorem tracked_commit {state : State Id} {operation : Operation} {table : Table}
    (tracked : Tracked state)
    (announced : Announced columns state (.commit operation))
    (routed : operation.routed)
    (applied : operation.apply columns state.table = some table) :
    Tracked { state with
      table, publishing := state.publishing ++ operation.messages } := by
  intro id key
  rcases typed_commit announced routed applied key with ⟨named, sent⟩ | same
  · left
    refine ⟨update_of key, ?_, .inl ⟨rfl, named⟩⟩
    simp [sent]
  · rcases tracked id key with ⟨message, waiting, refreshes⟩ | served
    · left
      refine ⟨message, ?_, refreshes.congr same⟩
      simp only [List.mem_append] at waiting ⊢
      tauto
    · exact .inr (served.trans same.symm)

/-- A message that is broadcast leaves one list for the other. -/
theorem mem_broadcast {publishing queue : List Message} {position : ℕ}
    {sent message : Message} (found : publishing[position]? = some sent)
    (waiting : message ∈ publishing ++ queue) :
    message ∈ publishing.eraseIdx position ++ (queue ++ [sent]) := by
  rcases List.mem_append.mp waiting with unpublished | queued
  · obtain ⟨other, at_other⟩ := List.mem_iff_getElem?.mp unpublished
    by_cases same : other = position
    · rw [same, found, Option.some.injEq] at at_other
      simp [at_other]
    · have kept : message ∈ publishing.eraseIdx position :=
        List.mem_eraseIdx_iff_getElem?.mpr ⟨other, same, at_other⟩
      exact List.mem_append_left _ kept
  · simp [queued]

theorem tracked_receive {state : State Id} {sent : Message} {publishing : List Message}
    (tracked : Tracked state)
    (kept : ∀ id, ∀ message ∈ state.publishing ++ (state.services id).queue,
      message ∈ publishing ++ ((state.services id).queue ++ [sent])) :
    Tracked { state with
      publishing
      services := fun id => (state.services id).receive sent } := by
  intro id key
  rcases tracked id key with ⟨message, waiting, refreshes⟩ | served
  · exact .inl ⟨message, kept id message waiting, refreshes⟩
  · exact .inr served

/-- A service that takes a message keeps the others, and will serve a key as
before or as the table has it. -/
theorem take_cases {service taken : Service} {table : Table}
    (took : service.take table = some taken) :
    ∃ message, service.queue = message :: taken.queue ∧
      ∀ key, (Refreshes message table key →
          taken.pending key = typed table key) ∧
        (taken.pending key = typed table key ∨
          taken.pending key = service.pending key) := by
  unfold Service.take at took
  split at took
  case h_1 message queue idle queued =>
    rw [Option.some.injEq] at took
    subst took
    refine ⟨message, queued, fun key => ⟨?_, ?_⟩⟩
    · intro refreshes
      exact handle_refreshes refreshes service.configs
    · rw [Service.pending, Service.pending, idle]
      exact lookup_handle message table service.configs key
  case h_2 => contradiction

/-- To finish is to serve what was pending. -/
theorem finish_cases {service finished : Service}
    (finish : service.finish = some finished) :
    finished.queue = service.queue ∧ finished.pending = service.pending := by
  obtain ⟨⟨message, table⟩, handled, rfl⟩ := Option.map_eq_some_iff.mp finish
  refine ⟨rfl, ?_⟩
  funext key
  rw [Service.pending, Service.pending, handled]

theorem tracked_settled {state : State Id} (tracked : Tracked state)
    (settled : Settled state) : AllAgree state := by
  intro id key
  obtain ⟨queue, handling⟩ := settled.processed id
  rcases tracked id key with ⟨message, waiting, -⟩ | served
  · simp [settled.published, queue] at waiting
  · rwa [Service.pending, handling] at served

variable [DecidableEq Id]

theorem tracked_update {state : State Id} {id : Id} {service : Service}
    (tracked : Tracked state)
    (own : ∀ key,
      (∃ message ∈ state.publishing ++ service.queue,
        Refreshes message state.table key) ∨
      service.pending key = typed state.table key) :
    Tracked { state with services := Function.update state.services id service } := by
  intro other key
  by_cases same : other = id
  · subst same
    simp only [Function.update_self]
    exact own key
  · simp only [Function.update_of_ne same]
    exact tracked other key

theorem tracked_take {state : State Id} {id : Id} {service : Service}
    (tracked : Tracked state)
    (took : (state.services id).take state.table = some service) :
    Tracked { state with services := Function.update state.services id service } := by
  apply tracked_update tracked
  obtain ⟨taken, queued, pending⟩ := take_cases took
  intro key
  obtain ⟨read, unchanged⟩ := pending key
  rcases tracked id key with ⟨message, waiting, refreshes⟩ | served
  · rw [queued, List.mem_append, List.mem_cons] at waiting
    rcases waiting with unpublished | rfl | behind
    · exact .inl ⟨message, List.mem_append_left _ unpublished, refreshes⟩
    · exact .inr (read refreshes)
    · exact .inl ⟨message, List.mem_append_right _ behind, refreshes⟩
  · right
    rcases unchanged with now | before
    · exact now
    · exact before.trans served

theorem tracked_finish {state : State Id} {id : Id} {service : Service}
    (tracked : Tracked state)
    (finish : (state.services id).finish = some service) :
    Tracked { state with services := Function.update state.services id service } := by
  apply tracked_update tracked
  obtain ⟨queue, pending⟩ := finish_cases finish
  intro key
  rw [queue, pending]
  exact tracked id key

theorem tracked_step {before after : State Id} {label : Label Id}
    (tracked : Tracked before) (announced : Announced columns before label)
    (taken : step columns before label = some after) : Tracked after := by
  cases label with
  | commit operation =>
      simp only [step] at taken
      split at taken
      case isTrue routed =>
        obtain ⟨table, applied, rfl⟩ := Option.map_eq_some_iff.mp taken
        exact tracked_commit tracked announced routed applied
      case isFalse => contradiction
  | broadcast position =>
      obtain ⟨sent, found, rfl⟩ := Option.map_eq_some_iff.mp taken
      apply tracked_receive tracked
      intro id message waiting
      exact mem_broadcast found waiting
  | broadcast_fails => exact announced.elim
  | broadcast_reload_all =>
      obtain rfl := Option.some.inj taken
      apply tracked_receive tracked
      intro id message waiting
      rw [← List.append_assoc]
      exact List.mem_append_left _ waiting
  | take id =>
      obtain ⟨service, took, rfl⟩ := Option.map_eq_some_iff.mp taken
      exact tracked_take tracked took
  | finish id =>
      obtain ⟨service, finish, rfl⟩ := Option.map_eq_some_iff.mp taken
      exact tracked_finish tracked finish

end Preserved

/-- One service, which has processed all its messages. -/
def processed (table : Table) (configs : Configs) : State Unit where
  table
  publishing := []
  services := fun _ => { configs, queue := [], handling := none }

/-- An operation, and how the service comes to know of it. -/
def announced (operation : Operation) : List (Label Unit) :=
  [.commit operation, .broadcast 0, .take (), .finish ()]

end HftEngine.ConfigUpdates
