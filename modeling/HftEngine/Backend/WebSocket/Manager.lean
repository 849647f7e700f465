import HftEngine.Backend.WebSocket.Registry
import HftEngine.Lib.Tasks
import HftEngine.Lib.Transition

/-!
# The connection manager of one instance

Any number of tasks connect, subscribe, unsubscribe and disconnect clients and
broadcast to groups.  A task suspends while it waits for the lock, where it sends
to a client, and while the instance joins or leaves a channel of Redis; it
joins without the lock and leaves with it.  The commands of the instance are
executed by Redis in their order, so the channels that the manager has joined are
those that Redis knows of.
-/

namespace HftEngine.WebSocket

open Transition

/-! ## Channels -/

def get_channel_name (casing : Casing) (symbol expiry : String) : String :=
  "ws:broadcast:" ++ casing.upper symbol ++ ":" ++ expiry

/-- The channel of a group. -/
def channel (key : String) : String :=
  "ws:broadcast:" ++ key

theorem channel_injective : Function.Injective channel := by
  intro key other same
  simpa [channel, String.ext_iff] using same

theorem get_channel_name_eq {casing : Casing} (subscription : Subscription casing) :
    get_channel_name casing subscription.symbol subscription.expiry =
      channel subscription.group_key := by
  simp [get_channel_name, channel, Subscription.group_key, subscription.upper_symbol,
    String.append_assoc]

/-! ## Tasks -/

/-- What a task does with the lock.  The clients whose sends have failed are
disconnected one after the other. -/
inductive Operation (Client : Type) where
  | connect (client : Client)
  | disconnect (client : Client) (rest : List Client)
  | subscribe (client : Client) (symbol expiry : String)
  | unsubscribe (client : Client)
  | broadcast (key : String)

inductive Task (casing : Casing) (Client : Type) where
  | accepting (client : Client)
  | locking (operation : Operation Client)
  | joining (client : Client) (subscription : Subscription casing)
  | leaving (subscription : Subscription casing) (rest : List Client)
  | confirming (client : Client)
  | sending (remaining : Finset Client) (disconnected : List Client)
  | done

/-- The methods that are called from outside. -/
inductive Request (Client : Type) where
  | connect (client : Client)
  | disconnect (client : Client)
  | subscribe (client : Client) (symbol expiry : String)
  | unsubscribe (client : Client)
  | broadcast_to_local_clients (symbol expiry : String)

structure Manager (casing : Casing) (Client : Type) where
  registry : Registry casing Client := {}
  lock : Option ℕ := none
  subscribed_channels : Finset String := ∅
  tasks : ℕ → Option (Task casing Client) := fun _ => none

inductive Label (Client : Type) where
  | call (id : ℕ) (request : Request Client)
  | accepted (id : ℕ) (ok : Bool)
  | acquire (id : ℕ)
  | joined (id : ℕ) (ok : Bool)
  | left (id : ℕ) (ok : Bool)
  | confirmed (id : ℕ) (ok : Bool)
  | send (id : ℕ) (client : Client) (ok : Bool)
  | sent_all (id : ℕ)

variable {casing : Casing} {Client : Type}

def Request.task : Request Client → Task casing Client
  | .connect client => .accepting client
  | .disconnect client => .locking (.disconnect client [])
  | .subscribe client symbol expiry => .locking (.subscribe client symbol expiry)
  | .unsubscribe client => .locking (.unsubscribe client)
  | .broadcast_to_local_clients symbol expiry =>
      .locking (.broadcast (symbol ++ ":" ++ expiry))

/-- The rest of the clients that are to be disconnected. -/
def Task.next : List Client → Task casing Client
  | [] => .done
  | client :: rest => .locking (.disconnect client rest)

namespace Manager

def setTask (id : ℕ) (task : Task casing Client) (manager : Manager casing Client) :
    Manager casing Client :=
  { manager with tasks := Function.update manager.tasks id (some task) }

def withRegistry (registry : Registry casing Client) (manager : Manager casing Client) :
    Manager casing Client :=
  { manager with registry }

variable [DecidableEq Client]

/-- `send_personal_message`, which does nothing for a client that is gone. -/
def confirm (id : ℕ) (client : Client) (manager : Manager casing Client) :
    Manager casing Client :=
  manager.setTask id
    (if client ∈ manager.registry.active_connections then .confirming client else .done)

/-- The instance leaves the channel with the lock, if it has joined it. -/
def disconnect (redis : Bool) (id : ℕ) (client : Client) (rest : List Client)
    (manager : Manager casing Client) : Manager casing Client :=
  match manager.registry.disconnect client with
  | (some subscription, registry) =>
      if redis ∧ get_channel_name casing subscription.symbol subscription.expiry ∈
          manager.subscribed_channels then
        { manager.withRegistry registry with lock := some id }.setTask id
          (.leaving subscription rest)
      else (manager.withRegistry registry).setTask id (.next rest)
  | (none, registry) => (manager.withRegistry registry).setTask id (.next rest)

def subscribe (redis : Bool) (id : ℕ) (client : Client) (symbol expiry : String)
    (manager : Manager casing Client) : Manager casing Client :=
  match manager.registry.subscribe client symbol expiry with
  | none => manager.setTask id .done
  | some (is_new_group, registry) =>
      let subscription := casing.subscription symbol expiry
      if is_new_group ∧ redis ∧
          get_channel_name casing subscription.symbol subscription.expiry ∉
            manager.subscribed_channels then
        (manager.withRegistry registry).setTask id (.joining client subscription)
      else (manager.withRegistry registry).confirm id client

def unsubscribe (id : ℕ) (client : Client) (manager : Manager casing Client) :
    Manager casing Client :=
  match manager.registry.unsubscribe client with
  | (some _, registry) => (manager.withRegistry registry).confirm id client
  | (none, registry) => (manager.withRegistry registry).setTask id .done

def broadcast (id : ℕ) (key : String) (manager : Manager casing Client) :
    Manager casing Client :=
  let clients := manager.registry.members key
  manager.setTask id (if clients = ∅ then .done else .sending clients [])

/-- What a task does between taking the lock and its next suspension. -/
def perform (redis : Bool) (id : ℕ) (manager : Manager casing Client) :
    Operation Client → Manager casing Client
  | .connect client =>
      (manager.withRegistry (manager.registry.connect client)).confirm id client
  | .disconnect client rest => manager.disconnect redis id client rest
  | .subscribe client symbol expiry => manager.subscribe redis id client symbol expiry
  | .unsubscribe client => manager.unsubscribe id client
  | .broadcast key => manager.broadcast id key

/-- A send in the loop over a group. -/
def send (id : ℕ) (client : Client) (ok : Bool) (remaining : Finset Client)
    (disconnected : List Client) (manager : Manager casing Client) :
    Manager casing Client :=
  let failed := client ∈ manager.registry.active_connections ∧ ok = false
  manager.setTask id (.sending (remaining.erase client)
    (if failed then disconnected ++ [client] else disconnected))

/-- `redis` tells whether the manager has a connection for the channels. -/
def step (redis : Bool) (manager : Manager casing Client) :
    Label Client → Option (Manager casing Client)
  | .call id request =>
      match manager.tasks id with
      | none => some (manager.setTask id request.task)
      | some _ => none
  | .accepted id ok =>
      match manager.tasks id with
      | some (.accepting client) =>
          some (manager.setTask id (if ok then .locking (.connect client) else .done))
      | _ => none
  | .acquire id =>
      match manager.lock, manager.tasks id with
      | none, some (.locking operation) => some (manager.perform redis id operation)
      | _, _ => none
  | .joined id ok =>
      match manager.tasks id with
      | some (.joining client subscription) =>
          let name := get_channel_name casing subscription.symbol subscription.expiry
          let channels :=
            if ok then insert name manager.subscribed_channels
            else manager.subscribed_channels
          some ({ manager with subscribed_channels := channels }.confirm id client)
      | _ => none
  | .left id ok =>
      match manager.tasks id with
      | some (.leaving subscription rest) =>
          let name := get_channel_name casing subscription.symbol subscription.expiry
          let channels :=
            if ok then manager.subscribed_channels.erase name
            else manager.subscribed_channels
          some ({ manager with
            lock := none, subscribed_channels := channels }.setTask id (.next rest))
      | _ => none
  | .confirmed id ok =>
      match manager.tasks id with
      | some (.confirming client) =>
          some (manager.setTask id
            (if ok then .done else .locking (.disconnect client [])))
      | _ => none
  | .send id client ok =>
      match manager.tasks id with
      | some (.sending remaining disconnected) =>
          if client ∈ remaining then
            some (manager.send id client ok remaining disconnected)
          else none
      | _ => none
  | .sent_all id =>
      match manager.tasks id with
      | some (.sending remaining disconnected) =>
          if remaining = ∅ then some (manager.setTask id (.next disconnected)) else none
      | _ => none

end Manager

def system (casing : Casing) (Client : Type) [DecidableEq Client] (redis : Bool) :
    System (Manager casing Client) (Label Client) where
  start := {}
  step := Manager.step redis

/-! ## What a step can do -/

namespace Manager

variable [DecidableEq Client] {redis : Bool} {manager after : Manager casing Client}

inductive Steps (redis : Bool) (manager : Manager casing Client) :
    Label Client → Manager casing Client → Prop where
  | call {id : ℕ} {request : Request Client} (unknown : manager.tasks id = none) :
      Steps redis manager (.call id request) (manager.setTask id request.task)
  | accepted {id : ℕ} {client : Client} (ok : Bool)
      (found : manager.tasks id = some (.accepting client)) :
      Steps redis manager (.accepted id ok)
        (manager.setTask id (if ok then .locking (.connect client) else .done))
  | acquire {id : ℕ} {operation : Operation Client} (free : manager.lock = none)
      (found : manager.tasks id = some (.locking operation)) :
      Steps redis manager (.acquire id) (manager.perform redis id operation)
  | joined {id : ℕ} {client : Client} {subscription : Subscription casing} (ok : Bool)
      (found : manager.tasks id = some (.joining client subscription)) :
      Steps redis manager (.joined id ok) ({ manager with
        subscribed_channels :=
          if ok then insert (channel subscription.group_key) manager.subscribed_channels
          else manager.subscribed_channels }.confirm id client)
  | left {id : ℕ} {subscription : Subscription casing} {rest : List Client} (ok : Bool)
      (found : manager.tasks id = some (.leaving subscription rest)) :
      Steps redis manager (.left id ok) ({ manager with
        lock := none
        subscribed_channels :=
          if ok then manager.subscribed_channels.erase (channel subscription.group_key)
          else manager.subscribed_channels }.setTask id (.next rest))
  | confirmed {id : ℕ} {client : Client} (ok : Bool)
      (found : manager.tasks id = some (.confirming client)) :
      Steps redis manager (.confirmed id ok)
        (manager.setTask id (if ok then .done else .locking (.disconnect client [])))
  | send {id : ℕ} {client : Client} {remaining : Finset Client}
      {disconnected : List Client} (ok : Bool)
      (found : manager.tasks id = some (.sending remaining disconnected))
      (present : client ∈ remaining) :
      Steps redis manager (.send id client ok)
        (manager.send id client ok remaining disconnected)
  | sent_all {id : ℕ} {disconnected : List Client}
      (found : manager.tasks id = some (.sending ∅ disconnected)) :
      Steps redis manager (.sent_all id) (manager.setTask id (.next disconnected))

theorem steps_of_step {label : Label Client}
    (taken : manager.step redis label = some after) : manager.Steps redis label after := by
  cases label with
  | call id request =>
      simp only [step] at taken
      split at taken
      case h_1 unknown => exact Option.some.inj taken ▸ .call unknown
      case h_2 => contradiction
  | accepted id ok =>
      simp only [step] at taken
      split at taken
      case h_1 found => exact Option.some.inj taken ▸ .accepted ok found
      case h_2 => contradiction
  | acquire id =>
      simp only [step] at taken
      split at taken
      case h_1 free found => exact Option.some.inj taken ▸ .acquire free found
      case h_2 => contradiction
  | joined id ok =>
      simp only [step, get_channel_name_eq] at taken
      split at taken
      case h_1 found => exact Option.some.inj taken ▸ .joined ok found
      case h_2 => contradiction
  | left id ok =>
      simp only [step, get_channel_name_eq] at taken
      split at taken
      case h_1 found => exact Option.some.inj taken ▸ .left ok found
      case h_2 => contradiction
  | confirmed id ok =>
      simp only [step] at taken
      split at taken
      case h_1 found => exact Option.some.inj taken ▸ .confirmed ok found
      case h_2 => contradiction
  | send id client ok =>
      simp only [step] at taken
      split at taken
      case h_1 found =>
          obtain ⟨present, rfl⟩ := guarded_eq_some.mp taken
          exact .send ok found present
      case h_2 => contradiction
  | sent_all id =>
      simp only [step] at taken
      split at taken
      case h_1 found =>
          obtain ⟨rfl, rfl⟩ := guarded_eq_some.mp taken
          exact .sent_all found
      case h_2 => contradiction

end Manager

/-! ## Membership -/

section Membership

variable [DecidableEq Client] {redis : Bool} {manager after : Manager casing Client}
  {id : ℕ}

@[simp] theorem registry_disconnect (client : Client) (rest : List Client) :
    (manager.disconnect redis id client rest).registry =
      (manager.registry.disconnect client).2 := by
  unfold Manager.disconnect
  split
  case h_1 same =>
      rw [same]
      split <;> rfl
  case h_2 same => rw [same]; rfl

@[simp] theorem registry_unsubscribe (client : Client) :
    (manager.unsubscribe id client).registry = manager.registry.leave client := by
  unfold Manager.unsubscribe
  split
  case h_1 same => exact (congrArg Prod.snd same).symm
  case h_2 same => exact (congrArg Prod.snd same).symm

theorem consistent_subscribe (consistent : manager.registry.Consistent)
    (client : Client) (symbol expiry : String) :
    (manager.subscribe redis id client symbol expiry).registry.Consistent := by
  unfold Manager.subscribe
  split
  case h_1 => exact consistent
  case h_2 subscribed =>
      dsimp only
      split
      case isTrue => exact consistent.subscribe subscribed
      case isFalse => exact consistent.subscribe subscribed

theorem consistent_perform (consistent : manager.registry.Consistent)
    (operation : Operation Client) :
    (manager.perform redis id operation).registry.Consistent := by
  cases operation with
  | connect client => exact consistent.connect client
  | disconnect client rest =>
      simp only [Manager.perform, registry_disconnect]
      exact consistent.disconnect client
  | subscribe client symbol expiry => exact consistent_subscribe consistent _ _ _
  | unsubscribe client =>
      simp only [Manager.perform, registry_unsubscribe]
      exact consistent.leave client
  | broadcast key => exact consistent

theorem consistent_step {label : Label Client} (consistent : manager.registry.Consistent)
    (taken : manager.step redis label = some after) : after.registry.Consistent := by
  cases Manager.steps_of_step taken with
  | acquire => exact consistent_perform consistent _
  | call | accepted | joined | left | confirmed | send | sent_all => exact consistent

/-- In every state, with the lock held or free, the three maps are consistent, and
so no client is in two groups. -/
theorem group_membership (reached : Reachable (system casing Client redis) manager) :
    manager.registry.Consistent ∧
      ∀ client key other, client ∈ manager.registry.members key →
        client ∈ manager.registry.members other → key = other := by
  have consistent : manager.registry.Consistent := by
    apply reached.invariant (I := fun state => state.registry.Consistent) .start
    intro before label after consistent _ taken
    exact consistent_step consistent taken
  refine ⟨consistent, ?_⟩
  intro client key other first second
  exact consistent.eq_of_mem first second

end Membership

section Runs

def after (redis : Bool) (labels : List (Label ℕ)) : Manager capitals ℕ :=
  (labels.foldlM (Manager.step redis) {}).getD {}

/-- A client subscribes, and subscribes to another group while the channel of the
first is being joined. -/
def resubscribed : List (Label ℕ) :=
  [.call 0 (.connect 7), .accepted 0 true, .acquire 0, .confirmed 0 true,
    .call 1 (.subscribe 7 "NIFTY" "1"), .acquire 1, .call 2 (.subscribe 7 "BANK" "1"),
    .acquire 2]

theorem membership_resubscribed :
    ((after true resubscribed).registry.Consistent ∧
      ∀ client key other, client ∈ (after true resubscribed).registry.members key →
        client ∈ (after true resubscribed).registry.members other → key = other) ∧
      7 ∈ (after true resubscribed).registry.members "BANK:1" :=
  ⟨group_membership (show Reachable (system capitals ℕ true) _ from
    .follow (fun _ _ _ => trivial) .start
      (rfl : resubscribed.foldlM (Manager.step true) {} = some _)), by decide⟩

end Runs

end HftEngine.WebSocket
