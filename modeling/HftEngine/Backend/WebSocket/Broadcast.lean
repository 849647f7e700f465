import HftEngine.Backend.WebSocket.Loops
import Mathlib.Algebra.BigOperators.Group.Finset.Piecewise

/-!
# Broadcasts across instances

Any number of instances share Redis.  `broadcast_to_group` publishes its message
to the channel of the group, which Redis passes on to every instance that has
joined it, and then loops over the clients of its own instance.  The listener of
an instance takes up one message after the other and loops over the clients of
that instance.
-/

namespace HftEngine.WebSocket

open Transition

/-- A message given to `broadcast_to_group`.  The history of its broadcast is kept
with it: the instances that Redis has passed it on to, the tasks that loop over
clients with it, the clients that have been in the group since it began, and how
often it has been sent to a client. -/
structure Broadcast (casing : Casing) (Client Server : Type) where
  origin : Server
  subscription : Subscription casing
  publishing : Bool := true
  received : Server → Bool := fun _ => false
  loops : Server → Finset ℕ := fun _ => ∅
  subscribed : Server → Finset Client
  sent : Server → Client → ℕ := fun _ _ => 0

structure Cluster (casing : Casing) (Client Server : Type) where
  managers : Server → Manager casing Client := fun _ => {}
  inbox : Server → List ℕ := fun _ => []
  handling : Server → Option ℕ := fun _ => none
  broadcasts : ℕ → Option (Broadcast casing Client Server) := fun _ => none

inductive Cluster.Label (Client Server : Type) where
  | within (server : Server) (label : WebSocket.Label Client)
  | broadcast_to_group (message : ℕ) (server : Server) (symbol expiry : String)
  | published (message : ℕ) (ok : Bool) (id : ℕ)
  | get_message (server : Server) (id : ℕ)

variable {casing : Casing} {Client Server : Type}

def Label.starts_loop : Label Client → Bool
  | .call _ (.broadcast_to_local_clients _ _) => true
  | _ => false

namespace Broadcast

def key (broadcast : Broadcast casing Client Server) : String :=
  broadcast.subscription.group_key

/-- Its group on an instance. -/
def members (managers : Server → Manager casing Client) (server : Server)
    (broadcast : Broadcast casing Client Server) : Finset Client :=
  (managers server).registry.members broadcast.key

variable [DecidableEq Client] [DecidableEq Server]

/-- Count a send of one of its loops. -/
def count (server : Server) (sends : Option (ℕ × Client))
    (broadcast : Broadcast casing Client Server) : Broadcast casing Client Server :=
  { broadcast with
    sent := Function.update broadcast.sent server fun client =>
      broadcast.sent server client +
        ((broadcast.loops server).filter fun id => sends = some (id, client)).card }

/-- Keep the clients that are still in the group. -/
def watch (managers : Server → Manager casing Client)
    (broadcast : Broadcast casing Client Server) : Broadcast casing Client Server :=
  { broadcast with
    subscribed := fun server =>
      broadcast.subscribed server ∩ broadcast.members managers server }

def addLoop (server : Server) (id : ℕ) (broadcast : Broadcast casing Client Server) :
    Broadcast casing Client Server :=
  { broadcast with
    loops := Function.update broadcast.loops server
      (insert id (broadcast.loops server)) }

/-- Redis passes the message on to the instances that have joined the channel. -/
def publish (managers : Server → Manager casing Client) (ok : Bool)
    (broadcast : Broadcast casing Client Server) : Broadcast casing Client Server :=
  { broadcast with
    publishing := false
    received := fun server => ok && decide
      (get_channel_name casing broadcast.subscription.symbol
        broadcast.subscription.expiry ∈
        (managers server).subscribed_channels) }

end Broadcast

namespace Cluster

variable [DecidableEq Client] [DecidableEq Server]

/-- A step of one instance. -/
def within (redis : Bool) (server : Server) (label : WebSocket.Label Client)
    (cluster : Cluster casing Client Server) : Option (Cluster casing Client Server) :=
  match (cluster.managers server).step redis label with
  | some manager =>
      let managers := Function.update cluster.managers server manager
      let sends := (cluster.managers server).sent label
      some { cluster with
        managers
        broadcasts := fun message => (cluster.broadcasts message).map fun broadcast =>
          (broadcast.count server sends).watch managers }
  | none => none

def setBroadcast (message : ℕ) (broadcast : Broadcast casing Client Server)
    (cluster : Cluster casing Client Server) : Cluster casing Client Server :=
  { cluster with
    broadcasts := Function.update cluster.broadcasts message (some broadcast) }

/-- `_broadcast_to_local_clients` with the data of a message. -/
def start_loop (redis : Bool) (message : ℕ) (server : Server) (id : ℕ)
    (cluster : Cluster casing Client Server) : Option (Cluster casing Client Server) :=
  (cluster.broadcasts message).bind fun broadcast =>
    let request := Request.broadcast_to_local_clients broadcast.subscription.symbol
      broadcast.subscription.expiry
    (cluster.within redis server (.call id request)).bind fun called =>
      (called.broadcasts message).map fun looping =>
        called.setBroadcast message (looping.addLoop server id)

/-- The listener awaits no handler. -/
def listens (server : Server) (cluster : Cluster casing Client Server) : Bool :=
  match cluster.handling server with
  | some id => ((cluster.managers server).tasks id).any Task.is_done
  | none => true

def step (redis : Bool) (cluster : Cluster casing Client Server) :
    Label Client Server → Option (Cluster casing Client Server)
  | .within server label =>
      if label.starts_loop then none else cluster.within redis server label
  | .broadcast_to_group message server symbol expiry =>
      match cluster.broadcasts message with
      | none =>
          let subscription := casing.subscription symbol expiry
          some (cluster.setBroadcast message {
            origin := server
            subscription
            subscribed := fun place =>
              (cluster.managers place).registry.members subscription.group_key })
      | some _ => none
  | .published message ok id =>
      match cluster.broadcasts message with
      | some broadcast =>
          if broadcast.publishing then
            let published := broadcast.publish cluster.managers ok
            let inbox server :=
              if published.received server then cluster.inbox server ++ [message]
              else cluster.inbox server
            ({ cluster with inbox }.setBroadcast message published).start_loop redis
              message broadcast.origin id
          else none
      | none => none
  | .get_message server id =>
      match cluster.inbox server with
      | message :: rest =>
          match cluster.broadcasts message with
          | some broadcast =>
              let taken := { cluster with
                inbox := Function.update cluster.inbox server rest }
              if cluster.listens server then
                if get_channel_name casing broadcast.subscription.symbol
                    broadcast.subscription.expiry ∈
                      (cluster.managers server).subscribed_channels then
                  { taken with
                    handling := Function.update cluster.handling server
                      (some id) }.start_loop redis message server id
                else some taken
              else none
          | none => none
      | [] => none

def system (casing : Casing) (Client Server : Type) [DecidableEq Client]
    [DecidableEq Server] (redis : Bool) :
    System (Cluster casing Client Server) (Label Client Server) where
  start := {}
  step := step redis

end Cluster

/-! ## A broadcast in a run -/

namespace Broadcast

variable [DecidableEq Client]

/-- How often a loop has sent to a client. -/
def passed (managers : Server → Manager casing Client) (server : Server)
    (client : Client) (id : ℕ) : ℕ :=
  ((managers server).tasks id).elim 0 (Manager.passed client)

/-- What holds of a broadcast, on every instance. -/
structure Valid (managers : Server → Manager casing Client)
    (broadcast : Broadcast casing Client Server) : Prop where
  in_loop : ∀ server, ∀ id ∈ broadcast.loops server, ∃ task,
    (managers server).tasks id = some task ∧ task.InLoop broadcast.key
  subscribed : ∀ server,
    broadcast.subscribed server ⊆ broadcast.members managers server
  sent : ∀ server, ∀ client ∈ broadcast.subscribed server,
    broadcast.sent server client =
      ∑ id ∈ broadcast.loops server, passed managers server client id
  publishing : broadcast.publishing = true → ∀ server, broadcast.received server = false
  joined : ∀ server, (broadcast.subscribed server).Nonempty →
    broadcast.received server = true →
      channel broadcast.key ∈ (managers server).subscribed_channels

/-- The loops that have begun, the one that a step is about to begin, and those that
will begin when the message is taken from the inbox. -/
def Counted (inbox : Server → List ℕ) (message : ℕ) (starting : Option Server)
    [DecidableEq Server] (broadcast : Broadcast casing Client Server) : Prop :=
  ∀ server, (broadcast.subscribed server).Nonempty →
    (broadcast.loops server).card + (if starting = some server then 1 else 0) +
        (inbox server).count message =
      (if server = broadcast.origin ∧ broadcast.publishing = false then 1 else 0) +
        (if broadcast.received server = true then 1 else 0)

variable [DecidableEq Server] {managers : Server → Manager casing Client}
  {broadcast : Broadcast casing Client Server} {redis : Bool} {server : Server}
  {after : Manager casing Client} {label : Label Client}

/-- A step of one instance. -/
theorem Valid.step (valid : broadcast.Valid managers)
    (guarded : (managers server).Guarded)
    (taken : (managers server).step redis label = some after) :
    ((broadcast.count server ((managers server).sent label)).watch
      (Function.update managers server after)).Valid
        (Function.update managers server after) where
  in_loop := by
    intro place id looping
    obtain ⟨task, found, in_loop⟩ := valid.in_loop place id looping
    by_cases same : place = server
    · subst same
      rw [Function.update_self]
      obtain ⟨next, found, follows⟩ :=
        Manager.follows_step guarded.consistent taken found in_loop
      exact ⟨next, found, follows.1⟩
    · rw [Function.update_of_ne same]
      exact ⟨task, found, in_loop⟩
  subscribed := by
    intro place
    exact Finset.inter_subset_right
  sent := by
    intro place client kept
    obtain ⟨kept, member⟩ := Finset.mem_inter.mp kept
    have before := valid.sent place client kept
    by_cases same : place = server
    · subst same
      have each : ∀ id ∈ broadcast.loops place,
          passed (Function.update managers place after) place client id =
            passed managers place client id +
              if (managers place).sent label = some (id, client) then 1 else 0 := by
        intro id looping
        obtain ⟨task, found, in_loop⟩ := valid.in_loop place id looping
        obtain ⟨next, changed, follows⟩ :=
          Manager.follows_step guarded.consistent taken found in_loop
        have stays : client ∈ after.registry.members broadcast.key := by
          change client ∈ (Function.update managers place after place).registry.members
            broadcast.key at member
          rwa [Function.update_self] at member
        simpa [passed, found, changed] using
          follows.2 client (valid.subscribed place kept) stays
      have counts : ((broadcast.count place ((managers place).sent label)).watch
          (Function.update managers place after)).sent place client =
            broadcast.sent place client + ((broadcast.loops place).filter fun id =>
              (managers place).sent label = some (id, client)).card := by
        simp [watch, count]
      rw [counts, before, Finset.card_filter, ← Finset.sum_add_distrib]
      exact Finset.sum_congr rfl (fun id looping => (each id looping).symm)
    · simpa [watch, count, passed, Function.update_of_ne same] using before
  publishing := valid.publishing
  joined := by
    rintro place ⟨client, kept⟩ received
    obtain ⟨kept, member⟩ := Finset.mem_inter.mp kept
    have joined := valid.joined place ⟨client, kept⟩ received
    by_cases same : place = server
    · subst same
      rw [Function.update_self]
      exact guarded.channel_kept taken
        (Registry.mem_groups_of_mem (valid.subscribed place kept)) joined
    · rw [Function.update_of_ne same]
      exact joined

theorem Valid.addLoop {id : ℕ} (valid : broadcast.Valid managers)
    (found : (managers server).tasks id = some (.locking (.broadcast broadcast.key)))
    (fresh : id ∉ broadcast.loops server) :
    (broadcast.addLoop server id).Valid managers where
  in_loop := by
    intro place other looping
    by_cases same : place = server
    · subst same
      simp only [Broadcast.addLoop, Function.update_self] at looping
      rcases Finset.mem_insert.mp looping with rfl | before
      · exact ⟨_, found, rfl⟩
      · exact valid.in_loop place other before
    · simp only [Broadcast.addLoop, Function.update_of_ne same] at looping
      exact valid.in_loop place other looping
  subscribed := valid.subscribed
  sent := by
    intro place client kept
    have before := valid.sent place client kept
    by_cases same : place = server
    · subst same
      simp only [Broadcast.addLoop, Function.update_self]
      rw [Finset.sum_insert fresh, before, passed, found, Option.elim_some,
        Manager.passed,
        Nat.zero_add]
    · simp only [Broadcast.addLoop, Function.update_of_ne same]
      exact before
  publishing := valid.publishing
  joined := valid.joined

omit [DecidableEq Server] in
theorem Valid.publish (valid : broadcast.Valid managers) (ok : Bool) :
    (broadcast.publish managers ok).Valid managers where
  in_loop := valid.in_loop
  subscribed := valid.subscribed
  sent := valid.sent
  publishing := nofun
  joined := by
    intro place _ received
    simp only [Broadcast.publish, Bool.and_eq_true, decide_eq_true_eq,
      get_channel_name_eq] at received
    exact received.2

variable {inbox : Server → List ℕ} {message id : ℕ}

omit [DecidableEq Client] in
theorem Counted.addLoop (counted : broadcast.Counted inbox message (some server))
    (fresh : id ∉ broadcast.loops server) :
    (broadcast.addLoop server id).Counted inbox message none := by
  intro place kept
  have before := counted place kept
  by_cases same : place = server
  · subst same
    simp only [Broadcast.addLoop, Function.update_self,
      Finset.card_insert_of_notMem fresh, reduceCtorEq, if_false, Nat.add_zero]
    rwa [if_pos rfl] at before
  · simp only [Broadcast.addLoop, Function.update_of_ne same]
    rwa [if_neg (fun own => same (Option.some.inj own).symm)] at before

/-- The clients that are still in the group have been in it before. -/
theorem Counted.watch {starting : Option Server} (sends : Option (ℕ × Client))
    (counted : broadcast.Counted inbox message starting) :
    ((broadcast.count server sends).watch managers).Counted inbox message starting := by
  intro place kept
  exact counted place (kept.mono Finset.inter_subset_left)

end Broadcast

namespace Cluster

variable [DecidableEq Client] [DecidableEq Server] {redis : Bool}
  {cluster after : Cluster casing Client Server}

structure Valid (cluster : Cluster casing Client Server) : Prop where
  guarded : ∀ server, (cluster.managers server).Guarded
  broadcasts : ∀ message broadcast, cluster.broadcasts message = some broadcast →
    broadcast.Valid cluster.managers
  received : ∀ server, ∀ message ∈ cluster.inbox server, ∃ broadcast,
    cluster.broadcasts message = some broadcast ∧ broadcast.received server = true

def Counted (cluster : Cluster casing Client Server) : Prop :=
  ∀ message broadcast, cluster.broadcasts message = some broadcast →
    broadcast.Counted cluster.inbox message none

/-- What a step of one instance does. -/
theorem within_eq_some {server : Server} {label : WebSocket.Label Client}
    (taken : cluster.within redis server label = some after) : ∃ manager,
      (cluster.managers server).step redis label = some manager ∧
      after.managers = Function.update cluster.managers server manager ∧
      after.inbox = cluster.inbox ∧
      ∀ message, after.broadcasts message = (cluster.broadcasts message).map
        fun broadcast => (broadcast.count server ((cluster.managers server).sent
          label)).watch after.managers := by
  unfold within at taken
  split at taken
  case h_1 manager stepped =>
      rw [← Option.some.inj taken]
      exact ⟨manager, stepped, rfl, rfl, fun _ => rfl⟩
  case h_2 => contradiction

theorem Valid.within (valid : cluster.Valid) {server : Server}
    {label : WebSocket.Label Client}
    (taken : cluster.within redis server label = some after) : after.Valid := by
  obtain ⟨manager, stepped, managers, inbox, broadcasts⟩ := within_eq_some taken
  constructor
  case guarded =>
      intro place
      rw [managers]
      by_cases same : place = server
      · subst same
        rw [Function.update_self]
        exact (valid.guarded place).step stepped
      · rw [Function.update_of_ne same]
        exact valid.guarded place
  case broadcasts =>
      intro message broadcast found
      rw [broadcasts] at found
      obtain ⟨before, begun, rfl⟩ := Option.map_eq_some_iff.mp found
      rw [managers]
      exact (valid.broadcasts message before begun).step (valid.guarded server) stepped
  case received =>
      intro place message member
      rw [inbox] at member
      obtain ⟨broadcast, found, received⟩ := valid.received place message member
      exact ⟨_, (broadcasts message).trans (congrArg _ found), received⟩

theorem Counted.within (counted : cluster.Counted) {server : Server}
    {label : WebSocket.Label Client}
    (taken : cluster.within redis server label = some after) : after.Counted := by
  obtain ⟨_, _, _, inbox, broadcasts⟩ := within_eq_some taken
  intro message broadcast found
  rw [broadcasts] at found
  obtain ⟨before, begun, rfl⟩ := Option.map_eq_some_iff.mp found
  rw [inbox]
  exact (counted message before begun).watch _

omit [DecidableEq Server] in
theorem Valid.setBroadcast (valid : cluster.Valid) {message : ℕ}
    {broadcast : Broadcast casing Client Server}
    (own : broadcast.Valid cluster.managers) {inbox : Server → List ℕ}
    (received : ∀ server, ∀ other ∈ inbox server,
      if other = message then broadcast.received server = true
      else other ∈ cluster.inbox server) :
    ({ cluster with inbox }.setBroadcast message broadcast).Valid where
  guarded := valid.guarded
  broadcasts := Tasks.All.update valid.broadcasts own
  received := by
    intro server other member
    have known := received server other member
    simp only [Cluster.setBroadcast]
    by_cases same : other = message
    · subst same
      rw [if_pos rfl] at known
      exact ⟨broadcast, Function.update_self _ _ _, known⟩
    · rw [if_neg same] at known
      rw [Function.update_of_ne same]
      exact valid.received server other known

omit [DecidableEq Client] in
theorem counted_setBroadcast {message : ℕ} {broadcast : Broadcast casing Client Server}
    (others : ∀ other, other ≠ message → ∀ broadcast,
      cluster.broadcasts other = some broadcast →
        broadcast.Counted cluster.inbox other none)
    (own : broadcast.Counted cluster.inbox message none) :
    (cluster.setBroadcast message broadcast).Counted := by
  apply Tasks.all_update
  · intro other found_broadcast different found
    exact others other different found_broadcast found
  · intro found_broadcast same
    exact Option.some.inj same ▸ own

/-- A loop begins that has been counted as about to begin. -/
theorem Valid.start_loop (valid : cluster.Valid) {message id : ℕ} {server : Server}
    (others : ∀ other, other ≠ message → ∀ broadcast,
      cluster.broadcasts other = some broadcast →
        broadcast.Counted cluster.inbox other none)
    (own : ∀ broadcast, cluster.broadcasts message = some broadcast →
      broadcast.Counted cluster.inbox message (some server))
    (taken : cluster.start_loop redis message server id = some after) :
    after.Valid ∧ after.Counted := by
  obtain ⟨broadcast, found, taken⟩ := Option.bind_eq_some_iff.mp taken
  obtain ⟨called, calls, taken⟩ := Option.bind_eq_some_iff.mp taken
  obtain ⟨looping, begun, rfl⟩ := Option.map_eq_some_iff.mp taken
  have within := valid.within calls
  obtain ⟨manager, stepped, managers, inbox, broadcasts⟩ := within_eq_some calls
  have watched : (broadcast.count server none).watch called.managers = looping := by
    rw [broadcasts, found] at begun
    exact Option.some.inj begun
  have unknown : (cluster.managers server).tasks id = none := by
    simp only [Manager.step] at stepped
    split at stepped
    case h_1 unknown => exact unknown
    case h_2 => contradiction
  have called_task : (called.managers server).tasks id =
      some (.locking (.broadcast looping.key)) := by
    simp only [Manager.step, unknown] at stepped
    rw [managers, Function.update_self, ← Option.some.inj stepped, ← watched]
    exact Function.update_self _ _ _
  have fresh : id ∉ looping.loops server := by
    rw [← watched]
    intro member
    obtain ⟨task, known, _⟩ := (valid.broadcasts message broadcast found).in_loop server
      id member
    rw [unknown] at known
    contradiction
  constructor
  · apply within.setBroadcast
      ((within.broadcasts message looping begun).addLoop called_task fresh)
    intro place other member
    split
    case isTrue same =>
        subst same
        obtain ⟨known, known_found, received⟩ := within.received place other member
        rw [begun, Option.some.injEq] at known_found
        exact known_found ▸ received
    case isFalse => exact member
  · apply counted_setBroadcast
    · intro other different known known_found
      rw [broadcasts] at known_found
      obtain ⟨before, before_found, rfl⟩ := Option.map_eq_some_iff.mp known_found
      rw [inbox]
      exact (others other different before before_found).watch _
    · rw [inbox]
      apply Broadcast.Counted.addLoop _ fresh
      rw [← watched]
      exact (own broadcast found).watch none

omit [DecidableEq Server] in
theorem Valid.withInbox (valid : cluster.Valid) {inbox : Server → List ℕ}
    (fewer : ∀ server, ∀ message ∈ inbox server, message ∈ cluster.inbox server) :
    ({ cluster with inbox } : Cluster casing Client Server).Valid where
  guarded := valid.guarded
  broadcasts := valid.broadcasts
  received := fun server message member =>
    valid.received server message (fewer server message member)

omit [DecidableEq Server] in
/-- A message is not in the inbox of an instance before it has been published. -/
theorem Valid.notMem_inbox (valid : cluster.Valid) {message : ℕ}
    (unpublished : ∀ broadcast, cluster.broadcasts message = some broadcast →
      broadcast.publishing = true) (server : Server) :
        message ∉ cluster.inbox server := by
  intro member
  obtain ⟨broadcast, found, received⟩ := valid.received server message member
  rw [(valid.broadcasts message broadcast found).publishing
    (unpublished broadcast found)
    server] at received
  contradiction

theorem valid_broadcast_to_group (valid : cluster.Valid) (counted : cluster.Counted)
    {message : ℕ} (unknown : cluster.broadcasts message = none) (server : Server)
    (subscription : Subscription casing) :
    (cluster.setBroadcast message {
      origin := server
      subscription
      subscribed := fun place =>
        (cluster.managers place).registry.members subscription.group_key }).Valid ∧
    (cluster.setBroadcast message {
      origin := server
      subscription
      subscribed := fun place =>
        (cluster.managers place).registry.members subscription.group_key
          }).Counted := by
  have not_waiting : ∀ place, message ∉ cluster.inbox place := by
    apply valid.notMem_inbox
    intro broadcast found
    rw [unknown] at found
    contradiction
  constructor
  · apply valid.setBroadcast
    · constructor
      case in_loop => simp
      case subscribed => exact fun place => Finset.Subset.refl _
      case sent => simp
      case publishing => exact fun _ _ => rfl
      case joined => simp
    · intro place other member
      rw [if_neg]
      · exact member
      · rintro rfl
        exact not_waiting place member
  · apply counted_setBroadcast
    · intro other _ broadcast found
      exact counted other broadcast found
    · intro place _
      simp [List.count_eq_zero.mpr (not_waiting place)]

theorem valid_published (valid : cluster.Valid) (counted : cluster.Counted)
    {message id : ℕ} {broadcast : Broadcast casing Client Server}
    (found : cluster.broadcasts message = some broadcast)
    (publishing : broadcast.publishing = true) (ok : Bool) {inbox : Server → List ℕ}
    (passed_on : ∀ server, inbox server =
      if (broadcast.publish cluster.managers ok).received server then
        cluster.inbox server ++ [message]
      else cluster.inbox server)
    (taken : ({ cluster with inbox }.setBroadcast message
      (broadcast.publish cluster.managers ok)).start_loop redis message
        broadcast.origin id = some after) : after.Valid ∧ after.Counted := by
  have not_waiting : ∀ place, message ∉ cluster.inbox place := by
    apply valid.notMem_inbox
    intro other same
    rw [found, Option.some.injEq] at same
    exact same ▸ publishing
  have published : ({ cluster with inbox }.setBroadcast message
      (broadcast.publish cluster.managers ok)).Valid := by
    apply valid.setBroadcast ((valid.broadcasts message broadcast found).publish ok)
    intro place other member
    rw [passed_on] at member
    split
    case isTrue same =>
        by_contra missed
        rw [if_neg missed] at member
        exact not_waiting place (same ▸ member)
    case isFalse different =>
        split at member
        case isTrue =>
            rcases List.mem_append.mp member with before | own
            · exact before
            · exact absurd (List.mem_singleton.mp own) different
        case isFalse => exact member
  apply published.start_loop _ _ taken
  · intro other different known known_found place kept
    simp only [Cluster.setBroadcast, Function.update_of_ne different] at known_found
    have same : (inbox place).count other = (cluster.inbox place).count other := by
      rw [passed_on]
      split
      case isTrue => simp [different.symm]
      case isFalse => rfl
    change _ + (inbox place).count other = _
    rw [same]
    exact counted other known known_found place kept
  · intro known known_found place kept
    simp only [Cluster.setBroadcast, Function.update_self,
      Option.some.injEq] at known_found
    subst known_found
    have before := counted message broadcast found place kept
    have quiet := (valid.broadcasts message broadcast found).publishing publishing place
    have zero : (cluster.inbox place).count message = 0 :=
      List.count_eq_zero.mpr (not_waiting place)
    have none_begun : (broadcast.loops place).card = 0 := by
      simpa [zero, publishing, quiet] using before
    have delivered : (inbox place).count message =
        if (broadcast.publish cluster.managers ok).received place then 1 else 0 := by
      rw [passed_on]
      split
      case isTrue => simp [zero]
      case isFalse => exact zero
    change (broadcast.loops place).card + _ + (inbox place).count message = _
    rw [none_begun, delivered, Nat.zero_add]
    congr 1
    by_cases same : place = broadcast.origin
    · subst same
      simp [Broadcast.publish]
    · simp [Broadcast.publish, same, Ne.symm same]

section GetMessage

variable {server : Server} {message : ℕ} {rest : List ℕ}

omit [DecidableEq Client] in
theorem mem_of_taken (waiting : cluster.inbox server = message :: rest) :
    ∀ place, ∀ other ∈ Function.update cluster.inbox server rest place,
      other ∈ cluster.inbox place := by
  intro place other member
  by_cases same : place = server
  · subst same
    rw [Function.update_self] at member
    rw [waiting]
    exact List.mem_cons_of_mem message member
  · rwa [Function.update_of_ne same] at member

omit [DecidableEq Client] in
theorem count_taken (waiting : cluster.inbox server = message :: rest) (place : Server)
    (other : ℕ) :
    (Function.update cluster.inbox server rest place).count other +
      (if place = server ∧ other = message then 1 else 0) =
        (cluster.inbox place).count other := by
  by_cases same : place = server
  · subst same
    rw [Function.update_self, waiting]
    by_cases own : other = message
    · simp [own]
    · simp [own, Ne.symm own]
  · simp [same]

/-- While a client is in the group, the listener finds the channel joined. -/
theorem valid_dropped (valid : cluster.Valid) (counted : cluster.Counted)
    (waiting : cluster.inbox server = message :: rest)
    {broadcast : Broadcast casing Client Server}
    (found : cluster.broadcasts message = some broadcast)
    (not_joined : channel broadcast.key ∉
      (cluster.managers server).subscribed_channels) :
    ({ cluster with
      inbox := Function.update cluster.inbox server rest } :
        Cluster casing Client Server).Valid ∧
    ({ cluster with
      inbox := Function.update cluster.inbox server rest } :
        Cluster casing Client Server).Counted := by
  refine ⟨valid.withInbox (mem_of_taken waiting), ?_⟩
  intro other known known_found place kept
  have before := counted other known known_found place kept
  have not_taken : ¬(place = server ∧ other = message) := by
    rintro ⟨rfl, rfl⟩
    rw [show cluster.broadcasts other = some known from known_found,
      Option.some.injEq] at found
    subst found
    obtain ⟨received, received_found, is_received⟩ := valid.received place other (by
      rw [waiting]
      exact List.mem_cons_self)
    rw [show cluster.broadcasts other = some known from known_found,
      Option.some.injEq] at received_found
    subst received_found
    exact not_joined ((valid.broadcasts other known known_found).joined place kept
      is_received)
  rw [← count_taken waiting place other, if_neg not_taken] at before
  exact before

theorem valid_handled (valid : cluster.Valid) (counted : cluster.Counted)
    (waiting : cluster.inbox server = message :: rest) {handling : Server → Option ℕ}
    {id : ℕ}
    (taken : ({ cluster with
      inbox := Function.update cluster.inbox server rest
      handling } : Cluster casing Client Server).start_loop redis message server id =
        some after) : after.Valid ∧ after.Counted := by
  have fewer : ({ cluster with
      inbox := Function.update cluster.inbox server rest
      handling } : Cluster casing Client Server).Valid :=
    ⟨valid.guarded, valid.broadcasts, (valid.withInbox (mem_of_taken waiting)).received⟩
  apply fewer.start_loop _ _ taken
  · intro other different known found place kept
    have before := counted other known found place kept
    have not_taken : ¬(place = server ∧ other = message) := fun own => different own.2
    rwa [← count_taken waiting place other, if_neg not_taken] at before
  · intro known found place kept
    have before := counted message known found place kept
    rw [← count_taken waiting place message] at before
    change _ + _ + (Function.update cluster.inbox server rest place).count message = _
    rw [← before]
    simp only [and_true, reduceCtorEq, if_false, Option.some.injEq, eq_comm]
    omega

end GetMessage

theorem valid_step (valid : cluster.Valid) (counted : cluster.Counted)
    {label : Label Client Server} (taken : cluster.step redis label = some after) :
    after.Valid ∧ after.Counted := by
  cases label with
  | within server label =>
      simp only [step] at taken
      split at taken
      case isTrue => contradiction
      case isFalse => exact ⟨valid.within taken, counted.within taken⟩
  | broadcast_to_group message server symbol expiry =>
      simp only [step] at taken
      split at taken
      case h_2 => contradiction
      case h_1 unknown =>
          rw [← Option.some.inj taken]
          exact valid_broadcast_to_group valid counted unknown server _
  | published message ok id =>
      simp only [step] at taken
      split at taken
      case h_2 => contradiction
      case h_1 broadcast found =>
          obtain ⟨publishing, taken⟩ := Option.ite_none_right_eq_some.mp taken
          exact valid_published valid counted found publishing ok (fun _ => rfl) taken
  | get_message server id =>
      simp only [step] at taken
      split at taken
      case h_2 => contradiction
      case h_1 message rest waiting =>
          split at taken
          case h_2 => contradiction
          case h_1 broadcast found =>
              obtain ⟨_, taken⟩ := Option.ite_none_right_eq_some.mp taken
              rw [get_channel_name_eq] at taken
              split at taken
              case isTrue => exact valid_handled valid counted waiting taken
              case isFalse not_joined =>
                  rw [← Option.some.inj taken]
                  exact valid_dropped valid counted waiting found not_joined

theorem valid_of_reachable
    (reached : Reachable (system casing Client Server redis) cluster) :
    cluster.Valid ∧ cluster.Counted := by
  apply reached.invariant (I := fun cluster => cluster.Valid ∧ cluster.Counted)
  · refine ⟨⟨fun _ => .start, ?_, ?_⟩, ?_⟩
    · intro message broadcast impossible
      cases impossible
    · intro server message impossible
      cases impossible
    · intro message broadcast impossible
      cases impossible
  · rintro before label after ⟨valid, counted⟩ _ taken
    exact valid_step valid counted taken

end Cluster

/-! ## Exactly once -/

/-- The message has been published and taken from every inbox, and its loops are
done. -/
structure Broadcast.Finished (cluster : Cluster casing Client Server) (message : ℕ)
    (broadcast : Broadcast casing Client Server) : Prop where
  published : broadcast.publishing = false
  taken : ∀ server, message ∉ cluster.inbox server
  done : ∀ server, ∀ id ∈ broadcast.loops server,
    (cluster.managers server).tasks id = some .done

/-- A broadcast that is finished has sent its message exactly once to each client
that has been in the group throughout, if and only if the instances with such clients
that Redis has passed the message on to are all of them but its own. -/
theorem sent_once_iff [DecidableEq Client] [DecidableEq Server] {redis : Bool}
    {cluster : Cluster casing Client Server}
    (reached : Reachable (Cluster.system casing Client Server redis) cluster)
    {message : ℕ} {broadcast : Broadcast casing Client Server}
    (found : cluster.broadcasts message = some broadcast)
    (finished : broadcast.Finished cluster message) :
    (∀ server, ∀ client ∈ broadcast.subscribed server,
      broadcast.sent server client = 1) ↔
    ∀ server, (broadcast.subscribed server).Nonempty →
      (broadcast.received server = true ↔ server ≠ broadcast.origin) := by
  obtain ⟨valid, counted⟩ := Cluster.valid_of_reachable reached
  have sends : ∀ server, ∀ client ∈ broadcast.subscribed server,
      broadcast.sent server client =
        (if server = broadcast.origin then 1 else 0) +
          (if broadcast.received server = true then 1 else 0) := by
    intro server client kept
    have once : ∀ id ∈ broadcast.loops server,
        Broadcast.passed cluster.managers server client id = 1 := by
      intro id looping
      rw [Broadcast.passed, finished.done server id looping]
      rfl
    have loops := counted message broadcast found server ⟨client, kept⟩
    rw [List.count_eq_zero.mpr (finished.taken server)] at loops
    rw [(valid.broadcasts message broadcast found).sent server client kept,
      Finset.sum_congr rfl once, ← Finset.card_eq_sum_ones]
    simpa [finished.published] using loops
  have once_iff : ∀ server, ∀ client ∈ broadcast.subscribed server,
      (broadcast.sent server client = 1 ↔
        (broadcast.received server = true ↔ server ≠ broadcast.origin)) := by
    intro server client kept
    rw [sends server client kept]
    by_cases own : server = broadcast.origin
    · simp [own]
    · simp [own]
  constructor
  · rintro once server ⟨client, kept⟩
    exact (once_iff server client kept).mp (once server client kept)
  · intro received server client kept
    exact (once_iff server client kept).mpr (received server ⟨client, kept⟩)

namespace Cluster

def after (labels : List (Label ℕ Bool)) : Cluster capitals ℕ Bool :=
  (labels.foldlM (step true) {}).getD {}

/-- A client of the first of two instances subscribes, and the channel is joined. -/
def joined : List (Label ℕ Bool) :=
  [.within false (.call 0 (.connect 7)), .within false (.accepted 0 true),
    .within false (.acquire 0), .within false (.confirmed 0 true),
    .within false (.call 1 (.subscribe 7 "NIFTY" "1")), .within false (.acquire 1),
    .within false (.joined 1 true), .within false (.confirmed 1 true)]

/-- The other instance broadcasts to its group. -/
def relayed : List (Label ℕ Bool) :=
  joined ++ [.broadcast_to_group 0 true "NIFTY" "1", .published 0 true 0,
    .within true (.acquire 0), .get_message false 2, .within false (.acquire 2),
    .within false (.send 2 7 true), .within false (.sent_all 2)]

theorem sent_once_relayed : ∃ broadcast, (after relayed).broadcasts 0 = some broadcast ∧
    7 ∈ broadcast.subscribed false ∧
    ∀ server, ∀ client ∈ broadcast.subscribed server,
      broadcast.sent server client = 1 := by
  have reached : Reachable (system capitals ℕ Bool true) (after relayed) :=
    .follow (fun _ _ _ => trivial) .start
      (rfl : relayed.foldlM (step true) {} = some _)
  refine ⟨_, rfl, by decide, ?_⟩
  apply (sent_once_iff reached (show (after relayed).broadcasts 0 = some _ from rfl)
    ?_).mpr
  · intro server _
    cases server <;> decide
  · constructor
    case published => rfl
    case taken =>
        intro server
        cases server <;> decide
    case done =>
        intro server id looping
        cases server
        · cases Finset.mem_singleton.mp looping
          rfl
        · cases Finset.mem_singleton.mp looping
          rfl

/-- The instance of the client broadcasts to its group. -/
def doubled : List (Label ℕ Bool) :=
  joined ++ [.broadcast_to_group 0 false "NIFTY" "1", .published 0 true 2,
    .within false (.acquire 2), .within false (.send 2 7 true),
    .within false (.sent_all 2), .get_message false 3, .within false (.acquire 3),
    .within false (.send 3 7 true), .within false (.sent_all 3)]

theorem sent_twice_doubled : ∃ (cluster : Cluster capitals ℕ Bool) (message : ℕ)
    (broadcast : Broadcast capitals ℕ Bool),
    Reachable (system capitals ℕ Bool true) cluster ∧
    cluster.broadcasts message = some broadcast ∧ broadcast.Finished cluster message ∧
    7 ∈ broadcast.subscribed false ∧ broadcast.sent false 7 = 2 := by
  refine ⟨after doubled, 0, _, ?_, rfl, ?_, by decide, by decide⟩
  · exact .follow (fun _ _ _ => trivial) .start
      (rfl : doubled.foldlM (step true) {} = some _)
  · constructor
    case published => rfl
    case taken =>
        intro server
        cases server <;> decide
    case done =>
        intro server id looping
        cases server
        · rcases Finset.mem_insert.mp looping with rfl | first
          · rfl
          · cases Finset.mem_singleton.mp first
            rfl
        · exact absurd looping (Finset.notMem_empty id)

end Cluster

end HftEngine.WebSocket
