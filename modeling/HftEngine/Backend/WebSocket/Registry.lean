import Mathlib.Data.Finset.Basic
import Mathlib.Data.List.AList

/-!
# Connections, subscriptions and groups

The three maps of `ConnectionManager`.  Each of its operations changes them in
one stretch that does not suspend, while it holds the lock.
-/

namespace HftEngine.WebSocket

/-- `str.upper`, of which the letters with a case of their own are left open. -/
structure Casing where
  upper : String → String
  upper_upper : ∀ text, upper (upper text) = upper text

/-- The symbol is in upper case. -/
structure Subscription (casing : Casing) where
  symbol : String
  expiry : String
  upper_symbol : casing.upper symbol = symbol
  deriving DecidableEq

def Casing.subscription (casing : Casing) (symbol expiry : String) :
    Subscription casing where
  symbol := casing.upper symbol
  expiry
  upper_symbol := casing.upper_upper symbol

/-- `str.upper` on texts in upper case. -/
def capitals : Casing where
  upper text := text
  upper_upper _ := rfl

variable {casing : Casing}

def Subscription.group_key (subscription : Subscription casing) : String :=
  subscription.symbol ++ ":" ++ subscription.expiry

/-- A subscription belongs to the websocket that its client has then. -/
structure Registry (casing : Casing) (Client : Type) where
  active_connections : Finset Client := ∅
  subscriptions : Client → Option (Subscription casing) := fun _ => none
  subscription_groups : AList (fun _ : String => Finset Client) := ∅

namespace Registry

variable {Client : Type}

def members (key : String) (registry : Registry casing Client) : Finset Client :=
  (registry.subscription_groups.lookup key).getD ∅

def is_new_group (key : String) (registry : Registry casing Client) : Bool :=
  (registry.subscription_groups.lookup key).isNone

/-- Delete a group. -/
def prune (key : String) (registry : Registry casing Client) : Registry casing Client :=
  { registry with subscription_groups := registry.subscription_groups.erase key }

theorem members_prune {registry : Registry casing Client} {key : String}
    (empty : registry.subscription_groups.lookup key = some ∅) (wanted : String) :
    (registry.prune key).members wanted = registry.members wanted := by
  by_cases same : wanted = key
  · subst same
    simp only [prune, members, AList.lookup_erase, empty]
    rfl
  · simp only [prune, members, AList.lookup_erase_ne same]

theorem mem_groups_of_mem {registry : Registry casing Client} {key : String}
    {client : Client} (member : client ∈ registry.members key) :
    key ∈ registry.subscription_groups := by
  rw [← AList.lookup_isSome]
  cases found : registry.subscription_groups.lookup key with
  | none =>
      rw [members, found] at member
      exact absurd member (Finset.notMem_empty client)
  | some clients => rfl

variable [DecidableEq Client]

/-! ## Operations -/

def connect (client : Client) (registry : Registry casing Client) :
    Registry casing Client :=
  { registry with active_connections := insert client registry.active_connections }

/-- Discard a client from a group, which may be left empty. -/
def discard (key : String) (client : Client) (registry : Registry casing Client) :
    Registry casing Client :=
  match registry.subscription_groups.lookup key with
  | some clients =>
      { registry with
        subscription_groups :=
          registry.subscription_groups.insert key (clients.erase client) }
  | none => registry

def setSubscription (client : Client) (subscription : Option (Subscription casing))
    (registry : Registry casing Client) : Registry casing Client :=
  { registry with
    subscriptions := Function.update registry.subscriptions client subscription }

/-- Leave the group of the subscription that a client has. -/
def leave (client : Client) (registry : Registry casing Client) :
    Registry casing Client :=
  match registry.subscriptions client with
  | some subscription =>
      (registry.discard subscription.group_key client).setSubscription client none
  | none => registry

def add (client : Client) (subscription : Subscription casing)
    (registry : Registry casing Client) : Registry casing Client :=
  let key := subscription.group_key
  { registry.setSubscription client (some subscription) with
    subscription_groups :=
      registry.subscription_groups.insert key (insert client (registry.members key)) }

/-- Whether the group is new, and the maps after it; none where the client is not
connected. -/
def subscribe (client : Client) (symbol expiry : String)
    (registry : Registry casing Client) : Option (Bool × Registry casing Client) :=
  if client ∈ registry.active_connections then
    let subscription := casing.subscription symbol expiry
    let left := registry.leave client
    some (left.is_new_group subscription.group_key, left.add client subscription)
  else none

/-- The subscription that a client has had, and the maps without it. -/
def unsubscribe (client : Client) (registry : Registry casing Client) :
    Option (Subscription casing) × Registry casing Client :=
  (registry.subscriptions client, registry.leave client)

def drop (client : Client) (registry : Registry casing Client) :
    Registry casing Client :=
  { registry with active_connections := registry.active_connections.erase client }

/-- The subscription whose group has been deleted, and the maps after it. -/
def disconnect (client : Client) (registry : Registry casing Client) :
    Option (Subscription casing) × Registry casing Client :=
  let left := (registry.drop client).leave client
  match registry.subscriptions client with
  | some subscription =>
      if left.subscription_groups.lookup subscription.group_key = some ∅ then
        (some subscription, left.prune subscription.group_key)
      else (none, left)
  | none => (none, left)

/-! ## What the operations change -/

section Changes

variable {registry : Registry casing Client} {client other : Client} {key : String}
  {subscription : Subscription casing}

theorem members_discard (wanted : String) :
    (registry.discard key client).members wanted =
      if wanted = key then (registry.members key).erase client
      else registry.members wanted := by
  unfold discard
  split
  case h_1 clients found =>
      simp only [members]
      split
      case isTrue same =>
          rw [same, AList.lookup_insert, found]
          rfl
      case isFalse different => rw [AList.lookup_insert_ne different]
  case h_2 absent =>
      split
      case isTrue same => rw [same, members, absent, Option.getD_none,
        Finset.erase_empty]
      case isFalse => rfl

theorem members_add (wanted : String) :
    (registry.add client subscription).members wanted =
      if wanted = subscription.group_key then
        insert client (registry.members subscription.group_key)
      else registry.members wanted := by
  simp only [add, members]
  split
  case isTrue same => rw [same, AList.lookup_insert, Option.getD_some]
  case isFalse different => rw [AList.lookup_insert_ne different]

@[simp] theorem subscriptions_discard :
    (registry.discard key client).subscriptions = registry.subscriptions := by
  unfold discard
  split <;> rfl

@[simp] theorem active_connections_discard :
    (registry.discard key client).active_connections = registry.active_connections := by
  unfold discard
  split <;> rfl

theorem subscriptions_leave :
    (registry.leave client).subscriptions =
      Function.update registry.subscriptions client none := by
  unfold leave
  split
  case h_1 => simp [setSubscription]
  case h_2 absent => rw [← absent, Function.update_eq_self]

theorem subscriptions_add :
    (registry.add client subscription).subscriptions =
      Function.update registry.subscriptions client (some subscription) := rfl

@[simp] theorem active_connections_leave :
    (registry.leave client).active_connections = registry.active_connections := by
  unfold leave
  split
  case h_1 => simp [setSubscription]
  case h_2 => rfl

/-! ### Groups that are kept -/

theorem mem_groups_discard {wanted : String} :
    wanted ∈ (registry.discard key client).subscription_groups ↔
      wanted ∈ registry.subscription_groups := by
  unfold discard
  split
  case h_1 clients found =>
      have present : key ∈ registry.subscription_groups := by
        rw [← AList.lookup_isSome, found, Option.isSome_some]
      rw [AList.mem_insert, or_iff_right_iff_imp]
      exact fun same => same ▸ present
  case h_2 => rfl

@[simp] theorem mem_groups_leave {wanted : String} :
    wanted ∈ (registry.leave client).subscription_groups ↔
      wanted ∈ registry.subscription_groups := by
  unfold leave
  split
  case h_1 => exact mem_groups_discard
  case h_2 => rfl

theorem mem_groups_add {wanted : String} :
    wanted ∈ (registry.add client subscription).subscription_groups ↔
      wanted = subscription.group_key ∨ wanted ∈ registry.subscription_groups :=
  AList.mem_insert _

omit [DecidableEq Client] in
theorem is_new_group_iff : registry.is_new_group key = true ↔
    key ∉ registry.subscription_groups := by
  rw [is_new_group, Option.isNone_iff_eq_none, AList.lookup_eq_none]

theorem subscribe_eq_some {symbol expiry : String} {is_new : Bool}
    {after : Registry casing Client}
    (subscribed : registry.subscribe client symbol expiry = some (is_new, after)) :
    (is_new = true ↔ (casing.subscription symbol expiry).group_key ∉
      registry.subscription_groups) ∧
      after = (registry.leave client).add client
        (casing.subscription symbol expiry) := by
  unfold subscribe at subscribed
  split at subscribed
  case isTrue =>
      obtain ⟨rfl, rfl⟩ := Prod.mk.inj (Option.some.inj subscribed)
      exact ⟨is_new_group_iff.trans (not_congr mem_groups_leave), rfl⟩
  case isFalse => contradiction

/-- No group is kept that is empty. -/
def Tidy (registry : Registry casing Client) : Prop :=
  ∀ key, registry.subscription_groups.lookup key ≠ some ∅

theorem Tidy.add (tidy : ∀ key, key ≠ subscription.group_key →
    registry.subscription_groups.lookup key ≠ some ∅) :
    (registry.add client subscription).Tidy := by
  intro wanted
  simp only [Registry.add]
  by_cases same : wanted = subscription.group_key
  · rw [same, AList.lookup_insert, ne_eq, Option.some.injEq]
    exact Finset.insert_ne_empty _ _
  · rw [AList.lookup_insert_ne same]
    exact tidy wanted same

/-- A client that leaves may leave its own group empty and no other. -/
theorem Tidy.leave (tidy : registry.Tidy) {wanted : String}
    (elsewhere : ∀ subscription, registry.subscriptions client = some subscription →
      wanted ≠ subscription.group_key) :
    (registry.leave client).subscription_groups.lookup wanted ≠ some ∅ := by
  unfold Registry.leave
  split
  case h_1 subscription found =>
      change (registry.discard subscription.group_key client).subscription_groups.lookup
        wanted ≠ some ∅
      unfold discard
      split
      case h_1 =>
          rw [AList.lookup_insert_ne (elsewhere subscription found)]
          exact tidy wanted
      case h_2 => exact tidy wanted
  case h_2 => exact tidy wanted

theorem Tidy.after_leave (tidy : registry.Tidy)
    (kept : ∀ subscription, registry.subscriptions client = some subscription →
      (registry.leave client).subscription_groups.lookup subscription.group_key ≠
        some ∅) : (registry.leave client).Tidy := by
  intro wanted
  by_cases elsewhere : ∀ subscription, registry.subscriptions client =
    some subscription →
      wanted ≠ subscription.group_key
  · exact tidy.leave elsewhere
  · push Not at elsewhere
    obtain ⟨subscription, found, same⟩ := elsewhere
    exact same ▸ kept subscription found

omit [DecidableEq Client] in
theorem Tidy.prune (tidy : ∀ wanted, wanted ≠ key →
    registry.subscription_groups.lookup wanted ≠ some ∅) :
    (registry.prune key).Tidy := by
  intro wanted
  simp only [Registry.prune]
  by_cases same : wanted = key
  · subst same
    simp
  · rw [AList.lookup_erase_ne same]
    exact tidy wanted same

omit [DecidableEq Client] in
theorem Tidy.members_ne_empty (tidy : registry.Tidy) (key : String) :
    registry.members key ≠ ∅ ↔ key ∈ registry.subscription_groups := by
  rw [members, ← AList.lookup_isSome]
  cases found : registry.subscription_groups.lookup key with
  | none => simp
  | some clients =>
      rw [Option.getD_some, Option.isSome_some, eq_self, iff_true]
      rintro rfl
      exact tidy key found

theorem leave_drop :
    (registry.drop client).leave client = (registry.leave client).drop client := by
  unfold leave
  cases found : registry.subscriptions client with
  | none => simp [drop, found]
  | some subscription =>
      cases group : registry.subscription_groups.lookup subscription.group_key with
      | none => simp [drop, found, discard, group, setSubscription]
      | some clients => simp [drop, found, discard, group, setSubscription]

/-- What `disconnect` does: the client has left, and a group that has become empty
is deleted. -/
theorem disconnect_cases (client : Client) (registry : Registry casing Client) :
    (∃ subscription, registry.subscriptions client = some subscription ∧
      (registry.leave client).subscription_groups.lookup subscription.group_key =
        some ∅ ∧
      registry.disconnect client =
        (some subscription,
          ((registry.leave client).drop client).prune subscription.group_key)) ∨
    ((∀ subscription, registry.subscriptions client = some subscription →
      (registry.leave client).subscription_groups.lookup subscription.group_key ≠
        some ∅) ∧
      registry.disconnect client = (none, (registry.leave client).drop client)) := by
  simp only [disconnect, leave_drop]
  cases found : registry.subscriptions client with
  | none =>
      right
      exact ⟨by simp, rfl⟩
  | some subscription =>
      by_cases empty : (registry.leave client).subscription_groups.lookup
          subscription.group_key = some ∅
      · left
        exact ⟨subscription, rfl, empty, if_pos empty⟩
      · right
        refine ⟨?_, if_neg empty⟩
        intro other same
        exact Option.some.inj same ▸ empty

theorem subscriptions_disconnect :
    (registry.disconnect client).2.subscriptions =
      Function.update registry.subscriptions client none := by
  rw [← subscriptions_leave]
  rcases disconnect_cases client registry with ⟨_, _, _, same⟩ | ⟨_, same⟩
  · rw [same]
    rfl
  · rw [same]
    rfl

theorem active_connections_disconnect :
    (registry.disconnect client).2.active_connections =
      registry.active_connections.erase client := by
  rcases disconnect_cases client registry with ⟨_, _, _, same⟩ | ⟨_, same⟩
  · rw [same]
    simp [prune, drop]
  · rw [same]
    simp [drop]

theorem active_connections_subscribe {symbol expiry : String} {is_new : Bool}
    {after : Registry casing Client}
    (subscribed : registry.subscribe client symbol expiry = some (is_new, after)) :
    after.active_connections = registry.active_connections := by
  rw [(subscribe_eq_some subscribed).2]
  exact active_connections_leave

end Changes

/-! ## Consistency -/

/-- A client is in the group of its subscription and in no other, and a client with
a subscription is connected. -/
structure Consistent (registry : Registry casing Client) : Prop where
  member_iff : ∀ client key, client ∈ registry.members key ↔
    (registry.subscriptions client).map Subscription.group_key = some key
  active : ∀ client, (registry.subscriptions client).isSome →
    client ∈ registry.active_connections

namespace Consistent

variable {registry : Registry casing Client} {client : Client}

omit [DecidableEq Client] in
theorem start : ({} : Registry casing Client).Consistent where
  member_iff := by simp [members]
  active := by simp

theorem connect (consistent : registry.Consistent) (client : Client) :
    (registry.connect client).Consistent where
  member_iff := consistent.member_iff
  active := by
    intro other subscribed
    exact Finset.mem_insert_of_mem (consistent.active other subscribed)

theorem mem_leave (consistent : registry.Consistent) (client other : Client)
    (key : String) :
    other ∈ (registry.leave client).members key ↔
      other ≠ client ∧ other ∈ registry.members key := by
  have own := consistent.member_iff client key
  unfold Registry.leave
  split
  case h_1 subscription found =>
      change other ∈ (registry.discard subscription.group_key client).members key ↔ _
      rw [members_discard]
      rw [found, Option.map_some, Option.some.injEq] at own
      split
      case isTrue same => rw [same, Finset.mem_erase]
      case isFalse different =>
          constructor
          · intro member
            refine ⟨?_, member⟩
            rintro rfl
            exact different (own.mp member).symm
          · exact fun member => member.2
  case h_2 absent =>
      rw [absent, Option.map_none] at own
      constructor
      · intro member
        refine ⟨?_, member⟩
        rintro rfl
        cases own.mp member
      · exact fun member => member.2

theorem leave (consistent : registry.Consistent) (client : Client) :
    (registry.leave client).Consistent where
  member_iff := by
    intro other key
    rw [consistent.mem_leave, subscriptions_leave]
    by_cases same : other = client
    · subst same
      simp
    · rw [Function.update_of_ne same, consistent.member_iff]
      exact and_iff_right same
  active := by
    intro other subscribed
    rw [subscriptions_leave] at subscribed
    rw [active_connections_leave]
    by_cases same : other = client
    · subst same
      simp at subscribed
    · rw [Function.update_of_ne same] at subscribed
      exact consistent.active other subscribed

theorem add (consistent : registry.Consistent)
    (connected : client ∈ registry.active_connections)
    (free : registry.subscriptions client = none) (subscription : Subscription casing) :
    (registry.add client subscription).Consistent where
  member_iff := by
    intro other key
    have before := consistent.member_iff other
    rw [members_add]
    change _ ↔ (Function.update registry.subscriptions client (some subscription)
      other).map _ = _
    by_cases same : other = client
    · subst same
      rw [Function.update_self, Option.map_some, Option.some.injEq]
      split
      case isTrue is_key => simp [is_key]
      case isFalse different =>
          simp only [before, free, Option.map_none, reduceCtorEq, false_iff]
          exact fun is_key => different is_key.symm
    · rw [Function.update_of_ne same, ← before]
      split
      case isTrue is_key => rw [is_key, Finset.mem_insert, or_iff_right same]
      case isFalse => rfl
  active := by
    intro other subscribed
    by_cases same : other = client
    · exact same ▸ connected
    · apply consistent.active other
      simpa [Registry.add, setSubscription, Function.update_of_ne same] using subscribed

theorem subscribe (consistent : registry.Consistent) {symbol expiry : String}
    {is_new : Bool} {after : Registry casing Client}
    (subscribed : registry.subscribe client symbol expiry = some (is_new, after)) :
    after.Consistent := by
  unfold Registry.subscribe at subscribed
  split at subscribed
  case isTrue connected =>
      obtain ⟨-, rfl⟩ := Prod.mk.inj (Option.some.inj subscribed)
      apply (consistent.leave client).add
      · simpa using connected
      · simp [subscriptions_leave]
  case isFalse => contradiction

theorem drop (consistent : registry.Consistent)
    (free : registry.subscriptions client = none) :
    (registry.drop client).Consistent where
  member_iff := consistent.member_iff
  active := by
    intro other subscribed
    refine Finset.mem_erase.mpr ⟨?_, consistent.active other subscribed⟩
    rintro rfl
    rw [show (registry.drop other).subscriptions other = none from free] at subscribed
    contradiction

omit [DecidableEq Client] in
theorem prune (consistent : registry.Consistent) {key : String}
    (empty : registry.subscription_groups.lookup key = some ∅) :
    (registry.prune key).Consistent where
  member_iff := by
    intro other wanted
    rw [members_prune empty]
    exact consistent.member_iff other wanted
  active := consistent.active

theorem disconnect (consistent : registry.Consistent) (client : Client) :
    (registry.disconnect client).2.Consistent := by
  have left : ((registry.leave client).drop client).Consistent := by
    apply (consistent.leave client).drop
    simp [subscriptions_leave]
  rcases disconnect_cases client registry with ⟨subscription, _, empty, same⟩ |
    ⟨_, same⟩
  · rw [same]
    exact left.prune empty
  · rw [same]
    exact left

theorem mem_disconnect (consistent : registry.Consistent) (client other : Client)
    (key : String) :
    other ∈ (registry.disconnect client).2.members key ↔
      other ≠ client ∧ other ∈ registry.members key := by
  rw [(consistent.disconnect client).member_iff, subscriptions_disconnect,
    consistent.member_iff]
  by_cases same : other = client
  · subst same
    simp
  · rw [Function.update_of_ne same]
    exact (and_iff_right same).symm

/-- A client that subscribes moves to its new group. -/
theorem mem_subscribe (consistent : registry.Consistent) {symbol expiry : String}
    {is_new : Bool} {after : Registry casing Client}
    (subscribed : registry.subscribe client symbol expiry = some (is_new, after))
    (other : Client) (key : String) :
    other ∈ after.members key ↔
      if other = client then key = (casing.subscription symbol expiry).group_key
      else other ∈ registry.members key := by
  rw [(consistent.subscribe subscribed).member_iff, (subscribe_eq_some subscribed).2,
    subscriptions_add, subscriptions_leave]
  by_cases same : other = client
  · subst same
    simp [eq_comm]
  · rw [if_neg same, Function.update_of_ne same, Function.update_of_ne same,
      consistent.member_iff]

theorem notMem_disconnect (consistent : registry.Consistent) (client : Client)
    (key : String) : client ∉ (registry.disconnect client).2.members key := by
  rw [(consistent.disconnect client).member_iff, subscriptions_disconnect,
    Function.update_self, Option.map_none]
  exact nofun

omit [DecidableEq Client] in
theorem active_of_mem (consistent : registry.Consistent) {key : String}
    (member : client ∈ registry.members key) :
      client ∈ registry.active_connections := by
  apply consistent.active
  rw [consistent.member_iff] at member
  obtain ⟨subscription, found, _⟩ := Option.map_eq_some_iff.mp member
  rw [found, Option.isSome_some]

omit [DecidableEq Client] in
/-- A client is in at most one group. -/
theorem eq_of_mem (consistent : registry.Consistent) {key wanted : String}
    (first : client ∈ registry.members key)
    (second : client ∈ registry.members wanted) :
    key = wanted := by
  rw [consistent.member_iff] at first second
  exact Option.some.inj (first.symm.trans second)

end Consistent

end Registry

end HftEngine.WebSocket
