import HftEngine.Backend.WebSocket.Manager

/-!
# Channels and groups

The instance joins the channel of a group when the group is new, without the
lock, and leaves it when a disconnect has deleted the group, with the lock.  A
group that becomes empty in another way is kept.
-/

namespace HftEngine.WebSocket

open Transition

variable {casing : Casing} {Client : Type}

/-- The instance is joining the channel of a group. -/
def Task.Joins (key : String) : Task casing Client → Prop
  | .joining _ subscription => subscription.group_key = key
  | _ => False

/-- The instance is leaving the channel of a group. -/
def Task.Leaves (key : String) : Task casing Client → Prop
  | .leaving subscription _ => subscription.group_key = key
  | _ => False

/-- The task neither joins nor leaves a channel. -/
def Task.quiet : Task casing Client → Bool
  | .joining _ _ | .leaving _ _ => false
  | .accepting _ | .locking _ | .confirming _ | .sending _ _ | .done => true

theorem Task.not_joins {task : Task casing Client} (quiet : task.quiet) (key : String) :
    ¬task.Joins key := by
  cases task with
  | joining client subscription => contradiction
  | accepting | locking | leaving | confirming | sending | done => exact not_false

theorem Task.not_leaves {task : Task casing Client} (quiet : task.quiet) (key : String) :
    ¬task.Leaves key := by
  cases task with
  | leaving subscription rest => contradiction
  | accepting | locking | joining | confirming | sending | done => exact not_false

theorem Task.quiet_next (rest : List Client) :
    (Task.next rest : Task casing Client).quiet = true := by
  cases rest <;> rfl

def Task.operation : Task casing Client → Option (Operation Client)
  | .locking operation => some operation
  | _ => none

namespace Manager

/-- No operation is in progress. -/
def Idle (manager : Manager casing Client) : Prop :=
  Tasks.All (fun _ task => task = .done) manager.tasks

/-- The channels are those of the groups with members, and no group is empty. -/
structure InSync (manager : Manager casing Client) : Prop where
  channel_iff : ∀ key, channel key ∈ manager.subscribed_channels ↔
    manager.registry.members key ≠ ∅
  tidy : manager.registry.Tidy

section Timely

variable [DecidableEq Client]

/-- The subscription of a client that is the last one in its group. -/
def last (client : Client) (manager : Manager casing Client) :
    Option (Subscription casing) :=
  (manager.registry.subscriptions client).filter fun subscription =>
    (manager.registry.leave client).subscription_groups.lookup subscription.group_key =
      some ∅

/-- The last client of a group leaves it by a disconnect, which finds the channel
joined. -/
def InTime (manager : Manager casing Client) : Operation Client → Prop
  | .unsubscribe client => manager.last client = none
  | .subscribe client symbol expiry =>
      ∀ subscription ∈ manager.last client,
        subscription.group_key = (casing.subscription symbol expiry).group_key
  | .disconnect client _ =>
      ∀ subscription ∈ manager.last client,
        channel subscription.group_key ∈ manager.subscribed_channels
  | .connect _ | .broadcast _ => True

instance (manager : Manager casing Client) :
    (operation : Operation Client) → Decidable (manager.InTime operation)
  | .unsubscribe client => inferInstanceAs (Decidable (manager.last client = none))
  | .subscribe client symbol expiry =>
      inferInstanceAs (Decidable (∀ subscription ∈ manager.last client,
        subscription.group_key = (casing.subscription symbol expiry).group_key))
  | .disconnect client _ =>
      inferInstanceAs (Decidable (∀ subscription ∈ manager.last client,
        channel subscription.group_key ∈ manager.subscribed_channels))
  | .connect _ | .broadcast _ => inferInstanceAs (Decidable True)

/-- The operations are in time, and joining and leaving a channel succeeds. -/
def Timely (manager : Manager casing Client) : Label Client → Prop
  | .acquire id =>
      ∀ operation ∈ (manager.tasks id).bind Task.operation, manager.InTime operation
  | .joined _ ok | .left _ ok => ok = true
  | _ => True

instance (manager : Manager casing Client) :
    (label : Label Client) → Decidable (manager.Timely label)
  | .acquire id => inferInstanceAs (Decidable
      (∀ operation ∈ (manager.tasks id).bind Task.operation, manager.InTime operation))
  | .joined _ ok | .left _ ok => inferInstanceAs (Decidable (ok = true))
  | .call _ _ | .accepted _ _ | .confirmed _ _ | .send _ _ _ | .sent_all _ =>
      inferInstanceAs (Decidable True)

end Timely

/-! ## Joins and leaves in progress -/

def Joiner (manager : Manager casing Client) (key : String) (id : ℕ) : Prop :=
  ∃ task, manager.tasks id = some task ∧ task.Joins key

def Leaver (manager : Manager casing Client) (key : String) (id : ℕ) : Prop :=
  ∃ task, manager.tasks id = some task ∧ task.Leaves key

variable {manager after : Manager casing Client} {id other : ℕ}
  {task : Task casing Client} {key : String}

theorem joiner_of_task (found : manager.tasks id = some task) :
    manager.Joiner key id ↔ task.Joins key := by
  simp [Joiner, found]

theorem leaver_of_task (found : manager.tasks id = some task) :
    manager.Leaver key id ↔ task.Leaves key := by
  simp [Leaver, found]

theorem joiner_iff (changed : after.tasks = Function.update manager.tasks id
    (some task)) :
    after.Joiner key other ↔
      other = id ∧ task.Joins key ∨ other ≠ id ∧ manager.Joiner key other := by
  by_cases same : other = id
  · subst same
    simp [Joiner, changed]
  · simp [Joiner, changed, same]

theorem leaver_iff (changed : after.tasks = Function.update manager.tasks id
    (some task)) :
    after.Leaver key other ↔
      other = id ∧ task.Leaves key ∨ other ≠ id ∧ manager.Leaver key other := by
  by_cases same : other = id
  · subst same
    simp [Leaver, changed]
  · simp [Leaver, changed, same]

/-! ## Leaving with the lock -/

/-- The task that leaves a channel has the lock, and the group has been deleted. -/
structure Guarded (manager : Manager casing Client) : Prop where
  consistent : manager.registry.Consistent
  leaver : ∀ key id, manager.Leaver key id →
    manager.lock = some id ∧ key ∉ manager.registry.subscription_groups

namespace Guarded

theorem start : ({} : Manager casing Client).Guarded where
  consistent := .start
  leaver := by simp [Leaver]

theorem setTask (guarded : manager.Guarded) (not_leaves : ∀ key, ¬task.Leaves key) :
    (manager.setTask id task).Guarded where
  consistent := guarded.consistent
  leaver := by
    intro key other leaves
    rw [leaver_iff rfl, or_iff_right (fun own => not_leaves key own.2)] at leaves
    exact guarded.leaver key other leaves.2

theorem not_leaver (guarded : manager.Guarded) (free : manager.lock = none) :
    ¬∃ id, manager.Leaver key id := by
  rintro ⟨id, leaves⟩
  rw [(guarded.leaver key id leaves).1] at free
  contradiction

/-- While the lock is free, no task leaves a channel. -/
theorem withRegistry (guarded : manager.Guarded) (free : manager.lock = none)
    {registry : Registry casing Client} (consistent : registry.Consistent) :
    (manager.withRegistry registry).Guarded where
  consistent := consistent
  leaver := by
    intro key id leaves
    exact absurd ⟨id, leaves⟩ (guarded.not_leaver free)

/-- The channel has been left, and no other task leaves one. -/
theorem left (guarded : manager.Guarded) {subscription : Subscription casing}
    {rest : List Client} (found : manager.tasks id = some (.leaving subscription rest))
    (not_leaves : ∀ key, ¬task.Leaves key) (channels : Finset String) :
    ({ manager with lock := none, subscribed_channels := channels }.setTask id
      task).Guarded where
  consistent := guarded.consistent
  leaver := by
    intro key other leaves
    rw [leaver_iff rfl, or_iff_right (fun own => not_leaves key own.2)] at leaves
    have holds := (guarded.leaver _ id ((leaver_of_task found).mpr rfl)).1
    have same : some id = some other := by
      rw [← holds, (guarded.leaver key other leaves.2).1]
    exact absurd (Option.some.inj same).symm leaves.1

theorem withChannels (guarded : manager.Guarded) (channels : Finset String) :
    ({ manager with
      subscribed_channels := channels } : Manager casing Client).Guarded where
  consistent := guarded.consistent
  leaver := guarded.leaver

variable [DecidableEq Client]

theorem confirm (guarded : manager.Guarded) (client : Client) :
    (manager.confirm id client).Guarded := by
  unfold Manager.confirm
  split
  case isTrue => exact guarded.setTask (Task.not_leaves rfl)
  case isFalse => exact guarded.setTask (Task.not_leaves rfl)

theorem disconnect {redis : Bool} (guarded : manager.Guarded)
    (free : manager.lock = none) (client : Client) (rest : List Client) :
    (manager.disconnect redis id client rest).Guarded := by
  have consistent := guarded.consistent.disconnect client
  rcases Registry.disconnect_cases client manager.registry with
    ⟨subscription, found, empty, same⟩ | ⟨_, same⟩
  · rw [same] at consistent
    simp only [Manager.disconnect, same]
    split
    case isTrue =>
        refine ⟨consistent, ?_⟩
        intro key other leaves
        rw [leaver_iff rfl] at leaves
        rcases leaves with ⟨rfl, rfl⟩ | ⟨_, before⟩
        · exact ⟨rfl, fun kept => (AList.mem_erase.mp kept).1 rfl⟩
        · exact absurd ⟨other, before⟩ (guarded.not_leaver free)
    case isFalse =>
        exact (guarded.withRegistry free consistent).setTask
          (Task.not_leaves (Task.quiet_next rest))
  · rw [same] at consistent
    simp only [Manager.disconnect, same]
    exact (guarded.withRegistry free consistent).setTask
      (Task.not_leaves (Task.quiet_next rest))

theorem subscribe {redis : Bool} (guarded : manager.Guarded)
    (free : manager.lock = none) (client : Client) (symbol expiry : String) :
    (manager.subscribe redis id client symbol expiry).Guarded := by
  unfold Manager.subscribe
  split
  case h_1 => exact guarded.setTask (Task.not_leaves rfl)
  case h_2 subscribed =>
      have subscribed := guarded.withRegistry free
        (guarded.consistent.subscribe subscribed)
      dsimp only
      split
      case isTrue => exact subscribed.setTask (fun _ => not_false)
      case isFalse => exact subscribed.confirm client

theorem unsubscribe (guarded : manager.Guarded) (free : manager.lock = none)
    (client : Client) : (manager.unsubscribe id client).Guarded := by
  have consistent := guarded.consistent.leave client
  unfold Manager.unsubscribe
  split
  case h_1 same =>
      have same := congrArg Prod.snd same
      subst same
      exact (guarded.withRegistry free consistent).confirm client
  case h_2 same =>
      have same := congrArg Prod.snd same
      subst same
      exact (guarded.withRegistry free consistent).setTask (Task.not_leaves rfl)

theorem perform {redis : Bool} (guarded : manager.Guarded) (free : manager.lock = none)
    (operation : Operation Client) : (manager.perform redis id operation).Guarded := by
  cases operation with
  | connect client =>
      have connected := guarded.withRegistry free (guarded.consistent.connect client)
      exact connected.confirm client
  | disconnect client rest => exact guarded.disconnect free client rest
  | subscribe client symbol expiry => exact guarded.subscribe free client symbol expiry
  | unsubscribe client => exact guarded.unsubscribe free client
  | broadcast key =>
      unfold Manager.perform Manager.broadcast
      dsimp only
      split
      case isTrue => exact guarded.setTask (Task.not_leaves rfl)
      case isFalse => exact guarded.setTask (Task.not_leaves rfl)

theorem step {redis : Bool} (guarded : manager.Guarded) {label : Label Client}
    (taken : manager.step redis label = some after) : after.Guarded := by
  cases steps_of_step taken with
  | @call id request unknown =>
      exact guarded.setTask (Task.not_leaves (by cases request <;> rfl))
  | accepted ok found => exact guarded.setTask (Task.not_leaves (by cases ok <;> rfl))
  | acquire free found => exact guarded.perform free _
  | joined ok found => exact (guarded.withChannels _).confirm _
  | left ok found => exact guarded.left found (Task.not_leaves (Task.quiet_next _)) _
  | confirmed ok found => exact guarded.setTask (Task.not_leaves (by cases ok <;> rfl))
  | send ok found present => exact guarded.setTask (Task.not_leaves rfl)
  | sent_all found => exact guarded.setTask (Task.not_leaves (Task.quiet_next _))

end Guarded

/-! ## Groups and channels -/

/-- A kept group has its channel, or a task is joining it; a channel is that of a kept
group, or a task is leaving it. -/
structure Synced (manager : Manager casing Client) : Prop where
  tidy : manager.registry.Tidy
  joined_of_kept : ∀ key ∈ manager.registry.subscription_groups,
    channel key ∈ manager.subscribed_channels ∨ ∃ id, manager.Joiner key id
  kept_of_joined : ∀ key, channel key ∈ manager.subscribed_channels →
    key ∈ manager.registry.subscription_groups ∨ ∃ id, manager.Leaver key id
  joiner : ∀ key id, manager.Joiner key id →
    key ∈ manager.registry.subscription_groups ∧
      channel key ∉ manager.subscribed_channels
  one_joiner : ∀ key id other, manager.Joiner key id → manager.Joiner key other →
    id = other

/-- A task that is not about a channel. -/
structure Aside (manager : Manager casing Client) (id : ℕ) : Prop where
  not_joiner : ∀ key, ¬manager.Joiner key id
  not_leaver : ∀ key, ¬manager.Leaver key id

namespace Aside

theorem of_task (found : manager.tasks id = some task) (quiet : task.quiet) :
    manager.Aside id where
  not_joiner key := mt (joiner_of_task found).mp (task.not_joins quiet key)
  not_leaver key := mt (leaver_of_task found).mp (task.not_leaves quiet key)

theorem of_none (unknown : manager.tasks id = none) : manager.Aside id where
  not_joiner := by
    rintro key ⟨task, found, _⟩
    rw [unknown] at found
    contradiction
  not_leaver := by
    rintro key ⟨task, found, _⟩
    rw [unknown] at found
    contradiction

theorem joiner_iff (aside : manager.Aside id)
    (changed : after.tasks = Function.update manager.tasks id (some task)) :
    after.Joiner key other ↔ other = id ∧ task.Joins key ∨
      manager.Joiner key other := by
  rw [Manager.joiner_iff changed]
  refine or_congr_right (and_iff_right_of_imp ?_)
  rintro joins rfl
  exact aside.not_joiner key joins

theorem leaver_iff (aside : manager.Aside id)
    (changed : after.tasks = Function.update manager.tasks id (some task)) :
    after.Leaver key other ↔ other = id ∧ task.Leaves key ∨
      manager.Leaver key other := by
  rw [Manager.leaver_iff changed]
  refine or_congr_right (and_iff_right_of_imp ?_)
  rintro leaves rfl
  exact aside.not_leaver key leaves

end Aside

namespace Synced

theorem start : ({} : Manager casing Client).Synced where
  tidy := by simp [Registry.Tidy]
  joined_of_kept := by simp
  kept_of_joined := by simp
  joiner := by simp [Joiner]
  one_joiner := by simp [Joiner]

/-- A step that keeps the groups and the channels, of a task that is about none. -/
theorem quiet (synced : manager.Synced) (aside : manager.Aside id)
    (quiet : task.quiet) {registry : Registry casing Client} (tidy : registry.Tidy)
    (kept_iff : ∀ key, key ∈ registry.subscription_groups ↔
      key ∈ manager.registry.subscription_groups) :
    ((manager.withRegistry registry).setTask id task).Synced := by
  have joiner_iff : ∀ key other,
      ((manager.withRegistry registry).setTask id task).Joiner key other ↔
        manager.Joiner key other := by
    intro key other
    rw [aside.joiner_iff rfl, or_iff_right (fun own => task.not_joins quiet key own.2)]
  have leaver_iff : ∀ key other,
      ((manager.withRegistry registry).setTask id task).Leaver key other ↔
        manager.Leaver key other := by
    intro key other
    rw [aside.leaver_iff rfl, or_iff_right (fun own => task.not_leaves quiet key own.2)]
  constructor
  case tidy => exact tidy
  case joined_of_kept =>
      intro key kept
      simp only [joiner_iff]
      exact synced.joined_of_kept key ((kept_iff key).mp kept)
  case kept_of_joined =>
      intro key joined
      simp only [leaver_iff]
      exact (synced.kept_of_joined key joined).imp_left (kept_iff key).mpr
  case joiner =>
      intro key other joins
      rw [joiner_iff] at joins
      exact (synced.joiner key other joins).imp_left (kept_iff key).mpr
  case one_joiner =>
      intro key first second joins also
      rw [joiner_iff] at joins also
      exact synced.one_joiner key first second joins also

/-- A step of a task that is about no channel and leaves the maps as they are. -/
theorem setTask (synced : manager.Synced) (aside : manager.Aside id)
    (quiet : task.quiet) : (manager.setTask id task).Synced :=
  synced.quiet aside quiet synced.tidy (fun _ => Iff.rfl)

variable {subscription : Subscription casing} {registry : Registry casing Client}

/-- A group is deleted, and the task leaves its channel. -/
theorem leaving (synced : manager.Synced) (aside : manager.Aside id)
    (not_leaver : ∀ key, ¬∃ id, manager.Leaver key id) (tidy : registry.Tidy)
    (kept_iff : ∀ key, key ∈ registry.subscription_groups ↔
      key ≠ subscription.group_key ∧ key ∈ manager.registry.subscription_groups)
    (joined : channel subscription.group_key ∈ manager.subscribed_channels)
    (rest : List Client) :
    ({ manager.withRegistry registry with lock := some id }.setTask id
      (.leaving subscription rest)).Synced := by
  have joiner_iff : ∀ key other, ({ manager.withRegistry registry with
      lock := some id }.setTask id (.leaving subscription rest)).Joiner key other ↔
        manager.Joiner key other := by
    intro key other
    rw [aside.joiner_iff rfl, or_iff_right (fun own => own.2)]
  have leaver_iff : ∀ key other, ({ manager.withRegistry registry with
      lock := some id }.setTask id (.leaving subscription rest)).Leaver key other ↔
        other = id ∧ subscription.group_key = key := by
    intro key other
    have before : ¬manager.Leaver key other := fun leaves =>
      not_leaver key ⟨other, leaves⟩
    rw [aside.leaver_iff rfl, or_iff_left before]
    rfl
  constructor
  case tidy => exact tidy
  case joined_of_kept =>
      intro key kept
      simp only [joiner_iff]
      exact synced.joined_of_kept key ((kept_iff key).mp kept).2
  case kept_of_joined =>
      intro key joined
      simp only [leaver_iff]
      by_cases own : subscription.group_key = key
      · exact .inr ⟨id, rfl, own⟩
      · left
        have kept := (synced.kept_of_joined key joined).resolve_right (not_leaver key)
        exact (kept_iff key).mpr ⟨Ne.symm own, kept⟩
  case joiner =>
      intro key other joins
      rw [joiner_iff] at joins
      obtain ⟨kept, not_joined⟩ := synced.joiner key other joins
      refine ⟨(kept_iff key).mpr ⟨?_, kept⟩, not_joined⟩
      rintro rfl
      exact not_joined joined
  case one_joiner =>
      intro key first second joins also
      rw [joiner_iff] at joins also
      exact synced.one_joiner key first second joins also

/-- A group is new, and the task joins its channel. -/
theorem joining (synced : manager.Synced) (aside : manager.Aside id)
    (not_leaver : ∀ key, ¬∃ id, manager.Leaver key id) (tidy : registry.Tidy)
    (kept_iff : ∀ key, key ∈ registry.subscription_groups ↔
      key = subscription.group_key ∨ key ∈ manager.registry.subscription_groups)
    (is_new : subscription.group_key ∉ manager.registry.subscription_groups)
    (client : Client) :
    ((manager.withRegistry registry).setTask id
      (.joining client subscription)).Synced := by
  have not_joined : channel subscription.group_key ∉ manager.subscribed_channels := by
    intro joined
    exact (synced.kept_of_joined _ joined).elim is_new (not_leaver _)
  have joiner_iff : ∀ key other, ((manager.withRegistry registry).setTask id
      (.joining client subscription)).Joiner key other ↔
        other = id ∧ subscription.group_key = key ∨ manager.Joiner key other := by
    intro key other
    rw [aside.joiner_iff rfl]
    rfl
  have leaver_iff : ∀ key other, ¬((manager.withRegistry registry).setTask id
      (.joining client subscription)).Leaver key other := by
    intro key other leaves
    rw [aside.leaver_iff rfl, or_iff_right (fun own => own.2)] at leaves
    exact not_leaver key ⟨other, leaves⟩
  constructor
  case tidy => exact tidy
  case joined_of_kept =>
      intro key kept
      simp only [joiner_iff]
      rcases (kept_iff key).mp kept with own | before
      · exact .inr ⟨id, .inl ⟨rfl, own.symm⟩⟩
      · refine (synced.joined_of_kept key before).imp_right ?_
        rintro ⟨other, joins⟩
        exact ⟨other, .inr joins⟩
  case kept_of_joined =>
      intro key joined
      left
      have kept := (synced.kept_of_joined key joined).resolve_right (not_leaver key)
      exact (kept_iff key).mpr (.inr kept)
  case joiner =>
      intro key other joins
      rcases (joiner_iff key other).mp joins with ⟨_, rfl⟩ | before
      · exact ⟨(kept_iff _).mpr (.inl rfl), not_joined⟩
      · obtain ⟨kept, not_joined⟩ := synced.joiner key other before
        exact ⟨(kept_iff key).mpr (.inr kept), not_joined⟩
  case one_joiner =>
      intro key first second joins also
      rcases (joiner_iff key first).mp joins with ⟨rfl, rfl⟩ | before
      · rcases (joiner_iff _ second).mp also with ⟨rfl, _⟩ | before
        · rfl
        · exact absurd (synced.joiner _ second before).1 is_new
      · rcases (joiner_iff _ second).mp also with ⟨_, rfl⟩ | also
        · exact absurd (synced.joiner _ first before).1 is_new
        · exact synced.one_joiner key first second before also

/-- The channel of a group has been joined. -/
theorem joined (synced : manager.Synced) {client : Client}
    (found : manager.tasks id = some (.joining client subscription))
    (quiet : task.quiet) :
    ({ manager with
      subscribed_channels := insert (channel subscription.group_key)
        manager.subscribed_channels }.setTask id task).Synced := by
  have own : manager.Joiner subscription.group_key id := (joiner_of_task found).mpr rfl
  have joiner_iff : ∀ key other, ({ manager with
      subscribed_channels := insert (channel subscription.group_key)
        manager.subscribed_channels }.setTask id task).Joiner key other ↔
          other ≠ id ∧ manager.Joiner key other := by
    intro key other
    rw [Manager.joiner_iff rfl,
      or_iff_right (fun own => task.not_joins quiet key own.2)]
    rfl
  have leaver_iff : ∀ key other, ({ manager with
      subscribed_channels := insert (channel subscription.group_key)
        manager.subscribed_channels }.setTask id task).Leaver key other ↔
          manager.Leaver key other := by
    intro key other
    rw [Manager.leaver_iff rfl,
      or_iff_right (fun own => task.not_leaves quiet key own.2)]
    refine and_iff_right_of_imp ?_
    rintro leaves rfl
    exact (leaver_of_task found).mp leaves
  constructor
  case tidy => exact synced.tidy
  case joined_of_kept =>
      intro key kept
      simp only [joiner_iff]
      rcases synced.joined_of_kept key kept with joined | ⟨other, joins⟩
      · exact .inl (Finset.mem_insert_of_mem joined)
      · by_cases same : other = id
        · subst same
          left
          have own_key : subscription.group_key = key := (joiner_of_task found).mp joins
          exact Finset.mem_insert.mpr (.inl (congrArg channel own_key.symm))
        · exact .inr ⟨other, same, joins⟩
  case kept_of_joined =>
      intro key joined
      simp only [leaver_iff]
      rcases Finset.mem_insert.mp joined with same | before
      · left
        rw [channel_injective same]
        exact (synced.joiner _ id own).1
      · exact synced.kept_of_joined key before
  case joiner =>
      intro key other joins
      obtain ⟨different, before⟩ := (joiner_iff key other).mp joins
      obtain ⟨kept, not_joined⟩ := synced.joiner key other before
      refine ⟨kept, ?_⟩
      intro joined
      rcases Finset.mem_insert.mp joined with same | joined
      · rw [channel_injective same] at before
        exact different (synced.one_joiner _ other id before own)
      · exact not_joined joined
  case one_joiner =>
      intro key first second joins also
      exact synced.one_joiner key first second ((joiner_iff key first).mp joins).2
        ((joiner_iff key second).mp also).2

/-- The channel of a deleted group has been left. -/
theorem left (synced : manager.Synced) (guarded : manager.Guarded) {rest : List Client}
    (found : manager.tasks id = some (.leaving subscription rest))
    (quiet : task.quiet) :
    ({ manager with
      lock := none
      subscribed_channels := manager.subscribed_channels.erase
        (channel subscription.group_key) }.setTask id task).Synced := by
  obtain ⟨holds, not_kept⟩ := guarded.leaver subscription.group_key id
    ((leaver_of_task found).mpr rfl)
  have only : ∀ {key other}, manager.Leaver key other →
      other = id ∧ key = subscription.group_key := by
    intro key other leaves
    have same : other = id := by
      rw [(guarded.leaver key other leaves).1, Option.some.injEq] at holds
      exact holds
    subst same
    exact ⟨rfl, ((leaver_of_task found).mp leaves).symm⟩
  have joiner_iff : ∀ key other, ({ manager with
      lock := none
      subscribed_channels := manager.subscribed_channels.erase
        (channel subscription.group_key) }.setTask id task).Joiner key other ↔
          manager.Joiner key other := by
    intro key other
    rw [Manager.joiner_iff rfl,
      or_iff_right (fun own => task.not_joins quiet key own.2)]
    refine and_iff_right_of_imp ?_
    rintro joins rfl
    exact (joiner_of_task found).mp joins
  have leaver_iff : ∀ key other, ¬({ manager with
      lock := none
      subscribed_channels := manager.subscribed_channels.erase
        (channel subscription.group_key) }.setTask id task).Leaver key other := by
    intro key other leaves
    rw [Manager.leaver_iff rfl,
      or_iff_right (fun own => task.not_leaves quiet key own.2)] at leaves
    exact leaves.1 (only leaves.2).1
  constructor
  case tidy => exact synced.tidy
  case joined_of_kept =>
      intro key kept
      simp only [joiner_iff]
      refine (synced.joined_of_kept key kept).imp_left ?_
      intro joined
      refine Finset.mem_erase.mpr ⟨?_, joined⟩
      intro same
      exact not_kept (channel_injective same ▸ kept)
  case kept_of_joined =>
      intro key joined
      obtain ⟨different, joined⟩ := Finset.mem_erase.mp joined
      left
      rcases synced.kept_of_joined key joined with kept | ⟨other, leaves⟩
      · exact kept
      · exact absurd (congrArg channel (only leaves).2) different
  case joiner =>
      intro key other joins
      refine (synced.joiner key other ((joiner_iff key other).mp joins)).imp_right ?_
      intro not_joined joined
      exact not_joined (Finset.mem_of_mem_erase joined)
  case one_joiner =>
      intro key first second joins also
      rw [joiner_iff] at joins also
      exact synced.one_joiner key first second joins also

end Synced

/-! ## Every run -/

/-- While no operation is in progress, the channels are those of the groups. -/
theorem Synced.in_sync (synced : manager.Synced) (idle : manager.Idle) :
    manager.InSync where
  channel_iff := by
    intro key
    rw [synced.tidy.members_ne_empty]
    constructor
    · intro joined
      refine (synced.kept_of_joined key joined).resolve_right ?_
      rintro ⟨id, task, found, leaves⟩
      have done : task = .done := idle id task found
      exact (done ▸ leaves : Task.Leaves key .done)
    · intro kept
      refine (synced.joined_of_kept key kept).resolve_right ?_
      rintro ⟨id, task, found, joins⟩
      have done : task = .done := idle id task found
      exact (done ▸ joins : Task.Joins key .done)
  tidy := synced.tidy

variable [DecidableEq Client]

theorem kept_of_last {client : Client} (not_last : manager.last client = none)
    (subscription : Subscription casing)
    (found : manager.registry.subscriptions client = some subscription) :
    (manager.registry.leave client).subscription_groups.lookup subscription.group_key ≠
      some ∅ := by
  simpa using Option.filter_eq_none_iff.mp not_last subscription found

namespace Synced

theorem confirm (synced : manager.Synced) (aside : manager.Aside id) (client : Client)
    {registry : Registry casing Client} (tidy : registry.Tidy)
    (kept_iff : ∀ key, key ∈ registry.subscription_groups ↔
      key ∈ manager.registry.subscription_groups) :
    ((manager.withRegistry registry).confirm id client).Synced := by
  unfold Manager.confirm
  split
  case isTrue => exact synced.quiet aside rfl tidy kept_iff
  case isFalse => exact synced.quiet aside rfl tidy kept_iff

theorem disconnect (synced : manager.Synced) (aside : manager.Aside id)
    (not_leaver : ∀ key, ¬∃ id, manager.Leaver key id) {client : Client}
    {rest : List Client} (in_time : manager.InTime (.disconnect client rest)) :
    (manager.disconnect true id client rest).Synced := by
  rcases Registry.disconnect_cases client manager.registry with
    ⟨subscription, found, empty, same⟩ | ⟨kept, same⟩
  · have joined := in_time subscription (Option.mem_filter_iff.mpr
      ⟨found, decide_eq_true empty⟩)
    simp only [Manager.disconnect, same, get_channel_name_eq, joined, and_self, if_true]
    apply synced.leaving aside not_leaver _ _ joined
    · exact .prune fun _ elsewhere => synced.tidy.leave fun other found' => by
        rw [found, Option.some.injEq] at found'
        exact found' ▸ elsewhere
    · intro key
      exact AList.mem_erase.trans (and_congr_right fun _ => Registry.mem_groups_leave)
  · simp only [Manager.disconnect, same]
    exact synced.quiet aside (Task.quiet_next rest)
      (synced.tidy.after_leave kept) (fun _ => Registry.mem_groups_leave)

theorem subscribe (synced : manager.Synced) (aside : manager.Aside id)
    (not_leaver : ∀ key, ¬∃ id, manager.Leaver key id) {client : Client}
    {symbol expiry : String}
    (in_time : manager.InTime (.subscribe client symbol expiry)) :
    (manager.subscribe true id client symbol expiry).Synced := by
  unfold Manager.subscribe
  split
  case h_1 => exact synced.setTask aside rfl
  case h_2 is_new registry subscribed =>
      obtain ⟨is_new_iff, same⟩ := Registry.subscribe_eq_some subscribed
      have kept_iff : ∀ key, key ∈ registry.subscription_groups ↔
          key = (casing.subscription symbol expiry).group_key ∨
            key ∈ manager.registry.subscription_groups := by
        intro key
        rw [same, Registry.mem_groups_add, Registry.mem_groups_leave]
      have tidy : registry.Tidy := by
        rw [same]
        apply Registry.Tidy.add
        intro key elsewhere empty
        refine synced.tidy.leave ?_ empty
        rintro subscription found rfl
        exact elsewhere (in_time subscription (Option.mem_filter_iff.mpr
          ⟨found, decide_eq_true empty⟩))
      dsimp only
      split
      case isTrue fresh =>
          exact synced.joining aside not_leaver tidy kept_iff
            (is_new_iff.mp fresh.1) client
      case isFalse stale =>
          have kept : (casing.subscription symbol expiry).group_key ∈
              manager.registry.subscription_groups := by
            by_contra not_kept
            apply stale
            refine ⟨is_new_iff.mpr not_kept, rfl, ?_⟩
            rw [get_channel_name_eq]
            intro joined
            exact (synced.kept_of_joined _ joined).elim not_kept (not_leaver _)
          apply synced.confirm aside client tidy
          intro key
          rw [kept_iff, or_iff_right_iff_imp]
          exact fun own => own ▸ kept

theorem unsubscribe (synced : manager.Synced) (aside : manager.Aside id)
    {client : Client} (in_time : manager.InTime (.unsubscribe client)) :
    (manager.unsubscribe id client).Synced := by
  have tidy := synced.tidy.after_leave (kept_of_last in_time)
  unfold Manager.unsubscribe
  split
  case h_1 same =>
      have same := congrArg Prod.snd same
      subst same
      exact synced.confirm aside client tidy (fun _ => Registry.mem_groups_leave)
  case h_2 same =>
      have same := congrArg Prod.snd same
      subst same
      exact synced.quiet aside rfl tidy (fun _ => Registry.mem_groups_leave)

theorem perform (synced : manager.Synced) (aside : manager.Aside id)
    (not_leaver : ∀ key, ¬∃ id, manager.Leaver key id) {operation : Operation Client}
    (in_time : manager.InTime operation) :
    (manager.perform true id operation).Synced := by
  cases operation with
  | connect client =>
      exact synced.confirm aside client synced.tidy
        (fun _ => Iff.rfl)
  | disconnect client rest => exact synced.disconnect aside not_leaver in_time
  | subscribe client symbol expiry => exact synced.subscribe aside not_leaver in_time
  | unsubscribe client => exact synced.unsubscribe aside in_time
  | broadcast key =>
      unfold Manager.perform Manager.broadcast
      dsimp only
      split
      case isTrue => exact synced.setTask aside rfl
      case isFalse => exact synced.setTask aside rfl

theorem step (synced : manager.Synced) (guarded : manager.Guarded) {label : Label Client}
    (timely : manager.Timely label) (taken : manager.step true label = some after) :
    after.Synced := by
  cases steps_of_step taken with
  | @call id request unknown =>
      exact synced.setTask (.of_none unknown) (by cases request <;> rfl)
  | accepted ok found => exact synced.setTask (.of_task found rfl) (by cases ok <;> rfl)
  | acquire free found =>
      exact synced.perform (.of_task found rfl) (fun _ => guarded.not_leaver free)
        (timely _ (by rw [found]; rfl))
  | joined ok found =>
      rw [if_pos (show ok = true from timely)]
      apply synced.joined found
      split <;> rfl
  | left ok found =>
      rw [if_pos (show ok = true from timely)]
      exact synced.left guarded found (Task.quiet_next _)
  | confirmed ok found => exact synced.setTask (.of_task found rfl) (by cases ok <;> rfl)
  | send ok found present => exact synced.setTask (.of_task found rfl) rfl
  | sent_all found => exact synced.setTask (.of_task found rfl) (Task.quiet_next _)

end Synced

end Manager

theorem channels_in_sync [DecidableEq Client] {manager : Manager casing Client}
    (reached : ReachedBy (system casing Client true) Manager.Timely manager)
    (idle : manager.Idle) : manager.InSync := by
  have kept : manager.Guarded ∧ manager.Synced := by
    apply reached.invariant (I := fun state => state.Guarded ∧ state.Synced)
      ⟨.start, .start⟩
    rintro before label after ⟨guarded, synced⟩ timely taken
    exact ⟨guarded.step taken, synced.step guarded timely taken⟩
  exact kept.2.in_sync idle

/-- A client subscribes, the channel of its group is joined, and it disconnects. -/
def came_and_went : List (Label ℕ) :=
  [.call 0 (.connect 7), .accepted 0 true, .acquire 0, .confirmed 0 true,
    .call 1 (.subscribe 7 "NIFTY" "1"), .acquire 1, .joined 1 true, .confirmed 1 true,
    .call 2 (.disconnect 7), .acquire 2, .left 2 true]

theorem idle_of_done {manager : Manager casing Client} (count : ℕ)
    (known : (List.range count).map manager.tasks = List.replicate count (some .done))
    (unknown : ∀ id, manager.tasks (id + count) = none) : manager.Idle := by
  intro id task found
  by_cases started : id < count
  · have done : manager.tasks id = some .done := by
      apply List.eq_of_mem_replicate (n := count)
      rw [← known]
      exact List.mem_map_of_mem (List.mem_range.mpr started)
    rw [done, Option.some.injEq] at found
    exact found.symm
  · rw [← Nat.sub_add_cancel (Nat.le_of_not_lt started), unknown] at found
    contradiction

theorem idle_came_and_went : (after true came_and_went).Idle :=
  idle_of_done 3 rfl (fun _ => rfl)

theorem in_sync_came_and_went : (after true came_and_went).InSync :=
  channels_in_sync
    (.extend .start
      (rfl : (system capitals ℕ true).run Manager.Timely {} came_and_went = some _))
    idle_came_and_went

/-- A client subscribes, the channel of its group is joined, and it unsubscribes. -/
def came_and_stayed : List (Label ℕ) :=
  [.call 0 (.connect 7), .accepted 0 true, .acquire 0, .confirmed 0 true,
    .call 1 (.subscribe 7 "NIFTY" "1"), .acquire 1, .joined 1 true, .confirmed 1 true,
    .call 2 (.unsubscribe 7), .acquire 2, .confirmed 2 true]

theorem unsubscribed_not_in_sync : ∃ manager : Manager capitals ℕ,
    Reachable (system capitals ℕ true) manager ∧ manager.Idle ∧ ¬manager.InSync := by
  refine ⟨after true came_and_stayed, ?_, ?_, ?_⟩
  · exact .follow (fun _ _ _ => trivial) .start
      (rfl : came_and_stayed.foldlM (Manager.step true) {} = some _)
  · exact idle_of_done 3 rfl (fun _ => rfl)
  · intro in_sync
    exact in_sync.tidy "NIFTY:1" rfl

end HftEngine.WebSocket
