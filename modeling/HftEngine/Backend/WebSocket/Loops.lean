import HftEngine.Backend.WebSocket.Channels

/-!
# Loops over a group

A loop copies the group with the lock, sends to each of its clients, and then
disconnects those whose sends have failed.  A client that stays in the group has
been sent to once by a loop that has passed it, and every loop that is done has
passed it.
-/

namespace HftEngine.WebSocket

open Transition

variable {casing : Casing} {Client : Type}

/-- The task that takes the step. -/
def Label.id : Label Client → ℕ
  | .call id _ | .accepted id _ | .acquire id | .joined id _ | .left id _
  | .confirmed id _ | .send id _ _ | .sent_all id => id

/-- A task of a loop over the group of a key. -/
def Task.InLoop (key : String) : Task casing Client → Prop
  | .locking (.broadcast wanted) => wanted = key
  | .sending remaining disconnected => ∀ client ∈ disconnected, client ∉ remaining
  | .locking (.disconnect _ _) | .leaving _ _ | .done => True
  | _ => False

theorem Task.in_loop_next (rest : List Client) (key : String) :
    (Task.next rest : Task casing Client).InLoop key := by
  cases rest with
  | nil => trivial
  | cons other rest => trivial

def Task.is_done : Task casing Client → Bool
  | .done => true
  | _ => false

namespace Manager

variable [DecidableEq Client] {redis : Bool} {manager after : Manager casing Client}
  {id : ℕ} {task : Task casing Client} {key : String} {label : Label Client}

/-- The loop has sent to a client that stays in the group. -/
def passed (client : Client) : Task casing Client → ℕ
  | .locking (.broadcast _) => 0
  | .locking (.disconnect other rest) => if client ∈ other :: rest then 0 else 1
  | .sending remaining disconnected =>
      if client ∈ remaining ∨ client ∈ disconnected then 0 else 1
  | .leaving _ rest => if client ∈ rest then 0 else 1
  | _ => 1

/-- The task and the client of a send that succeeds. -/
def sent (manager : Manager casing Client) : Label Client → Option (ℕ × Client)
  | .send id client true =>
      if client ∈ manager.registry.active_connections then some (id, client) else none
  | _ => none

/-! ## What a step changes -/

theorem perform_eq (redis : Bool) (id : ℕ) (operation : Operation Client) :
    ∃ registry lock task,
    manager.perform redis id operation =
      { manager with
        registry, lock, tasks := Function.update manager.tasks id (some task) } := by
  cases operation with
  | connect client => exact ⟨_, _, _, rfl⟩
  | disconnect client rest =>
      simp only [perform, disconnect]
      split
      case h_1 =>
          split
          case isTrue => exact ⟨_, _, _, rfl⟩
          case isFalse => exact ⟨_, _, _, rfl⟩
      case h_2 => exact ⟨_, _, _, rfl⟩
  | subscribe client symbol expiry =>
      simp only [perform, subscribe]
      split
      case h_1 => exact ⟨_, _, _, rfl⟩
      case h_2 =>
          split
          case isTrue => exact ⟨_, _, _, rfl⟩
          case isFalse => exact ⟨_, _, _, rfl⟩
  | unsubscribe client =>
      simp only [perform, unsubscribe]
      split
      case h_1 => exact ⟨_, _, _, rfl⟩
      case h_2 => exact ⟨_, _, _, rfl⟩
  | broadcast key => exact ⟨_, _, _, rfl⟩

theorem tasks_step (taken : manager.step redis label = some after) :
    ∃ task, after.tasks = Function.update manager.tasks label.id (some task) := by
  cases steps_of_step taken with
  | @acquire id operation free found =>
      obtain ⟨_, _, task, same⟩ := perform_eq redis id operation
      rw [same]
      exact ⟨task, rfl⟩
  | call | accepted | joined | left | confirmed | send | sent_all => exact ⟨_, rfl⟩

/-- While the group of a channel is kept, the channel is not left. -/
theorem Guarded.channel_kept (guarded : manager.Guarded)
    (taken : manager.step redis label = some after)
    (kept : key ∈ manager.registry.subscription_groups)
    (joined : channel key ∈ manager.subscribed_channels) :
    channel key ∈ after.subscribed_channels := by
  cases steps_of_step taken with
  | @acquire id operation free found =>
      obtain ⟨_, _, _, same⟩ := perform_eq redis id operation
      rw [same]
      exact joined
  | joined ok found =>
      change channel key ∈ ite _ _ _
      split
      case isTrue => exact Finset.mem_insert_of_mem joined
      case isFalse => exact joined
  | @left id subscription rest ok found =>
      change channel key ∈ ite _ _ _
      split
      case isTrue =>
          refine Finset.mem_erase.mpr ⟨?_, joined⟩
          intro same
          have not_kept := (guarded.leaver _ id ((leaver_of_task found).mpr rfl)).2
          exact not_kept (channel_injective same ▸ kept)
      case isFalse => exact joined
  | call | accepted | confirmed | send | sent_all => exact joined

/-! ## What a loop sends -/

theorem sent_eq_some {client : Client} (sends : manager.sent label =
    some (id, client)) :
    label = .send id client true := by
  unfold sent at sends
  split at sends
  case h_1 =>
      obtain ⟨_, same⟩ := Option.ite_none_right_eq_some.mp sends
      obtain ⟨rfl, rfl⟩ := Prod.mk.inj (Option.some.inj same)
      rfl
  case h_2 => contradiction

/-- After the step the task is in the loop, and the client, when it stays in the
group, has been sent to once more if it is the one that the step sends to. -/
def Follows (manager after : Manager casing Client) (key : String)
    (label : Label Client)
    (id : ℕ) (task next : Task casing Client) : Prop :=
  next.InLoop key ∧ ∀ client ∈ manager.registry.members key,
    client ∈ after.registry.members key →
      passed client next =
        passed client task + if manager.sent label = some (id, client) then 1 else 0

theorem passed_next (rest : List Client) (client : Client) :
    passed client (Task.next rest : Task casing Client) =
      if client ∈ rest then 0 else 1 := by
  cases rest with
  | nil => rfl
  | cons other rest => rfl

theorem follows_disconnect (consistent : manager.registry.Consistent) (other : Client)
    (rest : List Client) : ∃ next,
      (manager.disconnect redis id other rest).tasks id = some next ∧
        manager.Follows (manager.disconnect redis id other rest) key (.acquire id) id
          (.locking (.disconnect other rest)) next := by
  have left : ∀ client ∈ (manager.disconnect redis id other rest).registry.members key,
      client ≠ other := by
    rintro client member rfl
    rw [registry_disconnect] at member
    exact consistent.notMem_disconnect client key member
  have passes : ∀ next : Task casing Client,
      (∀ client, passed client next = if client ∈ rest then 0 else 1) →
      ∀ client ∈ manager.registry.members key,
        client ∈ (manager.disconnect redis id other rest).registry.members key →
        passed client next =
          passed client (.locking (.disconnect other rest) : Task casing Client) +
            0 := by
    intro next same client _ member
    have not_other : client ≠ other := left client member
    rw [same, Nat.add_zero]
    simp only [passed, List.mem_cons, not_other, false_or]
  have next : (manager.disconnect redis id other rest).tasks id = some (.next rest) ∨
      ∃ subscription, (manager.disconnect redis id other rest).tasks id =
        some (.leaving subscription rest) := by
    unfold disconnect
    split
    case h_1 subscription _ _ =>
        split
        case isTrue => exact .inr ⟨subscription, Function.update_self _ _ _⟩
        case isFalse => exact .inl (Function.update_self _ _ _)
    case h_2 => exact .inl (Function.update_self _ _ _)
  rcases next with found | ⟨subscription, found⟩
  · exact ⟨_, found, Task.in_loop_next rest key, passes _ (passed_next rest)⟩
  · exact ⟨_, found, trivial, passes _ (fun _ => rfl)⟩

theorem follows_broadcast : ∃ next,
    (manager.broadcast id key).tasks id = some next ∧
      manager.Follows (manager.broadcast id key) key (.acquire id) id
        (.locking (.broadcast key)) next := by
  refine ⟨_, Function.update_self _ _ _, ?_⟩
  split
  case isTrue empty =>
      refine ⟨trivial, ?_⟩
      intro client member
      rw [empty] at member
      exact absurd member (Finset.notMem_empty client)
  case isFalse =>
      refine ⟨by simp [Task.InLoop], ?_⟩
      intro client member _
      exact if_pos (.inl member)

theorem follows_send (consistent : manager.registry.Consistent) {client : Client}
    {ok : Bool} {remaining : Finset Client} {disconnected : List Client}
    (present : client ∈ remaining)
    (apart : ∀ other ∈ disconnected, other ∉ remaining) : ∃ next,
      (manager.send id client ok remaining disconnected).tasks id = some next ∧
        manager.Follows (manager.send id client ok remaining disconnected) key
          (.send id client ok) id (.sending remaining disconnected) next := by
  refine ⟨_, Function.update_self _ _ _, ?_, ?_⟩
  · intro other listed kept
    have kept := Finset.mem_erase.mp kept
    split at listed
    case isTrue =>
        rcases List.mem_append.mp listed with before | own
        · exact apart other before kept.2
        · exact kept.1 (List.mem_singleton.mp own)
    case isFalse => exact apart other listed kept.2
  · intro other member _
    have active := consistent.active_of_mem member
    by_cases same : other = client
    · subst same
      have not_listed : other ∉ disconnected := fun listed => apart other listed present
      cases ok with
      | true => simp [passed, sent, active, present, not_listed]
      | false => simp [passed, sent, active, present]
    · have listed_iff : other ∈ (if client ∈ manager.registry.active_connections ∧
        ok = false
          then disconnected ++ [client] else disconnected) ↔ other ∈ disconnected := by
        split
        case isTrue => simp [same]
        case isFalse => rfl
      have quiet : manager.sent (.send id client ok) ≠ some (id, other) := by
        intro sends
        cases sent_eq_some sends
        exact same rfl
      simp only [passed, listed_iff, Finset.mem_erase, ne_eq, same, not_false_eq_true,
        true_and, if_neg quiet, Nat.add_zero]

/-- A step of another task. -/
theorem follows_other (taken : manager.step redis label = some after)
    (found : manager.tasks id = some task) (in_loop : task.InLoop key)
    (different : id ≠ label.id) : ∃ next, after.tasks id = some next ∧
      manager.Follows after key label id task next := by
  obtain ⟨_, changed⟩ := tasks_step taken
  refine ⟨task, ?_, in_loop, ?_⟩
  · rw [changed, Function.update_of_ne different, found]
  · intro client _ _
    have quiet : manager.sent label ≠ some (id, client) := by
      intro sends
      cases sent_eq_some sends
      exact different rfl
    rw [if_neg quiet, Nat.add_zero]

/-- What a step does to a loop. -/
theorem follows_step (consistent : manager.registry.Consistent)
    (taken : manager.step redis label = some after) (found : manager.tasks id =
      some task)
    (in_loop : task.InLoop key) : ∃ next, after.tasks id = some next ∧
      manager.Follows after key label id task next := by
  by_cases own : id = label.id
  · subst own
    cases steps_of_step taken with
    | @call id request unknown =>
        rw [show manager.tasks id = some task from found] at unknown
        contradiction
    | @accepted id client ok known =>
        rw [show manager.tasks id = some task from found] at known
        cases known
        contradiction
    | @acquire id operation free known =>
        rw [show manager.tasks id = some task from found] at known
        cases known
        cases operation with
        | disconnect other rest => exact follows_disconnect consistent other rest
        | broadcast wanted =>
            cases in_loop
            exact follows_broadcast
        | connect | subscribe | unsubscribe => contradiction
    | @joined id client subscription ok known =>
        rw [show manager.tasks id = some task from found] at known
        cases known
        contradiction
    | @left id subscription rest ok known =>
        rw [show manager.tasks id = some task from found] at known
        cases known
        refine ⟨_, Function.update_self _ _ _, Task.in_loop_next rest key, ?_⟩
        intro client _ _
        exact passed_next rest client
    | @confirmed id client ok known =>
        rw [show manager.tasks id = some task from found] at known
        cases known
        contradiction
    | @send id client remaining disconnected ok known present =>
        rw [show manager.tasks id = some task from found] at known
        cases known
        exact follows_send consistent present in_loop
    | @sent_all id disconnected known =>
        rw [show manager.tasks id = some task from found] at known
        cases known
        refine ⟨_, Function.update_self _ _ _, Task.in_loop_next disconnected key, ?_⟩
        intro client _ _
        rw [passed_next]
        simp [passed, sent]
  · exact follows_other taken found in_loop own

end Manager

end HftEngine.WebSocket
