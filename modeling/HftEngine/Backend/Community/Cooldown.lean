import HftEngine.Backend.Community.Posting
import Mathlib.Data.List.Count
import Mathlib.Data.List.Perm.Basic

/-!
# The cooldown of a room

A request is checked against committed posts only, so requests that overlap may all be let
through.  In no window as long as the cooldown do more posts of a user stand than the user
has requests in flight at a time.
-/

namespace HftEngine.Backend.Community.Posting

open Transition Accounts

variable {settings : Settings} {state : State} {K c user_id room_id : ℕ}

def Post.stands (user_id room_id : ℕ) (post : Post) : Bool :=
  post.author_id = user_id && post.room_id = room_id && !post.is_deleted

def Post.within (t c : ℕ) (post : Post) : Bool :=
  t ≤ post.created_at && post.created_at < t + c

def Request.flies (user_id room_id : ℕ) (request : Request) : Bool :=
  request.author.id = user_id && request.room.id = room_id

namespace State

def standing (state : State) (user_id room_id t c : ℕ) : ℕ :=
  state.posts.countP (fun post => post.stands user_id room_id && post.within t c)

/-- The requests in flight that were checked before a time. -/
def coming (state : State) (user_id room_id bound : ℕ) : ℕ :=
  state.pending.countP (fun request =>
    request.flies user_id room_id && request.checked_at < bound)

def flying (state : State) (user_id room_id : ℕ) : ℕ :=
  state.pending.countP (Request.flies user_id room_id)

end State

/-! ## What a check lets through -/

theorem ok_of_bind {α β : Type} {first : Except String α} {next : α → Except String β} {b : β}
    (returned : (first >>= next) = .ok b) : ∃ a, first = .ok a ∧ next a = .ok b := by
  cases first with
  | error detail => cases returned
  | ok a => exact ⟨a, rfl, returned⟩

theorem check_cooldown_spec {room : Room} {value : Unit}
    (passed : state.check_cooldown user_id room = .ok value)
    (positive : 0 < room.post_cooldown_seconds) :
    ∀ post ∈ state.posts, post.stands user_id room.id = true →
      post.created_at + room.post_cooldown_seconds * second ≤ state.now := by
  intro post member stands
  have listed : post.created_at ∈ (state.posts.filter (fun post => post.author_id = user_id &&
      post.room_id = room.id && !post.is_deleted)).map Post.created_at :=
    List.mem_map.mpr ⟨post, List.mem_filter.mpr ⟨member, stands⟩, rfl⟩
  rw [State.check_cooldown, if_pos positive, State.get_user_last_post_time] at passed
  split at passed
  · rename_i empty
    rw [List.max?_eq_none_iff.mp empty] at listed
    cases listed
  · rename_i last_post last
    have latest := (List.max?_eq_some_iff.mp last).2 _ listed
    dsimp only at passed
    split at passed
    · cases passed
    · rename_i waited
      exact Nat.le_trans (Nat.add_le_add_right latest _) (Nat.le_of_not_lt waited)

/-- A user who has a reputation, and is no administrator, has waited. -/
theorem check_posting_permission_spec {author : User} {room : Room} {unmutes : Bool}
    (passed : state.check_posting_permission settings author room = .ok unmutes)
    (plain : author.role ≠ .ADMIN) (known : (state.reputations author.id).isSome)
    (positive : 0 < room.post_cooldown_seconds) :
    ∀ post ∈ state.posts, post.stands author.id room.id = true →
      post.created_at + room.post_cooldown_seconds * second ≤ state.now := by
  obtain ⟨rep, found⟩ := Option.isSome_iff_exists.mp known
  rw [State.check_posting_permission, if_neg plain] at passed
  split at passed
  · cases passed
  · split at passed
    · cases passed
    · rw [State.check_user_can_post, found] at passed
      obtain ⟨_, _, passed⟩ := ok_of_bind passed
      dsimp only at passed
      split at passed
      · cases passed
      · obtain ⟨_, waited, _⟩ := ok_of_bind passed
        exact check_cooldown_spec waited positive

theorem create_post_spec {author : User} {room_slug : String} {post_data : PostCreate}
    {after : State}
    (created : state.create_post settings author room_slug post_data = .ok after) :
    ∃ room ∈ state.rooms, ∃ unmutes,
      state.check_posting_permission settings author room = .ok unmutes ∧
      after = { state with
        pending := { room, author, post_data, unmutes, checked_at := state.now } ::
          state.pending } := by
  rw [State.create_post] at created
  split at created
  · cases created
  · rename_i room found
    obtain ⟨unmutes, permitted, created⟩ := ok_of_bind created
    obtain ⟨_, _, created⟩ := ok_of_bind created
    cases created
    exact ⟨room, List.mem_of_find?_eq_some found, unmutes, permitted, rfl⟩

/-! ## Windows -/

/-- A request is stamped after its check. -/
def Request.Stamped (now : ℕ) (request : Request) : Prop :=
  request.checked_at ≤ now ∧
    match request.stage with
    | .checked => True
    | .created created_at | .stamped created_at _ _ => request.checked_at ≤ created_at

structure Paced (K c user_id room_id : ℕ) (state : State) : Prop where
  cooldown : ∀ room ∈ state.rooms, room.id = room_id → c ≤ room.post_cooldown_seconds * second
  known : ∀ post ∈ state.posts, (state.reputations post.author_id).isSome
  stamped : ∀ request ∈ state.pending, request.Stamped state.now
  windows : ∀ t,
    state.standing user_id room_id t c + state.coming user_id room_id (t + c) ≤ K

/-- The user is no administrator and has fewer than `K` requests in flight when another
begins; no change of the room puts its cooldown below `c`. -/
def Slow (K c user_id room_id : ℕ) (state : State) : Label → Prop
  | .create_room room => room.id = room_id → c ≤ room.post_cooldown_seconds * second
  | .update_room id room_data => id = room_id →
      ∀ seconds ∈ room_data.post_cooldown_seconds, c ≤ seconds * second
  | .create_post author _ _ => author.id = user_id →
      author.role ≠ .ADMIN ∧ state.flying user_id room_id < K
  | _ => True

instance (K c user_id room_id : ℕ) (state : State) :
    (label : Label) → Decidable (Slow K c user_id room_id state label)
  | .create_room room =>
      inferInstanceAs (Decidable (room.id = room_id → c ≤ room.post_cooldown_seconds * second))
  | .update_room id room_data =>
      inferInstanceAs (Decidable (id = room_id →
        ∀ seconds ∈ room_data.post_cooldown_seconds, c ≤ seconds * second))
  | .create_post author _ _ =>
      inferInstanceAs (Decidable (author.id = user_id →
        author.role ≠ .ADMIN ∧ state.flying user_id room_id < K))
  | .write _ | .commit .. | .rollback _ | .delete_post .. | .mute_user .. | .unmute_user _
  | .set_score .. | .tick _ => isTrue trivial

theorem countP_set_of_eq {α : Type} {p : α → Bool} {items : List α} {index : ℕ} {old new : α}
    (listed : items[index]? = some old) (same : p new = p old) :
    (items.set index new).countP p = items.countP p := by
  induction items generalizing index with
  | nil => rfl
  | cons item items ih =>
      cases index with
      | zero =>
          cases listed
          rw [List.set_cons_zero, List.countP_cons, List.countP_cons, same]
      | succ index =>
          rw [List.set_cons_succ, List.countP_cons, List.countP_cons, ih listed]

theorem countP_eraseIdx {α : Type} (p : α → Bool) {items : List α} {index : ℕ} {old : α}
    (listed : items[index]? = some old) :
    (items.eraseIdx index).countP p + (p old).toNat = items.countP p := by
  obtain ⟨bound, same⟩ := List.getElem?_eq_some_iff.mp listed
  have perm := List.getElem_cons_eraseIdx_perm bound
  rw [same] at perm
  rw [← perm.countP_eq, List.countP_cons]
  cases p old <;> rfl

theorem coming_le (bound : ℕ) :
    state.coming user_id room_id bound ≤ state.flying user_id room_id := by
  apply List.countP_mono_left
  intro request _ counted
  exact (Bool.and_eq_true_iff.mp counted).1

namespace Paced

theorem start : Paced K c user_id room_id (system settings).start where
  cooldown _ listed := by cases listed
  known _ listed := by cases listed
  stamped _ listed := by cases listed
  windows _ := Nat.zero_le K

/-- A request that is let through opens no window: the posts that stand are older. -/
theorem create_post {author : User} {room_slug : String} {post_data : PostCreate}
    {after : State} (paced : Paced K c user_id room_id state)
    (slow : Slow K c user_id room_id state (.create_post author room_slug post_data))
    (created : state.create_post settings author room_slug post_data = .ok after) :
    Paced K c user_id room_id after := by
  obtain ⟨room, member, unmutes, permitted, rfl⟩ := create_post_spec created
  refine ⟨paced.cooldown, paced.known, ?_, ?_⟩
  · exact List.forall_mem_cons.mpr ⟨⟨Nat.le_refl _, trivial⟩, paced.stamped⟩
  · intro t
    have before := paced.windows t
    rw [State.coming, List.countP_cons]
    by_cases counted : (author.id = user_id ∧ room.id = room_id) ∧ state.now < t + c
    · obtain ⟨⟨rfl, rfl⟩, inside⟩ := counted
      obtain ⟨plain, few⟩ := slow rfl
      have length := paced.cooldown room member rfl
      have none : state.standing author.id room.id t c = 0 := by
        apply List.countP_eq_zero.mpr
        intro post listed both
        obtain ⟨stands, within⟩ := Bool.and_eq_true_iff.mp both
        obtain ⟨first, last⟩ := Bool.and_eq_true_iff.mp within
        have first := of_decide_eq_true first
        have last := of_decide_eq_true last
        have author_id : post.author_id = author.id := by
          simp only [Post.stands, Bool.and_eq_true, decide_eq_true_eq] at stands
          exact stands.1.1
        have positive : 0 < room.post_cooldown_seconds := by
          apply Nat.pos_of_ne_zero
          intro zero
          rw [zero, Nat.zero_mul] at length
          omega
        have waited := check_posting_permission_spec permitted plain
          (author_id ▸ paced.known post listed) positive post listed stands
        omega
      have most := @coming_le state author.id room.id (t + c)
      show state.standing author.id room.id t c +
        (state.coming author.id room.id (t + c) + _) ≤ K
      split <;> omega
    · have other : (Request.flies user_id room_id
          { room, author, post_data, unmutes, checked_at := state.now } &&
            decide (state.now < t + c)) = false := by
        simpa [Request.flies] using counted
      rw [if_neg (ne_true_of_eq_false other)]
      exact before

theorem write {index : ℕ} {request : Request} (paced : Paced K c user_id room_id state)
    (listed : state.pending[index]? = some request) :
    Paced K c user_id room_id
      { state with pending := state.pending.set index (request.write state) } := by
  have stamped := paced.stamped request (List.mem_of_getElem? listed)
  have kept : (request.write state).author = request.author ∧
      (request.write state).room = request.room ∧
      (request.write state).checked_at = request.checked_at := by
    rw [Request.write]
    split <;> exact ⟨rfl, rfl, rfl⟩
  refine ⟨paced.cooldown, paced.known, ?_, ?_⟩
  · intro other member
    rcases List.mem_or_eq_of_mem_set member with before | rfl
    · exact paced.stamped other before
    · refine ⟨kept.2.2 ▸ stamped.1, ?_⟩
      have late := stamped.2
      rw [Request.write]
      cases stage : request.stage with
      | checked => exact stamped.1
      | created created_at =>
          rw [stage] at late
          exact late
      | stamped created_at last_post_at creates_reputation =>
          rw [stage] at late
          dsimp only
          rw [stage]
          exact late
  · intro t
    have same : State.coming
        { state with pending := state.pending.set index (request.write state) } user_id room_id
          (t + c) = state.coming user_id room_id (t + c) := by
      apply countP_set_of_eq listed
      rw [Request.flies, Request.flies, kept.1, kept.2.1, kept.2.2]
    rw [same]
    exact paced.windows t

theorem rollback (index : ℕ) (paced : Paced K c user_id room_id state) :
    Paced K c user_id room_id { state with pending := state.pending.eraseIdx index } := by
  refine ⟨paced.cooldown, paced.known, ?_, ?_⟩
  · exact fun other kept => paced.stamped other (List.mem_of_mem_eraseIdx kept)
  · intro t
    have fewer := (List.eraseIdx_sublist state.pending index).countP_le
      (p := fun request => request.flies user_id room_id && request.checked_at < t + c)
    exact Nat.le_trans (Nat.add_le_add_left fewer _) (paced.windows t)

/-- A post that is committed was in flight in every window that it comes into. -/
theorem commit {index id : ℕ} {request : Request} (paced : Paced K c user_id room_id state)
    (listed : state.pending[index]? = some request) :
    Paced K c user_id room_id { state.commit id request with
      pending := (state.commit id request).pending.eraseIdx index } := by
  have late := (paced.stamped request (List.mem_of_getElem? listed)).2
  rw [State.commit]
  split
  · rename_i created_at last_post_at creates_reputation stage
    rw [stage] at late
    dsimp only
    split
    · exact paced.rollback index
    · refine ⟨paced.cooldown, ?_, (paced.rollback index).stamped, ?_⟩
      · intro post member
        dsimp only
        by_cases same : post.author_id = request.author.id
        · rw [same, Function.update_self]
          rfl
        · rw [Function.update_of_ne same]
          rcases List.mem_cons.mp member with rfl | listed
          · exact absurd rfl same
          · exact paced.known post listed
      · intro t
        let flew (request : Request) : Bool :=
          request.flies user_id room_id && request.checked_at < t + c
        let counts (post : Post) : Bool := post.stands user_id room_id && post.within t c
        have erased : (state.pending.eraseIdx index).countP flew + (flew request).toNat =
            state.coming user_id room_id (t + c) := countP_eraseIdx flew listed
        have counted : (counts (request.post id created_at)).toNat ≤ (flew request).toNat := by
          cases comes : counts (request.post id created_at) with
          | false => exact Nat.zero_le _
          | true =>
              simp only [counts, Post.stands, Post.within, Request.post, Bool.and_eq_true,
                decide_eq_true_eq] at comes
              have flies : flew request = true := by
                simp only [flew, Request.flies, Bool.and_eq_true, decide_eq_true_eq]
                exact ⟨comes.1.1, Nat.lt_of_le_of_lt late comes.2.2⟩
              exact Nat.le_of_eq (congrArg Bool.toNat flies).symm
        have added : (request.post id created_at :: state.posts).countP counts =
            state.standing user_id room_id t c + (counts (request.post id created_at)).toNat := by
          rw [List.countP_cons]
          cases counts (request.post id created_at) <;> rfl
        show (request.post id created_at :: state.posts).countP counts +
          (state.pending.eraseIdx index).countP flew ≤ K
        have before := paced.windows t
        omega
  · exact paced.rollback index

theorem delete_post (user : User) (post_id : ℕ) (paced : Paced K c user_id room_id state) :
    Paced K c user_id room_id (state.delete_post user post_id) := by
  refine ⟨paced.cooldown, ?_, paced.stamped, ?_⟩
  · intro post member
    obtain ⟨old, listed, rfl⟩ := List.mem_map.mp member
    have known := paced.known old listed
    split
    · exact known
    · exact known
  · intro t
    have fewer : (state.delete_post user post_id).standing user_id room_id t c ≤
        state.standing user_id room_id t c := by
      rw [State.standing, State.delete_post, List.countP_map]
      apply List.countP_mono_left
      intro post _ counted
      simp only [Function.comp_apply] at counted
      split at counted
      · simp [Post.stands] at counted
      · exact counted
    exact Nat.le_trans (Nat.add_le_add_right fewer _) (paced.windows t)

theorem update_reputation (id : ℕ) (set : Reputation → Reputation)
    (paced : Paced K c user_id room_id state) :
    Paced K c user_id room_id (state.update_reputation id set) := by
  refine ⟨paced.cooldown, ?_, paced.stamped, paced.windows⟩
  intro post member
  rw [State.update_reputation]
  dsimp only
  by_cases same : post.author_id = id
  · rw [same, Function.update_self]
    rfl
  · rw [Function.update_of_ne same]
    exact paced.known post member

theorem step {label : Label} {next : State} (paced : Paced K c user_id room_id state)
    (slow : Slow K c user_id room_id state label)
    (taken : Posting.step settings state label = some next) :
    Paced K c user_id room_id next := by
  cases label with
  | create_room room =>
      cases taken
      exact ⟨List.forall_mem_cons.mpr ⟨slow, paced.cooldown⟩, paced.known, paced.stamped,
        paced.windows⟩
  | update_room id room_data =>
      cases taken
      refine ⟨?_, paced.known, paced.stamped, paced.windows⟩
      intro room member same
      obtain ⟨old, listed, rfl⟩ := List.mem_map.mp member
      split at same
      · rename_i updated
        have before := paced.cooldown old listed same
        rw [if_pos updated, RoomUpdate.apply]
        cases given : room_data.post_cooldown_seconds with
        | none => exact before
        | some seconds => exact slow (updated.symm.trans same) seconds given
      · rename_i other
        rw [if_neg other]
        exact paced.cooldown old listed same
  | create_post author room_slug post_data =>
      rw [Posting.step] at taken
      split at taken
      · rename_i after created
        cases taken
        exact paced.create_post slow created
      · cases taken
        exact paced
  | write index =>
      obtain ⟨request, listed, taken⟩ := Option.bind_eq_some_iff.mp taken
      cases taken
      exact paced.write listed
  | commit index id =>
      obtain ⟨request, listed, taken⟩ := Option.bind_eq_some_iff.mp taken
      cases taken
      exact paced.commit listed
  | rollback index =>
      cases taken
      exact paced.rollback index
  | delete_post user post_id =>
      cases taken
      exact paced.delete_post user post_id
  | mute_user | unmute_user | set_score =>
      cases taken
      exact paced.update_reputation _ _
  | tick microseconds =>
      cases taken
      refine ⟨paced.cooldown, paced.known, ?_, paced.windows⟩
      intro request listed
      have stamped := paced.stamped request listed
      exact ⟨Nat.le_add_right_of_le stamped.1, stamped.2⟩

end Paced

/-- In no window as long as the cooldown of a room do more posts of a user stand than the
user has had requests in flight at a time. -/
theorem standing_le (reached : ReachedBy (system settings) (Slow K c user_id room_id) state)
    (t : ℕ) : state.standing user_id room_id t c ≤ K := by
  have paced : Paced K c user_id room_id state := by
    refine reached.invariant .start ?_
    intro before label after held slow taken
    exact held.step slow taken
  exact Nat.le_trans (Nat.le_add_right _ _) (paced.windows t)

/-- A post, another that is refused, and a third one a minute later. -/
theorem standing_le_minute :
    ∃ state : State, (ReachedBy
        (system ⟨fun text => text, toString, fun _ => none, fun _ => false⟩)
        (Slow 1 (60 * second) 7 1) state ∧ state.posts.length = 2) ∧
      ∀ t, state.standing 7 1 t (60 * second) ≤ 1 := by
  let ann : User := { id := 7, firebase_uid := "ann", email := "ann@x.in", username := "ann" }
  obtain ⟨state, reached, posts⟩ := ReachedBy.exists_of_run
    (system ⟨fun text => text, toString, fun _ => none, fun _ => false⟩)
    (Slow 1 (60 * second) 7 1) (fun state => state.posts.length = 2)
    [.create_room { id := 1, slug := "feedback", room_type := .FEEDBACK },
      .create_post ann "feedback" { content := "The chart is late" }, .write 0, .write 0,
      .commit 0 1, .create_post ann "feedback" { content := "Still late" },
      .tick (60 * second), .create_post ann "feedback" { content := "Now it is there" },
      .write 0, .write 0, .commit 0 2]
    (by decide)
  exact ⟨state, ⟨reached, posts⟩, fun t => standing_le reached t⟩

end HftEngine.Backend.Community.Posting
