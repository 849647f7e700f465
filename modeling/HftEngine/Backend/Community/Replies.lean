import HftEngine.Backend.Community.Tables

/-!
# Reply counters of the posts

A reply adds one to the counter of its parent when it is created and takes one off when
it is deleted.  `delete_post` does not look whether the post is deleted already.
-/

namespace HftEngine.Backend.Community

open Transition

variable {User : Type}

def is_reply (post_id : ℕ) (post : Post User) : Bool :=
  post.parent_post_id = some post_id && !post.is_deleted

/-- The replies to a post that are not deleted. -/
def replies (db : Database User) (post_id : ℕ) : ℕ :=
  db.posts.count (is_reply post_id)

def RepliesCounted (db : Database User) : Prop :=
  ∀ post ∈ db.posts.rows, post.reply_count = replies db post.id ∧ 0 ≤ post.reply_count

instance (db : Database User) : Decidable (RepliesCounted db) :=
  inferInstanceAs (Decidable (∀ post ∈ db.posts.rows, _ ∧ _))

/-- What the counter of a post still lacks, until the reply is counted. -/
def pending (parent : Option ℕ) (count : ℤ) (post_id : ℕ) : ℤ :=
  if parent = some post_id then count else 0

/-- The counters before a reply that came or went is counted. -/
def RepliesPending (db : Database User) (parent : Option ℕ) (count : ℤ) : Prop :=
  ∀ post ∈ db.posts.rows,
    post.reply_count + pending parent count post.id = replies db post.id

theorem repliesCounted_iff {db : Database User} :
    RepliesCounted db ↔ ∀ post ∈ db.posts.rows, post.reply_count = replies db post.id := by
  constructor
  · intro counted post member
    exact (counted post member).1
  · intro counted post member
    refine ⟨counted post member, ?_⟩
    rw [counted post member]
    exact Int.natCast_nonneg _

/-- An update of a post changes the replies to its parent only. -/
theorem replies_update_post {db : Database User} {set : Post User → Post User}
    (keeps : Keeps set) {old : Post User} (found : db.posts.get? old.id = some old)
    (post_id : ℕ) :
    replies (db.update_post old.id set) post_id +
        KeyedTable.tally (is_reply post_id) old =
      replies db post_id + KeyedTable.tally (is_reply post_id) (set old) := by
  have keyed : db.posts.get? (set old).id = some old := by
    rw [keeps.id]
    exact found
  rw [replies, Database.update_post, found]
  exact KeyedTable.count_replace keyed _

theorem replies_update_post_self {db : Database User} {set : Post User → Post User}
    (keeps : Keeps set) (present : ∀ post, (set post).is_deleted = post.is_deleted)
    (id post_id : ℕ) :
    replies (db.update_post id set) post_id = replies db post_id := by
  cases found : db.posts.get? id with
  | none =>
      rw [Database.update_post, found]
  | some old =>
      obtain rfl : old.id = id := (KeyedTable.get?_eq_some_iff.mp found).2
      have same : KeyedTable.tally (is_reply post_id) (set old) =
          KeyedTable.tally (is_reply post_id) old := by
        rw [KeyedTable.tally, KeyedTable.tally, is_reply, is_reply, keeps.parent_post_id,
          present]
      have counted := replies_update_post keeps found post_id
      rw [same] at counted
      exact Nat.add_right_cancel counted

theorem replies_count_reply (db : Database User) (parent : Option ℕ) (count : ℤ)
    (post_id : ℕ) : replies (db.count_reply parent count) post_id = replies db post_id := by
  obtain same | ⟨answered, same⟩ := count_reply_cases db parent count
  · rw [same]
  · rw [same]
    exact replies_update_post_self (keeps_add_replies count) (fun _ => rfl) _ _

/-- Counting the reply settles what is pending. -/
theorem RepliesPending.count_reply {db : Database User} {parent : Option ℕ} {count : ℤ}
    (outstanding : RepliesPending db parent count)
    (positive : ∀ post ∈ db.posts.rows, post.id ≠ 0) :
    RepliesCounted (db.count_reply parent count) := by
  rw [repliesCounted_iff]
  intro post member
  obtain ⟨old, listed, changed⟩ := mem_count_reply member
  have lacking := outstanding old listed
  rw [replies_count_reply]
  by_cases parented : parent = some old.id
  · rw [if_pos ⟨parented, positive old listed⟩] at changed
    rw [pending, if_pos parented] at lacking
    subst changed
    exact lacking
  · rw [if_neg (fun both => parented both.1)] at changed
    rw [pending, if_neg parented, add_zero] at lacking
    subst changed
    exact lacking

/-- A new post without replies, not counted yet. -/
theorem RepliesCounted.insert {db : Database User} {post : Post User}
    {posts : KeyedTable (Post.id : Post User → ℕ)} (counted : RepliesCounted db)
    (parented : Parented db) (inserted : db.posts.insert post = some posts)
    (present : post.is_deleted = false) (zero : post.reply_count = 0) :
    RepliesPending { db with posts } post.parent_post_id 1 := by
  obtain ⟨fresh, rows⟩ := KeyedTable.insert_eq_some inserted
  have none_yet : replies db post.id = 0 := by
    apply List.countP_eq_zero.mpr
    intro reply listed counts
    rw [is_reply, Bool.and_eq_true, decide_eq_true_eq] at counts
    obtain ⟨author, written⟩ := (parented reply listed).2 post.id counts.1
    rw [author_of, fresh] at written
    cases written
  have more : ∀ post_id, (replies { db with posts } post_id : ℤ) =
      replies db post_id + pending post.parent_post_id 1 post_id := by
    intro post_id
    have one_more := KeyedTable.count_insert inserted (is_reply post_id)
    rw [replies, one_more, replies, pending, KeyedTable.tally, is_reply, present]
    by_cases parent : post.parent_post_id = some post_id
    · simp [parent]
    · simp [parent]
  intro other member
  rw [show ({ db with posts } : Database User).posts.rows = post :: db.posts.rows from rows]
    at member
  rw [more]
  rcases List.mem_cons.mp member with new | listed
  · rw [new, none_yet, zero]
    rfl
  · rw [(counted other listed).1]

/-- A post that is marked as deleted, not counted yet. -/
theorem RepliesCounted.mark_deleted {db : Database User} {post : Post User}
    (counted : RepliesCounted db) (found : db.posts.get? post.id = some post)
    (once : post.parent_post_id.isSome → post.is_deleted = false) :
    RepliesPending (db.update_post post.id Database.mark_deleted) post.parent_post_id (-1) := by
  have fewer : ∀ post_id,
      (replies (db.update_post post.id Database.mark_deleted) post_id : ℤ) =
        replies db post_id + pending post.parent_post_id (-1) post_id := by
    intro post_id
    have moved := replies_update_post keeps_mark_deleted found post_id
    rw [KeyedTable.tally, KeyedTable.tally, is_reply, is_reply] at moved
    rw [pending]
    by_cases parent : post.parent_post_id = some post_id
    · have present := once (by rw [parent]; rfl)
      simp [parent, present, Database.mark_deleted] at moved
      rw [if_pos parent]
      omega
    · simp [parent, Database.mark_deleted] at moved
      rw [if_neg parent]
      omega
  intro other member
  obtain ⟨old, listed, changed⟩ := mem_update_post keeps_mark_deleted member
  have unmoved : other.id = old.id ∧ other.reply_count = old.reply_count := by
    rw [changed]
    split <;> exact ⟨rfl, rfl⟩
  rw [fewer, unmoved.1, unmoved.2, (counted old listed).1]

/-- An update that leaves the replies and their counters alone. -/
theorem RepliesCounted.update_post {db : Database User} {set : Post User → Post User}
    (counted : RepliesCounted db) (keeps : Keeps set)
    (present : ∀ post, (set post).is_deleted = post.is_deleted)
    (unmoved : ∀ post, (set post).reply_count = post.reply_count) (post_id : ℕ) :
    RepliesCounted (db.update_post post_id set) := by
  intro post member
  obtain ⟨old, listed, changed⟩ := mem_update_post keeps member
  have same : post.id = old.id ∧ post.reply_count = old.reply_count := by
    rw [changed]
    split
    · exact ⟨keeps.id old, unmoved old⟩
    · exact ⟨rfl, rfl⟩
  rw [replies_update_post_self keeps present, same.1, same.2]
  exact counted old listed

theorem RepliesCounted.congr {before after : Database User} (counted : RepliesCounted before)
    (posts : after.posts = before.posts) : RepliesCounted after := by
  intro post member
  rw [posts] at member
  rw [replies, posts]
  exact counted post member

/-! ## Runs -/

variable [DecidableEq User]

/-- No reply is deleted that is deleted already. -/
def DeletesOnce (db : Database User) : Request User → Prop
  | .delete_post post_id _ _ =>
      ∀ post ∈ db.posts.get? post_id, post.parent_post_id.isSome → post.is_deleted = false
  | _ => True

instance (db : Database User) :
    (request : Request User) → Decidable (DeletesOnce db request)
  | .delete_post post_id _ _ =>
      inferInstanceAs (Decidable (∀ post ∈ db.posts.get? post_id, _ → _))
  | .create_post .. | .add_reaction .. | .remove_reaction .. | .add_bookmark ..
  | .remove_bookmark .. => isTrue trivial

theorem RepliesCounted.step {db after : Database User} {request : Request User}
    (counted : RepliesCounted db) (parented : Parented db)
    (once : DeletesOnce db request) (effect : Effect db request after) :
    RepliesCounted after := by
  cases effect with
  | created positive inserted parent_exists same helpful =>
      have outstanding := counted.insert parented inserted rfl rfl
      refine (outstanding.count_reply ?_).congr same.posts
      intro post member
      have rows := (KeyedTable.insert_eq_some inserted).2
      rcases List.mem_cons.mp (rows ▸ member) with new | listed
      · rw [new]
        exact positive
      · exact (parented post listed).1
  | @deleted post_id user admin post found =>
      obtain ⟨listed, number⟩ := KeyedTable.get?_eq_some_iff.mp found
      have outstanding := counted.mark_deleted (number.symm ▸ found) (once post found)
      apply outstanding.count_reply
      intro other member
      obtain ⟨old, before, changed⟩ := mem_update_post keeps_mark_deleted member
      have positive := (parented old before).1
      rw [changed]
      split <;> exact positive
  | reacted found present rewritten recounted rewarded helpful =>
      rw [update_post_vote_counts_spec recounted] at rewarded
      have put := counted.congr rewritten.posts
      exact (put.update_post (keeps_add_votes _ _) (fun _ => rfl) (fun _ => rfl) _).congr
        rewarded.posts
  | @unreacted post_id user reaction _ found recounted =>
      have dropped : RepliesCounted (db.drop_reaction post_id user) := counted
      rw [update_post_vote_counts_spec recounted]
      exact dropped.update_post (keeps_add_votes _ _) (fun _ => rfl) (fun _ => rfl) post_id
  | bookmarked found present rewritten => exact counted.congr rewritten.posts
  | unbookmarked found marked => exact counted
  | kept => exact counted

theorem replies_counted {db : Database User} (reached : ReachedBy system DeletesOnce db) :
    RepliesCounted db := by
  have invariant : RepliesCounted db ∧ Parented db := by
    refine reached.invariant (I := fun db => RepliesCounted db ∧ Parented db) ?_ ?_
    · constructor
      · intro post member
        cases member
      · intro post member
        cases member
    · intro before request after held once taken
      have effect := effect_of_step taken
      exact ⟨held.1.step held.2 once effect, held.2.step effect⟩
  exact invariant.1

/-- A post with two replies, of which one has a reply of its own and is deleted. -/
theorem replies_counted_thread :
    ∃ db : Database ℕ, (ReachedBy system DeletesOnce db ∧
      replies db 1 = 1 ∧ replies db 2 = 1) ∧ RepliesCounted db := by
  obtain ⟨db, reached, counts⟩ := ReachedBy.exists_of_run
    (system : System (Database ℕ) (Request ℕ)) DeletesOnce
    (fun db => replies db 1 = 1 ∧ replies db 2 = 1)
    [.create_post 1 10 none, .create_post 2 11 (some 1), .create_post 3 12 (some 1),
      .create_post 4 10 (some 2), .delete_post 2 11 false] (by decide)
  exact ⟨db, ⟨reached, counts⟩, replies_counted reached⟩

/-- One reply, deleted twice by its author: the counter is at -1. -/
theorem replies_not_counted :
    ∃ db : Database ℕ, Reachable system db ∧ ¬RepliesCounted db :=
  ReachedBy.exists_of_run _ _ _
    [.create_post 1 10 none, .create_post 2 11 (some 1), .delete_post 2 11 false,
      .delete_post 2 11 false] (by decide)

end HftEngine.Backend.Community
