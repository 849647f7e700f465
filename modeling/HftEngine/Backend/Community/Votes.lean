import HftEngine.Backend.Community.Tables
import Mathlib.Tactic.Ring
import Mathlib.Tactic.Linarith

/-!
# Vote counters of the posts

`update_post_vote_counts` moves the counters of a post with the row of a reaction.  A
bookmark is a reaction too: it rewrites the row that a vote was counted for, and moves
no counter.
-/

namespace HftEngine.Backend.Community

open Transition

variable {User : Type}

/-- A reaction of a type to a post. -/
def is_vote (reaction_type : ReactionType) (post_id : ℕ) (reaction : Reaction User) : Bool :=
  reaction.post_id = post_id && reaction.reaction_type = reaction_type

def votes (db : Database User) (reaction_type : ReactionType) (post_id : ℕ) : ℕ :=
  db.reactions.count (is_vote reaction_type post_id)

/-- The counters of every post are the numbers of its reactions. -/
def VotesCounted (db : Database User) : Prop :=
  ∀ post ∈ db.posts.rows, post.upvotes = votes db .UPVOTE post.id ∧
    post.downvotes = votes db .DOWNVOTE post.id

instance (db : Database User) : Decidable (VotesCounted db) :=
  inferInstanceAs (Decidable (∀ post ∈ db.posts.rows, _ ∧ _))

/-! ## Reactions -/

/-- One for a reaction of a type to a post. -/
theorem elim_tally (reaction_type : ReactionType) (post_id : ℕ)
    {reaction : Option (Reaction User)} {place : ℕ}
    (placed : ∀ row ∈ reaction, row.post_id = place) :
    ((reaction.elim 0 (KeyedTable.tally (is_vote reaction_type post_id)) : ℕ) : ℤ) =
      if post_id = place then
        Database.vote reaction_type (reaction.map Reaction.reaction_type)
      else 0 := by
  cases reaction with
  | none => simp [Database.vote]
  | some row =>
      have here := placed row rfl
      by_cases same : post_id = place
      · simp [KeyedTable.tally, is_vote, Database.vote, here, same]
      · simp [KeyedTable.tally, is_vote, here, same, Ne.symm same]

/-- The reactions to a post change by the types of the one that comes and the one that
goes. -/
theorem Rewrites.votes {db after : Database User} {old new : Option (Reaction User)}
    (rewrites : Rewrites db after old new) {place : ℕ}
    (old_placed : ∀ row ∈ old, row.post_id = place)
    (new_placed : ∀ row ∈ new, row.post_id = place) (reaction_type : ReactionType)
    (post_id : ℕ) :
    (Community.votes after reaction_type post_id : ℤ) =
      Community.votes db reaction_type post_id +
        if post_id = place then
          Database.vote reaction_type (new.map Reaction.reaction_type) -
            Database.vote reaction_type (old.map Reaction.reaction_type)
        else 0 := by
  have counted := rewrites.count (is_vote reaction_type post_id)
  have gone := elim_tally reaction_type post_id old_placed
  have come := elim_tally reaction_type post_id new_placed
  rw [Community.votes, Community.votes]
  split <;> rename_i same
  · rw [if_pos same] at gone come
    omega
  · rw [if_neg same] at gone come
    omega

/-! ## Counters -/

theorem votes_congr {before after : Database User}
    (reactions : after.reactions = before.reactions) (reaction_type : ReactionType)
    (post_id : ℕ) : votes after reaction_type post_id = votes before reaction_type post_id := by
  rw [votes, reactions, votes]

/-- The counters of a post are moved as its reactions were. -/
theorem VotesCounted.recount {db put after : Database User} {post_id : ℕ}
    {old_type new_type : Option ReactionType} (counted : VotesCounted db)
    (posts : put.posts = db.posts)
    (moved : ∀ reaction_type id, (votes put reaction_type id : ℤ) =
      votes db reaction_type id +
        if id = post_id then
          Database.vote reaction_type new_type - Database.vote reaction_type old_type
        else 0)
    (recounted : put.update_post_vote_counts post_id old_type new_type = .ok after) :
    VotesCounted after := by
  have reactions : after.reactions = put.reactions := by
    rw [update_post_vote_counts_spec recounted, update_post_reactions]
  intro post member
  rw [update_post_vote_counts_spec recounted] at member
  obtain ⟨old, listed, changed⟩ := mem_update_post (keeps_add_votes _ _) member
  rw [posts] at listed
  obtain ⟨upvotes, downvotes⟩ := counted old listed
  rw [votes_congr reactions, votes_congr reactions, moved, moved]
  by_cases same : old.id = post_id
  · rw [if_pos same] at changed
    subst changed
    simp only [Database.add_votes, same, if_pos]
    rw [upvotes, downvotes, same]
    exact ⟨rfl, rfl⟩
  · rw [if_neg same] at changed
    subst changed
    rw [if_neg same, if_neg same, add_zero, add_zero]
    exact ⟨upvotes, downvotes⟩

/-- An update that leaves the counters alone. -/
theorem VotesCounted.update_post {db : Database User} {set : Post User → Post User}
    (counted : VotesCounted db) (keeps : Keeps set)
    (unmoved : ∀ post, (set post).upvotes = post.upvotes ∧
      (set post).downvotes = post.downvotes) (post_id : ℕ) :
    VotesCounted (db.update_post post_id set) := by
  intro post member
  obtain ⟨old, listed, changed⟩ := mem_update_post keeps member
  rw [votes_congr (update_post_reactions db post_id set),
    votes_congr (update_post_reactions db post_id set)]
  split at changed
  · subst changed
    rw [keeps.id, (unmoved old).1, (unmoved old).2]
    exact counted old listed
  · subst changed
    exact counted post listed

theorem VotesCounted.count_reply {db : Database User} (counted : VotesCounted db)
    (parent : Option ℕ) (count : ℤ) : VotesCounted (db.count_reply parent count) := by
  obtain same | ⟨answered, same⟩ := count_reply_cases db parent count
  · rw [same]
    exact counted
  · rw [same]
    exact counted.update_post (keeps_add_replies count) (fun _ => ⟨rfl, rfl⟩) answered

/-- A new post has no reactions yet. -/
theorem VotesCounted.insert {db : Database User} {post : Post User}
    {posts : KeyedTable (Post.id : Post User → ℕ)} (counted : VotesCounted db)
    (referenced : Referenced db) (inserted : db.posts.insert post = some posts)
    (upvotes : post.upvotes = 0) (downvotes : post.downvotes = 0) :
    VotesCounted { db with posts } := by
  obtain ⟨fresh, rows⟩ := KeyedTable.insert_eq_some inserted
  have none_yet : ∀ reaction_type, votes db reaction_type post.id = 0 := by
    intro reaction_type
    apply List.countP_eq_zero.mpr
    intro reaction listed counts
    rw [is_vote, Bool.and_eq_true, decide_eq_true_eq] at counts
    obtain ⟨author, written⟩ := referenced reaction listed
    rw [counts.1, author_of, fresh] at written
    cases written
  intro other member
  rw [show ({ db with posts } : Database User).posts.rows = post :: db.posts.rows from rows]
    at member
  have same : ∀ reaction_type id, votes { db with posts } reaction_type id =
      votes db reaction_type id := fun _ _ => rfl
  rw [same, same]
  rcases List.mem_cons.mp member with new | listed
  · rw [new, none_yet, none_yet, upvotes, downvotes]
    exact ⟨rfl, rfl⟩
  · exact counted other listed

theorem VotesCounted.congr {before after : Database User} (counted : VotesCounted before)
    (same : SamePosts before after) : VotesCounted after := by
  intro post member
  rw [same.posts] at member
  rw [votes_congr same.reactions, votes_congr same.reactions]
  exact counted post member

/-- Reactions that come and go, of which none is a vote. -/
theorem VotesCounted.rewrite {db after : Database User} {old new : Option (Reaction User)}
    (counted : VotesCounted db) (rewrites : Rewrites db after old new) {place : ℕ}
    (old_placed : ∀ row ∈ old, row.post_id = place)
    (new_placed : ∀ row ∈ new, row.post_id = place)
    (old_other : ∀ row ∈ old, row.reaction_type ≠ .UPVOTE ∧ row.reaction_type ≠ .DOWNVOTE)
    (new_other : ∀ row ∈ new, row.reaction_type ≠ .UPVOTE ∧ row.reaction_type ≠ .DOWNVOTE) :
    VotesCounted after := by
  have no_vote : ∀ {reaction : Option (Reaction User)} {reaction_type : ReactionType},
      (∀ row ∈ reaction, row.reaction_type ≠ reaction_type) →
      Database.vote reaction_type (reaction.map Reaction.reaction_type) = 0 := by
    intro reaction reaction_type other
    apply if_neg
    intro same
    obtain ⟨row, held, type⟩ := Option.map_eq_some_iff.mp same
    exact other row held type
  have moved := rewrites.votes old_placed new_placed
  intro post member
  rw [rewrites.posts] at member
  obtain ⟨upvotes, downvotes⟩ := counted post member
  rw [moved, moved, no_vote (fun row held => (old_other row held).1),
    no_vote (fun row held => (new_other row held).1),
    no_vote (fun row held => (old_other row held).2),
    no_vote (fun row held => (new_other row held).2), sub_zero, ite_self, add_zero, add_zero]
  exact ⟨upvotes, downvotes⟩

/-! ## Runs -/

variable [DecidableEq User]

/-- No bookmark of a post that is there takes the place of a vote. -/
def KeepsVotes (db : Database User) : Request User → Prop
  | .add_bookmark post_id user_id =>
      ∀ post ∈ db.posts.get? post_id, post.is_deleted = false →
        ∀ reaction ∈ db.get_user_reaction post_id user_id,
          reaction.reaction_type ≠ .UPVOTE ∧ reaction.reaction_type ≠ .DOWNVOTE
  | _ => True

instance (db : Database User) : (request : Request User) → Decidable (KeepsVotes db request)
  | .add_bookmark post_id user_id =>
      inferInstanceAs (Decidable (∀ post ∈ db.posts.get? post_id, _ →
        ∀ reaction ∈ db.get_user_reaction post_id user_id, _))
  | .create_post .. | .delete_post .. | .add_reaction .. | .remove_reaction ..
  | .remove_bookmark .. => isTrue trivial

theorem get_user_reaction_post {db : Database User} {post_id : ℕ} {user : User}
    {reaction : Reaction User} (found : db.get_user_reaction post_id user = some reaction) :
    reaction.post_id = post_id :=
  congrArg Prod.fst (KeyedTable.get?_eq_some_iff.mp found).2

theorem VotesCounted.step {db after : Database User} {request : Request User}
    (counted : VotesCounted db) (referenced : Referenced db)
    (keeps : KeepsVotes db request) (effect : Effect db request after) :
    VotesCounted after := by
  cases effect with
  | created positive inserted parent_exists same helpful =>
      have posted := counted.insert referenced inserted rfl rfl
      exact (posted.count_reply _ _).congr same
  | @deleted post_id user admin post found =>
      have marked := counted.update_post keeps_mark_deleted (fun _ => ⟨rfl, rfl⟩) post.id
      exact marked.count_reply _ _
  | reacted found present rewritten recounted rewarded helpful =>
      have moved := rewritten.votes (fun row old => get_user_reaction_post old)
        (fun row new => by rw [← Option.some.inj new])
      exact (counted.recount rewritten.posts moved recounted).congr rewarded
  | unreacted found recounted =>
      have dropped := rewrites_drop_reaction found
      have moved := dropped.votes
        (fun row old => by rw [← Option.some.inj old, get_user_reaction_post found])
        (fun row new => by cases new)
      exact counted.recount dropped.posts moved recounted
  | bookmarked found present rewritten =>
      apply counted.rewrite rewritten (fun row old => get_user_reaction_post old)
        (fun row new => by rw [← Option.some.inj new]) (keeps _ found present)
      intro row new
      rw [← Option.some.inj new]
      exact ⟨ReactionType.noConfusion, ReactionType.noConfusion⟩
  | unbookmarked found marked =>
      apply counted.rewrite (rewrites_drop_reaction found)
        (fun row old => by rw [← Option.some.inj old, get_user_reaction_post found])
        (fun row new => by cases new) _ (fun row new => by cases new)
      intro row old
      rw [← Option.some.inj old, marked]
      decide
  | kept => exact counted

/-- Both invariants of the reactions. -/
theorem votes_counted {db : Database User}
    (reached : ReachedBy system KeepsVotes db) : VotesCounted db := by
  have invariant : VotesCounted db ∧ Referenced db := by
    refine reached.invariant (I := fun db => VotesCounted db ∧ Referenced db) ?_ ?_
    · constructor
      · intro post member
        cases member
      · intro reaction member
        cases member
    · intro before request after held keeps taken
      have effect := effect_of_step taken
      exact ⟨held.1.step held.2 keeps effect, held.2.step effect⟩
  exact invariant.1

/-- Two users vote, one of them changes to a bookmark through a reaction. -/
theorem votes_counted_two :
    ∃ db : Database ℕ, (ReachedBy system KeepsVotes db ∧
      votes db .UPVOTE 1 = 1 ∧ votes db .DOWNVOTE 1 = 0) ∧ VotesCounted db := by
  obtain ⟨db, reached, counts⟩ := ReachedBy.exists_of_run
    (system : System (Database ℕ) (Request ℕ)) KeepsVotes
    (fun db => votes db .UPVOTE 1 = 1 ∧ votes db .DOWNVOTE 1 = 0)
    [.create_post 1 10 none, .add_reaction 1 11 .UPVOTE, .add_reaction 1 12 .DOWNVOTE,
      .add_reaction 1 12 .CONFIRM, .add_bookmark 1 13] (by decide)
  exact ⟨db, ⟨reached, counts⟩, votes_counted reached⟩

/-- The bookmark of an upvoted post: the row is no upvote any more, and the counter stays
at 1. -/
theorem votes_not_counted :
    ∃ db : Database ℕ, Reachable system db ∧ ¬VotesCounted db :=
  ReachedBy.exists_of_run _ _ _
    [.create_post 1 10 none, .add_reaction 1 11 .UPVOTE, .add_bookmark 1 11]
    (by decide)

end HftEngine.Backend.Community
