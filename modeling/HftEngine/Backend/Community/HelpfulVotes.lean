import HftEngine.Backend.Community.Tables

/-!
# Helpful votes of the authors

The service adds one to the counter of the author at every upvote, whatever the user's
reaction was before, and no path takes one off.
-/

namespace HftEngine.Backend.Community

open Transition

variable {User : Type} [DecidableEq User]

def is_helpful (authors : ℕ → Option User) (user : User) (reaction : Reaction User) : Bool :=
  reaction.reaction_type = .UPVOTE && authors reaction.post_id = some user

/-- The upvotes standing on the posts of a user. -/
def standing (db : Database User) (user : User) : ℕ :=
  db.reactions.count (is_helpful (author_of db) user)

def HelpfulCounted (db : Database User) : Prop :=
  ∀ user, helpful_votes db user = standing db user

/-- The upvotes by the authors before a request. -/
theorem standing_eq {db after : Database User} {request : Request User}
    (referenced : Referenced db) (effect : Effect db request after) (user : User) :
    standing after user = after.reactions.count (is_helpful (author_of db) user) := by
  apply List.countP_congr
  intro reaction member
  have same : author_of after reaction.post_id = author_of db reaction.post_id := by
    rcases effect.reaction member with before | ⟨author, written⟩
    · obtain ⟨author, written⟩ := referenced reaction before
      rw [effect.author_of written, written]
    · rw [effect.author_of written, written]
  rw [is_helpful, is_helpful, same]

/-- Where the upvotes of a user are those of before, and the counter too. -/
theorem HelpfulCounted.keep {db after : Database User} {request : Request User}
    (counted : HelpfulCounted db) (referenced : Referenced db)
    (effect : Effect db request after) (reputations : after.reputations = db.reputations)
    (unmoved : ∀ user, after.reactions.count (is_helpful (author_of db) user) =
      standing db user) : HelpfulCounted after := by
  intro user
  rw [standing_eq referenced effect, unmoved, helpful_votes, reputations]
  exact counted user

theorem tally_is_helpful_of_ne {reaction : Option (Reaction User)}
    (other : ∀ row ∈ reaction, row.reaction_type ≠ .UPVOTE) (authors : ℕ → Option User)
    (user : User) :
    reaction.elim 0 (KeyedTable.tally (is_helpful authors user)) = 0 := by
  cases reaction with
  | none => rfl
  | some row =>
      have type := other row rfl
      simp [KeyedTable.tally, is_helpful, type]

theorem tally_is_helpful {authors : ℕ → Option User} {post_id : ℕ} {author : User}
    (written : authors post_id = some author) (other user : User)
    (reaction_type : ReactionType) :
    KeyedTable.tally (is_helpful authors other) ⟨post_id, user, reaction_type⟩ =
      if other = author ∧ reaction_type = .UPVOTE then 1 else 0 := by
  rw [KeyedTable.tally, is_helpful, written]
  apply if_congr _ rfl rfl
  rw [Bool.and_eq_true, decide_eq_true_eq, decide_eq_true_eq, Option.some.injEq, and_comm,
    eq_comm]

/-! ## Runs -/

/-- The user has no upvote on the post. -/
def NotUpvoted (db : Database User) (post_id : ℕ) (user : User) : Prop :=
  ∀ reaction ∈ db.get_user_reaction post_id user, reaction.reaction_type ≠ .UPVOTE

instance (db : Database User) (post_id : ℕ) (user : User) :
    Decidable (NotUpvoted db post_id user) :=
  inferInstanceAs (Decidable (∀ reaction ∈ db.get_user_reaction post_id user, _))

/-- No upvote that stands is repeated, replaced or removed.  A deleted post refuses
reactions and bookmarks, but no removal. -/
def UpvotesStand (db : Database User) : Request User → Prop
  | .add_reaction post_id user _ | .add_bookmark post_id user =>
      ∀ post ∈ db.posts.get? post_id, post.is_deleted = false →
        NotUpvoted db post_id user
  | .remove_reaction post_id user => NotUpvoted db post_id user
  | _ => True

instance (db : Database User) :
    (request : Request User) → Decidable (UpvotesStand db request)
  | .add_reaction post_id user _ | .add_bookmark post_id user =>
      inferInstanceAs (Decidable (∀ post ∈ db.posts.get? post_id, _ →
        NotUpvoted db post_id user))
  | .remove_reaction post_id user => inferInstanceAs (Decidable (NotUpvoted db post_id user))
  | .create_post .. | .delete_post .. | .remove_bookmark .. => isTrue trivial

theorem HelpfulCounted.step {db after : Database User} {request : Request User}
    (counted : HelpfulCounted db) (referenced : Referenced db)
    (stand : UpvotesStand db request) (effect : Effect db request after) :
    HelpfulCounted after := by
  have whole := effect
  cases effect with
  | created positive inserted parent_exists same helpful =>
      intro user
      rw [standing_eq referenced whole, helpful user, same.reactions,
        (count_reply_frame _ _ _).1]
      exact counted user
  | deleted found =>
      apply counted.keep referenced whole
      · rw [Database.delete_post, (count_reply_frame _ _ _).2, update_post_reputations]
      · intro user
        rw [Database.delete_post, (count_reply_frame _ _ _).1, update_post_reactions]
        rfl
  | @reacted post_id user reaction_type post put _ _ found present rewritten recounted
      rewarded helpful =>
      intro other
      have moved := rewritten.count (is_helpful (author_of db) other)
      have author : author_of db post_id = some post.author_id := by
        rw [author_of, found]
        rfl
      have reactions : after.reactions = put.reactions := by
        rw [rewarded.reactions, update_post_vote_counts_spec recounted,
          update_post_reactions]
      rw [tally_is_helpful_of_ne (stand post found present), add_zero, Option.elim_some,
        tally_is_helpful author] at moved
      rw [standing_eq referenced whole, helpful other, reactions, moved, counted other,
        standing]
      split <;> rfl
  | @unreacted post_id user reaction _ found recounted =>
      have dropped := rewrites_drop_reaction found
      have other : ∀ row ∈ db.get_user_reaction post_id user,
          row.reaction_type ≠ .UPVOTE := stand
      rw [found] at other
      apply counted.keep referenced whole
      · rw [update_post_vote_counts_spec recounted, update_post_reputations]
        rfl
      · intro user
        have moved := dropped.count (is_helpful (author_of db) user)
        rw [tally_is_helpful_of_ne other] at moved
        rw [update_post_vote_counts_spec recounted, update_post_reactions]
        exact moved
  | bookmarked found present rewritten =>
      apply counted.keep referenced whole rewritten.reputations
      intro user
      have moved := rewritten.count (is_helpful (author_of db) user)
      rw [tally_is_helpful_of_ne (stand _ found present)] at moved
      simpa [KeyedTable.tally, is_helpful, standing] using moved
  | unbookmarked found marked =>
      apply counted.keep referenced whole rfl
      intro user
      have moved := (rewrites_drop_reaction found).count (is_helpful (author_of db) user)
      simpa [KeyedTable.tally, is_helpful, standing, marked] using moved
  | kept => exact counted

theorem helpful_counted {db : Database User} (reached : ReachedBy system UpvotesStand db) :
    HelpfulCounted db := by
  have invariant : HelpfulCounted db ∧ Referenced db := by
    refine reached.invariant (I := fun db => HelpfulCounted db ∧ Referenced db) ?_ ?_
    · constructor
      · intro user
        rfl
      · intro reaction member
        cases member
    · intro before request after held stand taken
      have effect := effect_of_step taken
      exact ⟨held.1.step held.2 stand effect, held.2.step effect⟩
  exact invariant.1

/-- A downvote becomes an upvote, on one of two posts of an author. -/
theorem helpful_counted_switch :
    ∃ db : Database ℕ, (ReachedBy system UpvotesStand db ∧ standing db 10 = 2) ∧
      HelpfulCounted db := by
  obtain ⟨db, reached, counts⟩ := ReachedBy.exists_of_run
    (system : System (Database ℕ) (Request ℕ)) UpvotesStand (fun db => standing db 10 = 2)
    [.create_post 1 10 none, .create_post 2 10 none, .add_reaction 1 11 .DOWNVOTE,
      .add_reaction 1 11 .UPVOTE, .add_reaction 2 12 .UPVOTE] (by decide)
  exact ⟨db, ⟨reached, counts⟩, helpful_counted reached⟩

/-- An upvote that is repeated counts twice, and one that is removed still counts. -/
theorem helpful_not_counted :
    (∃ db : Database ℕ, Reachable system db ∧ ¬HelpfulCounted db) ∧
    ∃ db : Database ℕ, Reachable system db ∧ helpful_votes db 10 = 1 ∧
      standing db 10 = 0 := by
  constructor
  · obtain ⟨db, reached, helpful, stands⟩ := ReachedBy.exists_of_run
      (system : System (Database ℕ) (Request ℕ)) (fun _ _ => True)
      (fun db => helpful_votes db 10 = 2 ∧ standing db 10 = 1)
      [.create_post 1 10 none, .add_reaction 1 11 .UPVOTE, .add_reaction 1 11 .UPVOTE]
      (by decide)
    refine ⟨db, reached, ?_⟩
    intro counted
    have same := counted 10
    rw [helpful, stands] at same
    cases same
  · exact ReachedBy.exists_of_run _ _ _
      [.create_post 1 10 none, .add_reaction 1 11 .UPVOTE, .remove_reaction 1 11]
      (by decide)

end HftEngine.Backend.Community
