import HftEngine.Lib.KeyedTable
import HftEngine.Lib.Python.Exact
import HftEngine.Lib.Transition

/-!
# Community posts, reactions and reputations

The repository and the service of the community over the tables that they write.  A
request is one transaction: the session commits after it, and what the route refuses
or the database rejects is rolled back.  The columns that no operation here reads
are left out.
-/

namespace HftEngine.Backend.Community

open Transition

inductive ReactionType where
  | UPVOTE
  | DOWNVOTE
  | CONFIRM
  | DISAGREE
  | NEUTRAL
  deriving DecidableEq

/-- `CommunityPostDB`. -/
structure Post (User : Type) where
  id : ℕ
  parent_post_id : Option ℕ
  author_id : User
  is_deleted : Bool := false
  upvotes : ℤ := 0
  downvotes : ℤ := 0
  reply_count : ℤ := 0

/-- `CommunityReactionDB`. -/
structure Reaction (User : Type) where
  post_id : ℕ
  user_id : User
  reaction_type : ReactionType

/-- `uq_reaction_post_user`. -/
def Reaction.key {User : Type} (reaction : Reaction User) : ℕ × User :=
  (reaction.post_id, reaction.user_id)

/-- `UserReputationDB`. -/
structure Reputation (User : Type) where
  user_id : User
  reputation_score : ℤ := 0
  helpful_votes : ℤ := 0
  trade_accuracy : ℚ := 0
  total_trades_shared : ℤ := 0
  winning_trades : ℤ := 0
  losing_trades : ℤ := 0
  consecutive_losses : ℤ := 0

def Reputation.calculate_score {User : Type} (rep : Reputation User) : ℤ :=
  max 0 (rep.helpful_votes * 2 + Py.Exact.trunc (rep.trade_accuracy * (1 / 2)) +
    rep.total_trades_shared * 5 + rep.winning_trades * 10 - rep.losing_trades * 5)

/-- What `increment_reputation` does to the row. -/
def Reputation.increment {User : Type} (rep : Reputation User)
    (helpful_votes winning_trades losing_trades : ℤ) : Reputation User :=
  let counted := { rep with
    helpful_votes := rep.helpful_votes + helpful_votes
    winning_trades := rep.winning_trades + winning_trades
    losing_trades := rep.losing_trades + losing_trades
    total_trades_shared := rep.total_trades_shared + winning_trades + losing_trades
    consecutive_losses := rep.consecutive_losses + losing_trades }
  let rated := { counted with
    trade_accuracy :=
      if 0 < counted.total_trades_shared then
        counted.winning_trades / counted.total_trades_shared * 100
      else counted.trade_accuracy }
  { rated with reputation_score := rated.calculate_score }

/-- Why a request leaves the tables as they were. -/
inductive Refusal where
  | detail (message : String)
  | integrity_error
  deriving DecidableEq

structure Database (User : Type) where
  posts : KeyedTable (Post.id : Post User → ℕ)
  reactions : KeyedTable (Reaction.key : Reaction User → ℕ × User)
  reputations : KeyedTable (Reputation.user_id : Reputation User → User)

variable {User : Type} [DecidableEq User]

/-! ## Repository -/

namespace Database

def empty : Database User := ⟨.empty, .empty, .empty⟩

def get_post_by_id (db : Database User) (post_id : ℕ) : Option (Post User) :=
  db.posts.get? post_id

/-- `UPDATE community_posts SET ... WHERE id = post_id`. -/
def update_post (db : Database User) (post_id : ℕ) (set : Post User → Post User) :
    Database User :=
  match db.posts.get? post_id with
  | none => db
  | some post => { db with posts := db.posts.replace (set post) }

/-- `chk_upvotes_nonneg` and `chk_downvotes_nonneg`, for one row. -/
def votes_valid (db : Database User) (post_id : ℕ) : Bool :=
  match db.posts.get? post_id with
  | none => true
  | some post => 0 ≤ post.upvotes && 0 ≤ post.downvotes

def add_replies (count : ℤ) (post : Post User) : Post User :=
  { post with reply_count := post.reply_count + count }

def add_votes (upvotes downvotes : ℤ) (post : Post User) : Post User :=
  { post with upvotes := post.upvotes + upvotes, downvotes := post.downvotes + downvotes }

/-- The parent gains or loses a reply. -/
def count_reply (db : Database User) (parent_post_id : Option ℕ) (count : ℤ) :
    Database User :=
  match parent_post_id with
  | none => db
  | some parent => if parent = 0 then db else db.update_post parent (add_replies count)

/-- The foreign key of `parent_post_id`. -/
def parent_exists (db : Database User) (parent_post_id : Option ℕ) : Bool :=
  match parent_post_id with
  | none => true
  | some parent => (db.posts.get? parent).isSome

/-- The id is the one the sequence of the table gives, which starts at 1. -/
def create_post (db : Database User) (post : Post User) :
    Except Refusal (Database User) :=
  match db.posts.insert post with
  | none => .error .integrity_error
  | some posts =>
      let created := { db with posts }
      if created.parent_exists post.parent_post_id then
        .ok (created.count_reply post.parent_post_id 1)
      else .error .integrity_error

def mark_deleted (post : Post User) : Post User :=
  { post with is_deleted := true }

/-- With `soft_delete`, as the service calls it. -/
def delete_post (db : Database User) (post : Post User) : Database User :=
  (db.update_post post.id mark_deleted).count_reply post.parent_post_id (-1)

def get_user_reaction (db : Database User) (post_id : ℕ) (user_id : User) :
    Option (Reaction User) :=
  db.reactions.get? (post_id, user_id)

/-- One for a reaction of a type. -/
def vote (reaction_type : ReactionType) (type : Option ReactionType) : ℤ :=
  if type = some reaction_type then 1 else 0

def update_post_vote_counts (db : Database User) (post_id : ℕ)
    (old_type new_type : Option ReactionType) : Except Refusal (Database User) :=
  let upvote_delta := vote .UPVOTE new_type - vote .UPVOTE old_type
  let downvote_delta := vote .DOWNVOTE new_type - vote .DOWNVOTE old_type
  if upvote_delta ≠ 0 ∨ downvote_delta ≠ 0 then
    let updated := db.update_post post_id (add_votes upvote_delta downvote_delta)
    if updated.votes_valid post_id then .ok updated else .error .integrity_error
  else .ok db

/-- The row of the user is given the type, or added. -/
def put_reaction (db : Database User) (post_id : ℕ) (user_id : User)
    (reaction_type : ReactionType) : Except Refusal (Database User) :=
  match db.get_user_reaction post_id user_id with
  | some _ => .ok { db with reactions := db.reactions.replace ⟨post_id, user_id, reaction_type⟩ }
  | none =>
      match db.reactions.insert ⟨post_id, user_id, reaction_type⟩ with
      | none => .error .integrity_error
      | some reactions => .ok { db with reactions }

def add_or_update_reaction (db : Database User) (post_id : ℕ) (user_id : User)
    (reaction_type : ReactionType) : Except Refusal (Database User) := do
  let old_type := (db.get_user_reaction post_id user_id).map Reaction.reaction_type
  let reacted ← db.put_reaction post_id user_id reaction_type
  reacted.update_post_vote_counts post_id old_type (some reaction_type)

def drop_reaction (db : Database User) (post_id : ℕ) (user_id : User) : Database User :=
  { db with reactions := db.reactions.erase (post_id, user_id) }

def remove_reaction (db : Database User) (post_id : ℕ) (user_id : User) :
    Except Refusal (Database User) :=
  match db.get_user_reaction post_id user_id with
  | none => .error (.detail "Reaction not found")
  | some reaction =>
      (db.drop_reaction post_id user_id).update_post_vote_counts post_id
        (some reaction.reaction_type) none

/-- A bookmark is a reaction of the type CONFIRM. -/
def add_bookmark (db : Database User) (post_id : ℕ) (user_id : User) :
    Except Refusal (Database User) :=
  if (db.get_user_reaction post_id user_id).map Reaction.reaction_type = some .CONFIRM then
    .ok db
  else db.put_reaction post_id user_id .CONFIRM

def remove_bookmark (db : Database User) (post_id : ℕ) (user_id : User) :
    Except Refusal (Database User) :=
  if (db.get_user_reaction post_id user_id).map Reaction.reaction_type = some .CONFIRM then
    .ok (db.drop_reaction post_id user_id)
  else .error (.detail "Bookmark not found")

def get_or_create_reputation (db : Database User) (user_id : User) :
    Except Refusal (Database User × Reputation User) :=
  match db.reputations.get? user_id with
  | some rep => .ok (db, rep)
  | none =>
      match db.reputations.insert { user_id } with
      | none => .error .integrity_error
      | some reputations => .ok ({ db with reputations }, { user_id })

def increment_reputation (db : Database User) (user_id : User)
    (helpful_votes winning_trades losing_trades : ℤ) : Except Refusal (Database User) := do
  let (found, rep) ← db.get_or_create_reputation user_id
  .ok { found with
    reputations := found.reputations.replace
      (rep.increment helpful_votes winning_trades losing_trades) }

end Database

/-! ## Service -/

/-- The requests.  A post comes with the id that the sequence gives it, after the checks
on the room, the author and the text. -/
inductive Request (User : Type) where
  | create_post (id : ℕ) (author : User) (parent_post_id : Option ℕ)
  | delete_post (post_id : ℕ) (user : User) (admin : Bool)
  | add_reaction (post_id : ℕ) (user : User) (reaction_type : ReactionType)
  | remove_reaction (post_id : ℕ) (user : User)
  | add_bookmark (post_id : ℕ) (user_id : User)
  | remove_bookmark (post_id : ℕ) (user_id : User)
  deriving DecidableEq

namespace Service

/-- `last_post_at` is set in the row of the author, which may have to be made. -/
def create_post (db : Database User) (id : ℕ) (author : User)
    (parent_post_id : Option ℕ) : Except Refusal (Database User) := do
  let created ← db.create_post { id, author_id := author, parent_post_id }
  let (updated, _) ← created.get_or_create_reputation author
  .ok updated

def delete_post (db : Database User) (post_id : ℕ) (user : User) (admin : Bool) :
    Except Refusal (Database User) :=
  match db.get_post_by_id post_id with
  | none => .error (.detail "Post not found")
  | some post =>
      if post.author_id ≠ user ∧ admin = false then
        .error (.detail "You can only delete your own posts")
      else .ok (db.delete_post post)

/-- The author's reputation, if upvoted. -/
def reward (db : Database User) (author_id : User) (reaction_type : ReactionType) :
    Except Refusal (Database User) :=
  if reaction_type = .UPVOTE then db.increment_reputation author_id 1 0 0 else .ok db

def add_reaction (db : Database User) (post_id : ℕ) (user : User)
    (reaction_type : ReactionType) : Except Refusal (Database User) :=
  match db.get_post_by_id post_id with
  | none => .error (.detail "Post not found")
  | some post =>
      if post.is_deleted then .error (.detail "Post not found")
      else do
        let reacted ← db.add_or_update_reaction post_id user reaction_type
        reward reacted post.author_id reaction_type

def remove_reaction (db : Database User) (post_id : ℕ) (user : User) :
    Except Refusal (Database User) :=
  db.remove_reaction post_id user

def add_bookmark (db : Database User) (post_id : ℕ) (user_id : User) :
    Except Refusal (Database User) :=
  match db.get_post_by_id post_id with
  | none => .error (.detail "Failed to bookmark post")
  | some post =>
      if post.is_deleted then .error (.detail "Failed to bookmark post")
      else db.add_bookmark post_id user_id

def remove_bookmark (db : Database User) (post_id : ℕ) (user_id : User) :
    Except Refusal (Database User) :=
  db.remove_bookmark post_id user_id

end Service

def perform (db : Database User) : Request User → Except Refusal (Database User)
  | .create_post id author parent_post_id =>
      if id = 0 then .error .integrity_error
      else Service.create_post db id author parent_post_id
  | .delete_post post_id user admin => Service.delete_post db post_id user admin
  | .add_reaction post_id user reaction_type =>
      Service.add_reaction db post_id user reaction_type
  | .remove_reaction post_id user => Service.remove_reaction db post_id user
  | .add_bookmark post_id user_id => Service.add_bookmark db post_id user_id
  | .remove_bookmark post_id user_id => Service.remove_bookmark db post_id user_id

/-- A refused request is rolled back. -/
def step (db : Database User) (request : Request User) : Option (Database User) :=
  match perform db request with
  | .ok after => some after
  | .error _ => some db

def system : System (Database User) (Request User) := ⟨.empty, step⟩

end HftEngine.Backend.Community
