import HftEngine.Backend.Community

/-!
# What a request does to the tables

The writes of the community by the rows that come and go: an update of one post, and a
reaction that takes the place of another.  No reaction is without its post.
-/

namespace HftEngine.Backend.Community

open Transition

variable {User : Type}

/-! ## Posts that are updated -/

/-- What no update of a post changes. -/
structure Keeps (set : Post User → Post User) : Prop where
  id : ∀ post, (set post).id = post.id
  author_id : ∀ post, (set post).author_id = post.author_id
  parent_post_id : ∀ post, (set post).parent_post_id = post.parent_post_id

theorem keeps_add_replies (count : ℤ) :
    Keeps (Database.add_replies count : Post User → Post User) :=
  ⟨fun _ => rfl, fun _ => rfl, fun _ => rfl⟩

theorem keeps_add_votes (upvotes downvotes : ℤ) :
    Keeps (Database.add_votes upvotes downvotes : Post User → Post User) :=
  ⟨fun _ => rfl, fun _ => rfl, fun _ => rfl⟩

theorem keeps_mark_deleted : Keeps (Database.mark_deleted : Post User → Post User) :=
  ⟨fun _ => rfl, fun _ => rfl, fun _ => rfl⟩

theorem mem_update_post {db : Database User} {post_id : ℕ} {set : Post User → Post User}
    (keeps : Keeps set) {post : Post User}
    (member : post ∈ (db.update_post post_id set).posts.rows) :
    ∃ old ∈ db.posts.rows, post = if old.id = post_id then set old else old := by
  rw [Database.update_post] at member
  cases found : db.posts.get? post_id with
  | none =>
      rw [found] at member
      have absent : post.id ≠ post_id := by
        intro same
        apply KeyedTable.get?_eq_none_iff.mp found
        exact List.mem_map.mpr ⟨post, member, same⟩
      exact ⟨post, member, (if_neg absent).symm⟩
  | some old =>
      rw [found] at member
      obtain ⟨listed, numbered⟩ := KeyedTable.get?_eq_some_iff.mp found
      rcases KeyedTable.mem_replace.mp member with ⟨same, _⟩ | ⟨kept, different⟩
      · exact ⟨old, listed, by rw [if_pos numbered, same]⟩
      · rw [keeps.id, numbered] at different
        exact ⟨post, kept, (if_neg different).symm⟩

theorem get?_update_post {db : Database User} {post_id : ℕ} {set : Post User → Post User}
    (keeps : Keeps set) (id : ℕ) :
    (db.update_post post_id set).posts.get? id =
      if id = post_id then (db.posts.get? id).map set else db.posts.get? id := by
  rw [Database.update_post]
  cases found : db.posts.get? post_id with
  | none =>
      by_cases same : id = post_id
      · rw [if_pos same, same, found]
        rfl
      · rw [if_neg same]
  | some old =>
      have numbered := (KeyedTable.get?_eq_some_iff.mp found).2
      dsimp only
      rw [KeyedTable.get?_replace, keeps.id, numbered]
      by_cases same : id = post_id
      · subst same
        rw [if_pos rfl, if_pos rfl, found]
        rfl
      · rw [if_neg (Ne.symm same), if_neg same]

theorem update_post_reactions (db : Database User) (post_id : ℕ)
    (set : Post User → Post User) :
    (db.update_post post_id set).reactions = db.reactions := by
  rw [Database.update_post]
  split <;> rfl

theorem update_post_reputations (db : Database User) (post_id : ℕ)
    (set : Post User → Post User) :
    (db.update_post post_id set).reputations = db.reputations := by
  rw [Database.update_post]
  split <;> rfl

/-- A reply changes the post that it answers, if there is one. -/
theorem count_reply_cases (db : Database User) (parent : Option ℕ) (count : ℤ) :
    db.count_reply parent count = db ∨ ∃ post_id,
      db.count_reply parent count = db.update_post post_id (Database.add_replies count) := by
  unfold Database.count_reply
  cases parent with
  | none => exact .inl rfl
  | some parent =>
      dsimp only
      split
      · exact .inl rfl
      · exact .inr ⟨parent, rfl⟩

theorem count_reply_frame (db : Database User) (parent : Option ℕ) (count : ℤ) :
    (db.count_reply parent count).reactions = db.reactions ∧
      (db.count_reply parent count).reputations = db.reputations := by
  obtain same | ⟨post_id, same⟩ := count_reply_cases db parent count
  · rw [same]
    exact ⟨rfl, rfl⟩
  · rw [same]
    exact ⟨update_post_reactions _ _ _, update_post_reputations _ _ _⟩

/-- The counters of a post move with the types of the reactions. -/
theorem update_post_vote_counts_spec {db after : Database User} {post_id : ℕ}
    {old_type new_type : Option ReactionType}
    (returned : db.update_post_vote_counts post_id old_type new_type = .ok after) :
    after = db.update_post post_id (Database.add_votes
      (Database.vote .UPVOTE new_type - Database.vote .UPVOTE old_type)
      (Database.vote .DOWNVOTE new_type - Database.vote .DOWNVOTE old_type)) := by
  rw [Database.update_post_vote_counts] at returned
  split at returned
  · dsimp only at returned
    split at returned
    · exact (Except.ok.inj returned).symm
    · cases returned
  · rename_i zero
    have upvotes : Database.vote .UPVOTE new_type - Database.vote .UPVOTE old_type = 0 := by
      omega
    have downvotes :
        Database.vote .DOWNVOTE new_type - Database.vote .DOWNVOTE old_type = 0 := by
      omega
    obtain rfl := Except.ok.inj returned
    rw [upvotes, downvotes, Database.update_post]
    cases found : db.posts.get? post_id with
    | none => rfl
    | some post =>
        have same : Database.add_votes 0 0 post = post := by
          simp [Database.add_votes]
        have keyed := (KeyedTable.get?_eq_some_iff.mp found).2
        dsimp only
        rw [same, KeyedTable.replace_self (keyed.symm ▸ found)]

variable [DecidableEq User]

/-! ## Rows that come and go -/

/-- A reaction comes and another goes, in the same place. -/
structure Rewrites (before after : Database User) (old new : Option (Reaction User)) :
    Prop where
  posts : after.posts = before.posts
  reputations : after.reputations = before.reputations
  count : ∀ p, after.reactions.count p + (old.elim 0 (KeyedTable.tally p)) =
    before.reactions.count p + (new.elim 0 (KeyedTable.tally p))
  member : ∀ reaction ∈ after.reactions.rows,
    reaction ∈ before.reactions.rows ∨ new = some reaction

theorem rewrites_put_reaction {db after : Database User} {post_id : ℕ} {user_id : User}
    {reaction_type : ReactionType}
    (put : db.put_reaction post_id user_id reaction_type = .ok after) :
    Rewrites db after (db.get_user_reaction post_id user_id)
      (some ⟨post_id, user_id, reaction_type⟩) := by
  rw [Database.put_reaction] at put
  cases found : db.get_user_reaction post_id user_id with
  | some old =>
      rw [found] at put
      obtain rfl := Except.ok.inj put
      have same : db.reactions.get? (Reaction.key ⟨post_id, user_id, reaction_type⟩) =
          some old := found
      refine ⟨rfl, rfl, ?_, ?_⟩
      · intro p
        exact KeyedTable.count_replace same p
      · intro reaction member
        rcases KeyedTable.mem_replace.mp member with ⟨same, _⟩ | ⟨kept, _⟩
        · exact .inr (congrArg some same.symm)
        · exact .inl kept
  | none =>
      rw [found] at put
      dsimp only at put
      cases inserted : db.reactions.insert ⟨post_id, user_id, reaction_type⟩ with
      | none =>
          rw [inserted] at put
          cases put
      | some reactions =>
          rw [inserted] at put
          obtain rfl := Except.ok.inj put
          refine ⟨rfl, rfl, ?_, ?_⟩
          · intro p
            exact KeyedTable.count_insert inserted p
          · intro reaction member
            rw [(KeyedTable.insert_eq_some inserted).2] at member
            rcases List.mem_cons.mp member with same | kept
            · exact .inr (congrArg some same.symm)
            · exact .inl kept

theorem rewrites_drop_reaction {db : Database User} {post_id : ℕ} {user_id : User}
    {old : Reaction User} (found : db.get_user_reaction post_id user_id = some old) :
    Rewrites db (db.drop_reaction post_id user_id) (some old) none where
  posts := rfl
  reputations := rfl
  count p := (KeyedTable.count_erase found p).symm
  member _ listed := .inl (List.mem_of_mem_filter listed)

/-! ## Helpful votes -/

/-- The counter of a user; one without a row has none yet. -/
def helpful_votes (db : Database User) (user : User) : ℤ :=
  ((db.reputations.get? user).map Reputation.helpful_votes).getD 0

/-- What a write to the reputations leaves alone. -/
structure SamePosts (before after : Database User) : Prop where
  posts : after.posts = before.posts
  reactions : after.reactions = before.reactions

theorem get_or_create_reputation_spec {db found : Database User} {user : User}
    {rep : Reputation User} (returned : db.get_or_create_reputation user = .ok (found, rep)) :
    SamePosts db found ∧ found.reputations.get? user = some rep ∧
      ∀ other, helpful_votes found other = helpful_votes db other := by
  rw [Database.get_or_create_reputation] at returned
  cases held : db.reputations.get? user with
  | some row =>
      rw [held] at returned
      obtain ⟨rfl, rfl⟩ := Prod.mk.inj (Except.ok.inj returned)
      exact ⟨⟨rfl, rfl⟩, held, fun _ => rfl⟩
  | none =>
      rw [held] at returned
      dsimp only at returned
      cases inserted : db.reputations.insert { user_id := user } with
      | none =>
          rw [inserted] at returned
          cases returned
      | some reputations =>
          rw [inserted] at returned
          obtain ⟨rfl, rfl⟩ := Prod.mk.inj (Except.ok.inj returned)
          have rows := KeyedTable.get?_insert inserted
          refine ⟨⟨rfl, rfl⟩, (rows user).trans (if_pos rfl), ?_⟩
          intro other
          rw [helpful_votes, helpful_votes, rows other]
          by_cases same : user = other
          · rw [if_pos same, ← same, held]
            rfl
          · rw [if_neg same]

theorem increment_reputation_spec {db after : Database User} {user : User} {votes : ℤ}
    (returned : db.increment_reputation user votes 0 0 = .ok after) :
    SamePosts db after ∧ ∀ other, helpful_votes after other =
      helpful_votes db other + if other = user then votes else 0 := by
  rw [Database.increment_reputation] at returned
  cases made : db.get_or_create_reputation user with
  | error refusal =>
      rw [made] at returned
      cases returned
  | ok pair =>
      obtain ⟨found, rep⟩ := pair
      rw [made] at returned
      obtain rfl := Except.ok.inj returned
      obtain ⟨same, held, helpful⟩ := get_or_create_reputation_spec made
      have keyed : (rep.increment votes 0 0).user_id = user :=
        (KeyedTable.get?_eq_some_iff.mp held).2
      refine ⟨⟨same.posts, same.reactions⟩, ?_⟩
      intro other
      rw [← helpful other, helpful_votes, KeyedTable.get?_replace]
      by_cases equal : other = user
      · have counted : helpful_votes found user = rep.helpful_votes := by
          rw [helpful_votes, held]
          rfl
        rw [if_pos equal, equal, counted, if_pos keyed, held]
        rfl
      · have apart : (rep.increment votes 0 0).user_id ≠ other :=
          fun reached => equal (reached.symm.trans keyed)
        rw [if_neg equal, if_neg apart, add_zero, helpful_votes]

/-! ## Requests -/

/-- What a request does when it is not refused, and `kept` when it is. -/
inductive Effect (db : Database User) : Request User → Database User → Prop where
  | created {id : ℕ} {author : User} {parent : Option ℕ}
      {posts : KeyedTable (Post.id : Post User → ℕ)} {after : Database User}
      (positive : id ≠ 0)
      (inserted : db.posts.insert { id, author_id := author, parent_post_id := parent } =
        some posts)
      (parent_exists : Database.parent_exists { db with posts } parent = true)
      (counted : SamePosts (Database.count_reply { db with posts } parent 1) after)
      (helpful : ∀ user, helpful_votes after user = helpful_votes db user) :
      Effect db (.create_post id author parent) after
  | deleted {post_id : ℕ} {user : User} {admin : Bool} {post : Post User}
      (found : db.posts.get? post_id = some post) :
      Effect db (.delete_post post_id user admin) (db.delete_post post)
  | reacted {post_id : ℕ} {user : User} {reaction_type : ReactionType} {post : Post User}
      {put counted after : Database User}
      (found : db.posts.get? post_id = some post) (present : post.is_deleted = false)
      (rewritten : Rewrites db put (db.get_user_reaction post_id user)
        (some ⟨post_id, user, reaction_type⟩))
      (recounted : put.update_post_vote_counts post_id
        ((db.get_user_reaction post_id user).map Reaction.reaction_type)
        (some reaction_type) = .ok counted)
      (rewarded : SamePosts counted after)
      (helpful : ∀ other, helpful_votes after other = helpful_votes db other +
        if other = post.author_id ∧ reaction_type = .UPVOTE then 1 else 0) :
      Effect db (.add_reaction post_id user reaction_type) after
  | unreacted {post_id : ℕ} {user : User} {reaction : Reaction User}
      {after : Database User}
      (found : db.get_user_reaction post_id user = some reaction)
      (recounted : (db.drop_reaction post_id user).update_post_vote_counts post_id
        (some reaction.reaction_type) none = .ok after) :
      Effect db (.remove_reaction post_id user) after
  | bookmarked {post_id : ℕ} {user : User} {post : Post User} {after : Database User}
      (found : db.posts.get? post_id = some post) (present : post.is_deleted = false)
      (rewritten : Rewrites db after (db.get_user_reaction post_id user)
        (some ⟨post_id, user, .CONFIRM⟩)) :
      Effect db (.add_bookmark post_id user) after
  | unbookmarked {post_id : ℕ} {user : User} {reaction : Reaction User}
      (found : db.get_user_reaction post_id user = some reaction)
      (marked : reaction.reaction_type = .CONFIRM) :
      Effect db (.remove_bookmark post_id user) (db.drop_reaction post_id user)
  | kept {request : Request User} : Effect db request db

theorem effect_create_post {db after : Database User} {id : ℕ} {author : User}
    {parent : Option ℕ} (positive : id ≠ 0)
    (performed : Service.create_post db id author parent = .ok after) :
    Effect db (.create_post id author parent) after := by
  rw [Service.create_post, Database.create_post] at performed
  dsimp only at performed
  cases inserted : db.posts.insert { id, author_id := author, parent_post_id := parent } with
  | none =>
      rw [inserted] at performed
      cases performed
  | some posts =>
      rw [inserted] at performed
      dsimp only at performed
      split at performed
      · rename_i parent_exists
        cases made : (Database.count_reply { db with posts } parent
            1).get_or_create_reputation author with
        | error refusal =>
            simp [bind, Except.bind, made] at performed
        | ok pair =>
            obtain ⟨updated, rep⟩ := pair
            simp only [bind, Except.bind, made, Except.ok.injEq] at performed
            subst performed
            obtain ⟨same, _, helpful⟩ := get_or_create_reputation_spec made
            refine .created positive inserted parent_exists same ?_
            intro user
            have reputations :=
              (count_reply_frame { db with posts } parent 1).2
            rw [helpful user, helpful_votes, reputations, helpful_votes]
      · cases performed

theorem effect_add_reaction {db after : Database User} {post_id : ℕ} {user : User}
    {reaction_type : ReactionType}
    (performed : Service.add_reaction db post_id user reaction_type = .ok after) :
    Effect db (.add_reaction post_id user reaction_type) after := by
  rw [Service.add_reaction, Database.get_post_by_id] at performed
  cases found : db.posts.get? post_id with
  | none =>
      rw [found] at performed
      cases performed
  | some post =>
      rw [found] at performed
      dsimp only at performed
      cases present : post.is_deleted with
      | true =>
          rw [present] at performed
          cases performed
      | false =>
          rw [present, Database.add_or_update_reaction] at performed
          cases rewritten : db.put_reaction post_id user reaction_type with
          | error refusal => simp [bind, Except.bind, rewritten] at performed
          | ok put =>
              cases recounted : put.update_post_vote_counts post_id
                  ((db.get_user_reaction post_id user).map Reaction.reaction_type)
                  (some reaction_type) with
              | error refusal =>
                  simp [bind, Except.bind, rewritten, recounted] at performed
              | ok counted =>
                  simp only [bind, Except.bind, rewritten, recounted, Bool.false_eq_true,
                    if_false] at performed
                  have rewrites := rewrites_put_reaction rewritten
                  have unmoved : ∀ other,
                      helpful_votes counted other = helpful_votes db other := by
                    intro other
                    have reputations : counted.reputations = db.reputations := by
                      rw [update_post_vote_counts_spec recounted, update_post_reputations,
                        rewrites.reputations]
                    rw [helpful_votes, reputations, helpful_votes]
                  rw [Service.reward] at performed
                  split at performed
                  · rename_i upvoted
                    obtain ⟨same, helpful⟩ := increment_reputation_spec performed
                    refine .reacted found present rewrites recounted same ?_
                    intro other
                    rw [helpful, unmoved]
                    simp [upvoted]
                  · rename_i other_type
                    obtain rfl := Except.ok.inj performed
                    refine .reacted found present rewrites recounted ⟨rfl, rfl⟩ ?_
                    intro other
                    rw [unmoved]
                    simp [other_type]

theorem effect_remove_reaction {db after : Database User} {post_id : ℕ} {user : User}
    (performed : Service.remove_reaction db post_id user = .ok after) :
    Effect db (.remove_reaction post_id user) after := by
  rw [Service.remove_reaction, Database.remove_reaction] at performed
  cases found : db.get_user_reaction post_id user with
  | none =>
      rw [found] at performed
      cases performed
  | some reaction =>
      rw [found] at performed
      exact .unreacted found performed

theorem effect_add_bookmark {db after : Database User} {post_id : ℕ} {user : User}
    (performed : Service.add_bookmark db post_id user = .ok after) :
    Effect db (.add_bookmark post_id user) after := by
  rw [Service.add_bookmark, Database.get_post_by_id] at performed
  cases found : db.posts.get? post_id with
  | none =>
      rw [found] at performed
      cases performed
  | some post =>
      rw [found] at performed
      dsimp only at performed
      cases present : post.is_deleted with
      | true =>
          rw [present] at performed
          cases performed
      | false =>
          rw [present, if_neg Bool.false_ne_true, Database.add_bookmark] at performed
          split at performed
          · obtain rfl := Except.ok.inj performed
            exact .kept
          · exact .bookmarked found present (rewrites_put_reaction performed)

theorem effect_remove_bookmark {db after : Database User} {post_id : ℕ} {user : User}
    (performed : Service.remove_bookmark db post_id user = .ok after) :
    Effect db (.remove_bookmark post_id user) after := by
  rw [Service.remove_bookmark, Database.remove_bookmark] at performed
  split at performed
  · rename_i marked
    obtain ⟨reaction, found, type⟩ := Option.map_eq_some_iff.mp marked
    obtain rfl := Except.ok.inj performed
    exact .unbookmarked found type
  · cases performed

theorem effect_delete_post {db after : Database User} {post_id : ℕ} {user : User}
    {admin : Bool} (performed : Service.delete_post db post_id user admin = .ok after) :
    Effect db (.delete_post post_id user admin) after := by
  rw [Service.delete_post, Database.get_post_by_id] at performed
  cases found : db.posts.get? post_id with
  | none =>
      rw [found] at performed
      cases performed
  | some post =>
      rw [found] at performed
      dsimp only at performed
      split at performed
      · cases performed
      · obtain rfl := Except.ok.inj performed
        exact .deleted found

/-- The inversion of a step: each invariant is proved of these seven cases. -/
theorem effect_of_step {db after : Database User} {request : Request User}
    (taken : step db request = some after) : Effect db request after := by
  rw [step] at taken
  cases performed : perform db request with
  | error refusal =>
      rw [performed] at taken
      obtain rfl := Option.some.inj taken
      exact .kept
  | ok result =>
      rw [performed] at taken
      obtain rfl := Option.some.inj taken
      cases request with
      | create_post id author parent =>
          rw [perform] at performed
          split at performed
          · cases performed
          · rename_i positive
            exact effect_create_post positive performed
      | delete_post post_id user admin => exact effect_delete_post performed
      | add_reaction post_id user reaction_type => exact effect_add_reaction performed
      | remove_reaction post_id user => exact effect_remove_reaction performed
      | add_bookmark post_id user => exact effect_add_bookmark performed
      | remove_bookmark post_id user => exact effect_remove_bookmark performed

/-! ## Authors -/

def author_of (db : Database User) (post_id : ℕ) : Option User :=
  (db.posts.get? post_id).map Post.author_id

omit [DecidableEq User] in
theorem author_of_update_post {db : Database User} {post_id : ℕ}
    {set : Post User → Post User} (keeps : Keeps set) (id : ℕ) :
    author_of (db.update_post post_id set) id = author_of db id := by
  rw [author_of, get?_update_post keeps, author_of]
  split
  · rw [Option.map_map]
    congr 1
    funext post
    exact keeps.author_id post
  · rfl

omit [DecidableEq User] in
theorem author_of_count_reply (db : Database User) (parent : Option ℕ) (count : ℤ)
    (id : ℕ) : author_of (db.count_reply parent count) id = author_of db id := by
  obtain same | ⟨post_id, same⟩ := count_reply_cases db parent count
  · rw [same]
  · rw [same]
    exact author_of_update_post (keeps_add_replies count) id

omit [DecidableEq User] in
theorem author_of_insert {db : Database User} {post : Post User}
    {posts : KeyedTable (Post.id : Post User → ℕ)}
    (inserted : db.posts.insert post = some posts) (id : ℕ) :
    author_of { db with posts } id =
      if post.id = id then some post.author_id else author_of db id := by
  rw [author_of, KeyedTable.get?_insert inserted, author_of]
  split <;> rfl

/-- No post is lost, and none changes hands. -/
theorem Effect.author_of {db after : Database User} {request : Request User}
    (effect : Effect db request after) {post_id : ℕ} {author : User}
    (written : author_of db post_id = some author) :
    Community.author_of after post_id = some author := by
  cases effect with
  | @created id writer parent posts _ positive inserted parent_exists counted helpful =>
      have fresh := (KeyedTable.insert_eq_some inserted).1
      have apart : id ≠ post_id := by
        intro same
        subst same
        rw [Community.author_of, fresh] at written
        cases written
      rw [Community.author_of, counted.posts]
      change Community.author_of _ post_id = _
      rw [author_of_count_reply, author_of_insert inserted]
      exact (if_neg apart).trans written
  | deleted found =>
      rw [Database.delete_post, author_of_count_reply,
        author_of_update_post keeps_mark_deleted]
      exact written
  | reacted found present rewritten recounted rewarded helpful =>
      rw [Community.author_of, rewarded.posts]
      change Community.author_of _ post_id = _
      rw [update_post_vote_counts_spec recounted,
        author_of_update_post (keeps_add_votes _ _), Community.author_of,
        rewritten.posts]
      exact written
  | unreacted found recounted =>
      rw [update_post_vote_counts_spec recounted,
        author_of_update_post (keeps_add_votes _ _)]
      exact written
  | bookmarked found present rewritten =>
      rw [Community.author_of, rewritten.posts]
      exact written
  | unbookmarked found marked => exact written
  | kept => exact written

omit [DecidableEq User] in
theorem exists_author_of_parent_exists {db : Database User} {parent : Option ℕ}
    (listed : db.parent_exists parent = true) :
    ∀ post_id ∈ parent, ∃ author, author_of db post_id = some author := by
  intro post_id same
  obtain rfl := same
  obtain ⟨post, found⟩ := Option.isSome_iff_exists.mp listed
  exact ⟨post.author_id, by rw [Community.author_of, found]; rfl⟩

omit [DecidableEq User] in
theorem mem_count_reply {db : Database User} {parent : Option ℕ} {count : ℤ}
    {post : Post User} (member : post ∈ (db.count_reply parent count).posts.rows) :
    ∃ old ∈ db.posts.rows, post =
      if parent = some old.id ∧ old.id ≠ 0 then Database.add_replies count old else old := by
  unfold Database.count_reply at member
  cases parent with
  | none => exact ⟨post, member, by simp⟩
  | some parent =>
      dsimp only at member
      split at member
      · rename_i zero
        exact ⟨post, member, by simp [zero, eq_comm]⟩
      · rename_i nonzero
        obtain ⟨old, listed, changed⟩ := mem_update_post (keeps_add_replies count) member
        refine ⟨old, listed, ?_⟩
        rw [changed]
        by_cases same : old.id = parent
        · simp [same, nonzero]
        · simp [same, Ne.symm same]

omit [DecidableEq User] in
theorem parent_update_post {db : Database User} {post_id : ℕ} {set : Post User → Post User}
    (keeps : Keeps set) {post : Post User}
    (member : post ∈ (db.update_post post_id set).posts.rows) :
    ∃ old ∈ db.posts.rows, old.id = post.id ∧ old.parent_post_id = post.parent_post_id := by
  obtain ⟨old, listed, changed⟩ := mem_update_post keeps member
  refine ⟨old, listed, ?_⟩
  rw [changed]
  split
  · exact ⟨(keeps.id old).symm, (keeps.parent_post_id old).symm⟩
  · exact ⟨rfl, rfl⟩

omit [DecidableEq User] in
theorem parent_count_reply {db : Database User} {parent : Option ℕ} {count : ℤ}
    {post : Post User} (member : post ∈ (db.count_reply parent count).posts.rows) :
    ∃ old ∈ db.posts.rows, old.id = post.id ∧ old.parent_post_id = post.parent_post_id := by
  obtain ⟨old, listed, changed⟩ := mem_count_reply member
  refine ⟨old, listed, ?_⟩
  rw [changed]
  split <;> exact ⟨rfl, rfl⟩

/-- A post after a request was there before, with the same parent, or is new. -/
theorem Effect.post {db after : Database User} {request : Request User}
    (effect : Effect db request after) {post : Post User}
    (member : post ∈ after.posts.rows) :
    (∃ old ∈ db.posts.rows, old.id = post.id ∧
      old.parent_post_id = post.parent_post_id) ∨
    (post.id ≠ 0 ∧ ∀ parent ∈ post.parent_post_id,
      ∃ author, Community.author_of after parent = some author) := by
  cases effect with
  | @created id writer parent posts _ positive inserted parent_exists counted helpful =>
      rw [counted.posts] at member
      obtain ⟨old, listed, number, kept⟩ := parent_count_reply member
      have rows : ({ db with posts } : Database User).posts.rows = _ :=
        (KeyedTable.insert_eq_some inserted).2
      rw [rows] at listed
      rcases List.mem_cons.mp listed with new | before
      · right
        subst new
        rw [← number, ← kept]
        refine ⟨positive, ?_⟩
        intro parent_id same
        obtain ⟨author, written⟩ := exists_author_of_parent_exists parent_exists parent_id same
        refine ⟨author, ?_⟩
        rw [Community.author_of, counted.posts]
        change Community.author_of _ parent_id = _
        rw [author_of_count_reply]
        exact written
      · exact .inl ⟨old, before, number, kept⟩
  | deleted found =>
      obtain ⟨marked, listed, number, kept⟩ := parent_count_reply member
      obtain ⟨old, before, first, second⟩ := parent_update_post keeps_mark_deleted listed
      exact .inl ⟨old, before, first.trans number, second.trans kept⟩
  | reacted found present rewritten recounted rewarded helpful =>
      rw [rewarded.posts, update_post_vote_counts_spec recounted] at member
      obtain ⟨old, before, same⟩ := parent_update_post (keeps_add_votes _ _) member
      rw [rewritten.posts] at before
      exact .inl ⟨old, before, same⟩
  | unreacted found recounted =>
      rw [update_post_vote_counts_spec recounted] at member
      obtain ⟨old, before, same⟩ := parent_update_post (keeps_add_votes _ _) member
      exact .inl ⟨old, before, same⟩
  | bookmarked found present rewritten =>
      rw [rewritten.posts] at member
      exact .inl ⟨post, member, rfl, rfl⟩
  | unbookmarked found marked => exact .inl ⟨post, member, rfl, rfl⟩
  | kept => exact .inl ⟨post, member, rfl, rfl⟩

/-- Ids start at 1, and every parent is a post. -/
def Parented (db : Database User) : Prop :=
  ∀ post ∈ db.posts.rows, post.id ≠ 0 ∧
    ∀ parent ∈ post.parent_post_id, ∃ author, author_of db parent = some author

theorem Parented.step {db after : Database User} {request : Request User}
    (parented : Parented db) (effect : Effect db request after) : Parented after := by
  intro post member
  rcases effect.post member with ⟨old, listed, number, kept⟩ | new
  · obtain ⟨positive, parents⟩ := parented old listed
    rw [number] at positive
    rw [kept] at parents
    refine ⟨positive, ?_⟩
    intro parent same
    obtain ⟨author, written⟩ := parents parent same
    exact ⟨author, effect.author_of written⟩
  · exact new

/-- No reaction is without its post. -/
def Referenced (db : Database User) : Prop :=
  ∀ reaction ∈ db.reactions.rows, ∃ author, author_of db reaction.post_id = some author

/-- A reaction after a request was there before, or its post was. -/
theorem Effect.reaction {db after : Database User} {request : Request User}
    (effect : Effect db request after) {reaction : Reaction User}
    (member : reaction ∈ after.reactions.rows) :
    reaction ∈ db.reactions.rows ∨
      ∃ author, Community.author_of db reaction.post_id = some author := by
  cases effect with
  | created positive inserted parent_exists counted helpful =>
      rw [counted.reactions, (count_reply_frame _ _ _).1] at member
      exact .inl member
  | deleted found =>
      rw [Database.delete_post, (count_reply_frame _ _ _).1, update_post_reactions] at member
      exact .inl member
  | @reacted _ _ _ post _ _ _ found present rewritten recounted rewarded helpful =>
      rw [rewarded.reactions, update_post_vote_counts_spec recounted,
        update_post_reactions] at member
      rcases rewritten.member reaction member with before | new
      · exact .inl before
      · obtain rfl := Option.some.inj new
        exact .inr ⟨post.author_id, by rw [Community.author_of, found]; rfl⟩
  | unreacted found recounted =>
      rw [update_post_vote_counts_spec recounted, update_post_reactions] at member
      exact .inl (List.mem_of_mem_filter member)
  | @bookmarked _ _ post _ found present rewritten =>
      rcases rewritten.member reaction member with before | new
      · exact .inl before
      · obtain rfl := Option.some.inj new
        exact .inr ⟨post.author_id, by rw [Community.author_of, found]; rfl⟩
  | unbookmarked found marked => exact .inl (List.mem_of_mem_filter member)
  | kept => exact .inl member

theorem Referenced.step {db after : Database User} {request : Request User}
    (referenced : Referenced db) (effect : Effect db request after) : Referenced after := by
  intro reaction member
  rcases effect.reaction member with before | ⟨author, written⟩
  · obtain ⟨author, written⟩ := referenced reaction before
    exact ⟨author, effect.author_of written⟩
  · exact ⟨author, effect.author_of written⟩

end HftEngine.Backend.Community
