import HftEngine.Lib.RowLocks
import HftEngine.Lib.Tasks
import HftEngine.Lib.Transition
import Mathlib.Data.Finset.Card
import Mathlib.Data.Int.Notation

/-!
# Votes for feature requests

A request is a transaction, and a step executes its next statement.  The session does
not flush by itself, so that the vote is inserted after the counter has been updated.
The database reads what is committed; an update, a deletion or an insertion waits for
the transaction that has locked the row.
-/

namespace HftEngine.Backend.Community.FeatureVotes

open Transition Tasks RowLocks

variable {User : Type}

/-- The statement that a transaction executes next. -/
inductive Statement where
  | select_vote
  | increment
  | insert_vote
  | commit_vote
  | delete_vote
  | decrement
  | commit_unvote
  | select_request
  | update_request
  | commit_request
  deriving DecidableEq, Repr

structure Request (User : Type) where
  request_id : ℕ
  user_id : User
  next : Statement
  deriving DecidableEq, Repr

/-- The `vote_count` of the feature requests, and the votes.  The votes that have been
recorded and not been removed again are counted. -/
structure State (User : Type) where
  features : Table ℕ ℕ ℤ := {}
  votes : Table ℕ (ℕ × User) Unit := {}
  created : ℕ := 0
  requests : ℕ → Option (Request User) := fun _ => none
  begun : ℕ := 0
  recorded : ℕ → ℤ := fun _ => 0

inductive Label (User : Type) where
  | create_feature_request
  | vote_for_feature (request_id : ℕ) (user_id : User)
  | unvote_for_feature (request_id : ℕ) (user_id : User)
  | update_feature_request (request_id : ℕ) (user_id : User)
  | execute (id : ℕ)
  | rollback (id : ℕ)
  deriving DecidableEq, Repr

def Request.vote (request : Request User) : ℕ × User :=
  (request.request_id, request.user_id)

namespace State

variable (state : State User) (id : ℕ) (request : Request User)

def goto (next : Statement) : State User :=
  { state with
    requests := Function.update state.requests id (some { request with next }) }

def rollback : State User :=
  { state with
    features := state.features.release id
    votes := state.votes.release id
    requests := Function.update state.requests id none }

def commit : State User :=
  { state with
    features := state.features.commit id
    votes := state.votes.commit id
    requests := Function.update state.requests id none }

/-- `UPDATE feature_requests`, which changes no row where there is none. -/
def update_count (count : ℤ) (next : Statement) : Option (State User) :=
  match state.features.view id request.request_id with
  | none => some (state.goto id request next)
  | some vote_count =>
      if state.features.Free id request.request_id then
        some ({ state with
          features := state.features.write id request.request_id
            (some (vote_count + count)) }.goto id request next)
      else none

def record (request_id : ℕ) (count : ℤ) : State User :=
  { state with
    recorded :=
      Function.update state.recorded request_id (state.recorded request_id + count) }

variable [DecidableEq User]

/-- A vote of a user who has one, or for a request that is not there, is refused by the
constraints. -/
def insert_vote (next : Statement) : Option (State User) :=
  if state.votes.Free id request.vote then
    if (state.votes.view id request.vote).isSome ||
        (state.features.view id request.request_id).isNone then
      some (state.rollback id)
    else
      some ({ state with votes := state.votes.write id request.vote (some ()) }.goto id
        request next)
  else none

def delete_vote (next : Statement) : Option (State User) :=
  match state.votes.view id request.vote with
  | none => some (state.rollback id)
  | some () =>
      if state.votes.Free id request.vote then
        some ({ state with votes := state.votes.write id request.vote none }.goto id
          request next)
      else none

/-- None where the statement has to wait. -/
def execute : Option (State User) :=
  match request.next with
  | .select_vote =>
      if (state.votes.view id request.vote).isSome then some (state.rollback id)
      else some (state.goto id request .increment)
  | .increment => state.update_count id request 1 .insert_vote
  | .insert_vote => state.insert_vote id request .commit_vote
  | .commit_vote => some ((state.commit id).record request.request_id 1)
  | .delete_vote => state.delete_vote id request .decrement
  | .decrement => state.update_count id request (-1) .commit_unvote
  | .commit_unvote => some ((state.commit id).record request.request_id (-1))
  | .select_request =>
      if (state.features.view id request.request_id).isNone then some (state.rollback id)
      else some (state.goto id request .update_request)
  | .update_request => state.update_count id request 0 .commit_request
  | .commit_request => some (state.commit id)

omit [DecidableEq User] in
def begin (request : Request User) : State User :=
  { state with
    requests := Function.update state.requests state.begun (some request)
    begun := state.begun + 1 }

omit [DecidableEq User] in
def create_feature_request : State User :=
  { state with
    features := { state.features with
      rows := Function.update state.features.rows state.created (some 0) }
    created := state.created + 1 }

end State

def step [DecidableEq User] (state : State User) : Label User → Option (State User)
  | .create_feature_request => some state.create_feature_request
  | .vote_for_feature request_id user_id =>
      some (state.begin ⟨request_id, user_id, .select_vote⟩)
  | .unvote_for_feature request_id user_id =>
      some (state.begin ⟨request_id, user_id, .delete_vote⟩)
  | .update_feature_request request_id user_id =>
      some (state.begin ⟨request_id, user_id, .select_request⟩)
  | .execute id => (state.requests id).bind (fun request => state.execute id request)
  | .rollback id => (state.requests id).map (fun _ => state.rollback id)

def system (User : Type) [DecidableEq User] : System (State User) (Label User) where
  start := {}
  step := step

/-- Users vote for feature requests that are there. -/
def Listed (state : State User) : Label User → Prop
  | .vote_for_feature request_id _ => (state.features.rows request_id).isSome
  | _ => True

instance (state : State User) (label : Label User) : Decidable (Listed state label) := by
  unfold Listed
  split <;> infer_instance

/-! ## The invariant -/

/-- What a request has done to the count. -/
def Counts (features : Table ℕ ℕ ℤ) (id request_id : ℕ) (count : ℤ) : Prop :=
  ∃ vote_count, features.Holds id request_id (some vote_count) (some (vote_count + count))

/-- What a request holds before a statement. -/
def Statement.Sound (features : Table ℕ ℕ ℤ) (votes : Table ℕ (ℕ × User) Unit)
    (id request_id : ℕ) (vote : ℕ × User) : Statement → Prop
  | .select_vote | .increment | .update_request =>
      features.rows request_id ≠ none ∧ features.Idle id ∧ votes.Idle id
  | .delete_vote | .select_request => features.Idle id ∧ votes.Idle id
  | .insert_vote => Counts features id request_id 1 ∧ votes.Idle id
  | .commit_vote => Counts features id request_id 1 ∧ votes.Holds id vote none (some ())
  | .decrement => features.Idle id ∧ votes.Holds id vote (some ()) none
  | .commit_unvote =>
      Counts features id request_id (-1) ∧ votes.Holds id vote (some ()) none
  | .commit_request => Counts features id request_id 0 ∧ votes.Idle id

def Request.Sound (features : Table ℕ ℕ ℤ) (votes : Table ℕ (ℕ × User) Unit) (id : ℕ)
    (request : Request User) : Prop :=
  request.next.Sound features votes id request.request_id request.vote

/-- The users whose votes for a feature request are committed. -/
structure Counted (state : State User) (request_id : ℕ) (voters : Finset User) : Prop where
  votes : ∀ user_id, state.votes.rows (request_id, user_id) ≠ none ↔ user_id ∈ voters
  recorded : state.recorded request_id = voters.card
  vote_count : ∀ vote_count, state.features.rows request_id = some vote_count →
    vote_count = state.recorded request_id
  unlisted : state.features.rows request_id = none → voters = ∅

structure Valid (state : State User) : Prop where
  counted : ∀ request_id, ∃ voters, Counted state request_id voters
  created : ∀ request_id, state.features.rows request_id ≠ none →
    request_id < state.created
  begun : All (fun id _ => id < state.begun) state.requests
  features : ∀ key id, state.features.holder key = some id → state.requests id ≠ none
  votes : ∀ key id, state.votes.holder key = some id → state.requests id ≠ none
  requests : All (Request.Sound state.features state.votes) state.requests

variable {features features' : Table ℕ ℕ ℤ} {votes votes' : Table ℕ (ℕ × User) Unit}
  {id other request_id : ℕ} {count : ℤ} {request : Request User} {state : State User}

theorem Counts.spared (counts : Counts features id request_id count)
    (spares : Table.Spares other features features') (different : id ≠ other) :
    Counts features' id request_id count := by
  obtain ⟨vote_count, holds⟩ := counts
  exact ⟨vote_count, holds.spared spares different⟩

theorem Statement.Sound.spared {next : Statement} {vote : ℕ × User}
    (sound : next.Sound features votes id request_id vote)
    (counts : Table.Spares other features features') (rows : Table.Spares other votes votes')
    (listed : ∀ key, features.rows key ≠ none → features'.rows key ≠ none)
    (different : id ≠ other) : next.Sound features' votes' id request_id vote := by
  cases next with
  | select_vote | increment | update_request =>
      obtain ⟨there, idle, idle_votes⟩ := sound
      exact ⟨listed _ there, idle.spared counts different, idle_votes.spared rows different⟩
  | delete_vote | select_request | insert_vote | commit_vote | decrement | commit_unvote
  | commit_request =>
      exact ⟨sound.1.spared counts different, sound.2.spared rows different⟩

/-- The locks after a statement of a request are held by requests that run. -/
theorem holders {Key Row : Type} {table next : Table ℕ Key Row}
    {requests : ℕ → Option (Request User)}
    (held : ∀ key other, table.holder key = some other → requests other ≠ none)
    (spares : Table.Spares id table next) {after : Option (Request User)}
    (own : after = none → next.Idle id) :
    ∀ key other, next.holder key = some other →
      Function.update requests id after other ≠ none := by
  intro key other holds
  by_cases same : other = id
  · subst same
    rw [Function.update_self]
    exact fun ended => own ended key holds
  · rw [Function.update_of_ne same]
    exact held key other ((spares.holder other key same).mp holds)

@[simp] theorem State.recorded_commit (state : State User) (id : ℕ) :
    (state.commit id).recorded = state.recorded := rfl

namespace Valid

theorem start : Valid ({} : State User) where
  counted := fun _ => ⟨∅, by simp, rfl, by simp, fun _ => rfl⟩
  created := by simp
  begun := All.start _
  features := by simp
  votes := by simp
  requests := All.start _

/-- A statement that leaves what is committed as it is. -/
theorem advance (valid : Valid state) (running : state.requests id = some request)
    {after : Request User} (sound : after.Sound features' votes' id)
    (counts : Table.Spares id state.features features')
    (rows : Table.Spares id state.votes votes')
    (same_features : features'.rows = state.features.rows)
    (same_votes : votes'.rows = state.votes.rows) :
    Valid { state with
      features := features'
      votes := votes'
      requests := Function.update state.requests id (some after) } where
  counted := by
    intro request_id
    obtain ⟨voters, counted⟩ := valid.counted request_id
    refine ⟨voters, ?_, counted.recorded, ?_, ?_⟩
    · simpa only [same_votes] using counted.votes
    · simpa only [same_features] using counted.vote_count
    · simpa only [same_features] using counted.unlisted
  created := by simpa only [same_features] using valid.created
  begun := valid.begun.update (valid.begun id request running)
  features := holders valid.features counts (by simp)
  votes := holders valid.votes rows (by simp)
  requests := by
    apply all_update
    · intro other found different started
      apply (valid.requests other found started).spared counts rows _ different
      intro key there
      rwa [same_features]
    · intro found same
      exact Option.some.inj same ▸ sound

theorem goto (valid : Valid state) (running : state.requests id = some request)
    {next : Statement}
    (sound : Request.Sound state.features state.votes id { request with next }) :
    Valid (state.goto id request next) :=
  valid.advance running sound (.refl _ _) (.refl _ _) rfl rfl

/-- The end of a request. -/
theorem finish (valid : Valid state)
    (counts : Table.Spares id state.features features')
    (rows : Table.Spares id state.votes votes')
    (listed : ∀ key, state.features.rows key ≠ none ↔ features'.rows key ≠ none)
    (idle : features'.Idle id) (idle_votes : votes'.Idle id) {recorded : ℕ → ℤ}
    (counted : ∀ request_id, ∃ voters, Counted { state with
      features := features', votes := votes', recorded } request_id voters) :
    Valid { state with
      features := features'
      votes := votes'
      requests := Function.update state.requests id none
      recorded } where
  counted := by
    intro request_id
    obtain ⟨voters, known, recorded, vote_count, unlisted⟩ := counted request_id
    exact ⟨voters, known, recorded, vote_count, unlisted⟩
  created := fun key there => valid.created key ((listed key).mpr there)
  begun := valid.begun.clear id
  features := holders valid.features counts (fun _ => idle)
  votes := holders valid.votes rows (fun _ => idle_votes)
  requests := by
    apply all_update
    · intro other found different started
      exact (valid.requests other found started).spared counts rows
        (fun key there => (listed key).mp there) different
    · intro found none
      cases none

theorem rollback (valid : Valid state) (id : ℕ) : Valid (state.rollback id) :=
  valid.finish (Table.spares_release _ _) (Table.spares_release _ _) (fun _ => Iff.rfl)
    (Table.idle_release _ _) (Table.idle_release _ _) (fun request_id => by
      obtain ⟨voters, votes, recorded, vote_count, unlisted⟩ := valid.counted request_id
      exact ⟨voters, votes, recorded, vote_count, unlisted⟩)

theorem update_count (valid : Valid state) (running : state.requests id = some request)
    (there : state.features.rows request.request_id ≠ none) (idle : state.features.Idle id)
    {next : Statement} {after : State User}
    (taken : state.update_count id request count next = some after)
    (sound : ∀ {features}, Counts features id request.request_id count →
      next.Sound features state.votes id request.request_id request.vote) :
    Valid after := by
  rw [State.update_count, idle.view] at taken
  cases found : state.features.rows request.request_id with
  | none => exact absurd found there
  | some vote_count =>
      simp only [found] at taken
      obtain ⟨free, rfl⟩ := guarded_eq_some.mp taken
      have holds := idle.holds request.request_id (some (vote_count + count))
      rw [found] at holds
      exact valid.advance running (sound ⟨vote_count, holds⟩) (Table.spares_write free _)
        (.refl _ _) rfl rfl

/-- A vote has its feature request. -/
theorem listed_of_vote (valid : Valid state) {user_id : User}
    (voted : state.votes.rows (request_id, user_id) ≠ none) :
    state.features.rows request_id ≠ none := by
  obtain ⟨voters, counted⟩ := valid.counted request_id
  intro unlisted
  have member := (counted.votes user_id).mp voted
  rw [counted.unlisted unlisted] at member
  cases member

/-- A commit moves the count of a feature request with its voters. -/
theorem commit (valid : Valid state) (counts : Counts state.features id request_id count)
    {voted : ℕ × User → Option Unit} (rows : (state.votes.commit id).rows = voted)
    (others : ∀ other user_id, other ≠ request_id →
      voted (other, user_id) = state.votes.rows (other, user_id))
    (change : ∀ voters : Finset User, (∀ user_id,
        state.votes.rows (request_id, user_id) ≠ none ↔ user_id ∈ voters) →
      ∃ next : Finset User, (∀ user_id, voted (request_id, user_id) ≠ none ↔ user_id ∈ next) ∧
        (next.card : ℤ) = voters.card + count) :
    Valid ((state.commit id).record request_id count) := by
  obtain ⟨vote_count, holds⟩ := counts
  have updated := holds.rows_commit
  refine valid.finish (Table.spares_commit _ _) (Table.spares_commit _ _) ?_
    (Table.idle_release id state.features) (Table.idle_release id state.votes) ?_
  · intro key
    rw [updated]
    by_cases same : key = request_id
    · simp [same, holds.rows]
    · rw [Function.update_of_ne same]
  · intro other
    by_cases same : other = request_id
    · subst same
      obtain ⟨voters, counted⟩ := valid.counted other
      obtain ⟨next, votes, card⟩ := change voters counted.votes
      have found := counted.vote_count vote_count holds.rows
      refine ⟨next, ?_, ?_, ?_, ?_⟩
      · simpa only [rows] using votes
      · simp only [Function.update_self, State.recorded_commit, counted.recorded, card]
      · intro now same
        simp only [updated, Function.update_self, Option.some.injEq] at same
        simp only [← same, found, Function.update_self, State.recorded_commit]
      · simp [updated]
    · obtain ⟨voters, counted⟩ := valid.counted other
      refine ⟨voters, ?_, ?_, ?_, ?_⟩
      · intro user_id
        simpa only [rows, others other user_id same] using counted.votes user_id
      · simpa only [Function.update_of_ne same, State.recorded_commit] using counted.recorded
      · simpa only [updated, Function.update_of_ne same, State.recorded_commit] using
          counted.vote_count
      · simpa only [updated, Function.update_of_ne same] using counted.unlisted

theorem commit_request (valid : Valid state)
    (counts : Counts state.features id request.request_id 0) (idle : state.votes.Idle id) :
    Valid (state.commit id) := by
  have unrecorded : (state.commit id).record request.request_id 0 = state.commit id := by
    rw [State.record, Int.add_zero, Function.update_eq_self]
  rw [← unrecorded]
  apply valid.commit counts idle.rows_commit
  · exact fun _ _ _ => rfl
  · intro voters votes
    exact ⟨voters, votes, (Int.add_zero _).symm⟩

/-- A request that has not begun has no locks. -/
theorem begin (valid : Valid state)
    (sound : state.features.Idle state.begun → state.votes.Idle state.begun →
      request.Sound state.features state.votes state.begun) : Valid (state.begin request) where
  counted := by
    intro request_id
    obtain ⟨voters, votes, recorded, vote_count, unlisted⟩ := valid.counted request_id
    exact ⟨voters, votes, recorded, vote_count, unlisted⟩
  created := valid.created
  begun := by
    apply all_update
    · intro other found _ started
      exact Nat.lt_succ_of_lt (valid.begun other found started)
    · intro found _
      exact Nat.lt_succ_self _
  features := holders valid.features (.refl _ _) (by simp)
  votes := holders valid.votes (.refl _ _) (by simp)
  requests := by
    have unstarted : state.requests state.begun = none := by
      cases started : state.requests state.begun with
      | none => rfl
      | some found => exact absurd (valid.begun _ found started) (Nat.lt_irrefl _)
    apply valid.requests.update
    apply sound
    · intro key held
      exact valid.features key _ held unstarted
    · intro key held
      exact valid.votes key _ held unstarted

theorem listed_of_holder (valid : Valid state)
    (held : state.features.holder request_id = some id) :
    state.features.rows request_id ≠ none := by
  cases running : state.requests id with
  | none => exact absurd running (valid.features request_id id held)
  | some request =>
      have sound := valid.requests id request running
      have listed : ∀ {count}, Counts state.features id request.request_id count →
          state.features.rows request_id ≠ none := by
        intro count ⟨vote_count, holds⟩
        rw [holds.only request_id held, holds.rows]
        exact Option.some_ne_none _
      unfold Request.Sound at sound
      cases stage : request.next <;> rw [stage] at sound
      case insert_vote | commit_vote | commit_unvote | commit_request =>
        exact listed sound.1
      case select_vote | increment | update_request =>
        exact absurd held (sound.2.1 request_id)
      case delete_vote | select_request | decrement =>
        exact absurd held (sound.1 request_id)

theorem create_feature_request (valid : Valid state) :
    Valid state.create_feature_request := by
  have fresh : state.features.rows state.created = none := by
    by_contra there
    exact Nat.lt_irrefl _ (valid.created _ there)
  have spares : Table.Spares state.begun state.features
      state.create_feature_request.features := by
    refine ⟨fun _ _ _ => Iff.rfl, ?_⟩
    intro other key _ held
    have different : key ≠ state.created := by
      rintro rfl
      exact valid.listed_of_holder held fresh
    exact ⟨Function.update_of_ne different .., rfl⟩
  have listed : ∀ key, state.features.rows key ≠ none →
      state.create_feature_request.features.rows key ≠ none := by
    intro key there
    have different : key ≠ state.created := by
      rintro rfl
      exact there fresh
    simpa [State.create_feature_request, Function.update_of_ne different] using there
  constructor
  case counted =>
    intro request_id
    obtain ⟨voters, counted⟩ := valid.counted request_id
    refine ⟨voters, counted.votes, counted.recorded, ?_, ?_⟩
    · intro vote_count found
      by_cases new : request_id = state.created
      · subst new
        have zero : vote_count = 0 := by
          simpa [State.create_feature_request, eq_comm] using found
        have recorded : state.recorded state.created = voters.card := counted.recorded
        rw [counted.unlisted fresh] at recorded
        exact zero.trans recorded.symm
      · apply counted.vote_count
        simpa [State.create_feature_request, Function.update_of_ne new] using found
    · intro unlisted
      apply counted.unlisted
      by_contra there
      exact listed request_id there unlisted
  case created =>
    intro request_id there
    by_cases new : request_id = state.created
    · exact Nat.lt_succ_of_le (Nat.le_of_eq new)
    · apply Nat.lt_succ_of_lt
      apply valid.created
      simpa [State.create_feature_request, Function.update_of_ne new] using there
  case begun => exact valid.begun
  case features => exact valid.features
  case votes => exact valid.votes
  case requests =>
    intro id request running
    have different : id ≠ state.begun := Nat.ne_of_lt (valid.begun id request running)
    exact (valid.requests id request running).spared spares (.refl _ _) listed different

variable [DecidableEq User]

theorem insert_vote (valid : Valid state) (running : state.requests id = some request)
    (counts : Counts state.features id request.request_id 1) (idle : state.votes.Idle id)
    {after : State User} (taken : state.insert_vote id request .commit_vote = some after) :
    Valid after := by
  rw [State.insert_vote, idle.view] at taken
  split at taken
  case isFalse => cases taken
  case isTrue free =>
    split at taken
    · cases taken
      exact valid.rollback id
    · rename_i fresh
      cases taken
      have absent : state.votes.rows request.vote = none := by
        cases found : state.votes.rows request.vote with
        | none => rfl
        | some row => simp [found] at fresh
      have holds := idle.holds request.vote (some ())
      rw [absent] at holds
      exact valid.advance running ⟨counts, holds⟩ (.refl _ _) (Table.spares_write free _)
        rfl rfl

theorem delete_vote (valid : Valid state) (running : state.requests id = some request)
    (idle : state.features.Idle id) (idle_votes : state.votes.Idle id)
    {after : State User} (taken : state.delete_vote id request .decrement = some after) :
    Valid after := by
  rw [State.delete_vote, idle_votes.view] at taken
  cases found : state.votes.rows request.vote with
  | none =>
      simp only [found] at taken
      cases taken
      exact valid.rollback id
  | some row =>
      simp only [found] at taken
      obtain ⟨free, rfl⟩ := guarded_eq_some.mp taken
      have holds := idle_votes.holds request.vote none
      rw [found] at holds
      exact valid.advance running ⟨idle, holds⟩ (.refl _ _) (Table.spares_write free _)
        rfl rfl

theorem commit_vote (valid : Valid state)
    (counts : Counts state.features id request.request_id 1)
    (holds : state.votes.Holds id request.vote none (some ())) :
    Valid ((state.commit id).record request.request_id 1) := by
  apply valid.commit counts holds.rows_commit
  · intro other user_id different
    exact Function.update_of_ne (fun same => different (congrArg Prod.fst same)) ..
  · intro voters votes
    have fresh : request.user_id ∉ voters := by
      intro member
      exact (votes request.user_id).mpr member holds.rows
    refine ⟨insert request.user_id voters, ?_, ?_⟩
    · intro user_id
      rw [Finset.mem_insert, ← votes]
      by_cases same : user_id = request.user_id
      · simp [Request.vote, same]
      · simp [Request.vote, same]
    · have card := Finset.card_insert_of_notMem fresh
      omega

theorem commit_unvote (valid : Valid state)
    (counts : Counts state.features id request.request_id (-1))
    (holds : state.votes.Holds id request.vote (some ()) none) :
    Valid ((state.commit id).record request.request_id (-1)) := by
  apply valid.commit counts holds.rows_commit
  · intro other user_id different
    exact Function.update_of_ne (fun same => different (congrArg Prod.fst same)) ..
  · intro voters votes
    have member : request.user_id ∈ voters := by
      apply (votes request.user_id).mp
      intro none
      have found : state.votes.rows request.vote = some () := holds.rows
      exact absurd (found.symm.trans none) (by simp)
    refine ⟨voters.erase request.user_id, ?_, ?_⟩
    · intro user_id
      rw [Finset.mem_erase, ← votes]
      by_cases same : user_id = request.user_id
      · simp [Request.vote, same]
      · simp [Request.vote, same]
    · have card := Finset.card_erase_add_one member
      omega

theorem execute (valid : Valid state) (running : state.requests id = some request)
    {after : State User} (taken : state.execute id request = some after) : Valid after := by
  have sound := valid.requests id request running
  obtain ⟨request_id, user_id, next⟩ := request
  unfold Request.Sound at sound
  unfold State.execute at taken
  cases next with
  | select_vote =>
      dsimp only at taken
      split at taken
      · cases taken
        exact valid.rollback id
      · cases taken
        exact valid.goto running sound
  | increment =>
      obtain ⟨there, idle, idle_votes⟩ := sound
      exact valid.update_count running there idle taken (fun counts => ⟨counts, idle_votes⟩)
  | insert_vote => exact valid.insert_vote running sound.1 sound.2 taken
  | commit_vote =>
      cases taken
      exact valid.commit_vote sound.1 sound.2
  | delete_vote => exact valid.delete_vote running sound.1 sound.2 taken
  | decrement =>
      obtain ⟨idle, holds⟩ := sound
      have there : state.features.rows request_id ≠ none := by
        have found : state.votes.rows (request_id, user_id) = some () := holds.rows
        have voted : state.votes.rows (request_id, user_id) ≠ none := by simp [found]
        exact valid.listed_of_vote voted
      exact valid.update_count running there idle taken (fun counts => ⟨counts, holds⟩)
  | commit_unvote =>
      cases taken
      exact valid.commit_unvote sound.1 sound.2
  | select_request =>
      dsimp only at taken
      rw [sound.1.view] at taken
      split at taken
      · cases taken
        exact valid.rollback id
      · rename_i found
        cases taken
        have there : state.features.rows request_id ≠ none := by simpa using found
        exact valid.goto running ⟨there, sound⟩
  | update_request =>
      obtain ⟨there, idle, idle_votes⟩ := sound
      exact valid.update_count running there idle taken (fun counts => ⟨counts, idle_votes⟩)
  | commit_request =>
      cases taken
      exact valid.commit_request sound.1 sound.2

theorem step {label : Label User} {after : State User} (valid : Valid state)
    (listed : Listed state label) (taken : FeatureVotes.step state label = some after) :
    Valid after := by
  cases label with
  | create_feature_request =>
      cases taken
      exact valid.create_feature_request
  | vote_for_feature request_id user_id =>
      cases taken
      exact valid.begin fun idle idle_votes =>
        ⟨Option.ne_none_iff_isSome.mpr listed, idle, idle_votes⟩
  | unvote_for_feature request_id user_id =>
      cases taken
      exact valid.begin fun idle idle_votes => ⟨idle, idle_votes⟩
  | update_feature_request request_id user_id =>
      cases taken
      exact valid.begin fun idle idle_votes => ⟨idle, idle_votes⟩
  | execute id =>
      obtain ⟨request, running, taken⟩ := Option.bind_eq_some_iff.mp taken
      exact valid.execute running taken
  | rollback id =>
      obtain ⟨request, running, rfl⟩ := Option.map_eq_some_iff.mp taken
      exact valid.rollback id

end Valid

variable [DecidableEq User]

/-- However the statements of the requests interleave, and wherever transactions end, the
count of a feature request is the number of its votes, of which a user has at most one,
and of the votes that were recorded and not removed. -/
theorem feature_votes_counted {state : State User}
    (reached : ReachedBy (system User) Listed state) (request_id : ℕ) :
    ∃ voters : Finset User,
      (∀ user_id, state.votes.rows (request_id, user_id) ≠ none ↔ user_id ∈ voters) ∧
      state.recorded request_id = voters.card ∧
      ∀ vote_count, state.features.rows request_id = some vote_count →
        vote_count = voters.card := by
  have valid := reached.invariant Valid.start
    (fun _ _ _ valid listed taken => valid.step listed taken)
  obtain ⟨voters, counted⟩ := valid.counted request_id
  refine ⟨voters, counted.votes, counted.recorded, ?_⟩
  intro vote_count found
  exact (counted.vote_count vote_count found).trans counted.recorded

/-- Two users vote at a time, one of them twice, while an administrator answers. -/
theorem feature_votes_counted_twice :
    ∃ state : State ℕ, state.features.rows 0 = some 2 ∧ ∃ voters : Finset ℕ,
      (∀ user_id, state.votes.rows (0, user_id) ≠ none ↔ user_id ∈ voters) ∧
      voters.card = 2 := by
  obtain ⟨state, reached, counted, recorded⟩ := ReachedBy.exists_of_run (system ℕ) Listed
    (fun state => state.features.rows 0 = some 2 ∧ state.recorded 0 = 2)
    [.create_feature_request, .vote_for_feature 0 7, .vote_for_feature 0 7,
      .vote_for_feature 0 8, .update_feature_request 0 1, .execute 0, .execute 1, .execute 2,
      .execute 3, .execute 0, .execute 0, .execute 0, .execute 3, .execute 3, .execute 2,
      .execute 2, .execute 2, .execute 1, .execute 1]
    (by decide)
  obtain ⟨voters, votes, number, _⟩ := feature_votes_counted reached 0
  refine ⟨state, counted, voters, votes, ?_⟩
  omega

end HftEngine.Backend.Community.FeatureVotes
