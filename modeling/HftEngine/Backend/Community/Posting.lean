import HftEngine.Backend.Accounts
import Mathlib.Data.Int.Notation
import Mathlib.Data.Rat.Init

/-!
# Who may post in a room, and how often

A post is checked against what other requests have committed, then written, and committed
later.  Times are in microseconds.
-/

namespace HftEngine.Backend.Community.Posting

open Transition Accounts

inductive RoomType
  | MARKET_OUTLOOK
  | SIGNAL_DISCUSSION
  | TRADE_BREAKDOWN
  | STRATEGY_INSIGHTS
  | FEEDBACK
  deriving DecidableEq

inductive TradeType
  | CE
  | PE
  | FUT
  deriving DecidableEq

/-- `CommunityRoomDB`. -/
structure Room where
  id : ℕ
  slug : String
  room_type : RoomType
  is_read_only : Bool := false
  min_reputation_to_post : ℤ := 0
  post_cooldown_seconds : ℕ := 60
  allowed_roles : List String := ["user"]

/-- `CommunityPostCreate`. -/
structure PostCreate where
  content : String
  instrument : Option String := none
  entry_price : Option ℚ := none
  exit_price : Option ℚ := none
  trade_type : Option TradeType := none

/-- `CommunityPostDB`. -/
structure Post where
  id : ℕ
  room_id : ℕ
  author_id : ℕ
  post_data : PostCreate
  content_type : String
  created_at : ℕ
  is_deleted : Bool := false

/-- `UserReputationDB`, as far as posting depends on it. -/
structure Reputation where
  reputation_score : ℤ := 0
  last_post_at : Option ℕ := none
  is_muted : Bool := false
  muted_until : Option ℕ := none

/-- `str.lower`, `str` of a time and the patterns of the content. -/
structure Settings where
  lower : String → String
  str : ℕ → String
  check_spam : String → Option String
  check_live_trade_call : String → Bool

def role_value : UserRole → String
  | .USER => "user"
  | .PREMIUM => "premium"
  | .ADMIN => "admin"

/-- The session of a `create_post` after each of its writes. -/
inductive Stage
  | checked
  | created (created_at : ℕ)
  | stamped (created_at last_post_at : ℕ) (creates_reputation : Bool)

structure Request where
  room : Room
  author : User
  post_data : PostCreate
  /-- `check_user_can_post` has called `unmute_user`. -/
  unmutes : Bool
  checked_at : ℕ
  stage : Stage := .checked

structure State where
  rooms : List Room := []
  posts : List Post := []
  reputations : ℕ → Option Reputation := fun _ => none
  pending : List Request := []
  now : ℕ := 0

/-! ## Checks -/

def second : ℕ := 1000000

def State.get_user_last_post_time (state : State) (user_id room_id : ℕ) : Option ℕ :=
  ((state.posts.filter (fun post => post.author_id = user_id && post.room_id = room_id &&
    !post.is_deleted)).map Post.created_at).max?

def refuse_wait (now cooldown_end : ℕ) : String :=
  "Please wait " ++ toString ((cooldown_end - now) / second % 86400) ++
    " seconds before posting again"

def State.check_cooldown (state : State) (user_id : ℕ) (room : Room) : Except String Unit :=
  if 0 < room.post_cooldown_seconds then
    match state.get_user_last_post_time user_id room.id with
    | none => pure ()
    | some last_post =>
        let cooldown_end := last_post + room.post_cooldown_seconds * second
        if state.now < cooldown_end then throw (refuse_wait state.now cooldown_end)
        else pure ()
  else pure ()

def Reputation.check_muted (settings : Settings) (now : ℕ) (rep : Reputation) :
    Except String Bool :=
  if rep.is_muted then
    match rep.muted_until with
    | some muted_until =>
        if now < muted_until then throw ("You are muted until " ++ settings.str muted_until)
        else pure true
    | none => pure true
  else pure false

/-- The value is whether the user is unmuted. -/
def State.check_user_can_post (settings : Settings) (state : State) (user_id : ℕ)
    (room : Room) : Except String Bool :=
  match state.reputations user_id with
  | none => pure false
  | some rep => do
      let unmutes ← rep.check_muted settings state.now
      if rep.reputation_score < room.min_reputation_to_post then
        throw ("Minimum reputation of " ++ toString room.min_reputation_to_post ++ " required")
      state.check_cooldown user_id room
      pure unmutes

def State.check_posting_permission (settings : Settings) (state : State) (user : User)
    (room : Room) : Except String Bool :=
  if user.role = .ADMIN then pure false
  else if room.is_read_only then throw "This room is read-only"
  else if room.allowed_roles ≠ [] && !room.allowed_roles.contains (role_value user.role) then
    throw ("Only " ++ ", ".intercalate room.allowed_roles ++ " can post in this room")
  else state.check_user_can_post settings user.id room

/-- `not price` -/
def no_price : Option ℚ → Bool
  | none => true
  | some price => price = 0

def check_content (settings : Settings) (room : Room) (post_data : PostCreate) :
    Except String Unit := do
  if let some reason := settings.check_spam post_data.content then throw reason
  if room.room_type ≠ .SIGNAL_DISCUSSION && settings.check_live_trade_call post_data.content then
    throw "Live trade calls are not allowed in this room"
  if room.room_type = .TRADE_BREAKDOWN then
    if post_data.instrument.getD "" = "" || no_price post_data.entry_price ||
        no_price post_data.exit_price then
      throw "Trade breakdowns require instrument, entry and exit prices"
    if post_data.trade_type.isNone then
      throw "Trade breakdowns require trade type (CE/PE/FUT)"

/-! ## Requests -/

def State.get_room_by_slug (settings : Settings) (state : State) (slug : String) :
    Option Room :=
  state.rooms.find? (fun room => settings.lower room.slug = settings.lower slug)

def State.create_post (settings : Settings) (state : State) (author : User) (room_slug : String)
    (post_data : PostCreate) : Except String State := do
  match state.get_room_by_slug settings room_slug with
  | none => throw "Room not found"
  | some room =>
      let unmutes ← state.check_posting_permission settings author room
      check_content settings room post_data
      pure { state with
        pending := { room, author, post_data, unmutes, checked_at := state.now } ::
          state.pending }

/-- The next write of the session.  The post is stamped, then the reputation is read. -/
def Request.write (state : State) (request : Request) : Request :=
  match request.stage with
  | .checked => { request with stage := .created state.now }
  | .created created_at => { request with
      stage := .stamped created_at state.now
        (state.reputations request.author.id).isNone }
  | .stamped .. => request

def Request.post (request : Request) (id created_at : ℕ) : Post where
  id := id
  room_id := request.room.id
  author_id := request.author.id
  post_data := request.post_data
  content_type := if request.room.room_type = .TRADE_BREAKDOWN then "trade_breakdown" else "text"
  created_at := created_at

/-- A new row of reputation fails where another request has committed one. -/
def State.commit (state : State) (id : ℕ) (request : Request) : State :=
  match request.stage with
  | .stamped created_at last_post_at creates_reputation =>
      let rep := (state.reputations request.author.id).getD {}
      if creates_reputation && (state.reputations request.author.id).isSome then state
      else
        { state with
          posts := request.post id created_at :: state.posts
          reputations := Function.update state.reputations request.author.id (some { rep with
            last_post_at := some last_post_at
            is_muted := rep.is_muted && !request.unmutes }) }
  | _ => state

/-- `CommunityRoomUpdate`, of which the fields left out keep their values. -/
structure RoomUpdate where
  is_read_only : Option Bool := none
  min_reputation_to_post : Option ℤ := none
  post_cooldown_seconds : Option ℕ := none
  allowed_roles : Option (List String) := none

def RoomUpdate.apply (room_data : RoomUpdate) (room : Room) : Room :=
  { room with
    is_read_only := room_data.is_read_only.getD room.is_read_only
    min_reputation_to_post :=
      room_data.min_reputation_to_post.getD room.min_reputation_to_post
    post_cooldown_seconds := room_data.post_cooldown_seconds.getD room.post_cooldown_seconds
    allowed_roles := room_data.allowed_roles.getD room.allowed_roles }

def State.update_reputation (state : State) (user_id : ℕ) (set : Reputation → Reputation) :
    State :=
  { state with
    reputations := Function.update state.reputations user_id
      (some (set ((state.reputations user_id).getD {}))) }

def State.delete_post (state : State) (user : User) (post_id : ℕ) : State :=
  { state with
    posts := state.posts.map (fun post =>
      if post.id = post_id && (post.author_id = user.id || user.role = .ADMIN) then
        { post with is_deleted := true }
      else post) }

/-! ## Runs -/

/-- `set_score` stands for the votes and trades that change a score. -/
inductive Label
  | create_room (room : Room)
  | update_room (room_id : ℕ) (room_data : RoomUpdate)
  | create_post (author : User) (room_slug : String) (post_data : PostCreate)
  | write (request : ℕ)
  | commit (request : ℕ) (id : ℕ)
  | rollback (request : ℕ)
  | delete_post (user : User) (post_id : ℕ)
  | mute_user (user_id : ℕ) (duration_hours : ℕ)
  | unmute_user (user_id : ℕ)
  | set_score (user_id : ℕ) (reputation_score : ℤ)
  | tick (microseconds : ℕ)

def step (settings : Settings) (state : State) : Label → Option State
  | .create_room room => some { state with rooms := room :: state.rooms }
  | .update_room room_id room_data => some { state with
      rooms := state.rooms.map (fun room =>
        if room.id = room_id then room_data.apply room else room) }
  | .create_post author room_slug post_data =>
      match state.create_post settings author room_slug post_data with
      | .ok after => some after
      | .error _ => some state
  | .write index => do
      let request ← state.pending[index]?
      some { state with pending := state.pending.set index (request.write state) }
  | .commit index id => do
      let request ← state.pending[index]?
      let after := state.commit id request
      some { after with pending := after.pending.eraseIdx index }
  | .rollback index => some { state with pending := state.pending.eraseIdx index }
  | .delete_post user post_id => some (state.delete_post user post_id)
  | .mute_user user_id duration_hours => some (state.update_reputation user_id ({ · with
      is_muted := true
      muted_until := some (state.now + duration_hours * 3600 * second) }))
  -- `update_reputation` skips the `None` of `muted_until`
  | .unmute_user user_id => some (state.update_reputation user_id ({ · with is_muted := false }))
  | .set_score user_id reputation_score =>
      some (state.update_reputation user_id ({ · with reputation_score }))
  | .tick microseconds => some { state with now := state.now + microseconds }

def system (settings : Settings) : System State Label := ⟨{}, step settings⟩

end HftEngine.Backend.Community.Posting
