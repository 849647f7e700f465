import HftEngine.Lib.Transition
import Mathlib.Data.List.Nodup
import Mathlib.Logic.Function.Basic

/-!
# User accounts

A request signs in with the identity of a Firebase token.  Its account is found through
the cache or by the identity, or is created; where the creation meets a unique column, the
account of the e-mail is linked to the identity.  Every query and every commit of a sign-in
is a step of its own, so that requests interleave between them.
-/

namespace HftEngine.Backend.Accounts

open Transition

inductive UserRole
  | USER
  | PREMIUM
  | ADMIN
  deriving DecidableEq

structure User where
  id : ℕ
  firebase_uid : String
  email : String
  username : String
  full_name : Option String := none
  is_email_verified : Bool := false
  login_provider : String := "email"
  profile_image : Option String := none
  role : UserRole := .USER
  is_active : Bool := true
  subscription_expires : Option ℕ := none
  deriving DecidableEq

/-! ## The table of users -/

/-- The rows, with the columns in which no value stands twice. -/
structure Users where
  rows : List User
  ids : (rows.map User.id).Nodup
  firebase_uids : (rows.map User.firebase_uid).Nodup
  emails : (rows.map User.email).Nodup
  usernames : (rows.map User.username).Nodup

namespace Users

def empty : Users := ⟨[], List.nodup_nil, List.nodup_nil, List.nodup_nil, List.nodup_nil⟩

/-- The rows as they are committed; none where a unique column is violated. -/
def write (rows : List User) : Option Users :=
  if unique : (rows.map User.id).Nodup ∧ (rows.map User.firebase_uid).Nodup ∧
      (rows.map User.email).Nodup ∧ (rows.map User.username).Nodup then
    some ⟨rows, unique.1, unique.2.1, unique.2.2.1, unique.2.2.2⟩
  else none

def update (users : Users) (id : ℕ) (set : User → User) : Option Users :=
  write (users.rows.map (fun user => if user.id = id then set user else user))

def get_by_id (users : Users) (id : ℕ) : Option User :=
  users.rows.find? (fun user => user.id = id)

def get_by_firebase_uid (users : Users) (firebase_uid : String) : Option User :=
  users.rows.find? (fun user => user.firebase_uid = firebase_uid)

def get_by_email (users : Users) (email : String) : Option User :=
  users.rows.find? (fun user => user.email = email)

end Users

/-! ## The service -/

/-- What `verify_firebase_token` returns. -/
structure TokenData where
  uid : Option String
  email : Option String
  email_verified : Bool := false
  name : Option String := none
  picture : Option String := none
  sign_in_provider : Option String := none

/-- The environment, and `str.lower`. -/
structure Settings where
  ADMIN_EMAIL : String
  is_development : Bool
  lower : String → String

def Settings.is_admin_email (settings : Settings) (email : String) : Bool :=
  settings.ADMIN_EMAIL ≠ "" && settings.lower email = settings.ADMIN_EMAIL

def Settings.username_exists (settings : Settings) (users : Users) (username : String) :
    Bool :=
  users.rows.any (fun user => user.username = settings.lower username)

inductive Endpoint
  | get_current_user
  | verify_token
  deriving DecidableEq

/-- The next query or commit of a sign-in. -/
inductive Stage
  | cached (user_id : ℕ)
  | lookup
  | username (username : String) (counter : ℕ)
  | create (username : String)
  | race
  | link (user : User)
  | found (user : User)
  | respond (current_user : User)

structure Request where
  endpoint : Endpoint
  firebase_uid : String
  token_data : TokenData
  stage : Stage

/-- `served` lists the identities that were answered, with the id of the account. -/
structure State where
  users : Users := .empty
  redis : String → Option (ℕ × ℕ) := fun _ => none
  now : ℕ := 0
  pending : List Request := []
  served : List (String × ℕ) := []

def State.cached_user_id (state : State) (firebase_uid : String) : Option ℕ := do
  let (user_id, expires_at) ← state.redis firebase_uid
  if state.now < expires_at then some user_id else none

def State.serve (state : State) (request : Request) (user : User) : State :=
  { state with served := (request.firebase_uid, user.id) :: state.served }

def State.cache_user (state : State) (connected : Bool) (firebase_uid : String)
    (user_id : ℕ) : State :=
  if connected then
    { state with
      redis := Function.update state.redis firebase_uid (some (user_id, state.now + 3600)) }
  else state

/-- `email.split("@")[0]` -/
def base_username (email : String) : String :=
  String.ofList (email.toList.takeWhile (· ≠ '@'))

namespace Request

def email (request : Request) : String :=
  request.token_data.email.getD ""

/-- The new row: only `verify_token` gives the administrator's e-mail its role. -/
def new_user (settings : Settings) (request : Request) (id : ℕ) (username : String) : User where
  id := id
  firebase_uid := request.firebase_uid
  email := request.email
  username := settings.lower username
  full_name := request.token_data.name
  is_email_verified := request.token_data.email_verified
  login_provider := request.token_data.sign_in_provider.getD "email"
  profile_image := request.token_data.picture
  role :=
    match request.endpoint with
    | .get_current_user => .USER
    | .verify_token => if settings.is_admin_email request.email then .ADMIN else .USER

/-- An assignment writes nothing where the row that was read has the value already. -/
def linked_users (state : State) (request : Request) (user : User) : Option Users :=
  if user.firebase_uid = request.firebase_uid then some state.users
  else state.users.update user.id ({ · with firebase_uid := request.firebase_uid })

def promoted_users (settings : Settings) (state : State) (request : Request) (user : User) :
    Option Users :=
  if settings.is_admin_email request.email && user.role ≠ .ADMIN then
    state.users.update user.id ({ · with role := .ADMIN })
  else some state.users

/-- The account that the rest of the request is about. -/
def settle (state : State) (request : Request) (user : User) : State × Option Request :=
  match request.endpoint with
  | .get_current_user => (state, some { request with stage := .found user })
  | .verify_token => (state.serve request user, none)

/-- The step of a sign-in, and the request that remains.  A new row takes the id given. -/
def advance (settings : Settings) (id : ℕ) (connected : Bool) (state : State)
    (request : Request) : State × Option Request :=
  match request.stage with
  | .cached user_id =>
      match state.users.get_by_id user_id with
      | some user =>
          if user.is_active then
            (state.serve request user, some { request with stage := .respond user })
          else (state, some { request with stage := .lookup })
      | none => (state, some { request with stage := .lookup })
  | .lookup =>
      match state.users.get_by_firebase_uid request.firebase_uid, request.token_data.email with
      | some user, _ => (state, some { request with stage := .found user })
      -- `None.split`
      | none, none => (state, none)
      | none, some email =>
          match request.endpoint with
          | .get_current_user =>
              (state, some { request with stage := .create (base_username email) })
          | .verify_token =>
              (state, some { request with stage := .username (base_username email) 1 })
  | .username username counter =>
      if settings.username_exists state.users username then
        (state, some { request with
          stage := .username (base_username request.email ++ toString counter) (counter + 1) })
      else (state, some { request with stage := .create username })
  | .create username =>
      let user := request.new_user settings id username
      match Users.write (user :: state.users.rows) with
      | some users => settle { state with users } request user
      | none => (state, some { request with stage := .race })
  | .race =>
      match state.users.get_by_email request.email with
      | some user => (state, some { request with stage := .link user })
      | none => (state, none)
  | .link user =>
      match request.linked_users state user with
      | some users =>
          settle { state with users } request
            { user with firebase_uid := request.firebase_uid }
      | none => (state, none)
  | .found user =>
      match request.endpoint with
      | .get_current_user =>
          if user.is_active then
            ((state.cache_user connected request.firebase_uid user.id).serve request user,
              some { request with stage := .respond user })
          else (state, none)
      | .verify_token =>
          match request.promoted_users settings state user with
          | some users => ({ state with users }.serve request user, none)
          | none => (state, none)
  | .respond _ => (state, some request)

end Request

/-! ## The endpoints behind a sign-in -/

structure UserProfileUpdate where
  username : Option String := none
  full_name : Option String := none
  profile_image : Option String := none

structure UserUpdate where
  username : Option String := none
  full_name : Option String := none
  role : Option UserRole := none
  is_active : Option Bool := none
  is_email_verified : Option Bool := none
  subscription_expires : Option ℕ := none

inductive Body
  | logout
  | upgrade_subscription
  | update_profile (update_data : UserProfileUpdate)
  | update_user (user_id : ℕ) (update_data : UserUpdate)
  | deactivate_user (user_id : ℕ)
  | activate_user (user_id : ℕ)

/-- What a commit leaves in a column: an assignment of the value that the session has read
writes nothing. -/
def written {α : Type} [DecidableEq α] (read : α) (value : Option α) (row : α) : α :=
  match value with
  | none => row
  | some value => if value = read then row else value

def UserProfileUpdate.apply (update_data : UserProfileUpdate) (read row : User) : User :=
  { row with
    username := written read.username update_data.username row.username
    full_name := written read.full_name (update_data.full_name.map some) row.full_name
    profile_image :=
      written read.profile_image (update_data.profile_image.map some) row.profile_image }

def UserUpdate.apply (update_data : UserUpdate) (read row : User) : User :=
  { row with
    username := written read.username update_data.username row.username
    full_name := written read.full_name (update_data.full_name.map some) row.full_name
    role := written read.role update_data.role row.role
    is_active := written read.is_active update_data.is_active row.is_active
    is_email_verified :=
      written read.is_email_verified update_data.is_email_verified row.is_email_verified
    subscription_expires := written read.subscription_expires
      (update_data.subscription_expires.map some) row.subscription_expires }

def Settings.get_current_admin_user (settings : Settings) (current_user : User) : Bool :=
  settings.is_development || current_user.role = .ADMIN

/-- The session of a request keeps the row of its user as the sign-in has read it. -/
def User.read_row (current_user row : User) : User :=
  if row.id = current_user.id then current_user else row

/-- The rows after a request; none where it is refused. -/
def Body.write (settings : Settings) (state : State) (current_user : User) :
    Body → Option Users
  | .logout => none
  | .upgrade_subscription =>
      state.users.update current_user.id (fun row => { row with
        role := written current_user.role (some .PREMIUM) row.role
        subscription_expires := some (state.now + 30 * 86400) })
  | .update_profile update_data =>
      if update_data.username.any (fun username => username ≠ current_user.username &&
          settings.username_exists state.users username) then none
      else state.users.update current_user.id (update_data.apply current_user)
  | .update_user user_id update_data =>
      if settings.get_current_admin_user current_user then
        state.users.update user_id
          (fun row => update_data.apply (current_user.read_row row) row)
      else none
  | .deactivate_user user_id =>
      if settings.get_current_admin_user current_user && user_id ≠ current_user.id then
        state.users.update user_id ({ · with is_active := false })
      else none
  | .activate_user user_id =>
      if settings.get_current_admin_user current_user then
        state.users.update user_id (fun row => { row with
          is_active := written (current_user.read_row row).is_active (some true) row.is_active })
      else none

def State.commit (state : State) : Option Users → State
  | some users => { state with users }
  | none => state

def Body.respond (settings : Settings) (connected : Bool) (state : State)
    (current_user : User) (body : Body) : State :=
  match body with
  | .logout =>
      if connected then
        { state with redis := Function.update state.redis current_user.firebase_uid none }
      else state
  | body => state.commit (body.write settings state current_user)

/-! ## Runs -/

/-- A request may end at any point, and Redis may fail at any access. -/
inductive Label
  | get_current_user (token_data : Option TokenData) (connected : Bool)
  | verify_token (token_data : Option TokenData)
  | advance (request : ℕ) (id : ℕ) (connected : Bool)
  | respond (request : ℕ) (body : Body) (connected : Bool)
  | drop (request : ℕ)
  | tick (seconds : ℕ)

/-- `if not firebase_uid`, `if not email` -/
def truthy : Option String → Option String
  | some "" => none
  | text => text

def State.get_current_user (state : State) (connected : Bool) : Option TokenData → State
  | none => state
  | some token_data =>
      match truthy token_data.uid with
      | none => state
      | some firebase_uid =>
          let stage : Stage :=
            match if connected then state.cached_user_id firebase_uid else none with
            | some user_id => .cached user_id
            | none => .lookup
          { state with
            pending := ⟨.get_current_user, firebase_uid, token_data, stage⟩ :: state.pending }

def State.verify_token (state : State) : Option TokenData → State
  | none => state
  | some token_data =>
      match truthy token_data.uid, truthy token_data.email with
      | some firebase_uid, some _ =>
          { state with
            pending := ⟨.verify_token, firebase_uid, token_data, .lookup⟩ :: state.pending }
      | _, _ => state

def step (settings : Settings) (state : State) : Label → Option State
  | .get_current_user token_data connected =>
      some (state.get_current_user connected token_data)
  | .verify_token token_data => some (state.verify_token token_data)
  | .advance index id connected => do
      let request ← state.pending[index]?
      let (after, remaining) := request.advance settings id connected state
      some { after with pending := remaining.toList ++ after.pending.eraseIdx index }
  | .respond index body connected => do
      let request ← state.pending[index]?
      match request.stage with
      | .respond current_user =>
          let after := body.respond settings connected state current_user
          some { after with pending := after.pending.eraseIdx index }
      | _ => none
  | .drop index => some { state with pending := state.pending.eraseIdx index }
  | .tick seconds => some { state with now := state.now + seconds }

def system (settings : Settings) : System State Label := ⟨{}, step settings⟩

/-! ## What a commit leaves -/

namespace Users

variable {users after : Users}

theorem rows_write {rows : List User} (written : write rows = some users) :
    users.rows = rows := by
  rw [write] at written
  split at written
  · rw [← Option.some.inj written]
  · cases written

theorem mem_update {id : ℕ} {set : User → User} (updated : users.update id set = some after)
    {user : User} :
    user ∈ after.rows ↔
      ∃ old ∈ users.rows, (if old.id = id then set old else old) = user := by
  rw [rows_write updated, List.mem_map]

theorem mem_of_find {p : User → Prop} [DecidablePred p] {user : User}
    (found : users.rows.find? (fun user => p user) = some user) : user ∈ users.rows ∧ p user :=
  ⟨List.mem_of_find?_eq_some found, by simpa using List.find?_some found⟩

theorem get_by_id_spec {id : ℕ} {user : User} (found : users.get_by_id id = some user) :
    user ∈ users.rows ∧ user.id = id :=
  mem_of_find found

theorem get_by_firebase_uid_spec {firebase_uid : String} {user : User}
    (found : users.get_by_firebase_uid firebase_uid = some user) :
    user ∈ users.rows ∧ user.firebase_uid = firebase_uid :=
  mem_of_find found

theorem get_by_email_spec {email : String} {user : User}
    (found : users.get_by_email email = some user) :
    user ∈ users.rows ∧ user.email = email :=
  mem_of_find found

end Users

theorem truthy_subset {text : Option String} {value : String}
    (truth : truthy text = some value) : text = some value := by
  unfold truthy at truth
  split at truth
  · cases truth
  · exact truth

/-- What no endpoint behind a sign-in changes. -/
structure Keeps (set : User → User) : Prop where
  id : ∀ user, (set user).id = user.id
  firebase_uid : ∀ user, (set user).firebase_uid = user.firebase_uid
  email : ∀ user, (set user).email = user.email

theorem written_eq {α : Type} [DecidableEq α] {read row result : α} {value : Option α}
    (wrote : written read value row = result) : row = result ∨ value = some result := by
  cases value with
  | none => exact .inl wrote
  | some value =>
      rw [written] at wrote
      split at wrote
      · exact .inl wrote
      · exact .inr (congrArg some wrote)

/-- An endpoint updates one row.  The role of an administrator is given by administrators. -/
theorem Body.write_spec {settings : Settings} {state : State} {current_user : User}
    {body : Body} {users : Users} (wrote : body.write settings state current_user = some users) :
    ∃ id set, state.users.update id set = some users ∧ Keeps set ∧
      (settings.get_current_admin_user current_user = true ∨
        ∀ user, (set user).role = .ADMIN → user.role = .ADMIN) := by
  cases body with
  | logout => cases wrote
  | upgrade_subscription =>
      refine ⟨_, _, wrote, ⟨fun _ => rfl, fun _ => rfl, fun _ => rfl⟩, .inr ?_⟩
      intro user promoted
      have role : written current_user.role (some .PREMIUM) user.role = .ADMIN := promoted
      obtain same | other := written_eq role
      · exact same
      · cases other
  | update_profile update_data =>
      rw [Body.write] at wrote
      split at wrote
      · cases wrote
      · exact ⟨_, _, wrote, ⟨fun _ => rfl, fun _ => rfl, fun _ => rfl⟩, .inr fun _ => id⟩
  | update_user user_id update_data =>
      rw [Body.write] at wrote
      split at wrote
      · rename_i admin
        exact ⟨_, _, wrote, ⟨fun _ => rfl, fun _ => rfl, fun _ => rfl⟩, .inl admin⟩
      · cases wrote
  | deactivate_user user_id =>
      rw [Body.write] at wrote
      split at wrote
      · rename_i admin
        exact ⟨_, _, wrote, ⟨fun _ => rfl, fun _ => rfl, fun _ => rfl⟩, .inr fun _ => id⟩
      · cases wrote
  | activate_user user_id =>
      rw [Body.write] at wrote
      split at wrote
      · rename_i admin
        exact ⟨_, _, wrote, ⟨fun _ => rfl, fun _ => rfl, fun _ => rfl⟩, .inl admin⟩
      · cases wrote

end HftEngine.Backend.Accounts
