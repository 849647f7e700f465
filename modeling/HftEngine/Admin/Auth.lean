import HftEngine.Core.AuthLimiter

/-!
# Logins and tokens of the admin service

The login endpoint checks the lockout, verifies the password and then sends one
more command to Redis; other requests run in between.  Times are in
milliseconds, the `exp` of a token is in seconds.
-/

namespace HftEngine.Admin.Auth

open Transition

structure Payload where
  sub : Option String
  is_admin : Option Bool := none
  exp : ℕ
  type : String
  deriving DecidableEq, Repr

/-- The JWT library with the key and the algorithm of the settings.  An error is
the text of a `JWTError`. -/
structure Jwt (Token : Type*) where
  encode : Payload → Token
  decode : ℕ → Token → Except String Payload
  decode_encode : ∀ now payload, now ≤ payload.exp →
    decode now (encode payload) = .ok payload
  decode_expired : ∀ now payload, payload.exp < now →
    ∃ text, decode now (encode payload) = .error text
  decode_exp : ∀ {now token payload}, decode now token = .ok payload →
    now ≤ payload.exp

structure AdminUser where
  username : String
  email : Option String := none
  is_admin : Bool := true
  is_active : Bool := true
  deriving DecidableEq, Repr

structure UserData extends AdminUser where
  hashed_password : String
  deriving DecidableEq, Repr

/-- `verify` is `pwd_context.verify`; it raises on a text that is no hash. -/
structure Settings where
  verify : String → String → Except String Bool
  hashed_password : String
  ACCESS_TOKEN_EXPIRE_MINUTES : ℕ := 1440

structure HTTPException where
  status_code : ℕ
  detail : String
  deriving DecidableEq, Repr

def seconds (time : ℕ) : ℕ := time / 1000

def minute : ℕ := 60 * 1000

/-- The seven days of a refresh token. -/
def week : ℕ := 7 * 24 * 60 * minute

namespace Settings

variable (settings : Settings)

def ADMIN_USERS : List (String × UserData) :=
  [("admin",
    { username := "admin", email := some "admin@stockify.local",
      hashed_password := settings.hashed_password })]

def authenticate_user (username password : String) : Except String (Option AdminUser) :=
  match settings.ADMIN_USERS.lookup username with
  | none => .ok none
  | some user_data => do
      if ← settings.verify password user_data.hashed_password then
        return some user_data.toAdminUser
      else return none

def access_lifetime : ℕ := settings.ACCESS_TOKEN_EXPIRE_MINUTES * minute

/-- What `create_access_token` signs.  An `expires_delta` of zero is falsy. -/
def access_claims (now : ℕ) (sub : String) (is_admin : Bool)
    (expires_delta : Option ℕ) : Payload :=
  let lifetime := match expires_delta with
    | none => settings.access_lifetime
    | some 0 => settings.access_lifetime
    | some delta => delta
  { sub := some sub, is_admin := some is_admin, exp := seconds (now + lifetime),
    type := "access" }

end Settings

/-- What `create_refresh_token` signs. -/
def refresh_claims (now : ℕ) (username : String) : Payload :=
  { sub := some username, exp := seconds (now + week), type := "refresh" }

variable {Token : Type*} (jwt : Jwt Token) (settings : Settings)

def create_access_token (now : ℕ) (sub : String) (is_admin : Bool)
    (expires_delta : Option ℕ) : Token :=
  jwt.encode (settings.access_claims now sub is_admin expires_delta)

def create_refresh_token (now : ℕ) (username : String) : Token :=
  jwt.encode (refresh_claims now username)

def get_current_user (now : ℕ) (credentials : Option Token) :
    Except HTTPException AdminUser :=
  match credentials with
  | none => .error ⟨401, "Not authenticated"⟩
  | some token =>
      match jwt.decode (seconds now) token with
      | .error text => .error ⟨401, "Token validation failed: " ++ text⟩
      | .ok payload =>
          match payload.sub with
          | none => .error ⟨401, "Invalid token payload"⟩
          | some username =>
              if username ∈ settings.ADMIN_USERS.map Prod.fst then
                .ok { username, is_admin := true }
              else .error ⟨403, "Not authorized as admin"⟩

def get_current_admin_user (now : ℕ) (credentials : Option Token) :
    Except HTTPException AdminUser := do
  let user ← get_current_user jwt settings now credentials
  if user.is_admin then return user
  else throw ⟨403, "Admin privileges required"⟩

/-- The endpoint of the dashboard socket decodes the token by itself; none where
it closes the socket. -/
def websocket_endpoint (now : ℕ) (token : Option Token) : Option String :=
  match token with
  | none => none
  | some token =>
      match jwt.decode (seconds now) token with
      | .error _ => none
      | .ok payload => payload.sub

/-- The user for whom `refresh_access_token` creates new tokens. -/
def refresh_access_token (now : ℕ) (refresh_token : Token) :
    Except HTTPException String :=
  match jwt.decode (seconds now) refresh_token with
  | .error _ => .error ⟨401, "Invalid or expired refresh token"⟩
  | .ok payload =>
      if payload.type ≠ "refresh" then
        .error ⟨401, "Invalid token type - expected refresh token"⟩
      else
        match payload.sub with
        | none => .error ⟨401, "Invalid token payload"⟩
        | some username =>
            if username = "" then .error ⟨401, "Invalid token payload"⟩
            else if username ∈ settings.ADMIN_USERS.map Prod.fst then .ok username
            else .error ⟨401, "User no longer authorized"⟩

/-! ## Runs -/

/-- A login whose password has been verified. -/
structure Login where
  client_ip : String
  user : AdminUser
  password : String
  deriving DecidableEq, Repr

/-- An address is in `failing` once for each login of it that has failed and has
yet to send its `incr`; a login is in `succeeding` until its `delete` is sent.
The tokens issued, the moments they were issued at and the number of passwords
tried are recorded. -/
structure State where
  limiter : AuthLimiter.State := {}
  failing : List String := []
  succeeding : List Login := []
  issued : List Payload := []
  logins : List (String × String × ℕ) := []
  refreshes : List (String × ℕ) := []
  guesses : String → ℕ := fun _ => 0

inductive Label (Token : Type*) where
  | init_redis (connected : Bool)
  | login (client_ip username password : String) (fate : AuthLimiter.Fate)
  | record_failed_login (client_ip : String) (fate : AuthLimiter.Fate)
  | expire (client_ip : String) (fate : AuthLimiter.Fate)
  | clear_failed_attempts (login : Login) (fate : AuthLimiter.Fate)
  | refresh (token : Token)
  | pass (duration : ℕ)

namespace State

variable (state : State)

def now : ℕ := state.limiter.now

/-- The two tokens of a `TokenResponse`. -/
def issue (username : String) : State :=
  { state with
    issued :=
      settings.access_claims state.now username true (some settings.access_lifetime) ::
        refresh_claims state.now username :: state.issued }

/-- Up to the answer of the password check.  The hash is computed without an
`await` after the answer to `is_locked_out`. -/
def login (client_ip username password : String) (fate : AuthLimiter.Fate) : State :=
  if AuthLimiter.is_locked_out client_ip fate state.limiter then state
  else
    match settings.authenticate_user username password with
    | .error _ => state
    | .ok none =>
        { state with
          failing := client_ip :: state.failing
          guesses := Function.update state.guesses client_ip
            (state.guesses client_ip + 1) }
    | .ok (some user) =>
        if user.is_admin then
          { state with succeeding := ⟨client_ip, user, password⟩ :: state.succeeding }
        else state

def record_failed_login (client_ip : String) (fate : AuthLimiter.Fate) : State :=
  { state with
    limiter := (AuthLimiter.record_failed_login client_ip fate state.limiter).2
    failing := state.failing.erase client_ip }

/-- The end of a login that succeeds. -/
def clear_failed_attempts (login : Login) (fate : AuthLimiter.Fate) : State :=
  { state.issue settings login.user.username with
    limiter := AuthLimiter.clear_failed_attempts login.client_ip fate state.limiter
    succeeding := state.succeeding.erase login
    logins := (login.user.username, login.password, state.now) :: state.logins }

def refresh (token : Token) : State :=
  match refresh_access_token jwt settings state.now token with
  | .error _ => state
  | .ok username =>
      { state.issue settings username with
        refreshes := (username, state.now) :: state.refreshes }

end State

def step (state : State) : Label Token → Option State
  | .init_redis connected =>
      some { state with limiter := AuthLimiter.init_redis connected state.limiter }
  | .login client_ip username password fate =>
      some (state.login settings client_ip username password fate)
  | .record_failed_login client_ip fate =>
      if client_ip ∈ state.failing then some (state.record_failed_login client_ip fate)
      else none
  | .expire client_ip fate =>
      if client_ip ∈ state.limiter.expiring then
        some { state with
          limiter := (AuthLimiter.expire client_ip fate state.limiter).2 }
      else none
  | .clear_failed_attempts login fate =>
      if login ∈ state.succeeding then
        some (state.clear_failed_attempts settings login fate)
      else none
  | .refresh token => some (state.refresh jwt settings token)
  | .pass duration =>
      some { state with
        limiter := { state.limiter with now := state.limiter.now + duration } }

def system : System State (Label Token) where
  start := {}
  step := step jwt settings

/-- Tokens that carry their claims in the open. -/
def plain : Jwt Payload where
  encode payload := payload
  decode now payload :=
    if now ≤ payload.exp then .ok payload else .error "Signature has expired."
  decode_encode now payload live := if_pos live
  decode_expired now payload expired := ⟨_, if_neg (Nat.not_le_of_lt expired)⟩
  decode_exp := by
    intro now token payload decoded
    split at decoded
    · exact Except.ok.inj decoded ▸ ‹now ≤ token.exp›
    · exact nomatch decoded

def same_text (hashed_password : String) : Settings where
  verify password hashed := .ok (password == hashed)
  hashed_password := hashed_password

/-! ## What the single endpoints accept -/

variable {jwt settings}

@[simp] theorem mem_keys {username : String} :
    username ∈ settings.ADMIN_USERS.map Prod.fst ↔ username = "admin" := by
  simp [Settings.ADMIN_USERS]

theorem access_claims_eq (now : ℕ) (sub : String) (is_admin : Bool) :
    settings.access_claims now sub is_admin (some settings.access_lifetime) =
      { sub := some sub, is_admin := some is_admin,
        exp := seconds (now + settings.access_lifetime), type := "access" } := by
  cases lifetime : settings.access_lifetime with
  | zero => simp [Settings.access_claims, lifetime]
  | succ delta => simp [Settings.access_claims]

theorem authenticate_user_eq_some {username password : String} {user : AdminUser}
    (authenticated : settings.authenticate_user username password = .ok (some user)) :
    user.username = "admin" ∧
      settings.verify password settings.hashed_password = .ok true := by
  by_cases known : username = "admin"
  · subst known
    simp only [Settings.authenticate_user, Settings.ADMIN_USERS, List.lookup_cons,
      beq_self_eq_true] at authenticated
    cases verified : settings.verify password settings.hashed_password with
    | error text => simp [verified, bind, Except.bind] at authenticated
    | ok right =>
        cases right with
        | false =>
            simp [verified, bind, Except.bind, pure, Except.pure] at authenticated
        | true =>
            simp only [verified, bind, Except.bind, pure, Except.pure, if_true,
              Except.ok.injEq, Option.some.injEq] at authenticated
            exact ⟨authenticated ▸ rfl, rfl⟩
  · have unknown : (username == "admin") = false := beq_eq_false_iff_ne.mpr known
    simp [Settings.authenticate_user, Settings.ADMIN_USERS, List.lookup_cons, unknown]
      at authenticated

theorem get_current_admin_user_eq_ok {now : ℕ} {token : Token} {user : AdminUser} :
    get_current_admin_user jwt settings now (some token) = .ok user ↔
      user = { username := "admin" } ∧
        ∃ payload, jwt.decode (seconds now) token = .ok payload ∧
          payload.sub = some "admin" := by
  simp only [get_current_admin_user, get_current_user, mem_keys]
  cases decoded : jwt.decode (seconds now) token with
  | error text => simp [bind, Except.bind]
  | ok payload =>
      cases named : payload.sub with
      | none => simp [bind, Except.bind, named]
      | some username =>
          by_cases known : username = "admin"
          · simp [bind, Except.bind, pure, Except.pure, known, named, eq_comm]
          · simp [bind, Except.bind, known, named]

theorem websocket_endpoint_eq_some {now : ℕ} {token : Token} {username : String} :
    websocket_endpoint jwt now (some token) = some username ↔
      ∃ payload, jwt.decode (seconds now) token = .ok payload ∧
        payload.sub = some username := by
  simp only [websocket_endpoint]
  cases decoded : jwt.decode (seconds now) token with
  | error text => simp
  | ok payload => simp

theorem refresh_access_token_eq_ok {now : ℕ} {token : Token} {username : String} :
    refresh_access_token jwt settings now token = .ok username ↔
      username = "admin" ∧
        ∃ payload, jwt.decode (seconds now) token = .ok payload ∧
          payload.type = "refresh" ∧ payload.sub = some "admin" := by
  simp only [refresh_access_token, mem_keys]
  cases decoded : jwt.decode (seconds now) token with
  | error text => simp
  | ok payload =>
      by_cases typed : payload.type = "refresh"
      · cases named : payload.sub with
        | none => simp [typed, named]
        | some sub =>
            by_cases known : sub = "admin"
            · subst known
              have listed : ("admin" : String) ≠ "" := by decide
              simp [typed, named, listed, @eq_comm _ "admin" username]
            · by_cases empty : sub = "" <;> simp [typed, named, known, empty]
      · simp [typed]

end HftEngine.Admin.Auth
