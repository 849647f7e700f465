import HftEngine.Admin.Auth

/-!
# How long an administrator stays signed in

Every request that is let in goes back to a login with the right password
through refreshes that follow one another within a week.
-/

namespace HftEngine.Admin.Auth

open Transition

variable {Token : Type*} {jwt : Jwt Token} {settings : Settings} {state after : State}

/-- A token that nobody has forged decodes to claims that were issued. -/
def Genuine (jwt : Jwt Token) (state : State) (token : Token) : Prop :=
  ∀ now payload, jwt.decode now token = .ok payload → payload ∈ state.issued

def Unforged (jwt : Jwt Token) (state : State) : Label Token → Prop
  | .refresh token => Genuine jwt state token
  | _ => True

/-- A session that began with a password and was last renewed at this time. -/
inductive Session (settings : Settings) (state : State) (username : String) :
    ℕ → Prop where
  | login {password : String} {time : ℕ} :
      (username, password, time) ∈ state.logins →
      settings.verify password settings.hashed_password = .ok true →
      Session settings state username time
  | refresh {earlier time : ℕ} :
      Session settings state username earlier →
      (username, time) ∈ state.refreshes →
      earlier ≤ time →
      seconds time ≤ seconds (earlier + week) →
      Session settings state username time

/-- The tokens that a renewal at this time hands out. -/
def handed_out (settings : Settings) (time : ℕ) (username : String) : List Payload :=
  [settings.access_claims time username true (some settings.access_lifetime),
    refresh_claims time username]

theorem seconds_mono {earlier later : ℕ} (ordered : earlier ≤ later) :
    seconds earlier ≤ seconds later :=
  Nat.div_le_div_right ordered

namespace Session

variable {username : String} {time : ℕ}

theorem mono (session : Session settings state username time)
    (logins : state.logins ⊆ after.logins) (refreshes : state.refreshes ⊆ after.refreshes) :
    Session settings after username time := by
  induction session with
  | login listed verified => exact .login (logins listed) verified
  | refresh _ listed ordered within ih => exact .refresh ih (refreshes listed) ordered within

end Session

/-- The tokens of a renewal that are live are live together until the longer of
their lifetimes is over. -/
theorem mem_handed_out {payload : Payload} {time : ℕ} {username : String}
    (listed : payload ∈ handed_out settings time username) :
    payload.sub = some username ∧
      payload.exp ≤ seconds (time + max settings.access_lifetime week) ∧
      (payload.type = "refresh" → payload.exp = seconds (time + week)) := by
  simp only [handed_out, access_claims_eq, List.mem_cons, List.not_mem_nil, or_false]
    at listed
  obtain rfl | rfl := listed
  · refine ⟨rfl, seconds_mono ?_, fun typed => ?_⟩
    · exact Nat.add_le_add_left (le_max_left _ _) _
    · simp at typed
  · refine ⟨rfl, seconds_mono ?_, fun _ => rfl⟩
    exact Nat.add_le_add_left (le_max_right _ _) _

theorem exists_handed_out (time now : ℕ) (username : String)
    (live : seconds now ≤ seconds (time + max settings.access_lifetime week)) :
    ∃ payload ∈ handed_out settings time username,
      payload.sub = some username ∧ seconds now ≤ payload.exp := by
  obtain longer | longer := le_total week settings.access_lifetime
  · rw [max_eq_left longer] at live
    refine ⟨_, List.mem_cons_self, ?_⟩
    rw [access_claims_eq]
    exact ⟨rfl, live⟩
  · rw [max_eq_right longer] at live
    exact ⟨_, List.mem_cons_of_mem _ List.mem_cons_self, rfl, live⟩

/-! ## The invariant -/

/-- Each token in circulation belongs to a renewal of a session, and each renewal
has handed out its tokens. -/
structure Sound (settings : Settings) (state : State) : Prop where
  verified : ∀ login ∈ state.succeeding, login.user.username = "admin" ∧
    settings.verify login.password settings.hashed_password = .ok true
  backed : ∀ payload ∈ state.issued, ∃ time ≤ state.now,
    Session settings state "admin" time ∧ payload ∈ handed_out settings time "admin"
  logins : ∀ username password time, (username, password, time) ∈ state.logins →
    username = "admin" ∧ time ≤ state.now ∧ handed_out settings time username ⊆ state.issued
  refreshes : ∀ username time, (username, time) ∈ state.refreshes →
    username = "admin" ∧ time ≤ state.now ∧ handed_out settings time username ⊆ state.issued

namespace Sound

theorem session (sound : Sound settings state) {username : String} {time : ℕ}
    (session : Session settings state username time) :
    username = "admin" ∧ time ≤ state.now ∧
      handed_out settings time username ⊆ state.issued := by
  cases session with
  | login listed _ => exact sound.logins _ _ _ listed
  | refresh _ listed _ _ => exact sound.refreshes _ _ listed

theorem start : Sound settings (system jwt settings).start where
  verified _ listed := nomatch listed
  backed _ listed := nomatch listed
  logins _ _ _ listed := nomatch listed
  refreshes _ _ listed := nomatch listed

/-- A step that renews nothing. -/
theorem frame (sound : Sound settings state) (now : state.now ≤ after.now)
    (issued : after.issued = state.issued) (logins : after.logins = state.logins)
    (refreshes : after.refreshes = state.refreshes)
    (succeeding : ∀ login ∈ after.succeeding, login.user.username = "admin" ∧
      settings.verify login.password settings.hashed_password = .ok true) :
    Sound settings after where
  verified := succeeding
  backed payload listed := by
    obtain ⟨time, past, session, handed⟩ := sound.backed payload (issued ▸ listed)
    exact ⟨time, past.trans now,
      session.mono (logins ▸ List.Subset.refl _) (refreshes ▸ List.Subset.refl _), handed⟩
  logins username password time listed := by
    obtain ⟨named, past, handed⟩ := sound.logins username password time (logins ▸ listed)
    exact ⟨named, past.trans now, issued ▸ handed⟩
  refreshes username time listed := by
    obtain ⟨named, past, handed⟩ := sound.refreshes username time (refreshes ▸ listed)
    exact ⟨named, past.trans now, issued ▸ handed⟩

/-- A step that renews a session of the administrator now. -/
theorem renew (sound : Sound settings state) (now : after.now = state.now)
    (issued : after.issued = handed_out settings state.now "admin" ++ state.issued)
    (logins : ∀ entry ∈ after.logins, entry ∈ state.logins ∨
      ∃ password, entry = ("admin", password, state.now))
    (refreshes : ∀ entry ∈ after.refreshes, entry ∈ state.refreshes ∨
      entry = ("admin", state.now))
    (logins_kept : state.logins ⊆ after.logins)
    (refreshes_kept : state.refreshes ⊆ after.refreshes)
    (session : Session settings after "admin" state.now)
    (succeeding : after.succeeding ⊆ state.succeeding) :
    Sound settings after where
  verified login listed := sound.verified login (succeeding listed)
  backed payload listed := by
    rw [issued, List.mem_append] at listed
    obtain fresh | old := listed
    · exact ⟨state.now, now.ge, session, fresh⟩
    · obtain ⟨time, past, earlier, handed⟩ := sound.backed payload old
      exact ⟨time, now ▸ past, earlier.mono logins_kept refreshes_kept, handed⟩
  logins username password time listed := by
    rw [now, issued]
    obtain old | ⟨password, fresh⟩ := logins _ listed
    · obtain ⟨named, past, handed⟩ := sound.logins username password time old
      exact ⟨named, past, List.subset_append_of_subset_right _ handed⟩
    · simp only [Prod.mk.injEq] at fresh
      obtain ⟨rfl, _, rfl⟩ := fresh
      exact ⟨rfl, le_rfl, List.subset_append_left _ _⟩
  refreshes username time listed := by
    rw [now, issued]
    obtain old | fresh := refreshes _ listed
    · obtain ⟨named, past, handed⟩ := sound.refreshes username time old
      exact ⟨named, past, List.subset_append_of_subset_right _ handed⟩
    · simp only [Prod.mk.injEq] at fresh
      obtain ⟨rfl, rfl⟩ := fresh
      exact ⟨rfl, le_rfl, List.subset_append_left _ _⟩

theorem login (sound : Sound settings state) (client_ip username password : String)
    (fate : AuthLimiter.Fate) :
    Sound settings (state.login settings client_ip username password fate) := by
  unfold State.login
  split
  · exact sound
  · split
    · exact sound
    · exact sound.frame le_rfl rfl rfl rfl sound.verified
    · rename_i user authenticated
      split
      · refine sound.frame le_rfl rfl rfl rfl ?_
        intro login listed
        obtain rfl | old := List.mem_cons.mp listed
        · exact authenticate_user_eq_some authenticated
        · exact sound.verified login old
      · exact sound

theorem clear_failed_attempts (sound : Sound settings state) {login : Login}
    (listed : login ∈ state.succeeding) (fate : AuthLimiter.Fate) :
    Sound settings (state.clear_failed_attempts settings login fate) := by
  obtain ⟨named, verified⟩ := sound.verified login listed
  refine sound.renew ?_ ?_ ?_ ?_ ?_ ?_ ?_ ?_
  · exact AuthLimiter.clear_failed_attempts_now
  · simp [State.clear_failed_attempts, State.issue, handed_out, named]
  · intro entry member
    obtain rfl | old := List.mem_cons.mp member
    · exact .inr ⟨login.password, by rw [named]⟩
    · exact .inl old
  · intro entry member
    exact .inl member
  · exact List.subset_cons_self _ _
  · exact List.Subset.refl _
  · refine .login ?_ verified
    rw [← named]
    exact List.mem_cons_self
  · exact List.erase_subset

theorem refresh (sound : Sound settings state) {token : Token}
    (genuine : Genuine jwt state token) :
    Sound settings (state.refresh jwt settings token) := by
  unfold State.refresh
  split
  · exact sound
  · rename_i username accepted
    obtain ⟨rfl, payload, decoded, typed, _⟩ := refresh_access_token_eq_ok.mp accepted
    obtain ⟨time, past, session, handed⟩ := sound.backed payload (genuine _ _ decoded)
    have live := jwt.decode_exp decoded
    rw [(mem_handed_out handed).2.2 typed] at live
    refine sound.renew rfl rfl ?_ ?_ ?_ ?_ ?_ ?_
    · intro entry member
      exact .inl member
    · intro entry member
      exact (List.mem_cons.mp member).symm
    · exact List.Subset.refl _
    · exact List.subset_cons_self _ _
    · refine .refresh (session.mono ?_ ?_) List.mem_cons_self past live
      · exact List.Subset.refl _
      · exact List.subset_cons_self _ _
    · exact List.Subset.refl _

theorem step (sound : Sound settings state) {label : Label Token}
    (unforged : Unforged jwt state label) (taken : step jwt settings state label = some after) :
    Sound settings after := by
  cases label with
  | init_redis connected =>
      exact Option.some.inj taken ▸ sound.frame le_rfl rfl rfl rfl sound.verified
  | login client_ip username password fate =>
      exact Option.some.inj taken ▸ sound.login client_ip username password fate
  | record_failed_login client_ip fate =>
      obtain ⟨_, rfl⟩ := guarded_eq_some.mp taken
      exact sound.frame AuthLimiter.record_failed_login_now.ge rfl rfl rfl sound.verified
  | expire client_ip fate =>
      obtain ⟨_, rfl⟩ := guarded_eq_some.mp taken
      exact sound.frame AuthLimiter.expire_now.ge rfl rfl rfl sound.verified
  | clear_failed_attempts login fate =>
      obtain ⟨listed, rfl⟩ := guarded_eq_some.mp taken
      exact sound.clear_failed_attempts listed fate
  | refresh token => exact Option.some.inj taken ▸ sound.refresh unforged
  | pass duration =>
      exact Option.some.inj taken ▸
        sound.frame (Nat.le_add_right _ _) rfl rfl rfl sound.verified

end Sound

theorem sound_of_reached (reached : ReachedBy (system jwt settings) (Unforged jwt) state) :
    Sound settings state :=
  reached.invariant Sound.start (fun _ _ _ sound unforged taken => sound.step unforged taken)

/-! ## Who is let in -/

/-- A session of the user is younger than the longest lifetime of a token. -/
def Live (settings : Settings) (state : State) (username : String) : Prop :=
  ∃ time, Session settings state username time ∧
    seconds state.now ≤ seconds (time + max settings.access_lifetime week)

theorem genuine_encode {payload : Payload} (listed : payload ∈ state.issued) :
    Genuine jwt state (jwt.encode payload) := by
  intro now decoded accepted
  by_cases live : now ≤ payload.exp
  · rw [jwt.decode_encode now payload live] at accepted
    exact Except.ok.inj accepted ▸ listed
  · obtain ⟨text, rejected⟩ := jwt.decode_expired now payload (Nat.lt_of_not_le live)
    rw [rejected] at accepted
    exact nomatch accepted

/-- What a genuine token stands for while the library accepts it. -/
theorem Sound.live_of_decode (sound : Sound settings state) {token : Token}
    (genuine : Genuine jwt state token) {payload : Payload}
    (decoded : jwt.decode (seconds state.now) token = .ok payload) :
    payload.sub = some "admin" ∧ Live settings state "admin" := by
  obtain ⟨time, _, session, handed⟩ := sound.backed payload (genuine _ _ decoded)
  obtain ⟨named, expires, _⟩ := mem_handed_out handed
  exact ⟨named, time, session, (jwt.decode_exp decoded).trans expires⟩

theorem Sound.decode_of_live (jwt : Jwt Token) (sound : Sound settings state)
    {username : String}
    (live : Live settings state username) :
    username = "admin" ∧ ∃ token payload, Genuine jwt state token ∧
      jwt.decode (seconds state.now) token = .ok payload ∧ payload.sub = some "admin" := by
  obtain ⟨time, session, within⟩ := live
  obtain ⟨rfl, _, handed⟩ := sound.session session
  obtain ⟨payload, listed, named, valid⟩ := exists_handed_out time state.now "admin" within
  exact ⟨rfl, jwt.encode payload, payload, genuine_encode (handed listed),
    jwt.decode_encode _ _ valid, named⟩

/-- A genuine token lets its bearer in, over HTTP and at the socket of the
dashboard, exactly while a session of that user is live. -/
theorem let_in_iff (reached : ReachedBy (system jwt settings) (Unforged jwt) state)
    (username : String) :
    ((∃ token user, Genuine jwt state token ∧ user.username = username ∧
        get_current_admin_user jwt settings state.now (some token) = .ok user) ↔
      Live settings state username) ∧
    ((∃ token, Genuine jwt state token ∧
        websocket_endpoint jwt state.now (some token) = some username) ↔
      Live settings state username) := by
  have sound := sound_of_reached reached
  refine ⟨⟨?_, ?_⟩, ⟨?_, ?_⟩⟩
  · intro ⟨token, user, genuine, named, accepted⟩
    obtain ⟨rfl, payload, decoded, _⟩ := get_current_admin_user_eq_ok.mp accepted
    exact named ▸ (sound.live_of_decode genuine decoded).2
  · intro live
    obtain ⟨rfl, token, payload, genuine, decoded, subject⟩ :=
      Sound.decode_of_live jwt sound live
    exact ⟨token, _, genuine, rfl,
      get_current_admin_user_eq_ok.mpr ⟨rfl, payload, decoded, subject⟩⟩
  · intro ⟨token, genuine, accepted⟩
    obtain ⟨payload, decoded, subject⟩ := websocket_endpoint_eq_some.mp accepted
    obtain ⟨named, live⟩ := sound.live_of_decode genuine decoded
    rw [named, Option.some.injEq] at subject
    exact subject ▸ live
  · intro live
    obtain ⟨rfl, token, payload, genuine, decoded, subject⟩ :=
      Sound.decode_of_live jwt sound live
    exact ⟨token, genuine, websocket_endpoint_eq_some.mpr ⟨payload, decoded, subject⟩⟩

/-! ## A run -/

def six_days : ℕ := 6 * 24 * 60 * minute

/-- A login, and a refresh six days later. -/
def signed_in : List (Label Payload) :=
  let login : Login :=
    ⟨"10.0.0.7", { username := "admin", email := some "admin@stockify.local" }, "s3cret"⟩
  [.init_redis true, .login "10.0.0.7" "admin" "s3cret" .answered,
    .clear_failed_attempts login .answered, .pass six_days]

theorem let_in_twelve_days :
    ∃ state, ReachedBy (system plain (same_text "s3cret")) (Unforged plain) state ∧
      state.now = 2 * six_days ∧ ∃ token, Genuine plain state token ∧
        websocket_endpoint plain state.now (some token) = some "admin" := by
  have permitted : ∀ label ∈ signed_in, ∀ state, Unforged plain state label := by
    intro label listed state
    simp only [signed_in, List.mem_cons, List.not_mem_nil, or_false] at listed
    obtain rfl | rfl | rfl | rfl := listed <;> trivial
  have opened := ReachedBy.follow permitted
    (ReachedBy.start : ReachedBy (system plain (same_text "s3cret")) _ _) rfl
  have refreshed := opened.step
    (show Unforged plain _ (.refresh (refresh_claims 0 "admin")) from
      genuine_encode (List.mem_cons_of_mem _ List.mem_cons_self)) rfl
  have waited := refreshed.step (show Unforged plain _ (.pass six_days) from trivial) rfl
  refine ⟨_, waited, rfl, (let_in_iff waited "admin").2.mpr ⟨six_days, ?_, by decide⟩⟩
  exact .refresh (.login List.mem_cons_self rfl) List.mem_cons_self
    (Nat.zero_le _) (by decide)

end HftEngine.Admin.Auth
