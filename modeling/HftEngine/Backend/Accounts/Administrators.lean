import HftEngine.Backend.Accounts

/-!
# Where administrators come from

Outside development an account gets the role of an administrator from another
administrator, or from `verify_token` for the e-mail of the environment.
-/

namespace HftEngine.Backend.Accounts

open Transition

variable {settings : Settings} {signs_in : TokenData → Prop} {state : State}

/-- The token of the administrator's e-mail. -/
def Settings.AdminToken (settings : Settings) (data : TokenData) : Prop :=
  (truthy data.uid).isSome ∧
    ∃ email, truthy data.email = some email ∧ settings.is_admin_email email = true

/-- The sign-ins use these tokens only. -/
def Only (signs_in : TokenData → Prop) (_ : State) : Label → Prop
  | .get_current_user token_data _ | .verify_token token_data =>
      ∀ data ∈ token_data, signs_in data
  | _ => True

def NoAdmin (users : Users) : Prop := ∀ user ∈ users.rows, user.role ≠ .ADMIN

def Stage.Plain : Stage → Prop
  | .link user | .found user | .respond user => user.role ≠ .ADMIN
  | _ => True

/-- A sign-in that has met no administrator, and makes none. -/
structure Request.Plain (settings : Settings) (request : Request) : Prop where
  email : request.endpoint = .verify_token → settings.is_admin_email request.email = false
  stage : request.stage.Plain

/-- No administrator stands in the table or in the session of a request. -/
structure Plain (settings : Settings) (state : State) : Prop where
  users : NoAdmin state.users
  pending : ∀ request ∈ state.pending, request.Plain settings

theorem NoAdmin.update {users after : Users} {id : ℕ} {set : User → User}
    (plain : NoAdmin users) (keeps : ∀ user, (set user).role = .ADMIN → user.role = .ADMIN)
    (updated : users.update id set = some after) : NoAdmin after := by
  intro user member
  obtain ⟨old, listed, rfl⟩ := (Users.mem_update updated).mp member
  split
  · exact fun admin => plain old listed (keeps old admin)
  · exact plain old listed

namespace Plain

def Continues (settings : Settings) (result : State × Option Request) : Prop :=
  Plain settings result.1 ∧ ∀ request ∈ result.2, request.Plain settings

theorem goto {request : Request} {stage : Stage} (plain : Plain settings state)
    (email : request.endpoint = .verify_token →
      settings.is_admin_email request.email = false) (next : stage.Plain) :
    Continues settings (state, some { request with stage }) := by
  refine ⟨plain, ?_⟩
  intro other same
  cases same
  exact ⟨email, next⟩

theorem stop (plain : Plain settings state) : Continues settings (state, none) := by
  refine ⟨plain, ?_⟩
  intro other none
  cases none

theorem with_users {users : Users} (plain : Plain settings state) (after : NoAdmin users) :
    Plain settings { state with users } :=
  ⟨after, plain.pending⟩

theorem serve {request : Request} {user : User} (plain : Plain settings state) :
    Plain settings (state.serve request user) :=
  ⟨plain.users, plain.pending⟩

theorem settle {request : Request} {user : User} (plain : Plain settings state)
    (email : request.endpoint = .verify_token →
      settings.is_admin_email request.email = false) (role : user.role ≠ .ADMIN) :
    Continues settings (request.settle state user) := by
  rw [Request.settle]
  split
  · exact plain.goto email role
  · exact plain.serve.stop

theorem advance {id : ℕ} {connected : Bool} {request : Request}
    (plain : Plain settings state) (sound : request.Plain settings) :
    Continues settings (request.advance settings id connected state) := by
  obtain ⟨email, role⟩ := sound
  rw [Request.advance]
  cases stage : request.stage with
  | cached user_id =>
      dsimp only
      cases found : state.users.get_by_id user_id with
      | none => exact plain.goto email trivial
      | some user =>
          dsimp only
          split
          · exact plain.serve.goto email (plain.users user (Users.get_by_id_spec found).1)
          · exact plain.goto email trivial
  | lookup =>
      dsimp only
      cases found : state.users.get_by_firebase_uid request.firebase_uid with
      | some user =>
          exact plain.goto email (plain.users user (Users.get_by_firebase_uid_spec found).1)
      | none =>
          cases request.token_data.email with
          | none => exact plain.stop
          | some text =>
              dsimp only
              split
              · exact plain.goto email trivial
              · exact plain.goto email trivial
  | username username counter =>
      dsimp only
      split
      · exact plain.goto email trivial
      · exact plain.goto email trivial
  | create username =>
      have created : (request.new_user settings id username).role ≠ .ADMIN := by
        rw [Request.new_user]
        dsimp only
        split
        · decide
        · rename_i verifies
          rw [email verifies]
          decide
      dsimp only
      cases wrote : Users.write (request.new_user settings id username :: state.users.rows) with
      | none => exact plain.goto email trivial
      | some users =>
          refine (plain.with_users ?_).settle email created
          rw [NoAdmin, Users.rows_write wrote]
          exact List.forall_mem_cons.mpr ⟨created, plain.users⟩
  | race =>
      dsimp only
      cases found : state.users.get_by_email request.email with
      | none => exact plain.stop
      | some user =>
          exact plain.goto email (plain.users user (Users.get_by_email_spec found).1)
  | link user =>
      rw [stage] at role
      dsimp only
      cases linked : request.linked_users state user with
      | none => exact plain.stop
      | some users =>
          refine (plain.with_users ?_).settle email role
          rw [Request.linked_users] at linked
          split at linked
          · exact Option.some.inj linked ▸ plain.users
          · have keeps (row : User) (admin : ({ row with
                firebase_uid := request.firebase_uid } : User).role = .ADMIN) :
                row.role = .ADMIN := admin
            exact plain.users.update keeps linked
  | found user =>
      rw [stage] at role
      have role : user.role ≠ .ADMIN := role
      have cached : Plain settings
          (state.cache_user connected request.firebase_uid user.id) := by
        cases connected with
        | false => exact plain
        | true => exact ⟨plain.users, plain.pending⟩
      dsimp only
      split
      · split
        · exact cached.serve.goto email role
        · exact plain.stop
      · rename_i verifies
        rw [Request.promoted_users, email verifies]
        exact plain.serve.stop
  | respond user =>
      refine ⟨plain, ?_⟩
      intro other same
      cases same
      exact ⟨email, role⟩

theorem respond {connected : Bool} {current_user : User} {body : Body}
    (production : settings.is_development = false) (plain : Plain settings state)
    (role : current_user.role ≠ .ADMIN) :
    Plain settings (body.respond settings connected state current_user) := by
  have rewritten :
      Plain settings (state.commit (body.write settings state current_user)) := by
    cases wrote : body.write settings state current_user with
    | none => exact plain
    | some users =>
        obtain ⟨id, set, updated, _, admin | keeps⟩ := Body.write_spec wrote
        · simp [Settings.get_current_admin_user, production, role] at admin
        · exact plain.with_users (plain.users.update keeps updated)
  cases body with
  | logout =>
      rw [Body.respond]
      split
      · exact ⟨plain.users, plain.pending⟩
      · exact plain
  | upgrade_subscription | update_profile | update_user | deactivate_user | activate_user =>
      exact rewritten

theorem with_pending {pending : List Request} (plain : Plain settings state)
    (sound : ∀ request ∈ pending, request.Plain settings) :
    Plain settings { state with pending } :=
  ⟨plain.users, sound⟩

theorem erase (index : ℕ) (plain : Plain settings state) :
    Plain settings { state with pending := state.pending.eraseIdx index } :=
  plain.with_pending fun request listed =>
    plain.pending request (List.mem_of_mem_eraseIdx listed)

theorem start : Plain settings (system settings).start where
  users _ listed := by cases listed
  pending _ listed := by cases listed

theorem get_current_user {connected : Bool} {token_data : Option TokenData}
    (plain : Plain settings state) :
    Plain settings (state.get_current_user connected token_data) := by
  cases token_data with
  | none => exact plain
  | some data =>
      rw [State.get_current_user]
      cases truthy data.uid with
      | none => exact plain
      | some uid =>
          apply plain.with_pending
          refine List.forall_mem_cons.mpr ⟨⟨?_, ?_⟩, plain.pending⟩
          · intro verifies
            cases verifies
          · dsimp only
            split <;> trivial

theorem verify_token {token_data : Option TokenData} (plain : Plain settings state)
    (other : ∀ data ∈ token_data, ¬settings.AdminToken data) :
    Plain settings (state.verify_token token_data) := by
  cases token_data with
  | none => exact plain
  | some data =>
      rw [State.verify_token]
      split
      · rename_i uid email truth mail
        apply plain.with_pending
        refine List.forall_mem_cons.mpr ⟨⟨?_, trivial⟩, plain.pending⟩
        intro _
        have text : data.email = some email := truthy_subset mail
        rw [Request.email, text, Option.getD_some]
        by_contra admin
        refine other data rfl ⟨?_, email, mail, eq_true_of_ne_false admin⟩
        rw [truth]
        rfl
      · exact plain

theorem step {next : State} {label : Label} (production : settings.is_development = false)
    (others : ∀ data, signs_in data → ¬settings.AdminToken data)
    (plain : Plain settings state) (only : Only signs_in state label)
    (taken : Accounts.step settings state label = some next) : Plain settings next := by
  cases label with
  | get_current_user token_data connected =>
      cases taken
      exact plain.get_current_user
  | verify_token token_data =>
      cases taken
      exact plain.verify_token fun data listed => others data (only data listed)
  | advance index id connected =>
      obtain ⟨request, listed, taken⟩ := Option.bind_eq_some_iff.mp taken
      cases taken
      have sound := plain.pending request (List.mem_of_getElem? listed)
      obtain ⟨whole, remaining⟩ : Continues settings _ := plain.advance sound
      apply whole.with_pending
      intro other member
      rcases List.mem_append.mp member with rest | kept
      · exact remaining other (Option.mem_toList.mp rest)
      · exact whole.pending other (List.mem_of_mem_eraseIdx kept)
  | respond index body connected =>
      obtain ⟨request, listed, taken⟩ := Option.bind_eq_some_iff.mp taken
      dsimp only at taken
      split at taken
      · rename_i current_user stage
        cases taken
        have role := (plain.pending request (List.mem_of_getElem? listed)).stage
        rw [stage] at role
        exact (plain.respond production role).erase index
      · cases taken
  | drop index =>
      cases taken
      exact plain.erase index
  | tick seconds =>
      cases taken
      exact ⟨plain.users, plain.pending⟩

end Plain

/-- `verify_token` for a first sign-in on an empty table. -/
theorem exists_admin {data : TokenData} (token : settings.AdminToken data)
    (signed : signs_in data) :
    ∃ state, ReachedBy (system settings) (Only signs_in) state ∧
      ∃ user ∈ state.users.rows, user.role = .ADMIN := by
  obtain ⟨known, email, mail, admin⟩ := token
  obtain ⟨uid, truth⟩ := Option.isSome_iff_exists.mp known
  have text : data.email = some email := truthy_subset mail
  let request : Request := ⟨.verify_token, uid, data, .lookup⟩
  let user := request.new_user settings 0 (base_username email)
  let users : Users := ⟨[user], List.nodup_singleton _, List.nodup_singleton _,
    List.nodup_singleton _, List.nodup_singleton _⟩
  have wrote : Users.write [user] = some users := by
    simp [Users.write, users]
  have email_eq : request.email = email := by
    rw [Request.email, text]
    rfl
  have arrives : step settings {} (.verify_token (some data)) =
      some { pending := [request] } := by
    simp [step, State.verify_token, truth, mail, request]
  have looks_up : step settings { pending := [request] } (.advance 0 0 true) =
      some { pending := [{ request with stage := .username (base_username email) 1 }] } := by
    simp [step, Request.advance, Users.get_by_firebase_uid, Users.empty, request, text]
  have picks : step settings
      { pending := [{ request with stage := .username (base_username email) 1 }] }
      (.advance 0 0 true) =
        some { pending := [{ request with stage := .create (base_username email) }] } := by
    simp [step, Request.advance, Settings.username_exists, Users.empty]
  let creating : Request := { request with stage := .create (base_username email) }
  have created : creating.advance settings 0 true { pending := [creating] } =
      ({ users, pending := [creating], served := [(uid, 0)] }, none) := by
    have inserted : Users.write (creating.new_user settings 0 (base_username email) ::
        Users.empty.rows) = some users := wrote
    simp only [Request.advance, creating]
    rw [inserted]
    rfl
  have creates : step settings { pending := [creating] } (.advance 0 0 true) =
      some { users, served := [(uid, 0)] } := by
    simp [step, created]
  refine ⟨{ users, served := [(uid, 0)] }, ?_, user, List.mem_singleton_self _, ?_⟩
  · have only : Only signs_in (system settings).start (.verify_token (some data)) := by
      intro other same
      cases same
      exact signed
    have arrived : ReachedBy (system settings) (Only signs_in) { pending := [request] } :=
      .step .start only arrives
    have goes_on (before : State) : Only signs_in before (.advance 0 0 true) := trivial
    exact .step (.step (.step arrived (goes_on _) looks_up) (goes_on _) picks) (goes_on _)
      creates
  · have role : user.role =
        if settings.is_admin_email request.email then .ADMIN else .USER := rfl
    rw [role, email_eq, if_pos admin]

end HftEngine.Backend.Accounts
