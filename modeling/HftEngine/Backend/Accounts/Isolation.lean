import HftEngine.Backend.Accounts

/-!
# One account for one identity

Where Firebase gives every identity one e-mail of its own, no order of concurrent sign-ins
answers an identity with two accounts or two identities with one.
-/

namespace HftEngine.Backend.Accounts

open Transition

variable {email_of : String → String} {users after : Users} {firebase_uid : String} {id : ℕ}

def Owns (users : Users) (firebase_uid : String) (id : ℕ) : Prop :=
  ∃ user ∈ users.rows, user.id = id ∧ user.firebase_uid = firebase_uid

def Mailed (email_of : String → String) (users : Users) : Prop :=
  ∀ user ∈ users.rows, user.email = email_of user.firebase_uid

theorem Owns.unique {other_uid : String} {other_id : ℕ} (owns : Owns users firebase_uid id)
    (other : Owns users other_uid other_id) : firebase_uid = other_uid ↔ id = other_id := by
  obtain ⟨user, member, rfl, rfl⟩ := owns
  obtain ⟨next, listed, rfl, rfl⟩ := other
  constructor
  · intro same
    rw [List.inj_on_of_nodup_map users.firebase_uids member listed same]
  · intro same
    rw [List.inj_on_of_nodup_map users.ids member listed same]

/-! ## Tables that keep their accounts -/

/-- Every account remains with its identity, and with its e-mail. -/
structure Extends (email_of : String → String) (before after : Users) : Prop where
  owns : ∀ firebase_uid id, Owns before firebase_uid id → Owns after firebase_uid id
  mailed : Mailed email_of before → Mailed email_of after

theorem Extends.refl : Extends email_of users users := ⟨fun _ _ => id, id⟩

theorem Extends.update {set : User → User} (keeps : Keeps set)
    (updated : users.update id set = some after) : Extends email_of users after := by
  have kept (row : User) :
      (if row.id = id then set row else row).id = row.id ∧
        (if row.id = id then set row else row).firebase_uid = row.firebase_uid ∧
        (if row.id = id then set row else row).email = row.email := by
    split
    · exact ⟨keeps.id row, keeps.firebase_uid row, keeps.email row⟩
    · exact ⟨rfl, rfl, rfl⟩
  constructor
  · rintro _ _ ⟨row, member, rfl, rfl⟩
    exact ⟨_, (Users.mem_update updated).mpr ⟨row, member, rfl⟩, (kept row).1, (kept row).2.1⟩
  · intro mailed user member
    obtain ⟨row, listed, rfl⟩ := (Users.mem_update updated).mp member
    rw [(kept row).2.1, (kept row).2.2]
    exact mailed row listed

theorem Extends.create {user : User} (mail : user.email = email_of user.firebase_uid)
    (written : Users.write (user :: users.rows) = some after) :
    Extends email_of users after := by
  have rows := Users.rows_write written
  constructor
  · rintro _ _ ⟨row, member, rfl, rfl⟩
    exact ⟨row, rows ▸ List.mem_cons_of_mem _ member, rfl, rfl⟩
  · intro mailed row member
    rw [rows] at member
    rcases List.mem_cons.mp member with rfl | listed
    · exact mail
    · exact mailed row listed

/-! ## Requests -/

/-- What a sign-in has found is the account of its identity. -/
def Stage.Sound (email_of : String → String) (users : Users) (firebase_uid email : String) :
    Stage → Prop
  | .cached user_id => Owns users firebase_uid user_id
  | .lookup => True
  | .username .. | .create _ | .race => email = email_of firebase_uid
  | .link user => user.firebase_uid = firebase_uid ∧ Owns users firebase_uid user.id
  | .found user | .respond user => Owns users firebase_uid user.id

structure Request.Sound (email_of : String → String) (users : Users) (request : Request) :
    Prop where
  email : ∀ email ∈ request.token_data.email, email = email_of request.firebase_uid
  stage : request.stage.Sound email_of users request.firebase_uid request.email

theorem Request.Sound.extend {request : Request} (sound : request.Sound email_of users)
    (grown : Extends email_of users after) : request.Sound email_of after := by
  refine ⟨sound.email, ?_⟩
  have before := sound.stage
  cases stage : request.stage with
  | cached | found | respond =>
      rw [stage] at before
      exact grown.owns _ _ before
  | link =>
      rw [stage] at before
      exact ⟨before.1, grown.owns _ _ before.2⟩
  | lookup => trivial
  | username | create | race =>
      rw [stage] at before
      exact before

structure Isolated (email_of : String → String) (state : State) : Prop where
  mailed : Mailed email_of state.users
  redis : ∀ firebase_uid id expires_at,
    state.redis firebase_uid = some (id, expires_at) → Owns state.users firebase_uid id
  pending : ∀ request ∈ state.pending, request.Sound email_of state.users
  served : ∀ entry ∈ state.served, Owns state.users entry.1 entry.2

namespace Isolated

variable {state : State}

theorem with_users (isolated : Isolated email_of state)
    (grown : Extends email_of state.users after) :
    Isolated email_of { state with users := after } where
  mailed := grown.mailed isolated.mailed
  redis uid id expires_at entry := grown.owns _ _ (isolated.redis uid id expires_at entry)
  pending request listed := (isolated.pending request listed).extend grown
  served entry listed := grown.owns _ _ (isolated.served entry listed)

theorem serve {request : Request} {user : User} (isolated : Isolated email_of state)
    (owns : Owns state.users request.firebase_uid user.id) :
    Isolated email_of (state.serve request user) where
  mailed := isolated.mailed
  redis := isolated.redis
  pending := isolated.pending
  served := List.forall_mem_cons.mpr ⟨owns, isolated.served⟩

theorem cache_user {connected : Bool} (isolated : Isolated email_of state)
    (owns : Owns state.users firebase_uid id) :
    Isolated email_of (state.cache_user connected firebase_uid id) := by
  cases connected with
  | false => exact isolated
  | true =>
      refine { isolated with redis := ?_ }
      intro uid user_id expires_at entry
      have entry : Function.update state.redis firebase_uid (some (id, state.now + 3600)) uid =
          some (user_id, expires_at) := entry
      by_cases same : uid = firebase_uid
      · subst same
        rw [Function.update_self] at entry
        cases entry
        exact owns
      · rw [Function.update_of_ne same] at entry
        exact isolated.redis uid user_id expires_at entry

/-- The state and the request after a step of a sign-in. -/
def Continues (email_of : String → String) (result : State × Option Request) : Prop :=
  Isolated email_of result.1 ∧
    ∀ request ∈ result.2, request.Sound email_of result.1.users

theorem settle {request : Request} {user : User} (isolated : Isolated email_of state)
    (email : ∀ email ∈ request.token_data.email, email = email_of request.firebase_uid)
    (owns : Owns state.users request.firebase_uid user.id) :
    Continues email_of (request.settle state user) := by
  rw [Request.settle]
  cases request.endpoint with
  | get_current_user =>
      refine ⟨isolated, ?_⟩
      intro next same
      cases same
      exact ⟨email, owns⟩
  | verify_token =>
      refine ⟨isolated.serve owns, ?_⟩
      intro next none
      cases none

/-- The request goes on to another stage. -/
theorem goto {request : Request} {stage : Stage} (isolated : Isolated email_of state)
    (email : ∀ email ∈ request.token_data.email, email = email_of request.firebase_uid)
    (sound : stage.Sound email_of state.users request.firebase_uid request.email) :
    Continues email_of (state, some { request with stage }) := by
  refine ⟨isolated, ?_⟩
  intro next same
  cases same
  exact ⟨email, sound⟩

theorem stop (isolated : Isolated email_of state) : Continues email_of (state, none) := by
  refine ⟨isolated, ?_⟩
  intro next none
  cases none

/-- The account of an e-mail belongs to the identity of the e-mail. -/
theorem of_email {user : User} (injective : Function.Injective email_of)
    (isolated : Isolated email_of state) (member : user ∈ state.users.rows)
    (email : user.email = email_of firebase_uid) : user.firebase_uid = firebase_uid :=
  injective ((isolated.mailed user member).symm.trans email)

theorem advance (settings : Settings) (id : ℕ) (connected : Bool) {request : Request}
    (injective : Function.Injective email_of) (isolated : Isolated email_of state)
    (sound : request.Sound email_of state.users) :
    Continues email_of (request.advance settings id connected state) := by
  obtain ⟨email, owned⟩ := sound
  rw [Request.advance]
  cases stage : request.stage with
  | cached user_id =>
      rw [stage] at owned
      dsimp only
      cases found : state.users.get_by_id user_id with
      | none => exact isolated.goto email trivial
      | some user =>
          obtain rfl := (Users.get_by_id_spec found).2
          dsimp only
          split
          · exact (isolated.serve owned).goto email owned
          · exact isolated.goto email trivial
  | lookup =>
      dsimp only
      cases found : state.users.get_by_firebase_uid request.firebase_uid with
      | some user =>
          obtain ⟨member, same⟩ := Users.get_by_firebase_uid_spec found
          exact isolated.goto email ⟨user, member, rfl, same⟩
      | none =>
          cases mail : request.token_data.email with
          | none => exact isolated.stop
          | some text =>
              have right : request.email = email_of request.firebase_uid := by
                rw [Request.email, mail]
                exact email text mail
              dsimp only
              split
              · apply isolated.goto email
                exact right
              · apply isolated.goto email
                exact right
  | username username counter =>
      rw [stage] at owned
      dsimp only
      split
      · exact isolated.goto email owned
      · exact isolated.goto email owned
  | create username =>
      rw [stage] at owned
      dsimp only
      cases wrote : Users.write (request.new_user settings id username :: state.users.rows) with
      | none => exact isolated.goto email owned
      | some users =>
          have mail : (request.new_user settings id username).email =
              email_of (request.new_user settings id username).firebase_uid := owned
          have grown := Extends.create mail wrote
          refine (isolated.with_users grown).settle email ⟨_, ?_, rfl, rfl⟩
          rw [Users.rows_write wrote]
          exact List.mem_cons_self
  | race =>
      rw [stage] at owned
      dsimp only
      cases found : state.users.get_by_email request.email with
      | none => exact isolated.stop
      | some user =>
          obtain ⟨member, mail⟩ := Users.get_by_email_spec found
          have same := isolated.of_email injective member (mail.trans owned)
          exact isolated.goto email ⟨same, user, member, rfl, same⟩
  | link user =>
      rw [stage] at owned
      dsimp only
      rw [Request.linked_users, if_pos owned.1]
      exact isolated.settle email owned.2
  | found user =>
      rw [stage] at owned
      dsimp only
      split
      · split
        · have cached : Isolated email_of
              (state.cache_user connected request.firebase_uid user.id) :=
            isolated.cache_user owned
          refine (cached.serve ?_).goto email ?_
          all_goals
            cases connected <;> exact owned
        · exact isolated.stop
      · cases promoted : request.promoted_users settings state user with
        | none => exact isolated.stop
        | some users =>
            have grown : Extends email_of state.users users := by
              rw [Request.promoted_users] at promoted
              split at promoted
              · have keeps : Keeps ({ · with role := .ADMIN }) :=
                  ⟨fun _ => rfl, fun _ => rfl, fun _ => rfl⟩
                exact .update keeps promoted
              · exact Option.some.inj promoted ▸ .refl
            exact ((isolated.with_users grown).serve (grown.owns _ _ owned)).stop
  | respond user =>
      refine ⟨isolated, ?_⟩
      intro next same
      cases same
      exact ⟨email, owned⟩

theorem with_pending {pending : List Request} (isolated : Isolated email_of state)
    (sound : ∀ request ∈ pending, request.Sound email_of state.users) :
    Isolated email_of { state with pending } :=
  ⟨isolated.mailed, isolated.redis, sound, isolated.served⟩

theorem erase (index : ℕ) (isolated : Isolated email_of state) :
    Isolated email_of { state with pending := state.pending.eraseIdx index } :=
  isolated.with_pending fun request listed =>
    isolated.pending request (List.mem_of_mem_eraseIdx listed)

theorem respond {settings : Settings} {connected : Bool} {current_user : User} {body : Body}
    (isolated : Isolated email_of state) :
    Isolated email_of (body.respond settings connected state current_user) := by
  have rewritten :
      Isolated email_of (state.commit (body.write settings state current_user)) := by
    cases wrote : body.write settings state current_user with
    | none => exact isolated
    | some users =>
        obtain ⟨id, set, updated, keeps, _⟩ := Body.write_spec wrote
        exact isolated.with_users (.update keeps updated)
  cases body with
  | logout =>
      rw [Body.respond]
      split
      · refine { isolated with redis := ?_ }
        intro uid user_id expires_at entry
        have entry : Function.update state.redis current_user.firebase_uid none uid =
            some (user_id, expires_at) := entry
        by_cases same : uid = current_user.firebase_uid
        · subst same
          rw [Function.update_self] at entry
          cases entry
        · rw [Function.update_of_ne same] at entry
          exact isolated.redis uid user_id expires_at entry
      · exact isolated
  | upgrade_subscription | update_profile | update_user | deactivate_user | activate_user =>
      exact rewritten

end Isolated

/-! ## Runs -/

/-- The tokens of an identity carry its e-mail, if they carry one. -/
def Identified (email_of : String → String) (_ : State) : Label → Prop
  | .get_current_user token_data _ | .verify_token token_data =>
      ∀ data ∈ token_data, ∀ firebase_uid ∈ data.uid, ∀ email ∈ data.email,
        email = email_of firebase_uid
  | _ => True

namespace Isolated

variable {settings : Settings} {state next : State} {label : Label}

theorem start : Isolated email_of (system settings).start where
  mailed _ listed := by cases listed
  redis _ _ _ entry := by cases entry
  pending _ listed := by cases listed
  served _ listed := by cases listed

theorem get_current_user {connected : Bool} {token_data : Option TokenData}
    (isolated : Isolated email_of state)
    (identified : Identified email_of state (.get_current_user token_data connected)) :
    Isolated email_of (state.get_current_user connected token_data) := by
  cases token_data with
  | none => exact isolated
  | some data =>
      rw [State.get_current_user]
      cases truth : truthy data.uid with
      | none => exact isolated
      | some uid =>
          apply isolated.with_pending
          refine List.forall_mem_cons.mpr ⟨⟨?_, ?_⟩, isolated.pending⟩
          · exact identified data rfl uid (truthy_subset truth)
          · dsimp only
            split
            · rename_i user_id answered
              split at answered
              · rw [State.cached_user_id] at answered
                obtain ⟨⟨_, expires_at⟩, entry, live⟩ := Option.bind_eq_some_iff.mp answered
                obtain ⟨_, same⟩ := Option.ite_none_right_eq_some.mp live
                cases same
                exact isolated.redis _ _ _ entry
              · cases answered
            · trivial

theorem verify_token {token_data : Option TokenData} (isolated : Isolated email_of state)
    (identified : Identified email_of state (.verify_token token_data)) :
    Isolated email_of (state.verify_token token_data) := by
  cases token_data with
  | none => exact isolated
  | some data =>
      rw [State.verify_token]
      split
      · rename_i uid _ truth _
        apply isolated.with_pending
        refine List.forall_mem_cons.mpr ⟨⟨?_, ?_⟩, isolated.pending⟩
        · exact identified data rfl uid (truthy_subset truth)
        · trivial
      · exact isolated

theorem step (injective : Function.Injective email_of) (isolated : Isolated email_of state)
    (identified : Identified email_of state label)
    (taken : Accounts.step settings state label = some next) : Isolated email_of next := by
  cases label with
  | get_current_user token_data connected =>
      cases taken
      exact isolated.get_current_user identified
  | verify_token token_data =>
      cases taken
      exact isolated.verify_token identified
  | advance index id connected =>
      obtain ⟨request, listed, taken⟩ := Option.bind_eq_some_iff.mp taken
      cases taken
      obtain ⟨whole, remaining⟩ := isolated.advance settings id connected injective
        (isolated.pending request (List.mem_of_getElem? listed))
      apply whole.with_pending
      intro other member
      rcases List.mem_append.mp member with rest | kept
      · exact remaining other (Option.mem_toList.mp rest)
      · exact whole.pending other (List.mem_of_mem_eraseIdx kept)
  | respond index body connected =>
      obtain ⟨request, listed, taken⟩ := Option.bind_eq_some_iff.mp taken
      dsimp only at taken
      split at taken
      · cases taken
        exact isolated.respond.erase index
      · cases taken
  | drop index =>
      cases taken
      exact isolated.erase index
  | tick seconds =>
      cases taken
      exact ⟨isolated.mailed, isolated.redis, isolated.pending, isolated.served⟩

end Isolated

instance (email_of : String → String) (state : State) :
    (label : Label) → Decidable (Identified email_of state label)
  | .get_current_user token_data _ | .verify_token token_data =>
      inferInstanceAs (Decidable (∀ data ∈ token_data, ∀ firebase_uid ∈ data.uid,
        ∀ email ∈ data.email, email = email_of firebase_uid))
  | .advance .. | .respond .. | .drop _ | .tick _ => isTrue trivial

/-- With one e-mail for each identity, an identity and an account are answered for each
other and for no one else. -/
theorem served_injective {settings : Settings} {state : State}
    (injective : Function.Injective email_of)
    (reached : ReachedBy (system settings) (Identified email_of) state)
    {other_uid : String} {other_id : ℕ} (served : (firebase_uid, id) ∈ state.served)
    (answered : (other_uid, other_id) ∈ state.served) :
    firebase_uid = other_uid ↔ id = other_id := by
  have isolated : Isolated email_of state := by
    refine reached.invariant .start ?_
    intro before label after held identified taken
    exact held.step injective identified taken
  exact (isolated.served _ served).unique (isolated.served _ answered)

/-- Both endpoints create the account of one identity at the same time; one of them loses
the race and finds the row of the other. -/
theorem served_injective_race :
    ∃ state : State, (ReachedBy (system ⟨"", false, fun text => text⟩)
        (Identified fun text => text) state ∧
      state.served = [("bob@x.in", 2), ("ann@x.in", 1), ("ann@x.in", 1)]) ∧
      ("bob@x.in" = "ann@x.in" ↔ 2 = 1) := by
  let ann : TokenData := { uid := some "ann@x.in", email := some "ann@x.in" }
  let bob : TokenData := { uid := some "bob@x.in", email := some "bob@x.in" }
  obtain ⟨state, reached, served⟩ := ReachedBy.exists_of_run
    (system ⟨"", false, fun text => text⟩) (Identified fun text => text)
    (fun state => state.served = [("bob@x.in", 2), ("ann@x.in", 1), ("ann@x.in", 1)])
    [.verify_token (some ann), .get_current_user (some ann) true,
      .advance 1 0 true, .advance 1 0 true, .advance 1 0 true, .advance 0 1 true,
      .advance 0 2 true, .advance 0 0 true, .advance 0 0 true, .advance 0 0 true,
      .verify_token (some bob), .advance 0 0 true, .advance 0 0 true, .advance 0 2 true]
    (by decide)
  refine ⟨state, ⟨reached, served⟩, served_injective Function.injective_id reached ?_ ?_⟩
  · rw [served]
    exact List.mem_cons_self
  · rw [served]
    exact List.mem_cons_of_mem _ List.mem_cons_self

end HftEngine.Backend.Accounts
