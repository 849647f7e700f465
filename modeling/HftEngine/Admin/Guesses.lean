import HftEngine.Admin.Auth
import Mathlib.Tactic.Linarith
import Mathlib.Tactic.Ring

/-!
# How many passwords an address can try

An address that never finds the right password is held to a number of attempts
for each lockout that has passed, however its logins interleave.
-/

namespace HftEngine.AuthLimiter

variable {ip_address other : String} {fate : Fate} {state : State}

theorem record_failed_login_answered (connected : state.redis_client = true) :
    (record_failed_login ip_address .answered state).2.counters (key ip_address) =
      some (incr (state.counter ip_address)) := by
  by_cases first : (incr (state.counter ip_address)).count = 1
  · simp [record_failed_login, connected, first, State.write]
  · simp [record_failed_login, connected, first, State.write]

theorem record_failed_login_redis_client :
    (record_failed_login ip_address fate state).2.redis_client = state.redis_client := by
  obtain unchanged | ⟨counted, _⟩ | waiting :=
    record_failed_login_cases ip_address fate state
  · rw [unchanged, State.failed_redis_client]
  · rw [counted]
    rfl
  · rw [waiting]
    rfl

theorem write_counters_of_ne (slot : Option Counter) (different : other ≠ ip_address) :
    (state.write ip_address slot).counters (key other) = state.counters (key other) :=
  Function.update_of_ne (key_injective.ne different) _ _

theorem record_failed_login_counters_of_ne (different : other ≠ ip_address) :
    (record_failed_login ip_address fate state).2.counters (key other) =
      state.counters (key other) := by
  obtain unchanged | ⟨counted, _⟩ | waiting :=
    record_failed_login_cases ip_address fate state
  · rw [unchanged]
    rfl
  · rw [counted, write_counters_of_ne _ different]
    rfl
  · rw [waiting, write_counters_of_ne _ different]
    rfl

theorem expire_redis_client :
    (expire ip_address fate state).2.redis_client = state.redis_client := by
  simp only [expire]
  split <;> rfl

theorem expire_counters (applied : fate.applied = true) :
    (expire ip_address fate state).2.counters (key ip_address) =
      (state.counter ip_address).map
        ({ · with expires_at := some (state.now + lockout) }) := by
  simp [expire, applied, State.write]

theorem expire_counters_of_ne (different : other ≠ ip_address) :
    (expire ip_address fate state).2.counters (key other) = state.counters (key other) := by
  simp only [expire]
  split
  · rw [write_counters_of_ne _ different]
    rfl
  · rfl

theorem clear_failed_attempts_redis_client :
    (clear_failed_attempts ip_address fate state).redis_client = state.redis_client := by
  unfold clear_failed_attempts
  split <;> rfl

theorem clear_failed_attempts_counters_of_ne (different : other ≠ ip_address) :
    (clear_failed_attempts ip_address fate state).counters (key other) =
      state.counters (key other) := by
  unfold clear_failed_attempts
  split
  · exact write_counters_of_ne _ different
  · rfl

/-- A counter that Redis no longer finds has expired. -/
theorem expired_of_live_eq_none {now : ℕ} {counter : Counter}
    (gone : live now (some counter) = none) :
    ∃ time ∈ counter.expires_at, time < now := by
  have stale : ¬counter.expires_at.all (fun time => now ≤ time) = true :=
    (Option.filter_eq_none_iff.mp gone) counter rfl
  cases expires : counter.expires_at with
  | none => simp [expires] at stale
  | some time =>
      simp only [expires, Option.all_some, decide_eq_true_eq] at stale
      exact ⟨time, rfl, Nat.lt_of_not_le stale⟩

theorem live_subset {now : ℕ} {slot : Option Counter} {counter : Counter}
    (found : counter ∈ live now slot) : counter ∈ slot :=
  (Option.filter_eq_some_iff.mp found).1

end HftEngine.AuthLimiter

namespace HftEngine.Admin.Auth

open Transition AuthLimiter

/-! ## The budget of one address -/

def attempts (slot : Option Counter) : ℕ := slot.elim 0 Counter.count

/-- With at most `K` failed logins under way at a time, a counter stops at
`4 + K`, and `rounds` counters of the address are a lockout apart. -/
structure Paced (K now guesses failing : ℕ) (slot : Option Counter) : Prop where
  room : failing ≤ K
  counted : attempts slot ≤ 4 + K
  locked : ∀ counter ∈ live now slot, counter.count + failing ≤ 4 + K
  rounds : ∃ rounds, guesses ≤ (4 + K) * rounds + attempts slot + failing ∧
    rounds * lockout ≤ now ∧
    ∀ counter ∈ slot, ∀ time ∈ counter.expires_at, (rounds + 1) * lockout ≤ time

namespace Paced

variable {K now guesses failing : ℕ} {slot : Option Counter}

theorem start (K now : ℕ) : Paced K now 0 0 none where
  room := Nat.zero_le K
  counted := Nat.zero_le _
  locked _ found := nomatch found
  rounds := ⟨0, Nat.zero_le _, (Nat.zero_mul _).trans_le (Nat.zero_le _),
    fun _ found => nomatch found⟩

/-- One more password that is wrong. -/
theorem guess (paced : Paced K now guesses failing slot)
    (free : ∀ counter ∈ live now slot, counter.count ≤ 4) (room : failing < K) :
    Paced K now (guesses + 1) (failing + 1) slot where
  room := room
  counted := paced.counted
  locked counter found := by
    have few := free counter found
    omega
  rounds := by
    obtain ⟨rounds, spent, past, expiry⟩ := paced.rounds
    exact ⟨rounds, by omega, past, expiry⟩

/-- A slot that Redis no longer finds costs a full budget, and a lockout has
passed since its counter was created. -/
theorem renewed (paced : Paced K now guesses failing slot) (gone : live now slot = none) :
    ∃ rounds, guesses ≤ (4 + K) * rounds + failing ∧ rounds * lockout ≤ now := by
  obtain ⟨rounds, spent, past, expiry⟩ := paced.rounds
  cases slot with
  | none => exact ⟨rounds, spent, past⟩
  | some counter =>
      obtain ⟨time, expires, late⟩ := expired_of_live_eq_none gone
      have ended := expiry counter rfl time expires
      have counted := paced.counted
      refine ⟨rounds + 1, ?_, ended.trans late.le⟩
      calc
        guesses ≤ (4 + K) * rounds + attempts (some counter) + failing := spent
        _ ≤ (4 + K) * rounds + (4 + K) + failing := by omega
        _ = (4 + K) * (rounds + 1) + failing := by ring

/-- The `incr` of a failed attempt. -/
theorem record (paced : Paced K now guesses (failing + 1) slot) :
    Paced K now guesses failing (some (incr (live now slot))) := by
  have room := paced.room
  cases found : live now slot with
  | none =>
      obtain ⟨rounds, spent, past⟩ := paced.renewed found
      refine ⟨by omega, by simp [attempts, incr]; omega, ?_, rounds, ?_, past, ?_⟩
      · intro counter listed
        obtain rfl := Option.some.inj (live_subset listed)
        simp only [incr]
        omega
      · simp only [attempts, incr, Option.elim_some]
        omega
      · intro counter listed time expires
        obtain rfl := Option.some.inj listed
        cases expires
  | some counter =>
      obtain rfl : slot = some counter := live_subset found
      have locked := paced.locked counter found
      obtain ⟨rounds, spent, past, expiry⟩ := paced.rounds
      simp only [attempts, Option.elim_some] at spent
      refine ⟨by omega, by simp [attempts, incr]; omega, ?_, rounds, ?_, past, ?_⟩
      · intro next listed
        obtain rfl := Option.some.inj (live_subset listed)
        simp only [incr]
        omega
      · simp only [attempts, incr, Option.elim_some]
        omega
      · intro next listed time expires
        obtain rfl := Option.some.inj listed
        exact expiry counter rfl time expires

/-- The `expire` of a first attempt. -/
theorem expire (paced : Paced K now guesses failing slot) :
    Paced K now guesses failing
      ((live now slot).map ({ · with expires_at := some (now + lockout) })) := by
  cases found : live now slot with
  | none =>
      obtain ⟨rounds, spent, past⟩ := paced.renewed found
      refine ⟨paced.room, Nat.zero_le _, ?_, rounds, spent, past, ?_⟩
      · intro counter listed
        cases live_subset listed
      · intro counter listed
        cases listed
  | some counter =>
      obtain rfl : slot = some counter := live_subset found
      obtain ⟨rounds, spent, past, _⟩ := paced.rounds
      refine ⟨paced.room, paced.counted, ?_, rounds, spent, past, ?_⟩
      · intro next listed
        obtain rfl := Option.some.inj (live_subset listed)
        exact paced.locked counter found
      · intro next listed time expires
        obtain rfl := Option.some.inj listed
        obtain rfl := Option.some.inj expires
        rw [Nat.add_mul, Nat.one_mul]
        exact Nat.add_le_add_right past _

theorem pass (paced : Paced K now guesses failing slot) (duration : ℕ) :
    Paced K (now + duration) guesses failing slot where
  room := paced.room
  counted := paced.counted
  locked counter found := by
    refine paced.locked counter ?_
    simp only [live, Option.mem_def, Option.filter_eq_some_iff, Option.all_eq_true,
      decide_eq_true_eq] at found ⊢
    refine ⟨found.1, fun time expires => ?_⟩
    have later := found.2 time expires
    omega
  rounds := by
    obtain ⟨rounds, spent, past, expiry⟩ := paced.rounds
    exact ⟨rounds, spent, past.trans (Nat.le_add_right _ _), expiry⟩

theorem guesses_le (paced : Paced K now guesses failing slot) :
    guesses ≤ (4 + K) * (now / lockout + 1) := by
  have positive : 0 < lockout := by decide
  cases found : live now slot with
  | none =>
      obtain ⟨rounds, spent, past⟩ := paced.renewed found
      have few : rounds ≤ now / lockout := (Nat.le_div_iff_mul_le positive).mpr past
      have room := paced.room
      calc
        guesses ≤ (4 + K) * rounds + failing := spent
        _ ≤ (4 + K) * rounds + (4 + K) := by omega
        _ = (4 + K) * (rounds + 1) := by ring
        _ ≤ (4 + K) * (now / lockout + 1) := Nat.mul_le_mul_left _ (by omega)
  | some counter =>
      obtain rfl : slot = some counter := live_subset found
      have locked := paced.locked counter found
      obtain ⟨rounds, spent, past, _⟩ := paced.rounds
      have few : rounds ≤ now / lockout := (Nat.le_div_iff_mul_le positive).mpr past
      simp only [attempts, Option.elim_some] at spent
      calc
        guesses ≤ (4 + K) * rounds + (4 + K) := by omega
        _ = (4 + K) * (rounds + 1) := by ring
        _ ≤ (4 + K) * (now / lockout + 1) := Nat.mul_le_mul_left _ (by omega)

end Paced

/-! ## Runs -/

variable {Token : Type*} {jwt : Jwt Token} {settings : Settings} {state after : State}
  {K : ℕ} {client_ip : String}

/-- The logins of this address meet a connected limiter that answers, none of
them finds the right password, and at most `K` of those that failed have yet to
be counted. -/
def Throttled (settings : Settings) (K : ℕ) (client_ip : String) (state : State) :
    Label Token → Prop
  | .login ip username password fate => ip = client_ip →
      state.limiter.redis_client = true ∧ fate = .answered ∧
        (∀ user, settings.authenticate_user username password ≠ .ok (some user)) ∧
        state.failing.count client_ip < K
  | .record_failed_login ip fate => ip = client_ip → fate = .answered
  | .expire ip fate => ip = client_ip → fate.applied = true
  | _ => True

structure Counted (K : ℕ) (client_ip : String) (state : State) : Prop where
  connected : client_ip ∈ state.failing → state.limiter.redis_client = true
  wrong : ∀ login ∈ state.succeeding, login.client_ip ≠ client_ip
  paced : Paced K state.now (state.guesses client_ip) (state.failing.count client_ip)
    (state.limiter.counters (key client_ip))

namespace Counted

theorem start (K : ℕ) (client_ip : String) :
    Counted K client_ip (system jwt settings).start where
  connected listed := nomatch listed
  wrong _ listed := nomatch listed
  paced := Paced.start K 0

/-- A step that leaves the counter of this address alone. -/
theorem frame (counted : Counted K client_ip state)
    (now : after.now = state.now) (guesses : after.guesses client_ip = state.guesses client_ip)
    (failing : after.failing.count client_ip = state.failing.count client_ip)
    (counter : after.limiter.counters (key client_ip) =
      state.limiter.counters (key client_ip))
    (connected : state.limiter.redis_client = true → after.limiter.redis_client = true)
    (wrong : ∀ login ∈ after.succeeding, login.client_ip ≠ client_ip) :
    Counted K client_ip after where
  connected listed := by
    refine connected (counted.connected ?_)
    rw [← List.count_pos_iff, ← failing]
    exact List.count_pos_iff.mpr listed
  wrong := wrong
  paced := by
    rw [now, guesses, failing, counter]
    exact counted.paced

theorem login (counted : Counted K client_ip state)
    {ip username password : String} {fate : Fate}
    (throttled : @Throttled Token settings K client_ip state
      (.login ip username password fate)) :
    Counted K client_ip (state.login settings ip username password fate) := by
  unfold State.login
  split
  · exact counted
  · rename_i free
    split
    · exact counted
    · by_cases same : ip = client_ip
      · subst same
        obtain ⟨connected, rfl, _, room⟩ := throttled rfl
        refine ⟨fun _ => connected, counted.wrong, ?_⟩
        simp only [State.now, Function.update_self, List.count_cons_self]
        refine counted.paced.guess ?_ room
        intro counter found
        by_contra many
        refine free ?_
        simp only [is_locked_out, connected, Bool.true_and, decide_true, Option.any_eq_true,
          decide_eq_true_eq]
        exact ⟨counter, found, by omega⟩
      · have different : client_ip ≠ ip := Ne.symm same
        refine counted.frame rfl ?_ ?_ rfl id counted.wrong
        · exact Function.update_of_ne different _ _
        · exact List.count_cons_of_ne same
    · rename_i user authenticated
      split
      · refine counted.frame rfl rfl rfl rfl id ?_
        intro login listed
        obtain rfl | old := List.mem_cons.mp listed
        · intro same
          exact (throttled same).2.2.1 user authenticated
        · exact counted.wrong login old
      · exact counted

theorem record_failed_login (counted : Counted K client_ip state) {ip : String} {fate : Fate}
    (answered : ip = client_ip → fate = .answered) (listed : ip ∈ state.failing) :
    Counted K client_ip (state.record_failed_login ip fate) := by
  by_cases same : ip = client_ip
  · subst same
    obtain rfl := answered rfl
    have connected := counted.connected listed
    refine ⟨fun _ => ?_, counted.wrong, ?_⟩
    · simp only [State.record_failed_login, record_failed_login_redis_client, connected]
    · have waiting : state.failing.count ip = (state.failing.erase ip).count ip + 1 := by
        rw [List.count_erase_self]
        have positive := List.count_pos_iff.mpr listed
        omega
      have paced := counted.paced
      rw [waiting] at paced
      simp only [State.record_failed_login, State.now, record_failed_login_now,
        record_failed_login_answered connected]
      exact paced.record
  · have different : client_ip ≠ ip := Ne.symm same
    refine counted.frame record_failed_login_now rfl ?_ ?_ ?_ counted.wrong
    · exact List.count_erase_of_ne different
    · exact record_failed_login_counters_of_ne different
    · exact fun connected => record_failed_login_redis_client.trans connected

theorem expire (counted : Counted K client_ip state) {ip : String} {fate : Fate}
    (applied : ip = client_ip → fate.applied = true) :
    Counted K client_ip
      { state with limiter := (AuthLimiter.expire ip fate state.limiter).2 } := by
  by_cases same : ip = client_ip
  · subst same
    refine ⟨fun listed => expire_redis_client.trans (counted.connected listed),
      counted.wrong, ?_⟩
    simp only [State.now, expire_now, expire_counters (applied rfl)]
    exact counted.paced.expire
  · exact counted.frame expire_now rfl rfl (expire_counters_of_ne (Ne.symm same))
      (fun connected => expire_redis_client.trans connected) counted.wrong

theorem clear_failed_attempts (counted : Counted K client_ip state) {login : Login}
    (listed : login ∈ state.succeeding) (fate : Fate) :
    Counted K client_ip (state.clear_failed_attempts settings login fate) := by
  have different := counted.wrong login listed
  refine counted.frame clear_failed_attempts_now rfl rfl ?_ ?_ ?_
  · exact clear_failed_attempts_counters_of_ne (Ne.symm different)
  · exact fun connected => clear_failed_attempts_redis_client.trans connected
  · intro other member
    exact counted.wrong other (List.erase_subset member)

theorem step (counted : Counted K client_ip state) {label : Label Token}
    (throttled : Throttled settings K client_ip state label)
    (taken : step jwt settings state label = some after) :
    Counted K client_ip after := by
  cases label with
  | init_redis connected =>
      refine Option.some.inj taken ▸ counted.frame rfl rfl rfl rfl ?_ counted.wrong
      intro before
      simp [init_redis, before]
  | login ip username password fate =>
      exact Option.some.inj taken ▸ counted.login throttled
  | record_failed_login ip fate =>
      obtain ⟨listed, rfl⟩ := guarded_eq_some.mp taken
      exact counted.record_failed_login throttled listed
  | expire ip fate =>
      obtain ⟨_, rfl⟩ := guarded_eq_some.mp taken
      exact counted.expire throttled
  | clear_failed_attempts login fate =>
      obtain ⟨listed, rfl⟩ := guarded_eq_some.mp taken
      exact counted.clear_failed_attempts listed fate
  | refresh token =>
      refine Option.some.inj taken ▸ ?_
      unfold State.refresh
      split
      · exact counted
      · exact counted.frame rfl rfl rfl rfl id counted.wrong
  | pass duration =>
      exact Option.some.inj taken ▸
        ⟨counted.connected, counted.wrong, counted.paced.pass duration⟩

end Counted

/-- An address that never finds the password tries at most `4 + K` passwords for
each lockout that has passed, and for the one that is running. -/
theorem guesses_bounded
    (reached : ReachedBy (system jwt settings) (Throttled settings K client_ip) state) :
    state.guesses client_ip ≤ (4 + K) * (state.now / lockout + 1) :=
  (reached.invariant (Counted.start K client_ip)
    (fun _ _ _ counted throttled taken => counted.step throttled taken)).paced.guesses_le

/-! ## A run -/

instance (result : Except String (Option AdminUser)) :
    Decidable (∀ user, result ≠ .ok (some user)) :=
  match result with
  | .error _ => isTrue (fun _ => nofun)
  | .ok none => isTrue (fun _ => nofun)
  | .ok (some user) => isFalse (fun wrong => wrong user rfl)

instance (settings : Settings) (K : ℕ) (client_ip : String) (state : State)
    (label : Label Token) : Decidable (Throttled settings K client_ip state label) :=
  match label with
  | .init_redis _ => isTrue trivial
  | .login ip username password fate => inferInstanceAs (Decidable (ip = client_ip →
      state.limiter.redis_client = true ∧ fate = .answered ∧
        (∀ user, settings.authenticate_user username password ≠ .ok (some user)) ∧
        state.failing.count client_ip < K))
  | .record_failed_login ip fate =>
      inferInstanceAs (Decidable (ip = client_ip → fate = .answered))
  | .expire ip fate => inferInstanceAs (Decidable (ip = client_ip → fate.applied = true))
  | .clear_failed_attempts _ _ => isTrue trivial
  | .refresh _ => isTrue trivial
  | .pass _ => isTrue trivial

/-- One login with a wrong password. -/
def wrong_login (client_ip : String) : List (Label Payload) :=
  [.login client_ip "admin" "guess" .answered, .record_failed_login client_ip .answered]

/-- One login at a time: the sixth is not let through. -/
theorem guesses_bounded_five :
    ∃ state, ReachedBy (system plain (same_text "s3cret"))
        (Throttled (same_text "s3cret") 1 "10.0.0.7") state ∧
      state.guesses "10.0.0.7" = 5 ∧
      state.guesses "10.0.0.7" ≤ (4 + 1) * (state.now / lockout + 1) := by
  obtain ⟨state, reached, guessed⟩ := ReachedBy.exists_of_run
    (system plain (same_text "s3cret")) (Throttled (same_text "s3cret") 1 "10.0.0.7")
    (fun state => state.guesses "10.0.0.7" = 5)
    ([.init_redis true] ++ wrong_login "10.0.0.7" ++ [.expire "10.0.0.7" .answered] ++
      wrong_login "10.0.0.7" ++ wrong_login "10.0.0.7" ++ wrong_login "10.0.0.7" ++
      wrong_login "10.0.0.7" ++ [.login "10.0.0.7" "admin" "guess" .answered])
    (by decide)
  exact ⟨state, reached, guessed, guesses_bounded reached⟩

end HftEngine.Admin.Auth
