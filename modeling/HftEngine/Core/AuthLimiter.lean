import HftEngine.Lib.Transition
import Mathlib.Data.Nat.Notation
import Mathlib.Logic.Function.Basic
import Mathlib.Order.Nat
import Mathlib.Tactic.Common

/-!
# The lockout of the login endpoints

Any number of callers use an `AuthRateLimiter`.  `record_failed_login` sends
two commands and other callers run between them; a command may fail before or
after Redis has applied it.  Times are in milliseconds.
-/

namespace HftEngine.AuthLimiter

open Transition

structure Counter where
  count : ℕ
  expires_at : Option ℕ := none
  deriving DecidableEq, Repr

inductive Fate where
  | answered
  | reply_lost
  | not_applied
  deriving DecidableEq, Repr

def Fate.applied : Fate → Bool
  | .answered => true
  | .reply_lost => true
  | .not_applied => false

def key (ip_address : String) : String := "auth:failed:" ++ ip_address

/-- The 15 minutes that a first attempt sets. -/
def lockout : ℕ := 900 * 1000

/-- The addresses in `expiring` belong to calls that have yet to send their
`expire`.  `last_failed` is when a failed attempt last sent a command. -/
structure State where
  redis_client : Bool := false
  now : ℕ := 0
  counters : String → Option Counter := fun _ => none
  expiring : List String := []
  last_failed : String → Option ℕ := fun _ => none

/-- A counter past its expiry is gone. -/
def live (now : ℕ) (slot : Option Counter) : Option Counter :=
  slot.filter (fun counter => counter.expires_at.all (fun time => now ≤ time))

namespace State

/-- What Redis finds under the key of an address. -/
def counter (state : State) (ip_address : String) : Option Counter :=
  live state.now (state.counters (key ip_address))

def write (ip_address : String) (slot : Option Counter) (state : State) : State :=
  { state with counters := Function.update state.counters (key ip_address) slot }

def failed (ip_address : String) (state : State) : State :=
  { state with
    last_failed := Function.update state.last_failed ip_address (some state.now) }

end State

def incr : Option Counter → Counter
  | none => { count := 1 }
  | some counter => { counter with count := counter.count + 1 }

def init_redis (connected : Bool) (state : State) : State :=
  { state with redis_client := state.redis_client || connected }

/-- Up to the answer of `incr`.  The result is none where the call goes on
with `expire`. -/
def record_failed_login (ip_address : String) (fate : Fate) (state : State) :
    Option ℕ × State :=
  let state := state.failed ip_address
  if state.redis_client then
    let counter := incr (state.counter ip_address)
    match fate with
    | .not_applied => (some 0, state)
    | .reply_lost => (some 0, state.write ip_address (some counter))
    | .answered =>
        if counter.count = 1 then
          (none,
            { state with expiring := ip_address :: state.expiring }.write ip_address
              (some counter))
        else (some counter.count, state.write ip_address (some counter))
  else (some 0, state)

/-- The second command of `record_failed_login`. -/
def expire (ip_address : String) (fate : Fate) (state : State) : ℕ × State :=
  let counter := state.counter ip_address
  let state :=
    { state.failed ip_address with expiring := state.expiring.erase ip_address }
  (if fate = .answered then 1 else 0,
    if fate.applied then
      state.write ip_address
        (counter.map ({ · with expires_at := some (state.now + lockout) }))
    else state)

def is_locked_out (ip_address : String) (fate : Fate) (state : State) : Bool :=
  state.redis_client && fate = .answered &&
    (state.counter ip_address).any (fun counter => 5 ≤ counter.count)

def clear_failed_attempts (ip_address : String) (fate : Fate) (state : State) : State :=
  if state.redis_client && fate.applied then state.write ip_address none else state

/-! ## Runs -/

inductive Label where
  | init_redis (connected : Bool)
  | record_failed_login (ip_address : String) (fate : Fate)
  | expire (ip_address : String) (fate : Fate)
  | clear_failed_attempts (ip_address : String) (fate : Fate)
  | is_locked_out (ip_address : String) (fate : Fate)
  | pass (duration : ℕ)
  deriving DecidableEq, Repr

def step (state : State) : Label → Option State
  | .init_redis connected => some (init_redis connected state)
  | .record_failed_login ip_address fate =>
      some (record_failed_login ip_address fate state).2
  | .expire ip_address fate =>
      if ip_address ∈ state.expiring then some (expire ip_address fate state).2
      else none
  | .clear_failed_attempts ip_address fate =>
      some (clear_failed_attempts ip_address fate state)
  | .is_locked_out _ _ => some state
  | .pass duration => some { state with now := state.now + duration }

def system : System State Label where
  start := {}
  step := step

/-- No call that leaves a counter without an expiry fails: the answer of the
`incr` that creates it arrives, and its `expire` is applied. -/
def Completes (state : State) : Label → Prop
  | .record_failed_login ip_address fate =>
      state.counter ip_address = none → fate ≠ .reply_lost
  | .expire ip_address fate =>
      (∃ counter ∈ state.counter ip_address, counter.expires_at = none) →
        fate.applied = true
  | _ => True

/-- An identifier none of whose failed attempts is under way, and which made
its last more than 15 minutes ago, is not locked out. -/
def LockoutEnds (state : State) : Prop :=
  ∀ ip_address fate, ip_address ∉ state.expiring →
    (∀ failed ∈ state.last_failed ip_address, failed + lockout < state.now) →
    is_locked_out ip_address fate state = false

/-! ## Single commands -/

theorem key_injective : Function.Injective key := by
  intro ip_address other same
  exact (String.append_right_inj "auth:failed:").mp same

namespace State

variable {state : State} {ip_address other : String}

@[simp] theorem write_now (slot : Option Counter) :
    (state.write ip_address slot).now = state.now := rfl

@[simp] theorem write_expiring (slot : Option Counter) :
    (state.write ip_address slot).expiring = state.expiring := rfl

@[simp] theorem write_last_failed (slot : Option Counter) :
    (state.write ip_address slot).last_failed = state.last_failed := rfl

@[simp] theorem failed_now : (state.failed ip_address).now = state.now := rfl

@[simp] theorem failed_expiring :
    (state.failed ip_address).expiring = state.expiring := rfl

@[simp] theorem failed_redis_client :
    (state.failed ip_address).redis_client = state.redis_client := rfl

@[simp] theorem failed_counter :
    (state.failed ip_address).counter other = state.counter other := rfl

@[simp] theorem failed_last_failed :
    (state.failed ip_address).last_failed ip_address = some state.now := by
  simp [failed]

theorem failed_last_failed_of_ne (different : other ≠ ip_address) :
    (state.failed ip_address).last_failed other = state.last_failed other := by
  simp [failed, different]

theorem counter_write_of_ne (slot : Option Counter) (different : other ≠ ip_address) :
    (state.write ip_address slot).counter other = state.counter other := by
  have keys : key other ≠ key ip_address := key_injective.ne different
  simp [counter, write, keys]

theorem mem_counter_write {slot : Option Counter} {counter : Counter}
    (found : counter ∈ (state.write ip_address slot).counter ip_address) :
    counter ∈ slot := by
  simp only [State.counter, live, write, Function.update_self, Option.mem_def,
    Option.filter_eq_some_iff] at found
  exact found.1

theorem le_of_mem_counter {counter : Counter} {time : ℕ}
    (found : counter ∈ state.counter ip_address)
    (expires : counter.expires_at = some time) : state.now ≤ time := by
  simp only [State.counter, live, Option.mem_def, Option.filter_eq_some_iff] at found
  simpa [expires] using found.2

end State

/-- What a failed attempt leaves behind up to the answer of `incr`. -/
theorem record_failed_login_cases (ip_address : String) (fate : Fate) (state : State) :
    (record_failed_login ip_address fate state).2 = state.failed ip_address ∨
      ((record_failed_login ip_address fate state).2 =
          (state.failed ip_address).write ip_address
            (some (incr (state.counter ip_address))) ∧
        (fate = .reply_lost ∨ (incr (state.counter ip_address)).count ≠ 1)) ∨
      (record_failed_login ip_address fate state).2 =
        { state.failed ip_address with
          expiring := ip_address :: state.expiring }.write ip_address
            (some (incr (state.counter ip_address))) := by
  by_cases connected : state.redis_client = true
  · cases fate with
    | not_applied => simp [record_failed_login, connected]
    | reply_lost => simp [record_failed_login, connected]
    | answered =>
        by_cases first : (incr (state.counter ip_address)).count = 1
        · simp [record_failed_login, connected, first]
        · simp [record_failed_login, connected, first]
  · simp [record_failed_login, connected]

section Clock

variable {ip_address : String} {fate : Fate} {state : State}

theorem record_failed_login_now :
    (record_failed_login ip_address fate state).2.now = state.now := by
  obtain unchanged | ⟨counted, _⟩ | waiting :=
    record_failed_login_cases ip_address fate state
  · rw [unchanged, State.failed_now]
  · rw [counted, State.write_now, State.failed_now]
  · rw [waiting, State.write_now, State.failed_now]

theorem expire_now : (expire ip_address fate state).2.now = state.now := by
  simp only [expire]
  split <;> simp

theorem clear_failed_attempts_now :
    (clear_failed_attempts ip_address fate state).now = state.now := by
  unfold clear_failed_attempts
  split <;> simp

end Clock

/-! ## What every run keeps -/

/-- A counter without an expiry waits for it, and an expiry is at most a
lockout after the last failed attempt. -/
structure Bounded (state : State) : Prop where
  clock : ∀ ip_address, ∀ failed ∈ state.last_failed ip_address, failed ≤ state.now
  awaited : ∀ ip_address, ∀ counter ∈ state.counter ip_address,
    counter.expires_at = none → ip_address ∈ state.expiring
  expiry : ∀ ip_address, ∀ counter ∈ state.counter ip_address,
    ∀ time ∈ counter.expires_at, ∃ failed ∈ state.last_failed ip_address,
      time ≤ failed + lockout

namespace Bounded

variable {state after : State} {ip_address : String}

/-- The times that `counter` may expire at after a failed attempt. -/
theorem expiry_failed (bounded : Bounded state) {counter : Counter} {time : ℕ}
    (found : counter ∈ state.counter ip_address) (expires : time ∈ counter.expires_at) :
    time ≤ state.now + lockout := by
  obtain ⟨failed, last, within⟩ := bounded.expiry _ _ found _ expires
  exact within.trans (Nat.add_le_add_right (bounded.clock _ _ last) _)

/-- A step that touches one address only. -/
theorem of_address (bounded : Bounded state) (ip_address : String)
    (now : after.now = state.now)
    (clock : ∀ failed ∈ after.last_failed ip_address, failed ≤ after.now)
    (last_failed : ∀ other ≠ ip_address,
      after.last_failed other = state.last_failed other)
    (counters : ∀ other ≠ ip_address, after.counter other = state.counter other)
    (expiring : ∀ other ≠ ip_address, other ∈ state.expiring → other ∈ after.expiring)
    (awaited : ∀ counter ∈ after.counter ip_address,
      counter.expires_at = none → ip_address ∈ after.expiring)
    (expiry : ∀ counter ∈ after.counter ip_address, ∀ time ∈ counter.expires_at,
      ∃ failed ∈ after.last_failed ip_address, time ≤ failed + lockout) :
    Bounded after where
  clock other failed last := by
    by_cases same : other = ip_address
    · exact clock failed (same ▸ last)
    · rw [last_failed other same] at last
      exact now ▸ bounded.clock other failed last
  awaited other counter found endless := by
    by_cases same : other = ip_address
    · subst same
      exact awaited counter found endless
    · rw [counters other same] at found
      exact expiring other same (bounded.awaited other counter found endless)
  expiry other counter found time expires := by
    by_cases same : other = ip_address
    · subst same
      exact expiry counter found time expires
    · rw [counters other same] at found
      rw [last_failed other same]
      exact bounded.expiry other counter found time expires

theorem start : Bounded system.start where
  clock _ _ last := nomatch last
  awaited _ _ found _ := nomatch found
  expiry _ _ found _ _ := nomatch found

theorem init_redis (bounded : Bounded state) (connected : Bool) :
    Bounded (init_redis connected state) :=
  ⟨bounded.clock, bounded.awaited, bounded.expiry⟩

/-- A failed attempt that leaves the counter as it was. -/
theorem failed (bounded : Bounded state) (ip_address : String) :
    Bounded (state.failed ip_address) := by
  refine bounded.of_address ip_address rfl ?_ ?_ ?_ ?_ ?_ ?_
  · intro failed last
    rw [State.failed_last_failed, Option.mem_some_iff] at last
    exact last.ge
  · intro other different
    exact State.failed_last_failed_of_ne different
  · intro other _
    rfl
  · intro other _ waits
    exact waits
  · intro counter found
    exact bounded.awaited ip_address counter found
  · intro counter found time expires
    refine ⟨state.now, State.failed_last_failed, ?_⟩
    exact bounded.expiry_failed found expires

/-- A counter written for an address that has just failed. -/
theorem write (bounded : Bounded state) {slot : Option Counter}
    (last : state.last_failed ip_address = some state.now)
    (awaited : ∀ counter ∈ slot, counter.expires_at = none →
      ip_address ∈ state.expiring)
    (expiry : ∀ counter ∈ slot, ∀ time ∈ counter.expires_at,
      time ≤ state.now + lockout) :
    Bounded (state.write ip_address slot) := by
  refine bounded.of_address ip_address rfl ?_ ?_ ?_ ?_ ?_ ?_
  · intro failed
    exact bounded.clock ip_address failed
  · intro other _
    rfl
  · intro other different
    exact State.counter_write_of_ne slot different
  · intro other _ waits
    exact waits
  · intro counter found
    exact awaited counter (State.mem_counter_write found)
  · intro counter found time expires
    exact ⟨state.now, last, expiry counter (State.mem_counter_write found) time expires⟩

/-- One more call that has yet to send its `expire`. -/
theorem wait (bounded : Bounded state) (ip_address : String) :
    Bounded { state with expiring := ip_address :: state.expiring } where
  clock := bounded.clock
  awaited other counter found endless :=
    List.mem_cons_of_mem _ (bounded.awaited other counter found endless)
  expiry := bounded.expiry

theorem record_failed_login (bounded : Bounded state) {fate : Fate}
    (completes : Completes state (.record_failed_login ip_address fate)) :
    Bounded (record_failed_login ip_address fate state).2 := by
  have attempted := bounded.failed ip_address
  have last : (state.failed ip_address).last_failed ip_address = some state.now :=
    State.failed_last_failed
  have expiry : ∀ counter ∈ some (incr (state.counter ip_address)),
      ∀ time ∈ counter.expires_at, time ≤ state.now + lockout := by
    rintro counter ⟨⟩ time expires
    cases found : state.counter ip_address with
    | none => simp [found, incr] at expires
    | some counter =>
        rw [found] at expires
        exact bounded.expiry_failed found expires
  obtain unchanged | ⟨counted, reason⟩ | waiting :=
    record_failed_login_cases ip_address fate state
  · rw [unchanged]
    exact attempted
  · rw [counted]
    refine attempted.write last ?_ expiry
    rintro counter ⟨⟩ endless
    cases found : state.counter ip_address with
    | none =>
        have lost := completes found
        simp [found, incr, lost] at reason
    | some counter =>
        rw [found] at endless
        exact bounded.awaited ip_address counter found endless
  · rw [waiting]
    refine (attempted.wait ip_address).write last ?_ expiry
    intro counter _ _
    exact List.mem_cons_self

/-- One call fewer that has yet to send its `expire`. -/
theorem unwait (bounded : Bounded state) (ip_address : String)
    (settled : ∀ counter ∈ state.counter ip_address, counter.expires_at ≠ none) :
    Bounded { state with expiring := state.expiring.erase ip_address } where
  clock := bounded.clock
  awaited other counter found endless := by
    have waits := bounded.awaited other counter found endless
    have different : other ≠ ip_address := by
      rintro rfl
      exact settled counter found endless
    exact (List.mem_erase_of_ne different).mpr waits
  expiry := bounded.expiry

theorem expire (bounded : Bounded state) {fate : Fate}
    (completes : Completes state (.expire ip_address fate)) :
    Bounded (expire ip_address fate state).2 := by
  have attempted := bounded.failed ip_address
  by_cases applied : fate.applied = true
  · have renewed : Bounded ((state.failed ip_address).write ip_address
        ((state.counter ip_address).map
          ({ · with expires_at := some (state.now + lockout) }))) := by
      refine attempted.write State.failed_last_failed ?_ ?_
      · intro counter found endless
        obtain ⟨before, _, rfl⟩ := Option.map_eq_some_iff.mp found
        exact nomatch endless
      · intro counter found time expires
        obtain ⟨before, _, rfl⟩ := Option.map_eq_some_iff.mp found
        exact (Option.some.inj expires).ge
    have settled := renewed.unwait ip_address (by
      intro counter found endless
      obtain ⟨before, _, rfl⟩ := Option.map_eq_some_iff.mp (State.mem_counter_write found)
      exact nomatch endless)
    simp only [AuthLimiter.expire, if_pos applied]
    exact settled
  · have settled := attempted.unwait ip_address
      (fun counter found endless => applied (completes ⟨counter, found, endless⟩))
    simp only [AuthLimiter.expire, if_neg applied]
    exact settled

theorem clear_failed_attempts (bounded : Bounded state) (fate : Fate) :
    Bounded (clear_failed_attempts ip_address fate state) := by
  unfold AuthLimiter.clear_failed_attempts
  split
  · refine bounded.of_address ip_address rfl ?_ ?_ ?_ ?_ ?_ ?_
    · intro failed
      exact bounded.clock ip_address failed
    · intro other _
      rfl
    · intro other different
      exact State.counter_write_of_ne none different
    · intro other _ waits
      exact waits
    · intro counter found
      exact nomatch State.mem_counter_write found
    · intro counter found
      exact nomatch State.mem_counter_write found
  · exact bounded

theorem pass (bounded : Bounded state) (duration : ℕ) :
    Bounded { state with now := state.now + duration } := by
  have earlier : ∀ ip_address, ∀ counter ∈
      State.counter { state with now := state.now + duration } ip_address,
      counter ∈ state.counter ip_address := by
    intro ip_address counter found
    simp only [State.counter, live, Option.mem_def, Option.filter_eq_some_iff,
      Option.all_eq_true, decide_eq_true_eq] at found ⊢
    refine ⟨found.1, fun time expires => ?_⟩
    have later := found.2 time expires
    omega
  refine ⟨?_, ?_, ?_⟩
  · intro ip_address failed last
    exact (bounded.clock ip_address failed last).trans (Nat.le_add_right _ _)
  · intro ip_address counter found
    exact bounded.awaited ip_address counter (earlier ip_address counter found)
  · intro ip_address counter found
    exact bounded.expiry ip_address counter (earlier ip_address counter found)

theorem step (bounded : Bounded state) {label : Label}
    (completes : Completes state label) (taken : step state label = some after) :
    Bounded after := by
  cases label with
  | init_redis connected => exact Option.some.inj taken ▸ bounded.init_redis connected
  | record_failed_login ip_address fate =>
      exact Option.some.inj taken ▸ bounded.record_failed_login completes
  | expire ip_address fate =>
      obtain ⟨_, rfl⟩ := guarded_eq_some.mp taken
      exact bounded.expire completes
  | clear_failed_attempts ip_address fate =>
      exact Option.some.inj taken ▸ bounded.clear_failed_attempts fate
  | is_locked_out ip_address fate => exact Option.some.inj taken ▸ bounded
  | pass duration => exact Option.some.inj taken ▸ bounded.pass duration

theorem lockoutEnds (bounded : Bounded state) : LockoutEnds state := by
  intro ip_address fate finished past
  rw [Bool.eq_false_iff]
  intro locked
  simp only [is_locked_out, Bool.and_eq_true, Option.any_eq_true] at locked
  obtain ⟨_, counter, found, _⟩ := locked
  cases expires : counter.expires_at with
  | none => exact finished (bounded.awaited ip_address counter found expires)
  | some time =>
      obtain ⟨failed, last, within⟩ := bounded.expiry ip_address counter found time expires
      have alive := State.le_of_mem_counter found expires
      have late := past failed last
      omega

end Bounded

theorem lockout_ends {state : State} (reached : ReachedBy system Completes state) :
    LockoutEnds state :=
  (reached.invariant (I := Bounded) Bounded.start
    (fun _ _ _ bounded completes taken => bounded.step completes taken)).lockoutEnds

/-- One failed attempt of a connected limiter; all its commands are answered. -/
def attempt (ip_address : String) : List Label :=
  [.record_failed_login ip_address .answered, .expire ip_address .answered]

theorem lockout_ends_attempt :
    ∃ state, ReachedBy system Completes state ∧
      state.last_failed "10.0.0.7" = some 0 ∧ LockoutEnds state := by
  have permitted : ∀ label ∈ Label.init_redis true :: attempt "10.0.0.7",
      ∀ state, Completes state label := by
    intro label listed state
    simp only [attempt, List.mem_cons, List.not_mem_nil, or_false] at listed
    obtain rfl | rfl | rfl := listed
    · trivial
    · exact fun _ => nofun
    · exact fun _ => rfl
  have reached := ReachedBy.follow permitted (ReachedBy.start : ReachedBy system Completes _) rfl
  exact ⟨_, reached, by decide, lockout_ends reached⟩

/-- The `expire` of the first of five attempts is lost. -/
theorem lockout_remains :
    ∃ state, Reachable system state ∧ ¬LockoutEnds state := by
  obtain ⟨state, reached, locked, finished, last, late⟩ :=
    ReachedBy.exists_of_run system (fun _ _ => True)
      (fun state => is_locked_out "10.0.0.7" .answered state = true ∧
        "10.0.0.7" ∉ state.expiring ∧ state.last_failed "10.0.0.7" = some 0 ∧
        lockout < state.now)
      ([.init_redis true, .record_failed_login "10.0.0.7" .answered,
        .expire "10.0.0.7" .not_applied] ++
        List.replicate 4 (.record_failed_login "10.0.0.7" .answered) ++
        [.pass (lockout + 1)])
      (by decide)
  refine ⟨state, reached, fun ends => ?_⟩
  have free := ends "10.0.0.7" .answered finished (by
    rintro failed recorded
    rw [last, Option.mem_some_iff] at recorded
    omega)
  rw [locked] at free
  exact nomatch free

end HftEngine.AuthLimiter
