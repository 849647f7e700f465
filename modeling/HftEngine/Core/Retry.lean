import Mathlib.Algebra.Order.Field.Basic
import Mathlib.Data.Rat.Defs
import Mathlib.Algebra.Order.Ring.Rat
import Mathlib.Tactic.Linarith
import Mathlib.Tactic.NormNum
import Mathlib.Tactic.Positivity
import Mathlib.Tactic.Ring

/-!
# Retries

The loop of `retry` and of `retry_with_backoff`, and the three backoff
strategies.  Delays are exact, except that a power of two from 2¹⁰²⁴ on is too
large to be converted to a float.
-/

namespace HftEngine.Retry

variable {α : Type*} [Field α] [LinearOrder α]

/-! ## Backoff strategies -/

/-- None where it raises an `OverflowError`. -/
def exponential_backoff (attempt : ℕ) (base_delay max_delay : α) : Option α :=
  if attempt < 1024 then some (min (base_delay * (2 ^ attempt : ℕ)) max_delay)
  else none

/-- The argument `random` is what `random.random()` draws. -/
def exponential_with_jitter (random : α) (attempt : ℕ) (base_delay max_delay : α) :
    Option α :=
  (exponential_backoff attempt base_delay max_delay).map (fun delay =>
    let jitter := delay * 0.25 * (((2 : ℕ) : α) * random - 1)
    max 0 (delay + jitter))

def linear_backoff (attempt : ℕ) (base_delay max_delay : α) : α :=
  let delay := base_delay * ((attempt : α) + 1)
  min delay max_delay

inductive Strategy where
  | exponential
  | exponential_jitter
  | linear
  deriving DecidableEq, Repr

/-- The attempts of one run draw one number each. -/
def Strategy.backoff (random : ℕ → α) (strategy : Strategy)
    (attempt : ℕ) (base_delay max_delay : α) : Option α :=
  match strategy with
  | .exponential => exponential_backoff attempt base_delay max_delay
  | .exponential_jitter =>
      exponential_with_jitter (random attempt) attempt base_delay max_delay
  | .linear => some (linear_backoff attempt base_delay max_delay)

/-! ## The loop -/

variable {Delay Error Result : Type*}

/-- The loop ends in `raised_none` where it raises `last_exception` although
there is none, and in `overflow` where the backoff raises. -/
inductive Outcome (Error Result : Type*) where
  | returned (result : Result)
  | raised (error : Error)
  | raised_none
  | overflow
  deriving DecidableEq, Repr

structure Run (Delay Error Result : Type*) where
  calls : ℕ := 0
  sleeps : List Delay := []
  notified : List (Error × ℕ × Delay) := []
  outcome : Outcome Error Result

/-- The outcomes of `func` are listed by the number of the call. -/
structure Task (Error Result : Type*) where
  max_attempts : ℤ
  exceptions : Error → Bool
  func : ℕ → Except Error Result

/-- The rest of the loop, with this many attempts left. -/
def Task.attempts (task : Task Error Result) (backoff : ℕ → Option Delay)
    (on_retry : Bool) : ℕ → ℕ → Option Error → Run Delay Error Result
  | 0, _, none => { outcome := .raised_none }
  | 0, _, some last_exception => { outcome := .raised last_exception }
  | left + 1, attempt, _ =>
      match task.func attempt with
      | .ok result => { calls := 1, outcome := .returned result }
      | .error error =>
          if task.exceptions error then
            if (attempt : ℤ) < task.max_attempts - 1 then
              match backoff attempt with
              | none => { calls := 1, outcome := .overflow }
              | some delay =>
                  let rest := task.attempts backoff on_retry left (attempt + 1) (some error)
                  { calls := rest.calls + 1
                    sleeps := delay :: rest.sleeps
                    notified :=
                      if on_retry then (error, attempt, delay) :: rest.notified
                      else rest.notified
                    outcome := rest.outcome }
            else
              let rest := task.attempts backoff on_retry left (attempt + 1) (some error)
              { rest with calls := rest.calls + 1 }
          else { calls := 1, outcome := .raised error }

/-- `on_retry` says whether there is a callback. -/
def retry_with_backoff (backoff : ℕ → Option Delay) (on_retry : Bool)
    (task : Task Error Result) : Run Delay Error Result :=
  task.attempts backoff on_retry task.max_attempts.toNat 0 none

def retry (backoff : ℕ → Delay → Delay → Option Delay) (base_delay max_delay : Delay)
    (task : Task Error Result) : Run Delay Error Result :=
  let backoff_func := fun attempt => backoff attempt base_delay max_delay
  task.attempts backoff_func false task.max_attempts.toNat 0 none

/-! ## What the loop comes to -/

namespace Task

/-- A call that fails with one of the exceptions to retry. -/
def Retryable (task : Task Error Result) (attempt : ℕ) : Prop :=
  ∃ error, task.func attempt = .error error ∧ task.exceptions error = true

/-- All attempts before this one are made and are to be retried. -/
def Reaches (task : Task Error Result) (attempt : ℕ) : Prop :=
  (attempt : ℤ) < task.max_attempts ∧ ∀ earlier < attempt, task.Retryable earlier

/-- There is a delay after this attempt. -/
def Sleeps (task : Task Error Result) (attempt : ℕ) : Prop :=
  (attempt : ℤ) < task.max_attempts - 1 ∧ ∀ earlier ≤ attempt, task.Retryable earlier

/-- What is promised of a run whose delays have a cap. -/
structure Law (task : Task Error Result) (max_delay : α)
    (run : Run α Error Result) : Prop where
  calls : run.calls ≤ task.max_attempts.toNat
  success : ∀ attempt result, task.Reaches attempt →
    task.func attempt = .ok result →
      run.outcome = .returned result ∧ run.calls = attempt + 1
  at_once : ∀ attempt error, task.Reaches attempt →
    task.func attempt = .error error → task.exceptions error = false →
      run.outcome = .raised error ∧ run.calls = attempt + 1
  last : ∀ attempt error, task.Reaches attempt →
    (attempt : ℤ) = task.max_attempts - 1 →
    task.func attempt = .error error → task.exceptions error = true →
      run.outcome = .raised error ∧ run.calls = attempt + 1
  proper : (∃ result, run.outcome = .returned result) ∨
    ∃ error, run.outcome = .raised error
  sleeps : ∀ delay ∈ run.sleeps, 0 ≤ delay ∧ delay ≤ max_delay

end Task

section Loop

variable {task : Task Error Result} {backoff : ℕ → Option Delay} {on_retry : Bool}
  {left : ℕ} {attempt : ℕ} {last : Option Error}

namespace Task

/-- One turn of the loop. -/
theorem attempts_succ :
    task.attempts backoff on_retry (left + 1) attempt last =
      match task.func attempt with
      | .ok result => { calls := 1, outcome := .returned result }
      | .error error =>
          if task.exceptions error then
            if (attempt : ℤ) < task.max_attempts - 1 then
              match backoff attempt with
              | none => { calls := 1, outcome := .overflow }
              | some delay =>
                  let rest := task.attempts backoff on_retry left (attempt + 1) (some error)
                  { calls := rest.calls + 1
                    sleeps := delay :: rest.sleeps
                    notified :=
                      if on_retry then (error, attempt, delay) :: rest.notified
                      else rest.notified
                    outcome := rest.outcome }
            else
              let rest := task.attempts backoff on_retry left (attempt + 1) (some error)
              { rest with calls := rest.calls + 1 }
          else { calls := 1, outcome := .raised error } := rfl

theorem attempts_ok {result : Result} (returns : task.func attempt = .ok result) :
    task.attempts backoff on_retry (left + 1) attempt last =
      { calls := 1, outcome := .returned result } := by
  rw [attempts_succ, returns]

theorem attempts_error {error : Error} (fails : task.func attempt = .error error)
    (final : task.exceptions error = false) :
    task.attempts backoff on_retry (left + 1) attempt last =
      { calls := 1, outcome := .raised error } := by
  simp [attempts_succ, fails, final]

theorem attempts_overflow {error : Error} (fails : task.func attempt = .error error)
    (retried : task.exceptions error = true)
    (more : (attempt : ℤ) < task.max_attempts - 1) (raises : backoff attempt = none) :
    task.attempts backoff on_retry (left + 1) attempt last =
      { calls := 1, outcome := .overflow } := by
  simp [attempts_succ, fails, retried, more, raises]

theorem attempts_last {error : Error} (fails : task.func attempt = .error error)
    (retried : task.exceptions error = true)
    (last_one : (attempt : ℤ) = task.max_attempts - 1) :
    task.attempts backoff on_retry 1 attempt last =
      { calls := 1, outcome := .raised error } := by
  simp [attempts, fails, retried, last_one]

variable (on_retry left last)

theorem attempts_sleep {error : Error} {delay : Delay}
    (fails : task.func attempt = .error error)
    (retried : task.exceptions error = true)
    (more : (attempt : ℤ) < task.max_attempts - 1)
    (computed : backoff attempt = some delay) :
    let run := task.attempts backoff on_retry (left + 1) attempt last
    let rest := task.attempts backoff on_retry left (attempt + 1) (some error)
    run.calls = rest.calls + 1 ∧ run.sleeps = delay :: rest.sleeps ∧
      run.outcome = rest.outcome := by
  simp [attempts_succ, fails, retried, more, computed]

/-- The calls never exceed the attempts that are left. -/
theorem calls_attempts_le (attempt : ℕ) :
    (task.attempts backoff on_retry left attempt last).calls ≤ left := by
  fun_induction attempts task backoff on_retry left attempt last with
  | case1 | case2 => exact Nat.zero_le _
  | case3 | case4 | case7 => simp
  | case5 _ _ _ _ _ _ _ _ _ _ ih => exact Nat.succ_le_succ ih
  | case6 _ _ _ _ _ _ _ _ ih => exact Nat.succ_le_succ ih

/-- The loop comes to every attempt before which all are retried. -/
theorem attempts_reach (reaches : task.Reaches attempt)
    (computed : ∀ earlier < attempt, (backoff earlier).isSome) :
    ∃ (left : ℕ) (last : Option Error), (attempt : ℤ) + left + 1 = task.max_attempts ∧
      let run := task.attempts backoff on_retry task.max_attempts.toNat 0 none
      let rest := task.attempts backoff on_retry (left + 1) attempt last
      run.calls = rest.calls + attempt ∧ run.outcome = rest.outcome ∧
        rest.sleeps ⊆ run.sleeps := by
  induction attempt with
  | zero =>
      obtain ⟨left, all⟩ : ∃ left, task.max_attempts.toNat = left + 1 :=
        Nat.exists_eq_succ_of_ne_zero (by have := reaches.1; omega)
      refine ⟨left, none, by omega, ?_⟩
      rw [all]
      exact ⟨rfl, rfl, List.Subset.refl _⟩
  | succ attempt ih =>
      have more := reaches.1
      obtain ⟨left, last, count, calls, outcome, sleeps⟩ :=
        ih ⟨by omega, fun earlier before => reaches.2 earlier (by omega)⟩
          (fun earlier before => computed earlier (by omega))
      obtain ⟨error, fails, retried⟩ := reaches.2 attempt (by omega)
      obtain ⟨delay, computed⟩ :=
        Option.isSome_iff_exists.mp (computed attempt (by omega))
      obtain ⟨calls', sleeps', outcome'⟩ :=
        attempts_sleep on_retry left last fails retried
          (by omega) computed
      obtain ⟨left, rfl⟩ : ∃ fewer, left = fewer + 1 :=
        Nat.exists_eq_succ_of_ne_zero (by omega)
      refine ⟨left, some error, by push_cast at count ⊢; omega, ?_, ?_, ?_⟩
      · rw [calls, calls']
        omega
      · rw [outcome, outcome']
      · rw [sleeps'] at sleeps
        exact List.Subset.trans (List.subset_cons_self _ _) sleeps

theorem Sleeps.reaches (sleeps : task.Sleeps attempt) : task.Reaches (attempt + 1) :=
  ⟨by have := sleeps.1; omega, fun earlier before => sleeps.2 earlier (by omega)⟩

theorem Reaches.sleeps (reaches : task.Reaches attempt) {earlier : ℕ}
    (before : earlier < attempt) : task.Sleeps earlier :=
  ⟨by have := reaches.1; omega, fun other upto => reaches.2 other (by omega)⟩

/-- A delay is computed for each attempt that is retried, and then slept. -/
theorem sleep_or_overflow (sleeps : task.Sleeps attempt)
    (computed : ∀ earlier < attempt, (backoff earlier).isSome) :
    let run := task.attempts backoff on_retry task.max_attempts.toNat 0 none
    (∃ delay ∈ run.sleeps, backoff attempt = some delay) ∨
      (backoff attempt = none ∧ run.outcome = .overflow) := by
  obtain ⟨left, last, _, _, outcome, slept⟩ :=
    attempts_reach on_retry
      ⟨by have := sleeps.1; omega, fun earlier before => sleeps.2 earlier before.le⟩ computed
  obtain ⟨error, fails, retried⟩ := sleeps.2 attempt le_rfl
  cases raised : backoff attempt with
  | none =>
      right
      rw [outcome, attempts_overflow fails retried sleeps.1 raised]
      exact ⟨rfl, rfl⟩
  | some delay =>
      left
      obtain ⟨_, sleeps', _⟩ :=
        attempts_sleep on_retry left last fails retried
          sleeps.1 raised
      exact ⟨delay, slept (sleeps' ▸ List.mem_cons_self), rfl⟩

/-- Every sleep is the delay of an attempt that is retried. -/
theorem exists_sleeps_of_mem {delay : Delay} (attempt : ℕ)
    (reached : ∀ earlier < attempt, task.Retryable earlier)
    (slept : delay ∈ (task.attempts backoff on_retry left attempt last).sleeps) :
    ∃ attempt, task.Sleeps attempt ∧ backoff attempt = some delay := by
  fun_induction attempts task backoff on_retry left attempt last with
  | case1 | case2 | case3 | case4 | case7 => exact nomatch slept
  | case5 left attempt _ error fails retried more first computed rest ih =>
      have upto : ∀ earlier < attempt + 1, task.Retryable earlier := by
        intro earlier before
        obtain same | sooner := Nat.eq_or_lt_of_le (Nat.le_of_lt_succ before)
        · exact same ▸ ⟨error, fails, retried⟩
        · exact reached earlier sooner
      obtain rfl | later := List.mem_cons.mp slept
      · exact ⟨attempt, ⟨more, fun earlier before => upto earlier (by omega)⟩, computed⟩
      · exact ih upto later
  | case6 left attempt _ error fails retried _ rest ih =>
      refine ih ?_ slept
      intro earlier before
      obtain same | sooner := Nat.eq_or_lt_of_le (Nat.le_of_lt_succ before)
      · exact same ▸ ⟨error, fails, retried⟩
      · exact reached earlier sooner

/-- An attempt with which the loop ends. -/
theorem exists_final (some_attempt : 1 ≤ task.max_attempts) :
    ∃ attempt, task.Reaches attempt ∧
      (¬task.Retryable attempt ∨ (attempt : ℤ) = task.max_attempts - 1) := by
  by_cases all : ∀ attempt : ℕ, (attempt : ℤ) < task.max_attempts →
      task.Retryable attempt
  · obtain ⟨attempt, final⟩ := Int.eq_ofNat_of_zero_le (sub_nonneg.mpr some_attempt)
    exact ⟨attempt, ⟨by omega, fun earlier before => all earlier (by omega)⟩, .inr final.symm⟩
  · classical
    push Not at all
    obtain ⟨inside, final⟩ := Nat.find_spec all
    refine ⟨Nat.find all, ⟨inside, fun earlier before => ?_⟩, .inl final⟩
    by_contra ends
    exact Nat.find_min all before ⟨by omega, ends⟩

section Ends

variable (computed : ∀ attempt, task.Sleeps attempt → (backoff attempt).isSome)

include computed

theorem ends_ok {result : Result} (reaches : task.Reaches attempt)
    (returns : task.func attempt = .ok result) :
    let run := task.attempts backoff on_retry task.max_attempts.toNat 0 none
    run.outcome = .returned result ∧ run.calls = attempt + 1 := by
  obtain ⟨left, last, _, calls, outcome, _⟩ := attempts_reach on_retry
    reaches (fun earlier before => computed earlier (reaches.sleeps before))
  rw [attempts_ok returns] at calls outcome
  exact ⟨outcome, calls.trans (Nat.add_comm 1 attempt)⟩

theorem ends_error {error : Error} (reaches : task.Reaches attempt)
    (fails : task.func attempt = .error error) (final : task.exceptions error = false) :
    let run := task.attempts backoff on_retry task.max_attempts.toNat 0 none
    run.outcome = .raised error ∧ run.calls = attempt + 1 := by
  obtain ⟨left, last, _, calls, outcome, _⟩ := attempts_reach on_retry
    reaches (fun earlier before => computed earlier (reaches.sleeps before))
  rw [attempts_error fails final] at calls outcome
  exact ⟨outcome, calls.trans (Nat.add_comm 1 attempt)⟩

theorem ends_last {error : Error} (reaches : task.Reaches attempt)
    (last_one : (attempt : ℤ) = task.max_attempts - 1)
    (fails : task.func attempt = .error error) (retried : task.exceptions error = true) :
    let run := task.attempts backoff on_retry task.max_attempts.toNat 0 none
    run.outcome = .raised error ∧ run.calls = attempt + 1 := by
  obtain ⟨left, last, count, calls, outcome, _⟩ := attempts_reach on_retry
    reaches (fun earlier before => computed earlier (reaches.sleeps before))
  obtain rfl : left = 0 := by omega
  rw [attempts_last fails retried last_one] at calls outcome
  exact ⟨outcome, calls.trans (Nat.add_comm 1 attempt)⟩

end Ends

end Task

end Loop

/-- The delay after an attempt is between zero and the cap. -/
def Within (max_delay : α) (delay : Option α) : Prop :=
  ∃ computed, delay = some computed ∧ 0 ≤ computed ∧ computed ≤ max_delay

section Laws

variable {attempt : ℕ} {base_delay max_delay : α} {task : Task Error Result}

namespace Task

variable {backoff : ℕ → Option α} (on_retry : Bool)

theorem law_iff :
    task.Law max_delay
        (task.attempts backoff on_retry task.max_attempts.toNat 0 none) ↔
      1 ≤ task.max_attempts ∧ ∀ attempt, task.Sleeps attempt →
        Within max_delay (backoff attempt) := by
  constructor
  · intro law
    refine ⟨?_, fun attempt => ?_⟩
    · by_contra none_left
      have no_attempt : task.max_attempts.toNat = 0 := by omega
      have proper := law.proper
      simp [no_attempt, attempts] at proper
    · induction attempt using Nat.strong_induction_on with
      | _ attempt ih =>
          intro sleeps
          have computed : ∀ earlier < attempt, (backoff earlier).isSome := by
            intro earlier before
            obtain ⟨delay, computed, _⟩ := ih earlier before
              ⟨by have := sleeps.1; omega, fun other upto => sleeps.2 other (by omega)⟩
            exact Option.isSome_iff_exists.mpr ⟨delay, computed⟩
          obtain ⟨delay, slept, computed⟩ | ⟨_, overflow⟩ :=
            sleep_or_overflow on_retry sleeps computed
          · exact ⟨delay, computed, law.sleeps delay slept⟩
          · have proper := law.proper
            simp [overflow] at proper
  · rintro ⟨some_attempt, fits⟩
    have computed : ∀ attempt, task.Sleeps attempt → (backoff attempt).isSome := by
      intro attempt sleeps
      obtain ⟨delay, computed, _⟩ := fits attempt sleeps
      exact Option.isSome_iff_exists.mpr ⟨delay, computed⟩
    have success := fun attempt result =>
      @ends_ok _ _ _ task backoff on_retry attempt computed result
    have at_once := fun attempt error =>
      @ends_error _ _ _ task backoff on_retry attempt computed error
    have last := fun attempt error =>
      @ends_last _ _ _ task backoff on_retry attempt computed error
    refine ⟨calls_attempts_le _ _ _ _, success, at_once, last, ?_, ?_⟩
    · obtain ⟨attempt, reaches, ends⟩ := exists_final some_attempt
      cases answer : task.func attempt with
      | ok result => exact .inl ⟨result, (success attempt result reaches answer).1⟩
      | error error =>
          right
          cases retried : task.exceptions error with
          | false => exact ⟨error, (at_once attempt error reaches answer retried).1⟩
          | true =>
              obtain final | final := ends
              · exact absurd ⟨error, answer, retried⟩ final
              · exact ⟨error, (last attempt error reaches final answer retried).1⟩
    · intro delay slept
      obtain ⟨attempt, sleeps, delayed⟩ :=
        exists_sleeps_of_mem _ _ _ 0 (fun earlier before => absurd before (by omega)) slept
      obtain ⟨fitting, computed', bounds⟩ := fits attempt sleeps
      obtain rfl := Option.some.inj (delayed.symm.trans computed')
      exact bounds

theorem law_retry_iff {backoff : ℕ → α → α → Option α} :
    task.Law max_delay (retry backoff base_delay max_delay task) ↔
      1 ≤ task.max_attempts ∧ ∀ attempt, task.Sleeps attempt →
        Within max_delay (backoff attempt base_delay max_delay) :=
  law_iff false

end Task

/-- The settings for which the delay after an attempt is between zero and the
cap, whatever is drawn. -/
def Strategy.Fits (strategy : Strategy) (attempt : ℕ) (base_delay max_delay : α) : Prop :=
  match strategy with
  | .exponential => attempt < 1024 ∧ 0 ≤ base_delay ∧ 0 ≤ max_delay
  | .exponential_jitter =>
      attempt < 1024 ∧ (max_delay = 0 ∨
        0 < max_delay ∧ base_delay * (2 ^ attempt : ℕ) ≤ 0.8 * max_delay)
  | .linear => 0 ≤ base_delay ∧ 0 ≤ max_delay

variable [IsStrictOrderedRing α]

theorem within_exponential :
    Within max_delay (exponential_backoff attempt base_delay max_delay) ↔
      attempt < 1024 ∧ 0 ≤ base_delay ∧ 0 ≤ max_delay := by
  by_cases small : attempt < 1024
  · simp [Within, exponential_backoff, small]
  · simp [Within, exponential_backoff, small]

theorem within_linear :
    Within max_delay (some (linear_backoff attempt base_delay max_delay)) ↔
      0 ≤ base_delay ∧ 0 ≤ max_delay := by
  have positive : (0 : α) < (attempt : α) + 1 := by positivity
  simp [Within, linear_backoff, positive]

theorem exponential_with_jitter_eq (random : α) (small : attempt < 1024) :
    exponential_with_jitter random attempt base_delay max_delay =
      some (max 0 (min (base_delay * 2 ^ attempt) max_delay * (3 / 4 + random / 2))) := by
  have spread (delay : α) :
      delay + delay * 0.25 * (((2 : ℕ) : α) * random - 1) =
        delay * (3 / 4 + random / 2) := by
    norm_num
    ring
  rw [exponential_with_jitter, exponential_backoff, if_pos small]
  simp only [Option.map_some, spread]
  push_cast
  rfl

/-- Some draw stretches a delay above four fifths of the cap beyond it. -/
theorem exists_stretched {delay : α} (positive : 0 < max_delay)
    (above : 4 / 5 * max_delay < delay) :
    ∃ random, 0 ≤ random ∧ random < 1 ∧ max_delay < delay * (3 / 4 + random / 2) := by
  have delay_positive : 0 < delay := lt_trans (by positivity) above
  have room : 2 * (max_delay / delay - 3 / 4) < 1 := by
    have ratio : max_delay / delay < 5 / 4 := by
      rw [div_lt_iff₀ delay_positive]
      linarith
    linarith
  obtain ⟨random, larger, smaller⟩ := exists_between (max_lt zero_lt_one room)
  refine ⟨random, (le_max_left _ _).trans larger.le, smaller, ?_⟩
  have enough : max_delay / delay < 3 / 4 + random / 2 := by
    have := (le_max_right _ _).trans_lt larger
    linarith
  rw [mul_comm]
  exact (div_lt_iff₀ delay_positive).mp enough

theorem stretched_le {delay random : α} (nonneg : 0 ≤ random) (less : random < 1)
    (cap : 0 ≤ max_delay) (below : delay ≤ 4 / 5 * max_delay) :
    delay * (3 / 4 + random / 2) ≤ max_delay := by
  obtain negative | positive := le_total delay 0
  · exact (mul_nonpos_of_nonpos_of_nonneg negative (by linarith)).trans cap
  · calc
      delay * (3 / 4 + random / 2) ≤ delay * (5 / 4) :=
        mul_le_mul_of_nonneg_left (by linarith) positive
      _ ≤ max_delay := by linarith

theorem within_exponential_with_jitter :
    (∀ random, 0 ≤ random → random < 1 →
        Within max_delay (exponential_with_jitter random attempt base_delay max_delay)) ↔
      Strategy.exponential_jitter.Fits attempt base_delay max_delay := by
  have share : (0.8 : α) = 4 / 5 := by norm_num
  by_cases small : attempt < 1024
  · simp only [Strategy.Fits, exponential_with_jitter_eq _ small, small, true_and, Within,
      Option.some.injEq, exists_eq_left', le_max_left, max_le_iff, share, Nat.cast_pow,
      Nat.cast_ofNat]
    constructor
    · intro within
      obtain negative | rfl | positive := lt_trichotomy max_delay 0
      · exact absurd (within 0 le_rfl zero_lt_one).1 (not_le.mpr negative)
      · exact .inl rfl
      · refine .inr ⟨positive, ?_⟩
        by_contra above
        have capped : 4 / 5 * max_delay <
            min (base_delay * 2 ^ attempt) max_delay :=
          lt_min (not_le.mp above) (by linarith)
        obtain ⟨random, nonneg, less, beyond⟩ := exists_stretched positive capped
        exact absurd (within random nonneg less).2 (not_le.mpr beyond)
    · rintro (rfl | ⟨positive, below⟩) random nonneg less
      · refine ⟨le_rfl, stretched_le nonneg less le_rfl ?_⟩
        simp
      · exact ⟨positive.le, stretched_le nonneg less positive.le
          ((min_le_left _ _).trans below)⟩
  · have raises (random : α) :
        exponential_with_jitter random attempt base_delay max_delay = none := by
      simp [exponential_with_jitter, exponential_backoff, small]
    simp only [Strategy.Fits, small, false_and, iff_false, raises]
    intro within
    obtain ⟨_, impossible, _⟩ := within 0 le_rfl zero_lt_one
    exact nomatch impossible

theorem within_backoff (strategy : Strategy) :
    (∀ random : ℕ → α, (∀ i, 0 ≤ random i ∧ random i < 1) →
        Within max_delay (strategy.backoff random attempt base_delay max_delay)) ↔
      strategy.Fits attempt base_delay max_delay := by
  have drawn : ∃ random : ℕ → α, ∀ i, 0 ≤ random i ∧ random i < 1 :=
    ⟨fun _ => 0, fun _ => ⟨le_rfl, zero_lt_one⟩⟩
  cases strategy with
  | exponential =>
      obtain ⟨random, bounds⟩ := drawn
      exact ⟨fun within => within_exponential.mp (within random bounds),
        fun fits _ _ => within_exponential.mpr fits⟩
  | exponential_jitter =>
      rw [← within_exponential_with_jitter]
      exact ⟨fun within random nonneg less =>
          within (fun _ => random) (fun _ => ⟨nonneg, less⟩),
        fun within random bounds =>
          within (random attempt) (bounds attempt).1 (bounds attempt).2⟩
  | linear =>
      obtain ⟨random, bounds⟩ := drawn
      exact ⟨fun within => within_linear.mp (within random bounds),
        fun fits _ _ => within_linear.mpr fits⟩

end Laws

/-- Both forms of the loop keep the law for all draws. -/
def Lawful (strategy : Strategy) (base_delay max_delay : α)
    (task : Task Error Result) : Prop :=
  ∀ random : ℕ → α, (∀ i, 0 ≤ random i ∧ random i < 1) →
    task.Law max_delay (retry (strategy.backoff random) base_delay max_delay task) ∧
      ∀ on_retry, task.Law max_delay
        (retry_with_backoff
          (fun attempt => strategy.backoff random attempt base_delay max_delay)
          on_retry task)

theorem lawful_iff [IsStrictOrderedRing α] (strategy : Strategy)
    (base_delay max_delay : α) (task : Task Error Result) :
    Lawful strategy base_delay max_delay task ↔
      1 ≤ task.max_attempts ∧ ∀ attempt, task.Sleeps attempt →
        strategy.Fits attempt base_delay max_delay := by
  have same : ∀ random : ℕ → α,
      (task.Law max_delay (retry (strategy.backoff random) base_delay max_delay task) ∧
        ∀ on_retry, task.Law max_delay
          (retry_with_backoff
            (fun attempt => strategy.backoff random attempt base_delay max_delay)
            on_retry task)) ↔
        1 ≤ task.max_attempts ∧ ∀ attempt, task.Sleeps attempt →
          Within max_delay (strategy.backoff random attempt base_delay max_delay) := by
    intro random
    constructor
    · intro laws
      exact Task.law_retry_iff.mp laws.1
    · intro fits
      exact ⟨Task.law_retry_iff.mpr fits, fun _ => (Task.law_iff _).mpr fits⟩
  simp only [Lawful, same, ← within_backoff]
  constructor
  · intro laws
    refine ⟨(laws (fun _ => 0) (fun _ => ⟨le_rfl, zero_lt_one⟩)).1, ?_⟩
    intro attempt sleeps random bounds
    exact (laws random bounds).2 attempt sleeps
  · rintro ⟨some_attempt, fits⟩ random bounds
    exact ⟨some_attempt, fun attempt sleeps => fits attempt sleeps random bounds⟩

/-- A task that fails each time. -/
def failing (max_attempts : ℤ) : Task Unit Unit where
  max_attempts := max_attempts
  exceptions := fun _ => true
  func := fun _ => .error ()

theorem failing_sleeps : (failing 2).Sleeps 0 :=
  ⟨by decide, fun _ _ => ⟨(), rfl, rfl⟩⟩

theorem lawful_iff_failing :
    Lawful .linear (1 : ℚ) 10 (failing 2) ↔
      1 ≤ (failing 2).max_attempts ∧ ∀ attempt, (failing 2).Sleeps attempt →
        Strategy.linear.Fits attempt (1 : ℚ) 10 :=
  lawful_iff .linear 1 10 (failing 2)

/-- No attempt is allowed, and a delay at the cap is stretched beyond it. -/
theorem not_lawful :
    ¬Lawful .linear (1 : ℚ) 10 (failing 0) ∧
      ¬Lawful .exponential_jitter (60 : ℚ) 60 (failing 2) := by
  constructor
  · intro lawful
    have proper := (lawful (fun _ => 0) (fun _ => by norm_num)).1.proper
    simp [retry, failing, Task.attempts] at proper
  · intro lawful
    have law := (lawful (fun _ => 3 / 4) (fun _ => by norm_num)).1
    obtain ⟨delay, computed, _, within⟩ := (Task.law_retry_iff.mp law).2 0 failing_sleeps
    rw [Strategy.backoff, exponential_with_jitter_eq _ (by norm_num),
      Option.some.injEq] at computed
    norm_num at computed
    linarith

end HftEngine.Retry
