import HftEngine.Core.Bulkhead
import HftEngine.Core.CircuitBreaker
import Mathlib.Algebra.Order.Ring.Rat
import Mathlib.Tactic.NormNum

/-!
# The combined decorator

`resilient` wraps an async function into the patterns that are switched on.  A
coroutine is run from the state of the bulkhead and the number of calls that
the function has had; it ends, or is pending for ever unless it is cancelled.
-/

namespace HftEngine.Resilience

inductive Error (Raised : Type*) where
  | func (error : Raised)
  | asyncio_timeout
  | bulkhead_rejection
  | attribute_error
  | recursion_error
  | timeout
  | retry_exhausted
  deriving DecidableEq, Repr

inductive Outcome (Value Raised : Type*) where
  | returned (value : Value)
  | raised (error : Error Raised)
  | pending
  deriving DecidableEq, Repr

structure World where
  bulkhead : Bulkhead.State
  calls : ℕ := 0
  deriving DecidableEq, Repr

/-- The world is the one after the end or after the cancellation. -/
structure Run (Value Raised : Type*) where
  outcome : Outcome Value Raised
  duration : ℚ
  world : World
  deriving DecidableEq, Repr

variable {Value Raised : Type*}

abbrev Coroutine (Value Raised : Type*) := World → Run Value Raised

/-- The function, by the number of the call: what it comes to and how long it
takes. -/
abbrev Func (Value Raised : Type*) := ℕ → Outcome Value Raised × ℚ

def call (func : Func Value Raised) : Coroutine Value Raised := fun world =>
  { outcome := (func world.calls).1
    duration := (func world.calls).2
    world := { world with calls := world.calls + 1 } }

def fail (error : Error Raised) : Coroutine Value Raised := fun world =>
  { outcome := .raised error, duration := 0, world }

/-! ## Patterns -/

/-- `Bulkhead.execute`.  Where no slot is left the coroutine waits for one. -/
def bulkhead_execute (config : Bulkhead.Config) (func : Coroutine Value Raised) :
    Coroutine Value Raised := fun world =>
  let state := world.bulkhead
  let entered (at_once : Bool) := (state.execute config at_once).getD state
  if config.max_queue ≤ state.queue_size then
    { outcome := .raised .bulkhead_rejection
      duration := 0
      world := { world with bulkhead := entered false } }
  else if 0 < state.slots then
    let run := func { world with bulkhead := entered true }
    { run with
      world :=
        { run.world with
          bulkhead := run.world.bulkhead.finish state.callers.length } }
  else
    { outcome := .pending
      duration := 0
      world :=
        { world with
          bulkhead := (entered false).cancel_waiting state.callers.length } }

/-- `execute = lambda: bulkhead.execute(execute)`: the name is looked up when
the lambda is called and then stands for the lambda itself.  The number is how
deep the calls may be nested. -/
def late_bound (config : Bulkhead.Config) : ℕ → Coroutine Value Raised
  | 0 => fail .recursion_error
  | depth + 1 => bulkhead_execute config (late_bound config depth)

def with_timeout (func : Coroutine Value Raised) (timeout_seconds : ℚ) :
    Coroutine Value Raised := fun world =>
  let run := func world
  let timed_out := { run with outcome := .raised .timeout, duration := timeout_seconds }
  match run.outcome with
  | .pending => timed_out
  | .raised .asyncio_timeout => { run with outcome := .raised .timeout }
  | _ => if run.duration < timeout_seconds then run else timed_out

/-- The loop of `RetryPolicy.execute` with this many attempts left.  What is
slept between them is left out of the duration. -/
def attempts (func : Coroutine Value Raised) : ℕ → Coroutine Value Raised
  | 0 => fail .retry_exhausted
  | left + 1 => fun world =>
      let run := func world
      match run.outcome with
      | .raised _ => attempts func left run.world
      | _ => run

structure RetryPolicy where
  max_attempts : ℤ := 3

def RetryPolicy.execute (policy : RetryPolicy) (func : Coroutine Value Raised) :
    Coroutine Value Raised :=
  attempts func policy.max_attempts.toNat

/-- `execute_with_timeout` -/
def timed (timeout : Option ℚ) (execute : Coroutine Value Raised) :
    Coroutine Value Raised :=
  match timeout with
  | some timeout => if timeout = 0 then execute else with_timeout execute timeout
  | none => execute

/-- The arguments of the decorator. -/
structure Patterns where
  circuit_breaker : Option CircuitBreaker.Breaker := none
  bulkhead : Option Bulkhead.Config := none
  retry_policy : Option RetryPolicy := none
  timeout : Option ℚ := none

/-- `circuit_breaker.call` raises an `AttributeError`, since the class has no
method of that name. -/
def resilient (patterns : Patterns) (depth : ℕ) (func : Func Value Raised) :
    Coroutine Value Raised :=
  let execute :=
    match patterns.circuit_breaker with
    | some _ => fail .attribute_error
    | none => call func
  let execute :=
    match patterns.bulkhead with
    | some bulkhead => late_bound bulkhead depth
    | none => execute
  let execute_with_timeout := timed patterns.timeout execute
  match patterns.retry_policy with
  | some retry_policy => retry_policy.execute execute_with_timeout
  | none => execute_with_timeout

/-! ## What never returns -/

def NeverReturns (coroutine : Coroutine Value Raised) : Prop :=
  ∀ world value, (coroutine world).outcome ≠ .returned value

namespace NeverReturns

variable {coroutine : Coroutine Value Raised}

theorem fail (error : Error Raised) :
    NeverReturns (fail error : Coroutine Value Raised) :=
  fun _ _ => nofun

theorem bulkhead_execute (never : NeverReturns coroutine) (config : Bulkhead.Config) :
    NeverReturns (bulkhead_execute config coroutine) := by
  intro world value
  simp only [Resilience.bulkhead_execute]
  split
  · exact nofun
  · split
    · exact never _ value
    · exact nofun

/-- The lambda calls itself until no slot is left, and never the function. -/
theorem late_bound (config : Bulkhead.Config) (depth : ℕ) :
    NeverReturns (late_bound config depth : Coroutine Value Raised) := by
  induction depth with
  | zero => exact fail .recursion_error
  | succ depth ih => exact ih.bulkhead_execute config

theorem with_timeout (never : NeverReturns coroutine) (timeout_seconds : ℚ) :
    NeverReturns (with_timeout coroutine timeout_seconds) := by
  intro world value
  simp only [Resilience.with_timeout]
  split
  · exact nofun
  · exact nofun
  · split
    · exact never world value
    · exact nofun

theorem attempts (never : NeverReturns coroutine) (left : ℕ) :
    NeverReturns (attempts coroutine left) := by
  induction left with
  | zero => exact fail .retry_exhausted
  | succ left ih =>
      intro world value
      simp only [Resilience.attempts]
      split
      · exact ih _ value
      · exact never world value

end NeverReturns

/-! ## Transparency -/

/-- Nothing that a pattern limits is reached by a call that takes this long. -/
structure WithinLimits (patterns : Patterns) (world : World) (duration : ℚ) : Prop where
  circuit_breaker : ∀ breaker ∈ patterns.circuit_breaker, breaker.state ≠ .OPEN
  bulkhead : ∀ config ∈ patterns.bulkhead,
    0 < world.bulkhead.slots ∧ world.bulkhead.queue_size < config.max_queue
  timeout : ∀ timeout ∈ patterns.timeout, timeout ≠ 0 → duration < timeout

theorem NeverReturns.timed {execute : Coroutine Value Raised}
    (never : NeverReturns execute) (timeout : Option ℚ) :
    NeverReturns (timed timeout execute) := by
  unfold Resilience.timed
  split
  · split
    · exact never
    · exact never.with_timeout _
  · exact never

variable {patterns : Patterns} {func : Func Value Raised} {world : World}
  {value : Value} {duration : ℚ}

theorem timed_call (returns : func world.calls = (.returned value, duration))
    (limits : WithinLimits patterns world duration) :
    timed patterns.timeout (call func) world =
      { outcome := .returned value, duration
        world := { world with calls := world.calls + 1 } } := by
  have called : call func world =
      { outcome := .returned value, duration
        world := { world with calls := world.calls + 1 } } := by
    rw [call, returns]
  cases given : patterns.timeout with
  | none => exact called
  | some timeout =>
      by_cases zero : timeout = 0
      · simp only [timed, if_pos zero, called]
      · have in_time := limits.timeout timeout given zero
        simp [timed, zero, with_timeout, called, in_time]

variable (func) in
theorem never_returns_of_pattern (depth : ℕ)
    (pattern : patterns.circuit_breaker ≠ none ∨ patterns.bulkhead ≠ none) :
    NeverReturns (resilient patterns depth func) := by
  have wrapped {execute : Coroutine Value Raised} (never : NeverReturns execute) :
      NeverReturns (match patterns.retry_policy with
        | some retry_policy => retry_policy.execute (timed patterns.timeout execute)
        | none => timed patterns.timeout execute) := by
    split
    · exact (never.timed _).attempts _
    · exact never.timed _
  refine wrapped ?_
  cases given : patterns.bulkhead with
  | some config => exact NeverReturns.late_bound config depth
  | none =>
      cases given' : patterns.circuit_breaker with
      | some breaker => exact NeverReturns.fail .attribute_error
      | none => simp [given, given'] at pattern

/-- The function's value comes through, in one call, exactly without circuit
breaker and bulkhead and with at least one attempt. -/
theorem transparent_iff (patterns : Patterns) (depth : ℕ) (func : Func Value Raised)
    (world : World) (value : Value) (duration : ℚ)
    (returns : func world.calls = (.returned value, duration))
    (limits : WithinLimits patterns world duration) :
    ((resilient patterns depth func world).outcome = .returned value ∧
        (resilient patterns depth func world).world.calls = world.calls + 1) ↔
      patterns.circuit_breaker = none ∧ patterns.bulkhead = none ∧
        ∀ policy ∈ patterns.retry_policy, 1 ≤ policy.max_attempts := by
  by_cases pattern : patterns.circuit_breaker ≠ none ∨ patterns.bulkhead ≠ none
  · have never := never_returns_of_pattern func depth pattern world value
    constructor
    · intro through
      exact absurd through.1 never
    · rintro ⟨without, without', _⟩
      exact absurd pattern (by simp [without, without'])
  · obtain ⟨without, without'⟩ := not_or.mp pattern
    rw [not_not] at without without'
    have once := timed_call returns limits
    simp only [resilient, without, without', true_and]
    cases retried : patterns.retry_policy with
    | none => simp [once]
    | some policy =>
        simp only [RetryPolicy.execute, Option.mem_some_iff, forall_eq']
        obtain none_left | ⟨left, some_left⟩ : policy.max_attempts.toNat = 0 ∨
            ∃ left, policy.max_attempts.toNat = left + 1 :=
          Nat.eq_zero_or_eq_succ_pred _ |>.imp_right (fun same => ⟨_, same⟩)
        · have no_attempt : ¬1 ≤ policy.max_attempts := by omega
          simp [none_left, attempts, fail, no_attempt]
        · have attempt : 1 ≤ policy.max_attempts := by omega
          simp [some_left, attempts, once, attempt]

/-- A function that returns 1 at once. -/
def one : Func ℕ Unit := fun _ => (.returned 1, 0)

/-- A bulkhead with its default arguments that nobody uses yet. -/
def idle : World where
  bulkhead := Bulkhead.start {}

theorem transparent_iff_timeout :
    ((resilient { timeout := some 10, retry_policy := some {} } 1000 one idle).outcome =
          .returned 1 ∧
        (resilient { timeout := some 10, retry_policy := some {} } 1000 one
          idle).world.calls = idle.calls + 1) ↔
      (none : Option CircuitBreaker.Breaker) = none ∧
        (none : Option Bulkhead.Config) = none ∧
        ∀ policy ∈ some ({} : RetryPolicy), 1 ≤ policy.max_attempts :=
  transparent_iff { timeout := some 10, retry_policy := some {} } 1000 one idle 1 0 rfl
    ⟨nofun, nofun, by rintro _ ⟨⟩ _; norm_num⟩

/-- With the bulkhead the call waits for ever, with the circuit breaker it
raises, and in neither is the function called. -/
theorem not_transparent :
    (WithinLimits { bulkhead := some {} } idle 0 ∧
        (resilient { bulkhead := some {} } 1000 one idle).outcome = .pending ∧
        (resilient { bulkhead := some {} } 1000 one idle).world.calls = 0) ∧
      WithinLimits { circuit_breaker := some {} } idle 0 ∧
        (resilient { circuit_breaker := some {} } 1000 one idle).outcome =
          .raised .attribute_error ∧
        (resilient { circuit_breaker := some {} } 1000 one idle).world.calls = 0 := by
  refine ⟨⟨⟨nofun, ?_, nofun⟩, rfl, rfl⟩, ⟨?_, nofun, nofun⟩, rfl, rfl⟩
  · rintro _ ⟨⟩
    decide
  · rintro _ ⟨⟩
    decide

end HftEngine.Resilience
