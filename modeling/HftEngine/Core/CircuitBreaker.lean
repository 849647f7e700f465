import Mathlib.Algebra.Order.Group.Int
import Mathlib.Data.Int.Notation
import Mathlib.Data.List.Induction
import Mathlib.Data.Nat.Notation
import Mathlib.Tactic.Common

/-!
# The circuit breaker

The calls of a `CircuitBreaker` in the order in which they run, each at a time
in microseconds.  The result of a request may be recorded at any later time, in
whatever state the breaker is then, so the calls follow each other freely.
-/

namespace HftEngine.CircuitBreaker

inductive CircuitState where
  | CLOSED
  | OPEN
  | HALF_OPEN
  deriving DecidableEq, Repr

/-- The arguments of the constructor; `timeout` is in seconds. -/
structure Settings where
  failure_threshold : ℕ
  timeout : ℤ

structure Breaker where
  state : CircuitState := .CLOSED
  failure_count : ℕ := 0
  last_failure_time : Option ℤ := none
  success_count : ℕ := 0
  deriving DecidableEq

/-! ## Methods -/

def should_attempt_reset (settings : Settings) (now : ℤ) (breaker : Breaker) : Bool :=
  match breaker.last_failure_time with
  | none => true
  | some last_failure_time => settings.timeout * 1000000 ≤ now - last_failure_time

/-- None where it raises `CircuitBreakerOpenException`. -/
def aenter (settings : Settings) (now : ℤ) (breaker : Breaker) : Option Breaker :=
  if breaker.state = .OPEN then
    if should_attempt_reset settings now breaker then
      some { breaker with state := .HALF_OPEN }
    else none
  else some breaker

/-- The answer and the breaker after it. -/
def allow_request (settings : Settings) (now : ℤ) (breaker : Breaker) :
    Bool × Breaker :=
  if breaker.state = .OPEN then
    if should_attempt_reset settings now breaker then
      (true, { breaker with state := .HALF_OPEN })
    else (false, breaker)
  else (true, breaker)

def on_success (breaker : Breaker) : Breaker :=
  if breaker.state = .HALF_OPEN then
    if 3 ≤ breaker.success_count + 1 then
      { breaker with failure_count := 0, state := .CLOSED, success_count := 0 }
    else { breaker with failure_count := 0, success_count := breaker.success_count + 1 }
  else { breaker with failure_count := 0 }

def on_failure (settings : Settings) (now : ℤ) (breaker : Breaker) : Breaker :=
  let counted :=
    { breaker with
      failure_count := breaker.failure_count + 1
      last_failure_time := some now }
  if breaker.state = .HALF_OPEN then { counted with state := .OPEN, success_count := 0 }
  else if settings.failure_threshold ≤ counted.failure_count then
    { counted with state := .OPEN }
  else counted

/-- How the body of an `async with` ends. -/
inductive Exit where
  | returned
  | expected_exception
  | other_exception
  deriving DecidableEq, Repr

def aexit (settings : Settings) (now : ℤ) (exit : Exit) (breaker : Breaker) : Breaker :=
  match exit with
  | .returned => on_success breaker
  | .expected_exception => on_failure settings now breaker
  | .other_exception => breaker

/-! ## Runs -/

inductive Call where
  | aenter
  | aexit (exit : Exit)
  | allow_request
  | record_success
  | record_failure
  deriving DecidableEq, Repr

structure Event where
  time : ℤ
  call : Call

def Event.succeeded (event : Event) : Bool :=
  event.call = .record_success || event.call = .aexit .returned

def Event.failed (event : Event) : Bool :=
  event.call = .record_failure || event.call = .aexit .expected_exception

def step (settings : Settings) (breaker : Breaker) (event : Event) : Breaker :=
  match event.call with
  | .aenter => (aenter settings event.time breaker).getD breaker
  | .aexit exit => aexit settings event.time exit breaker
  | .allow_request => (allow_request settings event.time breaker).2
  | .record_success => on_success breaker
  | .record_failure => on_failure settings event.time breaker

/-- The call asks for a request and is granted it. -/
def admitted (settings : Settings) (breaker : Breaker) (event : Event) : Bool :=
  match event.call with
  | .aenter => (aenter settings event.time breaker).isSome
  | .allow_request => (allow_request settings event.time breaker).1
  | _ => false

def run (settings : Settings) (events : List Event) : Breaker :=
  events.foldl (step settings) {}

@[simp] theorem run_nil (settings : Settings) : run settings [] = {} := rfl

@[simp] theorem run_snoc (settings : Settings) (events : List Event) (event : Event) :
    run settings (events ++ [event]) = step settings (run settings events) event := by
  simp [run]

/-! ## What has been recorded -/

/-- The failures since the last success. -/
def consecutive_failures (events : List Event) : ℕ :=
  events.foldl (fun count event =>
    if event.succeeded then 0 else if event.failed then count + 1 else count) 0

/-- The time of the last failure. -/
def last_failure (events : List Event) : Option ℤ :=
  events.foldl (fun last event => if event.failed then some event.time else last) none

theorem consecutive_failures_snoc (events : List Event) (event : Event) :
    consecutive_failures (events ++ [event]) =
      if event.succeeded then 0
      else if event.failed then consecutive_failures events + 1
      else consecutive_failures events := by
  simp [consecutive_failures]

theorem last_failure_snoc (events : List Event) (event : Event) :
    last_failure (events ++ [event]) =
      if event.failed then some event.time else last_failure events := by
  simp [last_failure]

/-! ## What one call does -/

/-- The effect of a call, with its guard. -/
inductive Effect (settings : Settings) (breaker : Breaker) (event : Event) :
    Breaker → Prop
  | none (neither : event.succeeded = false ∧ event.failed = false)
      (refused : breaker.state = .OPEN → admitted settings breaker event = false) :
      Effect settings breaker event breaker
  | half_open (neither : event.succeeded = false ∧ event.failed = false)
      (was_open : breaker.state = .OPEN)
      (elapsed : should_attempt_reset settings event.time breaker = true) :
      Effect settings breaker event { breaker with state := .HALF_OPEN }
  | success (succeeded : event.succeeded = true) (failed : event.failed = false) :
      Effect settings breaker event (on_success breaker)
  | failure (succeeded : event.succeeded = false) (failed : event.failed = true) :
      Effect settings breaker event (on_failure settings event.time breaker)

/-- The two ways of asking for a request do the same. -/
theorem allow_request_eq (settings : Settings) (now : ℤ) (breaker : Breaker) :
    allow_request settings now breaker =
      ((aenter settings now breaker).isSome,
        (aenter settings now breaker).getD breaker) := by
  unfold allow_request aenter
  split
  · split
    · rfl
    · rfl
  · rfl

theorem aenter_effect {settings : Settings} {breaker : Breaker} {event : Event}
    (neither : event.succeeded = false ∧ event.failed = false)
    (asks : admitted settings breaker event =
      (aenter settings event.time breaker).isSome) :
    Effect settings breaker event
      ((aenter settings event.time breaker).getD breaker) := by
  by_cases was_open : breaker.state = .OPEN
  · by_cases elapsed : should_attempt_reset settings event.time breaker = true
    · rw [aenter, if_pos was_open, if_pos elapsed]
      exact .half_open neither was_open elapsed
    · rw [aenter, if_pos was_open, if_neg elapsed] at asks ⊢
      exact .none neither (fun _ => asks)
  · rw [aenter, if_neg was_open]
    exact .none neither (fun open_state => absurd open_state was_open)

theorem step_effect (settings : Settings) (breaker : Breaker) (event : Event) :
    Effect settings breaker event (step settings breaker event) := by
  obtain ⟨time, call⟩ := event
  cases call with
  | record_success => exact .success rfl rfl
  | record_failure => exact .failure rfl rfl
  | aexit exit =>
      cases exit with
      | returned => exact .success rfl rfl
      | expected_exception => exact .failure rfl rfl
      | other_exception => exact .none ⟨rfl, rfl⟩ (fun _ => rfl)
  | aenter => exact aenter_effect ⟨rfl, rfl⟩ rfl
  | allow_request =>
      have same : step settings breaker ⟨time, .allow_request⟩ =
          (aenter settings time breaker).getD breaker := by
        rw [step, allow_request_eq]
      rw [same]
      apply aenter_effect ⟨rfl, rfl⟩
      rw [admitted, allow_request_eq]

/-! ## The invariant -/

/-- The breaker is half open since some call, after which no failure was recorded
and this many successes were. -/
structure HalfOpenSince (settings : Settings) (before : List Event) (entering : Event)
    (since : List Event) (successes : ℕ) : Prop where
  was_open : (run settings before).state = .OPEN
  half_open : ∀ part, part <+: since →
    (run settings (before ++ entering :: part)).state = .HALF_OPEN
  no_failure : ∀ event ∈ since, event.failed = false
  successes : since.countP Event.succeeded = successes

structure Invariant (settings : Settings) (events : List Event) (breaker : Breaker) :
    Prop where
  failure_count : breaker.failure_count = consecutive_failures events
  last_failure_time : breaker.last_failure_time = last_failure events
  below : breaker.state = .CLOSED →
    breaker.failure_count < settings.failure_threshold
  failed : breaker.state = .OPEN → breaker.last_failure_time ≠ none
  outside : breaker.state ≠ .HALF_OPEN → breaker.success_count = 0
  inside : breaker.state = .HALF_OPEN → breaker.success_count ≤ 2 ∧
    ∃ before entering since, events = before ++ entering :: since ∧
      HalfOpenSince settings before entering since breaker.success_count

theorem HalfOpenSince.snoc {settings : Settings} {before since : List Event}
    {entering event : Event} {successes : ℕ}
    (half : HalfOpenSince settings before entering since successes)
    (failed : event.failed = false)
    (stays : (run settings (before ++ entering :: since ++ [event])).state =
      .HALF_OPEN) :
    HalfOpenSince settings before entering (since ++ [event])
      (successes + if event.succeeded then 1 else 0) where
  was_open := half.was_open
  half_open part initial := by
    rcases List.prefix_concat_iff.mp initial with rfl | earlier
    · simpa using stays
    · exact half.half_open part earlier
  no_failure other member := by
    rcases List.mem_append.mp member with earlier | last
    · exact half.no_failure other earlier
    · rw [List.mem_singleton.mp last]
      exact failed
  successes := by
    rw [List.countP_append, half.successes, List.countP_singleton]

theorem Invariant.half {settings : Settings} {events : List Event} {breaker : Breaker}
    (holds : Invariant settings events breaker) (half_open : breaker.state = .HALF_OPEN)
    {event : Event} (failed : event.failed = false)
    (stays : (run settings (events ++ [event])).state = .HALF_OPEN) :
    ∃ before entering since, events ++ [event] = before ++ entering :: since ∧
      HalfOpenSince settings before entering since
        (breaker.success_count + if event.succeeded then 1 else 0) := by
  obtain ⟨-, before, entering, since, rfl, half⟩ := holds.inside half_open
  exact ⟨before, entering, since ++ [event], by simp, half.snoc failed stays⟩

theorem Invariant.enter {settings : Settings} {events : List Event}
    (holds : Invariant settings events (run settings events)) (event : Event)
    (was_open : (run settings events).state = .OPEN)
    (taken : run settings (events ++ [event]) =
      { run settings events with state := .HALF_OPEN }) :
    HalfOpenSince settings events event [] (run settings events).success_count where
  was_open := was_open
  half_open part initial := by
    rw [List.prefix_nil.mp initial, taken]
  no_failure := by simp
  successes := by
    rw [holds.outside (by simp [was_open])]
    rfl

section Preserved

variable {settings : Settings} {events : List Event} {event : Event}

theorem Invariant.none (holds : Invariant settings events (run settings events))
    (neither : event.succeeded = false ∧ event.failed = false)
    (taken : run settings (events ++ [event]) = run settings events) :
    Invariant settings (events ++ [event]) (run settings events) where
  failure_count := by
    simp [consecutive_failures_snoc, neither, holds.failure_count]
  last_failure_time := by
    simp [last_failure_snoc, neither, holds.last_failure_time]
  below := holds.below
  failed := holds.failed
  outside := holds.outside
  inside := by
    intro half_open
    have half := holds.half half_open neither.2 (taken ▸ half_open)
    rw [neither.1] at half
    exact ⟨(holds.inside half_open).1, half⟩

theorem Invariant.half_open (holds : Invariant settings events (run settings events))
    (neither : event.succeeded = false ∧ event.failed = false)
    (was_open : (run settings events).state = .OPEN)
    (taken : run settings (events ++ [event]) =
      { run settings events with state := .HALF_OPEN }) :
    Invariant settings (events ++ [event])
      { run settings events with state := .HALF_OPEN } where
  failure_count := by
    simp [consecutive_failures_snoc, neither, holds.failure_count]
  last_failure_time := by
    simp [last_failure_snoc, neither, holds.last_failure_time]
  below := by simp
  failed := by simp
  outside := by simp
  inside := by
    intro _
    have none_yet : (run settings events).success_count = 0 :=
      holds.outside (by simp [was_open])
    exact ⟨by simp [none_yet], events, event, [], rfl,
      holds.enter event was_open taken⟩

theorem Invariant.success (holds : Invariant settings events (run settings events))
    (positive : 1 ≤ settings.failure_threshold) (succeeded : event.succeeded = true)
    (failed : event.failed = false)
    (taken : run settings (events ++ [event]) = on_success (run settings events)) :
    Invariant settings (events ++ [event]) (on_success (run settings events)) := by
  have counted : consecutive_failures (events ++ [event]) = 0 := by
    simp [consecutive_failures_snoc, succeeded]
  have last : last_failure (events ++ [event]) =
      (run settings events).last_failure_time := by
    simp [last_failure_snoc, failed, holds.last_failure_time]
  unfold on_success at taken ⊢
  split
  case isTrue half_open =>
      rw [if_pos half_open] at taken
      split
      case isTrue third =>
        constructor
        · exact counted.symm
        · exact last.symm
        · intro _
          exact positive
        · simp
        · simp
        · simp
      case isFalse early =>
        rw [if_neg early] at taken
        have half := holds.half half_open failed (by simp [taken, half_open])
        rw [if_pos succeeded] at half
        constructor
        · exact counted.symm
        · exact last.symm
        · simp [half_open]
        · simp [half_open]
        · simp [half_open]
        · intro _
          exact ⟨by simp; omega, half⟩
  case isFalse other =>
      constructor
      · exact counted.symm
      · exact last.symm
      · intro _
        exact positive
      · exact holds.failed
      · exact holds.outside
      · intro half_open
        exact absurd half_open other

theorem Invariant.failure (holds : Invariant settings events (run settings events))
    (succeeded : event.succeeded = false) (failed : event.failed = true) :
    Invariant settings (events ++ [event])
      (on_failure settings event.time (run settings events)) := by
  have counted : consecutive_failures (events ++ [event]) =
      (run settings events).failure_count + 1 := by
    simp [consecutive_failures_snoc, succeeded, failed, holds.failure_count]
  have last : last_failure (events ++ [event]) = some event.time := by
    simp [last_failure_snoc, failed]
  unfold on_failure
  simp only
  split
  case isTrue half_open =>
      constructor
      · exact counted.symm
      · exact last.symm
      · simp
      · simp
      · simp
      · simp
  case isFalse other =>
      split
      case isTrue reached =>
        constructor
        · exact counted.symm
        · exact last.symm
        · simp
        · simp
        · intro _
          exact holds.outside other
        · simp
      case isFalse below =>
        constructor
        · exact counted.symm
        · exact last.symm
        · intro _
          exact Nat.not_le.mp below
        · simp
        · intro _
          exact holds.outside other
        · intro half_open
          exact absurd half_open other

end Preserved

theorem invariant_snoc {settings : Settings} (positive : 1 ≤ settings.failure_threshold)
    {events : List Event} (event : Event)
    (holds : Invariant settings events (run settings events)) :
    Invariant settings (events ++ [event]) (run settings (events ++ [event])) := by
  have effect := step_effect settings (run settings events) event
  rw [← run_snoc settings events event] at effect
  generalize taken : run settings (events ++ [event]) = after at effect
  cases effect with
  | none neither _ => exact holds.none neither taken
  | half_open neither was_open _ => exact holds.half_open neither was_open taken
  | success succeeded failed => exact holds.success positive succeeded failed taken
  | failure succeeded failed => exact holds.failure succeeded failed

theorem invariant {settings : Settings} (positive : 1 ≤ settings.failure_threshold)
    (events : List Event) : Invariant settings events (run settings events) := by
  induction events using List.reverseRecOn with
  | nil =>
      constructor
      · rfl
      · rfl
      · intro _
        exact positive
      · simp
      · simp
      · simp
  | append_singleton events event ih => exact invariant_snoc positive event ih

/-! ## The state machine -/

/-- What holds after some calls, and of the call that comes next. -/
structure StateMachine (settings : Settings) (events : List Event) : Prop where
  closed_below : (run settings events).state = .CLOSED →
    (run settings events).failure_count < settings.failure_threshold
  open_failed : (run settings events).state = .OPEN →
    (run settings events).last_failure_time ≠ none
  no_successes : (run settings events).state ≠ .HALF_OPEN →
    (run settings events).success_count = 0
  few_successes : (run settings events).state = .HALF_OPEN →
    (run settings events).success_count ≤ 2
  trips : ∀ event, (run settings events).state = .CLOSED →
    ((run settings (events ++ [event])).state = .OPEN ↔
      event.failed = true ∧
        consecutive_failures (events ++ [event]) = settings.failure_threshold)
  refuses : ∀ event last, (run settings events).state = .OPEN →
    admitted settings (run settings events) event = true →
    last_failure events = some last → settings.timeout * 1000000 ≤ event.time - last
  recovers : ∀ event, (run settings events).state = .HALF_OPEN →
    (run settings (events ++ [event])).state = .CLOSED →
    ∃ before entering since, events = before ++ entering :: since ∧
      HalfOpenSince settings before entering since 2 ∧
      event.succeeded = true ∧ event.failed = false

theorem trips_iff {settings : Settings} {events : List Event}
    (holds : Invariant settings events (run settings events)) (event : Event)
    (closed : (run settings events).state = .CLOSED) :
    (run settings (events ++ [event])).state = .OPEN ↔
      event.failed = true ∧
        consecutive_failures (events ++ [event]) = settings.failure_threshold := by
  have below := holds.below closed
  have effect := step_effect settings (run settings events) event
  rw [← run_snoc settings events event] at effect
  generalize run settings (events ++ [event]) = after at effect
  cases effect with
  | none neither _ => simp [closed, neither]
  | half_open _ was_open _ => simp [closed] at was_open
  | success _ failed => simp [on_success, closed, failed]
  | failure succeeded failed =>
      have counted : consecutive_failures (events ++ [event]) =
          (run settings events).failure_count + 1 := by
        simp [consecutive_failures_snoc, succeeded, failed, holds.failure_count]
      rw [counted]
      unfold on_failure
      simp only [closed]
      split
      case isTrue other => cases other
      case isFalse =>
        split
        case isTrue reached =>
          simp only [failed, true_and, true_iff]
          omega
        case isFalse early =>
          simp only [failed, true_and, reduceCtorEq, false_iff]
          omega

theorem neither_of_admitted {settings : Settings} {breaker : Breaker} {event : Event}
    (granted : admitted settings breaker event = true) :
    event.succeeded = false ∧ event.failed = false := by
  obtain ⟨time, call⟩ := event
  cases call with
  | aenter => exact ⟨rfl, rfl⟩
  | allow_request => exact ⟨rfl, rfl⟩
  | aexit _ => cases granted
  | record_success => cases granted
  | record_failure => cases granted

theorem elapsed_of_admitted {settings : Settings} {events : List Event}
    (holds : Invariant settings events (run settings events)) {event : Event} {last : ℤ}
    (was_open : (run settings events).state = .OPEN)
    (granted : admitted settings (run settings events) event = true)
    (recorded : last_failure events = some last) :
    settings.timeout * 1000000 ≤ event.time - last := by
  obtain ⟨not_succeeded, not_failed⟩ := neither_of_admitted granted
  have effect := step_effect settings (run settings events) event
  generalize step settings (run settings events) event = after at effect
  cases effect with
  | none _ refused =>
      rw [refused was_open] at granted
      cases granted
  | half_open _ _ elapsed =>
      rw [should_attempt_reset, holds.last_failure_time, recorded] at elapsed
      simpa using elapsed
  | success succeeded _ =>
      rw [not_succeeded] at succeeded
      cases succeeded
  | failure _ failed =>
      rw [not_failed] at failed
      cases failed

theorem recovered {settings : Settings} {events : List Event}
    (holds : Invariant settings events (run settings events)) {event : Event}
    (half_open : (run settings events).state = .HALF_OPEN)
    (closed : (run settings (events ++ [event])).state = .CLOSED) :
    (run settings events).success_count = 2 ∧ event.succeeded = true ∧
      event.failed = false := by
  have few := (holds.inside half_open).1
  have effect := step_effect settings (run settings events) event
  rw [← run_snoc settings events event] at effect
  generalize run settings (events ++ [event]) = after at effect closed
  cases effect with
  | none _ _ =>
      rw [half_open] at closed
      cases closed
  | half_open _ _ _ => cases closed
  | success succeeded failed =>
      rw [on_success, if_pos half_open] at closed
      split at closed
      case isTrue third => exact ⟨by omega, succeeded, failed⟩
      case isFalse =>
        simp only [half_open] at closed
        cases closed
  | failure _ _ =>
      simp only [on_failure, half_open, if_true] at closed
      cases closed

/-- Every run keeps to the state machine, in whatever order the calls come. -/
theorem stateMachine {settings : Settings} (positive : 1 ≤ settings.failure_threshold)
    (events : List Event) : StateMachine settings events := by
  have holds := invariant positive events
  constructor
  · exact holds.below
  · exact holds.failed
  · exact holds.outside
  · intro half_open
    exact (holds.inside half_open).1
  · exact trips_iff holds
  · intro event last was_open granted recorded
    exact elapsed_of_admitted holds was_open granted recorded
  · intro event half_open closed
    obtain ⟨two, succeeded, failed⟩ := recovered holds half_open closed
    obtain ⟨-, before, entering, since, split, half⟩ := holds.inside half_open
    rw [two] at half
    exact ⟨before, entering, since, split, half, succeeded, failed⟩

theorem stateMachine_five :
    StateMachine ⟨5, 60⟩ [⟨0, .aenter⟩, ⟨1, .aexit .expected_exception⟩] :=
  stateMachine (by decide) _

example : (run ⟨1, 60⟩ [⟨0, .record_failure⟩, ⟨60000000, .allow_request⟩,
    ⟨60000001, .record_success⟩]).state = .HALF_OPEN := by decide

end HftEngine.CircuitBreaker
