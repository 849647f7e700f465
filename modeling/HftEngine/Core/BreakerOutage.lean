import HftEngine.Core.CircuitBreaker
import Mathlib.Data.List.Infix
import Mathlib.Tactic.Linarith
import Mathlib.Tactic.Ring

/-!
# A circuit breaker during an outage

While every request fails, a breaker lets through what it takes to open and,
each time its timeout has passed, as many requests as run at the same time.
-/

namespace HftEngine.CircuitBreaker

/-- The requests that have been let through. -/
def admissions (settings : Settings) (events : List Event) : ℕ :=
  (events.foldl (fun (breaker, count) event =>
    (step settings breaker event,
      if admitted settings breaker event then count + 1 else count))
    (({} : Breaker), 0)).2

/-- The failures that have been recorded. -/
def failures (events : List Event) : ℕ :=
  events.countP Event.failed

/-- The timeout in microseconds. -/
def Settings.pause (settings : Settings) : ℤ := settings.timeout * 1000000

/-- Each request that is let through fails, and at most `K` of them have yet to
do so. -/
structure Outage (settings : Settings) (K : ℕ) (start : ℤ) (events : List Event) :
    Prop where
  down : ∀ event ∈ events, event.succeeded = false
  begun : ∀ event ∈ events, start ≤ event.time
  ordered : events.Pairwise (fun before after => before.time ≤ after.time)
  paired : ∀ part, part <+: events →
    failures part ≤ admissions settings part ∧
      admissions settings part ≤ failures part + K

variable {settings : Settings} {K : ℕ} {start : ℤ} {events : List Event} {event : Event}

theorem admissions_run (settings : Settings) (events : List Event) :
    (events.foldl (fun (breaker, count) event =>
      (step settings breaker event,
        if admitted settings breaker event then count + 1 else count))
      (({} : Breaker), 0)).1 = run settings events := by
  induction events using List.reverseRecOn with
  | nil => rfl
  | append_singleton events event ih =>
      rw [List.foldl_append, run_snoc, ← ih]
      rfl

theorem admissions_snoc (settings : Settings) (events : List Event) (event : Event) :
    admissions settings (events ++ [event]) =
      admissions settings events +
        if admitted settings (run settings events) event then 1 else 0 := by
  rw [admissions, List.foldl_append, List.foldl_cons, List.foldl_nil]
  dsimp only
  rw [admissions_run]
  split <;> rfl

theorem failures_snoc (events : List Event) (event : Event) :
    failures (events ++ [event]) =
      failures events + if event.failed then 1 else 0 := by
  rw [failures, List.countP_append, List.countP_singleton]
  rfl

theorem admitted_of_failed {breaker : Breaker} (failed : event.failed = true) :
    admitted settings breaker event = false := by
  by_contra granted
  rw [Bool.not_eq_false] at granted
  rw [(neither_of_admitted granted).2] at failed
  exact nomatch failed

/-- As long as nothing succeeds, every failure is one of a row. -/
theorem consecutive_failures_eq (down : ∀ event ∈ events, event.succeeded = false) :
    consecutive_failures events = failures events := by
  induction events using List.reverseRecOn with
  | nil => rfl
  | append_singleton events event ih =>
      rw [List.forall_mem_append] at down
      have last := down.2 event (List.mem_singleton_self event)
      rw [consecutive_failures_snoc, failures_snoc, last, ih down.1]
      cases event.failed <;> rfl

theorem Outage.init (outage : Outage settings K start (events ++ [event])) :
    Outage settings K start events where
  down other member := outage.down other (List.mem_append_left _ member)
  begun other member := outage.begun other (List.mem_append_left _ member)
  ordered := (List.pairwise_append.mp outage.ordered).1
  paired part initial := outage.paired part (initial.trans (List.prefix_append _ _))

theorem Outage.le_last (outage : Outage settings K start (events ++ [event])) :
    ∀ other ∈ events, other.time ≤ event.time := fun other member =>
  (List.pairwise_append.mp outage.ordered).2.2 other member event
    (List.mem_singleton_self event)

/-! ## The rounds of an outage -/

/-- What opens the breaker for the first time. -/
def Settings.first_round (settings : Settings) (K : ℕ) : ℕ :=
  settings.failure_threshold - 1 + K

/-- Each later round begins a timeout after the last failure of the one before. -/
def Spent (settings : Settings) (K : ℕ) (start : ℤ) (events : List Event) : Prop :=
  match (run settings events).state with
  | .CLOSED => True
  | .OPEN => ∃ rounds : ℕ, ∃ last ∈ events,
      (run settings events).last_failure_time = some last.time ∧
        admissions settings events ≤ settings.first_round K + K * rounds ∧
        start + rounds * settings.pause ≤ last.time
  | .HALF_OPEN => ∃ rounds : ℕ, ∃ entering ∈ events,
      failures events ≤ settings.first_round K + K * rounds ∧
        start + (rounds + 1) * settings.pause ≤ entering.time

theorem Outage.closed (outage : Outage settings K start events)
    (holds : Invariant settings events (run settings events))
    (closed : (run settings events).state = .CLOSED) :
    admissions settings events ≤ settings.first_round K := by
  have below := holds.below closed
  rw [holds.failure_count, consecutive_failures_eq outage.down] at below
  have paired := (outage.paired events (List.prefix_refl events)).2
  unfold Settings.first_round
  omega

/-- A request that finds the breaker half open, or opens it half. -/
theorem Spent.neither (spent : Spent settings K start events)
    (taken : run settings (events ++ [event]) = run settings events)
    (neither : event.succeeded = false ∧ event.failed = false)
    (refused : (run settings events).state = .OPEN →
      admitted settings (run settings events) event = false) :
    Spent settings K start (events ++ [event]) := by
  unfold Spent at spent ⊢
  rw [taken]
  cases state : (run settings events).state with
  | CLOSED => trivial
  | OPEN =>
      rw [state] at spent
      obtain ⟨rounds, last, member, recorded, few, late⟩ := spent
      refine ⟨rounds, last, List.mem_append_left _ member, recorded, ?_, late⟩
      rw [admissions_snoc, refused state]
      exact few
  | HALF_OPEN =>
      rw [state] at spent
      obtain ⟨rounds, entering, member, few, late⟩ := spent
      refine ⟨rounds, entering, List.mem_append_left _ member, ?_, late⟩
      rw [failures_snoc, neither.2]
      exact few

theorem Spent.half_open (spent : Spent settings K start events)
    (paired : failures events ≤ admissions settings events)
    (taken : run settings (events ++ [event]) =
      { run settings events with state := .HALF_OPEN })
    (neither : event.succeeded = false ∧ event.failed = false)
    (was_open : (run settings events).state = .OPEN)
    (elapsed : should_attempt_reset settings event.time (run settings events) = true) :
    Spent settings K start (events ++ [event]) := by
  unfold Spent at spent ⊢
  rw [taken]
  rw [was_open] at spent
  obtain ⟨rounds, last, member, recorded, few, late⟩ := spent
  refine ⟨rounds, event, List.mem_append_right _ (List.mem_singleton_self event), ?_, ?_⟩
  · rw [failures_snoc, neither.2]
    exact paired.trans few
  · simp only [should_attempt_reset, recorded, decide_eq_true_eq] at elapsed
    have waited : settings.pause ≤ event.time - last.time := elapsed
    linarith

theorem Spent.failure (spent : Spent settings K start events)
    (outage : Outage settings K start (events ++ [event]))
    (holds : Invariant settings events (run settings events))
    (taken : run settings (events ++ [event]) =
      on_failure settings event.time (run settings events))
    (failed : event.failed = true) :
    Spent settings K start (events ++ [event]) := by
  have same : admissions settings (events ++ [event]) = admissions settings events := by
    rw [admissions_snoc, admitted_of_failed failed]
    rfl
  have here : event ∈ events ++ [event] :=
    List.mem_append_right _ (List.mem_singleton_self event)
  have paired := (outage.paired events (List.prefix_append _ _)).2
  unfold Spent at spent ⊢
  rw [taken, same]
  cases state : (run settings events).state with
  | CLOSED =>
      have few := outage.init.closed holds state
      by_cases reached : settings.failure_threshold ≤ (run settings events).failure_count + 1
      · simp only [on_failure, state, reduceCtorEq, if_false, if_pos reached]
        refine ⟨0, event, here, rfl, ?_, ?_⟩
        · simpa using few
        · simpa using outage.begun event here
      · simp only [on_failure, state, reduceCtorEq, if_false, if_neg reached]
  | OPEN =>
      rw [state] at spent
      obtain ⟨rounds, last, member, _, few, late⟩ := spent
      have ordered := outage.le_last last member
      have reopened : (on_failure settings event.time (run settings events)).state = .OPEN := by
        simp only [on_failure, state, reduceCtorEq, if_false]
        split <;> simp
      have recorded : (on_failure settings event.time
          (run settings events)).last_failure_time = some event.time := by
        simp only [on_failure, state, reduceCtorEq, if_false]
        split <;> rfl
      rw [reopened]
      exact ⟨rounds, event, here, recorded, few, late.trans ordered⟩
  | HALF_OPEN =>
      rw [state] at spent
      obtain ⟨rounds, entering, member, few, late⟩ := spent
      have ordered := outage.le_last entering member
      simp only [on_failure, state, if_true]
      refine ⟨rounds + 1, event, here, rfl, ?_, ?_⟩
      · rw [Nat.mul_add, Nat.mul_one]
        omega
      · push_cast
        exact late.trans ordered

theorem spent (positive : 1 ≤ settings.failure_threshold)
    (outage : Outage settings K start events) : Spent settings K start events := by
  induction events using List.reverseRecOn with
  | nil => trivial
  | append_singleton events event ih =>
      have before := ih outage.init
      have holds := invariant positive events
      have effect := step_effect settings (run settings events) event
      rw [← run_snoc settings events event] at effect
      generalize taken : run settings (events ++ [event]) = after at effect
      cases effect with
      | none neither refused => exact before.neither taken neither refused
      | half_open neither was_open elapsed =>
          exact before.half_open (outage.paired events (List.prefix_append _ _)).1 taken
            neither was_open elapsed
      | success succeeded _ =>
          rw [outage.down event
            (List.mem_append_right _ (List.mem_singleton_self event))] at succeeded
          exact nomatch succeeded
      | failure _ failed => exact before.failure outage holds taken failed

/-- A round that has begun lies between the start and the end. -/
theorem rounds_le (waits : 0 < settings.timeout) {rounds : ℕ} {finish time : ℤ}
    (late : start + rounds * settings.pause ≤ time) (ended : time ≤ finish) :
    rounds ≤ ((finish - start) / settings.pause).toNat := by
  have positive : 0 < settings.pause := by
    unfold Settings.pause
    omega
  have few : (rounds : ℤ) ≤ (finish - start) / settings.pause :=
    (Int.le_ediv_iff_mul_le positive).mpr (by linarith)
  omega

/-- The breaker of the ingestion service. -/
def api_circuit_breaker : Settings where
  failure_threshold := 5
  timeout := 60

/-- Five requests, and one more after a minute. -/
def outage_calls : List Event :=
  (List.replicate 5 [⟨0, .allow_request⟩, ⟨0, .record_failure⟩]).flatten ++
    [⟨59999999, .allow_request⟩, ⟨60000000, .allow_request⟩, ⟨60000001, .record_failure⟩]

theorem outage_outage_calls : Outage api_circuit_breaker 1 0 outage_calls where
  down := by decide
  begun := by decide
  ordered := by decide
  paired := by
    have prefixes : ∀ part ∈ outage_calls.inits,
        failures part ≤ admissions api_circuit_breaker part ∧
          admissions api_circuit_breaker part ≤ failures part + 1 := by
      decide
    intro part initial
    exact prefixes part ((List.mem_inits _ _).mpr initial)

end HftEngine.CircuitBreaker
