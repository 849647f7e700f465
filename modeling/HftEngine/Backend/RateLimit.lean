import HftEngine.Lib.SlidingWindow
import Mathlib.Algebra.Order.Floor.Ring
import Mathlib.Data.Rat.Floor

/-!
# The two paths of the rate limiting middleware

The requests of one client of `RateLimitMiddleware`, checked in Redis or, when
there is no Redis, in memory.  Redis counts every request; the memory records
only those that it admits.
-/

namespace HftEngine.RateLimitMiddleware

open SlidingWindow

def window_seconds : ℚ := 60

structure Answer where
  is_limited : Bool
  remaining : ℤ
  retry_after : ℤ
  deriving DecidableEq, Repr

/-! ## The paths -/

section Paths

variable (requests_per_minute : ℕ)

/-- The whole seconds after which the oldest request has left the window. -/
def seconds_until_left (now oldest : ℚ) : ℤ :=
  ⌊oldest + window_seconds - now⌋ + 1

/-- The answer, and the key after the pipeline; the oldest request is read
when the new one has been added. -/
def check_redis_rate_limit (now : ℚ) (key : Key) : Answer × Key :=
  let current_count := (purged window_seconds now key).zcard
  let added := slide window_seconds (window_seconds + 1) now key
  let is_limited : Bool := requests_per_minute ≤ current_count
  let answer :=
    { is_limited := is_limited
      remaining := requests_per_minute - current_count - 1
      retry_after :=
        if is_limited then
          (added.members.zrange_first.map (seconds_until_left now)).getD 0
        else 0 }
  (answer, added)

/-- None where the `min` of no requests raises; the list is cleaned before. -/
def check_fallback_rate_limit (now : ℚ) (fallback_requests : List ℚ) :
    Option Answer × List ℚ :=
  let requests := recent window_seconds now fallback_requests
  if requests_per_minute ≤ requests.length then
    let answer := requests.min?.map (fun oldest =>
      { is_limited := true
        remaining := 0
        retry_after := seconds_until_left now oldest })
    (answer, requests)
  else
    let answer :=
      { is_limited := false
        remaining := requests_per_minute - requests.length - 1
        retry_after := 0 }
    (some answer, requests ++ [now])

/-- The key after the requests. -/
def redis_key (times : List ℚ) : Key :=
  times.foldl (fun key now => (check_redis_rate_limit requests_per_minute now key).2) {}

def fallback_requests (times : List ℚ) : List ℚ :=
  times.foldl (fun requests now =>
    (check_fallback_rate_limit requests_per_minute now requests).2) []

@[simp] theorem redis_key_snoc (times : List ℚ) (now : ℚ) :
    redis_key requests_per_minute (times ++ [now]) =
      (check_redis_rate_limit requests_per_minute now
        (redis_key requests_per_minute times)).2 := by
  simp [redis_key]

@[simp] theorem fallback_requests_snoc (times : List ℚ) (now : ℚ) :
    fallback_requests requests_per_minute (times ++ [now]) =
      (check_fallback_rate_limit requests_per_minute now
        (fallback_requests requests_per_minute times)).2 := by
  simp [fallback_requests]

theorem redis_key_eq_record (times : List ℚ) :
    redis_key requests_per_minute times =
      record window_seconds (window_seconds + 1) times := by
  induction times using List.reverseRecOn with
  | nil => rfl
  | append_singleton times now ih =>
      rw [redis_key_snoc, record_snoc, ih]
      rfl

/-- What each path answers to a request after others. -/
def redis_answer (times : List ℚ) (now : ℚ) : Answer :=
  (check_redis_rate_limit requests_per_minute now
    (redis_key requests_per_minute times)).1

def fallback_answer (times : List ℚ) (now : ℚ) : Option Answer :=
  (check_fallback_rate_limit requests_per_minute now
    (fallback_requests requests_per_minute times)).1

/-- Every request is limited on both paths or on none. -/
def SameDecisions (times : List ℚ) : Prop :=
  ∀ before now, before ++ [now] <+: times →
    (fallback_answer requests_per_minute before now).map Answer.is_limited =
      some (redis_answer requests_per_minute before now).is_limited

/-- After any limited request, the next one is admitted when it comes
`retry_after` seconds later. -/
structure RetriesAdmitted (times : List ℚ) : Prop where
  redis : ∀ before now, before ++ [now] <+: times →
    let answer := redis_answer requests_per_minute before now
    answer.is_limited = true →
      (redis_answer requests_per_minute (before ++ [now])
        (now + answer.retry_after)).is_limited = false
  fallback : ∀ before now, before ++ [now] <+: times →
    ∀ answer, fallback_answer requests_per_minute before now = some answer →
      answer.is_limited = true →
        (fallback_answer requests_per_minute (before ++ [now])
          (now + answer.retry_after)).map Answer.is_limited = some false

end Paths

/-! ## Requests in a window -/

/-- The requests of a window that ends with a request, itself included. -/
def in_window (times : List ℚ) (now : ℚ) : List ℚ :=
  times.filter (fun time => now - window_seconds < time ∧ time ≤ now)

/-- The first whole second from a request on at which the oldest request of
its window has left. -/
def wait (times : List ℚ) (now : ℚ) : ℤ :=
  seconds_until_left now ((in_window times now).min?.getD now)

/-- The requests of the window that are in it still after some time. -/
def in_window_after (times : List ℚ) (now wait : ℚ) : List ℚ :=
  (in_window times now).filter (now + wait - window_seconds < ·)

/-- A request that finds its window full finds it full of requests that did
not, and fewer than the limit stay in it until it may come again. -/
def Uncrowded (requests_per_minute : ℕ) (times : List ℚ) : Prop :=
  ∀ now ∈ times, requests_per_minute < (in_window times now).length →
    requests_per_minute ≤ ((in_window times now).filter
      (fun time => (in_window times time).length ≤ requests_per_minute)).length ∧
    (in_window_after times now (wait times now)).length < requests_per_minute

/-- The readings of a clock that goes on between any two requests. -/
structure Rising (times : List ℚ) : Prop where
  increasing : times.Pairwise (· < ·)
  nonneg : ∀ time ∈ times, 0 ≤ time

namespace Rising

variable {times before : List ℚ} {now : ℚ}

theorem clocked (rising : Rising times) : Clocked times :=
  ⟨rising.increasing.imp le_of_lt, rising.nonneg⟩

theorem of_earlier (rising : Rising times) (earlier : before <+: times) :
    Rising before where
  increasing := rising.increasing.sublist earlier.sublist
  nonneg := fun time member => rising.nonneg time (earlier.subset member)

theorem lt_last (rising : Rising (before ++ [now])) : ∀ time ∈ before, time < now := by
  intro time member
  exact (List.pairwise_append.mp rising.increasing).2.2 time member now (by simp)

theorem snoc (rising : Rising times) (later : ∀ time ∈ times, time < now)
    (nonneg : 0 ≤ now) : Rising (times ++ [now]) where
  increasing := by
    apply List.pairwise_append.mpr
    refine ⟨rising.increasing, List.pairwise_singleton _ _, ?_⟩
    intro time member last same
    exact List.mem_singleton.mp same ▸ later time member
  nonneg := by
    intro time member
    rcases List.mem_append.mp member with earlier | last
    · exact rising.nonneg time earlier
    · exact List.mem_singleton.mp last ▸ nonneg

theorem in_window_of_earlier (rising : Rising times) (earlier : before <+: times)
    {time : ℚ} (member : time ∈ before) :
    in_window times time = in_window before time := by
  obtain ⟨rest, whole⟩ := earlier
  subst whole
  have later := (List.pairwise_append.mp rising.increasing).2.2 time member
  have none_later : rest.filter
      (fun other => time - window_seconds < other ∧ other ≤ time) = [] := by
    apply List.filter_eq_nil_iff.mpr
    intro other after
    simp [later other after]
  rw [in_window, List.filter_append, none_later, List.append_nil, in_window]

theorem in_window_last (rising : Rising (before ++ [now])) :
    in_window (before ++ [now]) now = recent window_seconds now before ++ [now] := by
  have inside : now - window_seconds < now := by norm_num [window_seconds]
  rw [in_window, List.filter_append]
  congr 1
  · apply List.filter_congr
    intro time member
    simp [(rising.lt_last time member).le]
  · simp [inside]

end Rising

theorem recent_recent {window before now : ℚ} (earlier : before ≤ now)
    (times : List ℚ) :
    recent window now (recent window before times) = recent window now times := by
  rw [recent, recent, List.filter_filter]
  apply List.filter_congr
  intro time _
  apply Bool.eq_iff_iff.mpr
  simp only [Bool.and_eq_true, decide_eq_true_eq, and_iff_left_iff_imp]
  intro inside
  linarith

/-- Whatever waits for a time has left the window then. -/
theorem lt_seconds_until_left (now oldest : ℚ) :
    oldest + window_seconds < now + seconds_until_left now oldest := by
  have next := Int.lt_floor_add_one (oldest + window_seconds - now)
  rw [seconds_until_left, Int.cast_add, Int.cast_one]
  linarith

theorem seconds_until_left_pos {now oldest : ℚ}
    (inside : now - window_seconds < oldest) : 0 < seconds_until_left now oldest := by
  have left : 0 ≤ oldest + window_seconds - now := by linarith
  have floor := Int.floor_nonneg.mpr left
  rw [seconds_until_left]
  omega

/-! ## The Redis path -/

section Redis

variable {requests_per_minute : ℕ} {before : List ℚ} {now : ℚ}

theorem redis_is_limited_iff (rising : Rising (before ++ [now])) :
    (redis_answer requests_per_minute before now).is_limited = true ↔
      requests_per_minute < (in_window (before ++ [now]) now).length := by
  have distinct : (recent window_seconds now before).Nodup :=
    ((List.prefix_append before [now]).sublist.nodup
      (rising.increasing.imp ne_of_lt)).filter _
  have counted := zcard_purged_record rising.clocked
    (show window_seconds ≤ window_seconds + 1 by norm_num)
  rw [distinct.dedup] at counted
  rw [rising.in_window_last, List.length_append, List.length_singleton, Nat.lt_succ_iff,
    redis_answer, redis_key_eq_record, check_redis_rate_limit, counted,
      decide_eq_true_iff]

theorem redis_retry_after (rising : Rising (before ++ [now]))
    (limited : (redis_answer requests_per_minute before now).is_limited = true) :
    (redis_answer requests_per_minute before now).retry_after =
      wait (before ++ [now]) now := by
  have first := zrange_first_slide_record rising.clocked
    (show window_seconds ≤ window_seconds + 1 by norm_num)
  rw [← rising.in_window_last] at first
  have some_oldest : (in_window (before ++ [now]) now).min? ≠ none := by
    simp [rising.in_window_last]
  obtain ⟨oldest, found⟩ := Option.ne_none_iff_exists'.mp some_oldest
  simp only [redis_answer, check_redis_rate_limit] at limited ⊢
  rw [if_pos limited, redis_key_eq_record, first, wait, found]
  rfl

/-- The oldest request of a window, and how long it stays. -/
theorem exists_oldest (rising : Rising (before ++ [now])) :
    ∃ oldest ∈ in_window (before ++ [now]) now,
      wait (before ++ [now]) now = seconds_until_left now oldest := by
  cases found : (in_window (before ++ [now]) now).min? with
  | none =>
      rw [List.min?_eq_none_iff, rising.in_window_last] at found
      simp at found
  | some oldest =>
      exact ⟨oldest, (List.min?_eq_some_iff.mp found).1, by rw [wait, found]; rfl⟩

theorem wait_pos (rising : Rising (before ++ [now])) :
    0 < wait (before ++ [now]) now := by
  obtain ⟨oldest, member, same⟩ := exists_oldest rising
  rw [same]
  exact seconds_until_left_pos (of_decide_eq_true (List.mem_filter.mp member).2).1

/-- What a later request sees of a window. -/
theorem recent_later (rising : Rising (before ++ [now])) {seconds : ℚ}
    (later : 0 ≤ seconds) :
    recent window_seconds (now + seconds) (before ++ [now]) =
      in_window_after (before ++ [now]) now seconds := by
  rw [in_window_after, in_window, List.filter_filter, recent]
  apply List.filter_congr
  intro time member
  have past := rising.clocked.le_last
  apply Bool.eq_iff_iff.mpr
  simp only [Bool.and_eq_true, decide_eq_true_eq]
  constructor
  · intro inside
    refine ⟨inside, by linarith, ?_⟩
    rcases List.mem_append.mp member with earlier | last
    · exact past time earlier
    · exact (List.mem_singleton.mp last).le
  · intro inside
    exact inside.1

theorem redis_retry_is_limited_iff (rising : Rising (before ++ [now])) :
    (redis_answer requests_per_minute (before ++ [now])
        (now + wait (before ++ [now]) now)).is_limited = true ↔
      requests_per_minute ≤
        (in_window_after (before ++ [now]) now
          (wait (before ++ [now]) now)).length := by
  have positive : (0 : ℚ) < wait (before ++ [now]) now := by
    exact_mod_cast wait_pos rising
  have retried :
    Rising (before ++ [now] ++ [now + (wait (before ++ [now]) now : ℚ)]) := by
    apply rising.snoc
    · intro time member
      rcases List.mem_append.mp member with earlier | last
      · linarith [rising.lt_last time earlier]
      · linarith [List.mem_singleton.mp last]
    · linarith [rising.nonneg now (by simp)]
  rw [redis_is_limited_iff retried, retried.in_window_last,
    recent_later rising positive.le,
    List.length_append, List.length_singleton, Nat.lt_succ_iff]

end Redis

/-! ## The path in memory -/

section Fallback

variable {requests_per_minute : ℕ} {times before : List ℚ} {now : ℚ}

/-- What a check in memory does. -/
theorem check_fallback_cases (requests_per_minute : ℕ) (now : ℚ) (requests : List ℚ) :
    (requests_per_minute ≤ (recent window_seconds now requests).length ∧
      (check_fallback_rate_limit requests_per_minute now requests).1 =
        (recent window_seconds now requests).min?.map
          (fun oldest => ⟨true, 0, seconds_until_left now oldest⟩) ∧
      (check_fallback_rate_limit requests_per_minute now requests).2 =
        recent window_seconds now requests) ∨
    ((recent window_seconds now requests).length < requests_per_minute ∧
      ((check_fallback_rate_limit requests_per_minute now requests).1.map
        Answer.is_limited) = some false ∧
      (check_fallback_rate_limit requests_per_minute now requests).2 =
        recent window_seconds now requests ++ [now]) := by
  by_cases full : requests_per_minute ≤ (recent window_seconds now requests).length
  · left
    refine ⟨full, ?_, ?_⟩
    · simp only [check_fallback_rate_limit, if_pos full]
    · simp only [check_fallback_rate_limit, if_pos full]
  · right
    refine ⟨not_le.mp full, ?_, ?_⟩
    · simp only [check_fallback_rate_limit, if_neg full, Option.map_some]
    · simp only [check_fallback_rate_limit, if_neg full]

theorem length_fallback_requests_le (requests_per_minute : ℕ) (times : List ℚ) :
    (fallback_requests requests_per_minute times).length ≤ requests_per_minute := by
  induction times using List.reverseRecOn with
  | nil => exact Nat.zero_le _
  | append_singleton times now ih =>
      rw [fallback_requests_snoc]
      rcases check_fallback_cases requests_per_minute now
        (fallback_requests requests_per_minute times) with ⟨_, _, after⟩ |
          ⟨room, _, after⟩
      · rw [after]
        exact (List.length_filter_le _ _).trans ih
      · rw [after, List.length_append]
        exact room

/-- A client limited in memory is admitted once the oldest request has left. -/
theorem fallback_retry_admitted {answer : Answer}
    (answered : fallback_answer requests_per_minute before now = some answer)
    (limited : answer.is_limited = true) :
    (fallback_answer requests_per_minute (before ++ [now])
      (now + answer.retry_after)).map Answer.is_limited = some false := by
  rcases check_fallback_cases requests_per_minute now
    (fallback_requests requests_per_minute before) with ⟨_, first, after⟩ |
      ⟨_, admits, _⟩
  · rw [fallback_answer, first] at answered
    obtain ⟨oldest, lowest, rfl⟩ := Option.map_eq_some_iff.mp answered
    have left := lt_seconds_until_left now oldest
    have member := (List.min?_eq_some_iff.mp lowest).1
    rw [fallback_answer, fallback_requests_snoc, after]
    rcases check_fallback_cases requests_per_minute
      (now + seconds_until_left now oldest)
      (recent window_seconds now (fallback_requests requests_per_minute before)) with
      ⟨full, _⟩ | ⟨_, admits, _⟩
    · -- The oldest request is no longer among those that filled the window.
      have fewer : (recent window_seconds (now + seconds_until_left now oldest)
          (recent window_seconds now
            (fallback_requests requests_per_minute before))).length <
          (recent window_seconds now
            (fallback_requests requests_per_minute before)).length := by
        apply List.length_filter_lt_length_iff_exists.mpr
        refine ⟨oldest, member, ?_⟩
        rw [decide_eq_true_iff, not_lt]
        linarith
      have bounded := (List.length_filter_le (now - window_seconds < ·) _).trans
        (length_fallback_requests_le requests_per_minute before)
      exact absurd full (not_le.mpr (fewer.trans_le bounded))
    · exact admits
  · rw [fallback_answer] at answered
    rw [answered, Option.map_some, limited] at admits
    cases admits

theorem SameDecisions.of_earlier (same : SameDecisions requests_per_minute times)
    (earlier : before <+: times) : SameDecisions requests_per_minute before := by
  intro others now inside
  exact same others now (inside.trans earlier)

/-- The requests that find fewer than the limit in their window. -/
def unlimited (requests_per_minute : ℕ) (times : List ℚ) : List ℚ :=
  times.filter (fun time => (in_window times time).length ≤ requests_per_minute)

theorem unlimited_snoc (rising : Rising (times ++ [now])) :
    unlimited requests_per_minute (times ++ [now]) =
      unlimited requests_per_minute times ++
        if (in_window (times ++ [now]) now).length ≤ requests_per_minute then [now]
        else [] := by
  rw [unlimited, List.filter_append, unlimited]
  congr 1
  · apply List.filter_congr
    intro time member
    rw [rising.in_window_of_earlier (List.prefix_append times [now]) member]
  · simp [List.filter_singleton]

/-- While the decisions are the same, the memory holds what Redis admitted. -/
theorem recent_fallback_requests (rising : Rising (before ++ [now]))
    (same : SameDecisions requests_per_minute before) :
    recent window_seconds now (fallback_requests requests_per_minute before) =
      recent window_seconds now (unlimited requests_per_minute before) := by
  induction before using List.reverseRecOn generalizing now with
  | nil => rfl
  | append_singleton before last ih =>
      have until_last := rising.of_earlier (List.prefix_append (before ++ [last]) [now])
      have past : last ≤ now := (rising.lt_last last (by simp)).le
      have skipped : Rising (before ++ [now]) := by
        apply (until_last.of_earlier (List.prefix_append before [last])).snoc
        · intro time member
          exact rising.lt_last time (List.mem_append_left [last] member)
        · exact rising.nonneg now (by simp)
      have earlier := ih skipped (same.of_earlier (List.prefix_append before [last]))
      have decided := same before last List.prefix_rfl
      rw [fallback_requests_snoc, unlimited_snoc until_last]
      rw [fallback_answer] at decided
      rcases check_fallback_cases requests_per_minute last
        (fallback_requests requests_per_minute before) with
        ⟨_, first, after⟩ | ⟨_, admits, after⟩
      · have crowded : requests_per_minute <
          (in_window (before ++ [last]) last).length := by
          rw [← redis_is_limited_iff until_last]
          rw [first, Option.map_map] at decided
          obtain ⟨oldest, _, limited⟩ := Option.map_eq_some_iff.mp decided
          exact limited.symm
        rw [after, recent_recent past, earlier, if_neg (not_le.mpr crowded),
          List.append_nil]
      · have room : (in_window (before ++ [last]) last).length ≤
          requests_per_minute := by
          rw [← not_lt, ← redis_is_limited_iff until_last]
          rw [admits] at decided
          simp [← Option.some.inj decided]
        rw [after, if_pos room, recent, List.filter_append, ← recent,
          recent_recent past, earlier]
        rw [recent, recent, List.filter_append]

end Fallback

/-! ## When the middleware keeps its word -/

section Main

variable {requests_per_minute : ℕ} {times before : List ℚ} {now : ℚ}

/-- The requests of a full window that are not limited themselves. -/
theorem length_recent_unlimited (rising : Rising times)
    (earlier : before ++ [now] <+: times)
    (crowded : requests_per_minute < (in_window times now).length) :
    (recent window_seconds now (unlimited requests_per_minute before)).length =
      ((in_window times now).filter
        (fun time => (in_window times time).length ≤ requests_per_minute)).length := by
  have until_now := rising.of_earlier earlier
  have here : in_window times now = in_window (before ++ [now]) now :=
    rising.in_window_of_earlier earlier (by simp)
  rw [← not_le] at crowded
  rw [here, until_now.in_window_last, List.filter_append]
  simp only [List.filter_singleton, crowded, decide_false, cond_false, List.append_nil]
  rw [unlimited, recent, recent, List.filter_filter, List.filter_filter]
  congr 1
  apply List.filter_congr
  intro time member
  have inside := (List.prefix_append before [now]).trans earlier
  rw [rising.in_window_of_earlier inside member, Bool.and_comm]

theorem fallback_is_limited (rising : Rising (before ++ [now]))
    (same : SameDecisions requests_per_minute before)
    (positive : 0 < requests_per_minute) :
    (fallback_answer requests_per_minute before now).map Answer.is_limited =
      some (decide (requests_per_minute ≤
        (recent window_seconds now
          (unlimited requests_per_minute before)).length)) := by
  rw [← recent_fallback_requests rising same, fallback_answer]
  rcases check_fallback_cases requests_per_minute now
    (fallback_requests requests_per_minute before) with ⟨full, first, _⟩ |
      ⟨room, admits, _⟩
  · cases found : (recent window_seconds now
      (fallback_requests requests_per_minute before)).min? with
    | none =>
        rw [List.min?_eq_none_iff] at found
        rw [found] at full
        exact absurd full (by simpa using positive.ne')
    | some oldest => simp [first, found, full]
  · simp [admits, room]

theorem wait_of_earlier (rising : Rising times) (earlier : before ++ [now] <+: times) :
    wait times now = wait (before ++ [now]) now := by
  rw [wait, wait, rising.in_window_of_earlier earlier (by simp)]

theorem in_window_after_of_earlier (rising : Rising times)
    (earlier : before ++ [now] <+: times) (seconds : ℚ) :
    in_window_after times now seconds = in_window_after (before ++ [now]) now
      seconds := by
  rw [in_window_after, in_window_after, rising.in_window_of_earlier earlier (by simp)]

theorem same_decisions (rising : Rising times)
    (uncrowded : Uncrowded requests_per_minute times) {earlier : List ℚ}
    (inside : earlier <+: times) : SameDecisions requests_per_minute earlier := by
  induction earlier using List.reverseRecOn with
  | nil =>
      intro before now impossible
      simp at impossible
  | append_singleton earlier last ih =>
      have same := ih ((List.prefix_append earlier [last]).trans inside)
      have until_last := rising.of_earlier inside
      have here : in_window times last = in_window (earlier ++ [last]) last :=
        rising.in_window_of_earlier inside (by simp)
      intro before now shorter
      rcases List.prefix_concat_iff.mp shorter with whole | shorter
      · obtain ⟨rfl, rfl⟩ := List.append_singleton_inj.mp whole
        by_cases crowded : requests_per_minute < (in_window times now).length
        · have limited := (redis_is_limited_iff until_last).mpr (here ▸ crowded)
          obtain ⟨full, left⟩ := uncrowded now (inside.subset (by simp)) crowded
          rw [← length_recent_unlimited rising inside crowded] at full
          rw [fallback_is_limited until_last same (by omega), limited,
            decide_eq_true full]
        · have few := Nat.not_lt.mp crowded
          have admitted := mt (redis_is_limited_iff until_last).mp (here ▸ crowded)
          rw [here, until_last.in_window_last, List.length_append,
            List.length_singleton] at few
          have fewer : (recent window_seconds now
              (unlimited requests_per_minute before)).length ≤
              (recent window_seconds now before).length :=
            (List.filter_sublist.filter _).length_le
          rw [fallback_is_limited until_last same (by omega),
            eq_false_of_ne_true admitted,
            decide_eq_false (by omega)]
      · exact same before now shorter

theorem retries_admitted (rising : Rising times)
    (uncrowded : Uncrowded requests_per_minute times) :
    RetriesAdmitted requests_per_minute times where
  redis := by
    intro before now earlier answer limited
    have until_now := rising.of_earlier earlier
    have crowded := (redis_is_limited_iff until_now).mp limited
    rw [← rising.in_window_of_earlier earlier (by simp)] at crowded
    have left := (uncrowded now (earlier.subset (by simp)) crowded).2
    rw [wait_of_earlier rising earlier,
      in_window_after_of_earlier rising earlier] at left
    rw [redis_retry_after until_now limited, ← Bool.not_eq_true,
      redis_retry_is_limited_iff until_now]
    exact not_le.mpr left
  fallback := by
    intro before now earlier answer answered limited
    exact fallback_retry_admitted answered limited

/-- The paths agree on every request, and every retry in time is admitted, just
when no request finds its window crowded. -/
theorem same_decisions_and_retries_admitted_iff (rising : Rising times) :
    SameDecisions requests_per_minute times ∧ RetriesAdmitted requests_per_minute
      times ↔
      Uncrowded requests_per_minute times := by
  constructor
  · intro ⟨same, retries⟩ now member crowded
    obtain ⟨before, rest, whole⟩ := List.append_of_mem member
    have earlier : before ++ [now] <+: times := ⟨rest, by simp [whole]⟩
    have until_now := rising.of_earlier earlier
    have here : in_window times now = in_window (before ++ [now]) now :=
      rising.in_window_of_earlier earlier (by simp)
    have limited : (redis_answer requests_per_minute before now).is_limited = true :=
      (redis_is_limited_iff until_now).mpr (here ▸ crowded)
    constructor
    · rcases Nat.eq_zero_or_pos requests_per_minute with none_allowed | positive
      · rw [none_allowed]
        exact Nat.zero_le _
      · have decided := same before now earlier
        rw [limited, fallback_is_limited until_now (same.of_earlier
          ((List.prefix_append before [now]).trans earlier)) positive,
          Option.some.injEq, decide_eq_true_iff] at decided
        rwa [length_recent_unlimited rising earlier crowded] at decided
    · have admitted := retries.redis before now earlier limited
      rw [redis_retry_after until_now limited, ← Bool.not_eq_true,
        redis_retry_is_limited_iff until_now, not_le] at admitted
      rwa [wait_of_earlier rising earlier, in_window_after_of_earlier rising earlier]
  · intro uncrowded
    exact ⟨same_decisions rising uncrowded List.prefix_rfl,
      retries_admitted rising uncrowded⟩

theorem one_a_minute_keeps_word :
    SameDecisions 1 [0, 70, 140] ∧ RetriesAdmitted 1 [0, 70, 140] :=
  (same_decisions_and_retries_admitted_iff ⟨by decide, by decide⟩).mpr
    (by unfold Uncrowded; with_unfolding_all decide)

/-- One request a minute: a client limited at 30 is told to wait for 31 seconds,
and limited again then, where the memory admits it. -/
theorem one_a_minute_limited_twice :
    Rising [0, 30, 61] ∧ ¬SameDecisions 1 [0, 30, 61] ∧
      ¬RetriesAdmitted 1 [0, 30, 61] := by
  refine ⟨⟨by decide, by decide⟩, ?_, ?_⟩
  · intro same
    exact absurd (same [0, 30] 61 List.prefix_rfl) (by with_unfolding_all decide)
  · intro retries
    have limited : (redis_answer 1 [0] 30).is_limited = true := by with_unfolding_all decide
    exact absurd (retries.redis [0] 30 ⟨[61], rfl⟩ limited) (by with_unfolding_all decide)

end Main

end HftEngine.RateLimitMiddleware
