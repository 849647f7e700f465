import HftEngine.Lib.SlidingWindow
import Mathlib.Algebra.Order.Floor.Ring
import Mathlib.Data.Rat.Floor

/-!
# The rate limiter with a minute and a day window

The requests of one key of a `RateLimiter`.  A time is a reading of the clock
in seconds; `str` gives two readings one text only if they are the same, so
the reading itself stands for the member that is made of it.
-/

namespace HftEngine.RateLimiter

open SlidingWindow

structure Limits where
  limit_per_minute : ℕ
  limit_per_day : ℕ

/-- The two keys of Redis. -/
structure Store where
  minute : Key := {}
  day : Key := {}

structure WindowInfo where
  limit : ℕ
  remaining : ℕ
  reset : ℤ
  deriving DecidableEq, Repr

inductive Exceeded where
  | minute
  | day
  deriving DecidableEq, Repr

/-- The fields of `day` are all None when there is no limit for the day. -/
structure Info where
  allowed : Bool
  minute : WindowInfo
  day : Option WindowInfo
  exceeded_limit : Option Exceeded
  deriving DecidableEq, Repr

def minute_window : ℚ := 60

def day_window : ℚ := 86400

/-! ## Checks -/

/-- The keys after the pipeline. -/
def pipeline (now : ℚ) (store : Store) : Store where
  minute := slide minute_window minute_window now store.minute
  day := slide day_window day_window now store.day

def minute_count (now : ℚ) (store : Store) : ℕ :=
  (purged minute_window now store.minute).zcard

def day_count (now : ℚ) (store : Store) : ℕ :=
  (purged day_window now store.day).zcard

def check_rate_limit (limits : Limits) (now : ℚ) (store : Store) : Info × Store :=
  let minute_exceeded : Bool := limits.limit_per_minute ≤ minute_count now store
  let day_exceeded : Bool := limits.limit_per_day ≤ day_count now store
  let info :=
    { allowed := !(minute_exceeded || day_exceeded)
      minute :=
        { limit := limits.limit_per_minute
          remaining := limits.limit_per_minute - minute_count now store - 1
          reset := ⌊now + minute_window⌋ }
      day :=
        if limits.limit_per_day = 0 then none
        else some
          { limit := limits.limit_per_day
            remaining := limits.limit_per_day - day_count now store - 1
            reset := ⌊now + day_window⌋ }
      exceeded_limit :=
        if minute_exceeded then some .minute
        else if day_exceeded then some .day
        else none }
  (info, pipeline now store)

theorem allowed_iff (limits : Limits) (now : ℚ) (store : Store) :
    (check_rate_limit limits now store).1.allowed = true ↔
      minute_count now store < limits.limit_per_minute ∧
        day_count now store < limits.limit_per_day := by
  simp [check_rate_limit]

/-! ## Runs -/

/-- The requests that have been admitted so far are kept beside the keys. -/
structure Run where
  store : Store := {}
  admitted : List ℚ := []

def request (limits : Limits) (run : Run) (now : ℚ) : Run :=
  let answer := check_rate_limit limits now run.store
  { store := answer.2
    admitted := if answer.1.allowed then run.admitted ++ [now] else run.admitted }

def run (limits : Limits) (times : List ℚ) : Run :=
  times.foldl (request limits) {}

@[simp] theorem run_snoc (limits : Limits) (times : List ℚ) (now : ℚ) :
    run limits (times ++ [now]) = request limits (run limits times) now := by
  simp [run]

theorem store_run (limits : Limits) (times : List ℚ) :
    (run limits times).store =
      { minute := record minute_window minute_window times
        day := record day_window day_window times } := by
  induction times using List.reverseRecOn with
  | nil => rfl
  | append_singleton times now ih =>
      rw [run_snoc, record_snoc, record_snoc]
      simp only [request, check_rate_limit, pipeline, ih]

/-- The distinct times before a request fill its minute or its day. -/
def Full (limits : Limits) (times : List ℚ) (now : ℚ) : Prop :=
  limits.limit_per_minute ≤ (recent minute_window now times).dedup.length ∨
    limits.limit_per_day ≤ (recent day_window now times).dedup.length

variable {limits : Limits} {times : List ℚ} {now : ℚ}

theorem admitted_snoc (limits : Limits) (clocked : Clocked (times ++ [now])) :
    (Full limits times now ∧
      (run limits (times ++ [now])).admitted = (run limits times).admitted) ∨
    (¬Full limits times now ∧
      (run limits (times ++ [now])).admitted =
        (run limits times).admitted ++ [now]) := by
  have decided : (check_rate_limit limits now (run limits times).store).1.allowed =
    true ↔
      ¬Full limits times now := by
    rw [allowed_iff, store_run, Full, not_or, not_le, not_le, minute_count, day_count,
      zcard_purged_record clocked le_rfl, zcard_purged_record clocked le_rfl]
  rw [run_snoc, request]
  by_cases allowed :
      (check_rate_limit limits now (run limits times).store).1.allowed = true
  · right
    exact ⟨decided.mp allowed, if_pos allowed⟩
  · left
    exact ⟨not_not.mp (mt decided.mpr allowed), if_neg allowed⟩

theorem admitted_sublist (clocked : Clocked times) :
    (run limits times).admitted.Sublist times := by
  induction times using List.reverseRecOn with
  | nil => exact List.Sublist.refl []
  | append_singleton times now ih =>
      have earlier := ih clocked.init
      rcases admitted_snoc limits clocked with ⟨_, same⟩ | ⟨_, added⟩
      · rw [same]
        exact earlier.trans (List.sublist_append_left times [now])
      · rw [added]
        exact earlier.append (List.Sublist.refl [now])

/-! ## The bound -/

/-- No request with room in both windows comes at the time of an earlier one. -/
def ToldApart (limits : Limits) (times : List ℚ) : Prop :=
  ∀ before now, before ++ [now] <+: times → now ∈ before → Full limits before now

theorem ToldApart.init (apart : ToldApart limits (times ++ [now])) :
    ToldApart limits times := by
  intro before last earlier
  exact apart before last (earlier.trans (List.prefix_append times [now]))

theorem ToldApart.of_increasing (increasing : times.Pairwise (· < ·)) :
    ToldApart limits times := by
  intro before now earlier member
  have ordered := increasing.sublist earlier.sublist
  exact absurd ((List.pairwise_append.mp ordered).2.2 now member now (by simp))
    (lt_irrefl now)

theorem admitted_nodup (clocked : Clocked times) (apart : ToldApart limits times) :
    (run limits times).admitted.Nodup := by
  induction times using List.reverseRecOn with
  | nil => exact List.nodup_nil
  | append_singleton times now ih =>
      have earlier := ih clocked.init apart.init
      rcases admitted_snoc limits clocked with ⟨_, same⟩ | ⟨room, added⟩
      · rwa [same]
      · rw [added, List.nodup_append_comm, List.singleton_append, List.nodup_cons]
        refine ⟨?_, earlier⟩
        intro repeated
        have before := (admitted_sublist clocked.init).subset repeated
        exact room (apart times now List.prefix_rfl before)

/-- Distinct admitted requests are among the distinct times that are counted. -/
theorem length_recent_admitted (now : ℚ) (clocked : Clocked times)
    (distinct : (run limits times).admitted.Nodup) (window : ℚ) :
    (recent window now (run limits times).admitted).length ≤
      (recent window now times).dedup.length := by
  apply List.Subperm.length_le
  apply List.subperm_of_subset (distinct.filter _)
  intro time inside
  obtain ⟨admitted, late⟩ := mem_recent_iff.mp inside
  rw [List.mem_dedup]
  exact mem_recent_iff.mpr ⟨(admitted_sublist clocked).subset admitted, late⟩

theorem admitted_within_limits (clocked : Clocked times)
    (apart : ToldApart limits times) :
    WithinLimit minute_window limits.limit_per_minute (run limits times).admitted ∧
      WithinLimit day_window limits.limit_per_day (run limits times).admitted := by
  induction times using List.reverseRecOn with
  | nil => exact ⟨withinLimit_nil _ _, withinLimit_nil _ _⟩
  | append_singleton times now ih =>
      obtain ⟨minute, day⟩ := ih clocked.init apart.init
      rcases admitted_snoc limits clocked with ⟨_, same⟩ | ⟨room, added⟩
      · rw [same]
        exact ⟨minute, day⟩
      · have distinct := admitted_nodup clocked.init apart.init
        have counted := length_recent_admitted now clocked.init distinct
        simp only [Full, not_or, not_le] at room
        rw [added]
        constructor
        · exact minute.snoc ((counted minute_window).trans_lt room.1)
        · exact day.snoc ((counted day_window).trans_lt room.2)

theorem admitted_within_two_a_minute :
    WithinLimit minute_window 2 (run ⟨2, 100⟩ [0, 20, 40, 60]).admitted ∧
      WithinLimit day_window 100 (run ⟨2, 100⟩ [0, 20, 40, 60]).admitted :=
  admitted_within_limits ⟨by decide, by decide⟩ (.of_increasing (by decide))

/-- Three requests at one time are one member, so a limit of two admits them all. -/
theorem admitted_beyond_limit :
    Clocked [7, 7, 7] ∧
      ¬WithinLimit minute_window 2 (run ⟨2, 100⟩ [7, 7, 7]).admitted := by
  refine ⟨⟨by decide, by decide⟩, ?_⟩
  intro within
  exact absurd (within 0) (by with_unfolding_all decide)

end HftEngine.RateLimiter
