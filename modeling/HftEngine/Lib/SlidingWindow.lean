import Mathlib.Algebra.Order.Ring.Rat
import Mathlib.Data.List.AList
import Mathlib.Data.List.Dedup
import Mathlib.Data.List.Induction
import Mathlib.Tactic.Linarith

/-!
# Sliding windows kept as sorted sets

A sorted set holds every member once, with a score.  A window of requests may
be kept as a sorted set of their times: each request removes the times that
have left the window, counts the others, and adds its own.  The count is the
number of distinct times, since two requests at one time are one member.
-/

namespace SlidingWindow

/-! ## Sorted sets -/

abbrev SortedSet (Member Score : Type) := AList (fun _ : Member => Score)

namespace SortedSet

variable {Member Score : Type}

def zadd [DecidableEq Member] (member : Member) (score : Score)
    (set : SortedSet Member Score) : SortedSet Member Score :=
  set.insert member score

def zcard (set : SortedSet Member Score) : ℕ :=
  set.keys.length

/-- Both bounds are inclusive. -/
def zremrangebyscore [LE Score] [DecidableLE Score] (low high : Score)
    (set : SortedSet Member Score) : SortedSet Member Score where
  entries := set.entries.filter (fun entry => ¬(low ≤ entry.2 ∧ entry.2 ≤ high))
  nodupKeys := set.nodupKeys.sublist List.filter_sublist

/-- The score of the only member in the range from 0 to 0. -/
def zrange_first [Min Score] (set : SortedSet Member Score) : Option Score :=
  (set.entries.map Sigma.snd).min?

theorem mem_entries_iff [DecidableEq Member] {set : SortedSet Member Score}
    {member : Member} {score : Score} :
    ⟨member, score⟩ ∈ set.entries ↔ set.lookup member = some score :=
  AList.mem_lookup_iff.symm

theorem lookup_zadd [DecidableEq Member] (set : SortedSet Member Score)
    (member other : Member) (score : Score) :
    (set.zadd member score).lookup other =
      if other = member then some score else set.lookup other := by
  split
  case isTrue same =>
      subst same
      exact AList.lookup_insert set
  case isFalse different => exact AList.lookup_insert_ne different

theorem lookup_zremrangebyscore_iff [DecidableEq Member] [LE Score]
    [DecidableLE Score] {set : SortedSet Member Score} {low high score : Score}
    {member : Member} :
    (set.zremrangebyscore low high).lookup member = some score ↔
      set.lookup member = some score ∧ ¬(low ≤ score ∧ score ≤ high) := by
  rw [← mem_entries_iff, ← mem_entries_iff]
  simp only [zremrangebyscore, List.mem_filter, decide_eq_true_eq]

/-- The members, counted by any list that names each of them once. -/
theorem zcard_eq_length [DecidableEq Member] {set : SortedSet Member Score}
    {members : List Member} (distinct : members.Nodup)
    (same : ∀ member, member ∈ members ↔ (set.lookup member).isSome) :
    set.zcard = members.length := by
  apply List.Perm.length_eq
  rw [List.perm_ext_iff_of_nodup set.keys_nodup distinct]
  intro member
  rw [same member, AList.lookup_isSome, AList.mem_keys]

/-- The lowest score, from any list of the scores. -/
theorem zrange_first_eq_min? [DecidableEq Member] [LinearOrder Score]
    {set : SortedSet Member Score} {scores : List Score}
    (same : ∀ score, score ∈ scores ↔ ∃ member, set.lookup member = some score) :
    set.zrange_first = scores.min? := by
  ext lowest
  rw [zrange_first, List.min?_eq_some_iff, List.min?_eq_some_iff]
  simp [same, ← mem_entries_iff]

end SortedSet

/-! ## Keys -/

/-- A key with a sorted set of times, each the score of itself. -/
structure Key where
  members : SortedSet ℚ ℚ := ∅
  deadline : Option ℚ := none

/-- What a key still holds once it may have expired. -/
def Key.live (now : ℚ) (key : Key) : SortedSet ℚ ℚ :=
  if key.deadline.any (· < now) then ∅ else key.members

/-- The times that a window ending now has not left behind. -/
def recent (window now : ℚ) (times : List ℚ) : List ℚ :=
  times.filter (now - window < ·)

section Slide

variable (window ttl : ℚ)

def purged (now : ℚ) (key : Key) : SortedSet ℚ ℚ :=
  (key.live now).zremrangebyscore 0 (now - window)

/-- The key after a request has been added. -/
def slide (now : ℚ) (key : Key) : Key where
  members := (purged window now key).zadd now now
  deadline := some (now + ttl)

def record (times : List ℚ) : Key :=
  times.foldl (fun key now => slide window ttl now key) {}

@[simp] theorem record_snoc (times : List ℚ) (now : ℚ) :
    record window ttl (times ++ [now]) =
      slide window ttl now (record window ttl times) := by
  simp [record]

end Slide

/-- The times of requests in the order in which they come. -/
structure Clocked (times : List ℚ) : Prop where
  sorted : times.Pairwise (· ≤ ·)
  nonneg : ∀ time ∈ times, 0 ≤ time

theorem Clocked.init {times : List ℚ} {now : ℚ} (clocked : Clocked (times ++ [now])) :
    Clocked times where
  sorted := (List.pairwise_append.mp clocked.sorted).1
  nonneg := by
    intro time member
    exact clocked.nonneg time (List.mem_append_left [now] member)

theorem Clocked.le_last {times : List ℚ} {now : ℚ}
    (clocked : Clocked (times ++ [now])) : ∀ time ∈ times, time ≤ now := by
  intro time member
  exact (List.pairwise_append.mp clocked.sorted).2.2 time member now (by simp)

/-- What a key holds of the requests that it has been given. -/
structure Keeps (window : ℚ) (times : List ℚ) (key : Key) : Prop where
  sound : ∀ time score, key.members.lookup time = some score →
    score = time ∧ time ∈ times
  complete : ∀ time ∈ times, key.members.lookup time = some time ∨
    ∃ later ∈ times, time ≤ later - window
  deadline : ∀ deadline ∈ key.deadline, ∀ time ∈ times, time + window ≤ deadline

section Keeps

variable {window ttl now : ℚ} {times : List ℚ} {key : Key}

theorem mem_recent_iff {time : ℚ} :
    time ∈ recent window now times ↔ time ∈ times ∧ now - window < time := by
  simp [recent]

/-- A key expires no earlier than its last time leaves the window. -/
theorem Keeps.lookup_live (keeps : Keeps window times key) {time : ℚ}
    (present : time ∈ recent window now times) :
    (key.live now).lookup time = key.members.lookup time := by
  obtain ⟨member, inside⟩ := mem_recent_iff.mp present
  unfold Key.live
  split
  case isTrue expired =>
      obtain ⟨deadline, set, passed⟩ := (Option.any_eq_true _ _).mp expired
      have allowed := keeps.deadline deadline set time member
      have before : deadline < now := of_decide_eq_true passed
      linarith
  case isFalse => rfl

theorem lookup_of_lookup_live {time score : ℚ}
    (found : (key.live now).lookup time = some score) :
    key.members.lookup time = some score := by
  unfold Key.live at found
  split at found
  case isTrue => simp at found
  case isFalse => exact found

theorem Keeps.lookup_purged (keeps : Keeps window times key)
    (latest : ∀ time ∈ times, time ≤ now) (nonneg : ∀ time ∈ times, 0 ≤ time)
    {time score : ℚ} :
    (purged window now key).lookup time = some score ↔
      score = time ∧ time ∈ recent window now times := by
  rw [purged, SortedSet.lookup_zremrangebyscore_iff]
  constructor
  · intro found
    obtain ⟨found, outside⟩ := found
    obtain ⟨same, member⟩ := keeps.sound time score (lookup_of_lookup_live found)
    subst same
    refine ⟨rfl, mem_recent_iff.mpr ⟨member, ?_⟩⟩
    by_contra left
    exact outside ⟨nonneg score member, not_lt.mp left⟩
  · intro present
    obtain ⟨same, present⟩ := present
    subst same
    obtain ⟨member, inside⟩ := mem_recent_iff.mp present
    rw [keeps.lookup_live present]
    refine ⟨?_, fun removed => absurd removed.2 (not_le.mpr inside)⟩
    rcases keeps.complete score member with kept | removed
    · exact kept
    · obtain ⟨later, last, left⟩ := removed
      have past := latest later last
      linarith

theorem Keeps.slide (keeps : Keeps window times key)
    (clocked : Clocked (times ++ [now])) (lasting : window ≤ ttl) :
    Keeps window (times ++ [now]) (slide window ttl now key) where
  sound := by
    intro time score found
    rw [SlidingWindow.slide, SortedSet.lookup_zadd] at found
    split at found
    case isTrue same =>
        subst same
        exact ⟨(Option.some.inj found).symm, by simp⟩
    case isFalse =>
        have kept := (keeps.lookup_purged clocked.le_last clocked.init.nonneg).mp found
        exact ⟨kept.1, List.mem_append_left _ (mem_recent_iff.mp kept.2).1⟩
  complete := by
    intro time member
    rw [SlidingWindow.slide, SortedSet.lookup_zadd]
    split
    case isTrue same => exact .inl (same ▸ rfl)
    case isFalse different =>
        have earlier : time ∈ times := by simpa [different] using member
        by_cases inside : now - window < time
        · left
          rw [keeps.lookup_purged clocked.le_last clocked.init.nonneg]
          exact ⟨rfl, mem_recent_iff.mpr ⟨earlier, inside⟩⟩
        · exact .inr ⟨now, by simp, not_lt.mp inside⟩
  deadline := by
    intro deadline set time member
    obtain rfl : now + ttl = deadline := Option.some.inj set
    have past : time ≤ now := by
      rcases List.mem_append.mp member with earlier | last
      · exact clocked.le_last time earlier
      · exact (List.mem_singleton.mp last).le
    linarith

theorem keeps_record (clocked : Clocked times) (lasting : window ≤ ttl) :
    Keeps window times (record window ttl times) := by
  induction times using List.reverseRecOn with
  | nil => exact ⟨by simp [record], by simp, by simp [record]⟩
  | append_singleton times now ih =>
      rw [record_snoc]
      exact (ih clocked.init).slide clocked lasting

theorem lookup_purged_record (clocked : Clocked (times ++ [now]))
    (lasting : window ≤ ttl) {time score : ℚ} :
    (purged window now (record window ttl times)).lookup time = some score ↔
      score = time ∧ time ∈ recent window now times :=
  (keeps_record clocked.init lasting).lookup_purged clocked.le_last clocked.init.nonneg

/-- Once it has added itself, a request finds its window with itself in it. -/
theorem zrange_first_slide_record (clocked : Clocked (times ++ [now]))
    (lasting : window ≤ ttl) :
    (slide window ttl now (record window ttl times)).members.zrange_first =
      (recent window now times ++ [now]).min? := by
  apply SortedSet.zrange_first_eq_min?
  intro score
  simp only [slide, SortedSet.lookup_zadd, List.mem_append, List.mem_singleton]
  constructor
  · intro member
    refine ⟨score, ?_⟩
    split
    case isTrue last => rw [last]
    case isFalse earlier =>
        rw [lookup_purged_record clocked lasting]
        exact ⟨rfl, member.resolve_right earlier⟩
  · intro found
    obtain ⟨time, found⟩ := found
    split at found
    case isTrue => exact .inr (Option.some.inj found).symm
    case isFalse =>
        obtain ⟨same, inside⟩ := (lookup_purged_record clocked lasting).mp found
        exact .inl (same ▸ inside)

/-- A request counts the distinct times of the requests before it that its
window holds. -/
theorem zcard_purged_record (clocked : Clocked (times ++ [now]))
    (lasting : window ≤ ttl) :
    (purged window now (record window ttl times)).zcard =
      (recent window now times).dedup.length := by
  apply SortedSet.zcard_eq_length (List.nodup_dedup _)
  intro time
  rw [List.mem_dedup, Option.isSome_iff_exists]
  constructor
  · intro present
    exact ⟨time, (lookup_purged_record clocked lasting).mpr ⟨rfl, present⟩⟩
  · intro held
    obtain ⟨score, held⟩ := held
    exact ((lookup_purged_record clocked lasting).mp held).2

end Keeps

/-! ## Limits -/

/-- No window holds more times than the limit. -/
def WithinLimit (window : ℚ) (limit : ℕ) (times : List ℚ) : Prop :=
  ∀ start, (times.filter (fun time => start ≤ time ∧ time < start + window)).length ≤
    limit

theorem withinLimit_nil (window : ℚ) (limit : ℕ) : WithinLimit window limit [] := by
  intro start
  exact Nat.zero_le limit

theorem WithinLimit.snoc {window now : ℚ} {limit : ℕ} {times : List ℚ}
    (within : WithinLimit window limit times)
    (room : (recent window now times).length < limit) :
    WithinLimit window limit (times ++ [now]) := by
  intro start
  rw [List.filter_append, List.length_append]
  by_cases inside : start ≤ now ∧ now < start + window
  · -- Every time of this window is still in the one that ends now.
    have earlier : (times.filter
        (fun time => start ≤ time ∧ time < start + window)).length ≤
        (recent window now times).length := by
      apply List.Sublist.length_le
      apply List.monotone_filter_right
      intro time held
      have bounds := of_decide_eq_true held
      apply decide_eq_true
      linarith [inside.2, bounds.1]
    simp only [List.filter_singleton, inside, and_self, decide_true, cond_true,
      List.length_singleton]
    omega
  · simpa [inside] using within start

end SlidingWindow
