import HftEngine.Lib.Recency
import HftEngine.Processor.AnalyzerCache
import Mathlib.Data.List.Count
import Mathlib.Order.Defs.LinearOrder

/-!
# The two maps of `TTLCache`

The cache as `analyzer_cache.py` has it: values in an `OrderedDict`, timestamps in
a dictionary beside it, and the counters.  A history of calls says what may be
found, what is evicted and what is counted, and the cache with one map of the PCR analysis
is what the two maps amount to.
-/

namespace HftEngine.Processor.TwoMaps

/-- `maxsize` is at least 0; `time.time()` is the parameter `now` of the methods. -/
structure TTLCache (Key Value Time : Type) where
  maxsize : ℕ
  ttl : Time
  _cache : OrderedDict Key Value := ∅
  _timestamps : OrderedDict Key Time := ∅
  hits : ℕ := 0
  misses : ℕ := 0
  evictions : ℕ := 0

namespace TTLCache

variable {Key Value Time : Type} [DecidableEq Key]

section Methods

variable [Sub Time] [LT Time] [DecidableLT Time]

/-- What is found, and the cache afterwards; none is an exception. -/
def get (key : Key) (now : Time) (cache : TTLCache Key Value Time) :
    Option (Option Value × TTLCache Key Value Time) :=
  if key ∉ cache._cache then
    some (none, { cache with misses := cache.misses + 1 })
  else do
    let timestamp ← cache._timestamps.lookup key
    if now - timestamp > cache.ttl then
      let _cache ← OrderedDict.delItem key cache._cache
      let _timestamps ← OrderedDict.delItem key cache._timestamps
      some (none,
        { cache with
          _cache, _timestamps, misses := cache.misses + 1, evictions := cache.evictions + 1 })
    else
      let _cache ← OrderedDict.move_to_end key cache._cache
      let value ← _cache.lookup key
      some (some value, { cache with _cache, hits := cache.hits + 1 })

end Methods

/-- The first branch of `set`. -/
def evict_oldest (cache : TTLCache Key Value Time) : Option (TTLCache Key Value Time) := do
  let oldest_key ← OrderedDict.first cache._cache
  let _cache ← OrderedDict.delItem oldest_key cache._cache
  let _timestamps ← OrderedDict.delItem oldest_key cache._timestamps
  some { cache with _cache, _timestamps, evictions := cache.evictions + 1 }

def set (key : Key) (value : Value) (now : Time) (cache : TTLCache Key Value Time) :
    Option (TTLCache Key Value Time) := do
  let cache ←
    if cache._cache.keys.length ≥ cache.maxsize ∧ key ∉ cache._cache then cache.evict_oldest
    else some cache
  let _cache := OrderedDict.setItem key value cache._cache
  let _timestamps := OrderedDict.setItem key now cache._timestamps
  let _cache ← if key ∈ _cache then OrderedDict.move_to_end key _cache else some _cache
  some { cache with _cache, _timestamps }

omit [DecidableEq Key] in
def clear (cache : TTLCache Key Value Time) : TTLCache Key Value Time :=
  { cache with _cache := ∅, _timestamps := ∅ }

/-! ## What the methods do -/

/-- The two maps have the same keys. -/
def SameKeys (cache : TTLCache Key Value Time) : Prop :=
  ∀ key, key ∈ cache._cache ↔ key ∈ cache._timestamps

/-- An entry of both maps. -/
def Holds (cache : TTLCache Key Value Time) (key : Key) (value : Value) (timestamp : Time) :
    Prop :=
  cache._cache.lookup key = some value ∧ cache._timestamps.lookup key = some timestamp

variable {cache : TTLCache Key Value Time} {key other : Key} {value : Value}
  {now timestamp : Time}

theorem SameKeys.holds (same : cache.SameKeys) (present : key ∈ cache._cache) :
    ∃ value timestamp, cache.Holds key value timestamp := by
  have stamped := (same key).mp present
  obtain ⟨value, found⟩ := Option.isSome_iff_exists.mp (AList.lookup_isSome.mpr present)
  obtain ⟨timestamp, at_key⟩ := Option.isSome_iff_exists.mp (AList.lookup_isSome.mpr stamped)
  exact ⟨value, timestamp, found, at_key⟩

theorem Holds.present (holds : cache.Holds key value timestamp) : key ∈ cache._cache :=
  AList.lookup_isSome.mp (by rw [holds.1]; rfl)

theorem Holds.stamped (holds : cache.Holds key value timestamp) : key ∈ cache._timestamps :=
  AList.lookup_isSome.mp (by rw [holds.2]; rfl)

/-- The maps without a key. -/
def without (key : Key) (cache : TTLCache Key Value Time) : TTLCache Key Value Time :=
  { cache with
    _cache := cache._cache.erase key
    _timestamps := cache._timestamps.erase key
    evictions := cache.evictions + 1 }

/-- The maps with an entry that is the last one used. -/
def put (key : Key) (value : Value) (now : Time) (cache : TTLCache Key Value Time) :
    TTLCache Key Value Time :=
  { cache with
    _cache := cache._cache.insert key value
    _timestamps := OrderedDict.setItem key now cache._timestamps }

section Get

variable [Sub Time] [LT Time] [DecidableLT Time]

theorem get_absent (absent : key ∉ cache._cache) :
    cache.get key now = some (none, { cache with misses := cache.misses + 1 }) := by
  rw [get, if_pos absent]

theorem get_expired (holds : cache.Holds key value timestamp)
    (late : now - timestamp > cache.ttl) :
    cache.get key now =
      some (none, { cache.without key with misses := cache.misses + 1 }) := by
  rw [get, if_neg (not_not_intro holds.present), holds.2, Option.bind_eq_bind,
    Option.bind_some, if_pos late, OrderedDict.delItem_of_mem holds.present,
    OrderedDict.delItem_of_mem holds.stamped]
  rfl

theorem get_fresh (holds : cache.Holds key value timestamp)
    (fresh : ¬now - timestamp > cache.ttl) :
    cache.get key now =
      some (some value,
        { cache with _cache := cache._cache.insert key value, hits := cache.hits + 1 }) := by
  rw [get, if_neg (not_not_intro holds.present), holds.2, Option.bind_eq_bind,
    Option.bind_some, if_neg fresh, OrderedDict.move_to_end_of_lookup holds.1,
    Option.bind_eq_bind, Option.bind_some, AList.lookup_insert]
  rfl

end Get

/-- The end of `set`, which runs after the eviction. -/
theorem put_eq :
    (do
      let _cache := OrderedDict.setItem key value cache._cache
      let _timestamps := OrderedDict.setItem key now cache._timestamps
      let _cache ← if key ∈ _cache then OrderedDict.move_to_end key _cache else some _cache
      some { cache with _cache, _timestamps }) = some (cache.put key value now) := by
  have present : key ∈ OrderedDict.setItem key value cache._cache :=
    OrderedDict.mem_setItem.mpr (.inl rfl)
  rw [if_pos present, OrderedDict.move_to_end_setItem]
  rfl

theorem set_room (room : cache._cache.keys.length < cache.maxsize ∨ key ∈ cache._cache) :
    cache.set key value now = some (cache.put key value now) := by
  have no_eviction : ¬(cache._cache.keys.length ≥ cache.maxsize ∧ key ∉ cache._cache) := by
    intro ⟨full, absent⟩
    rcases room with below | present
    · omega
    · exact absent present
  rw [set, if_neg no_eviction]
  exact put_eq

variable (value now) in
/-- The key used longest ago is there, since `maxsize` is not 0. -/
theorem set_full (same : cache.SameKeys) (positive : 1 ≤ cache.maxsize)
    (full : cache.maxsize ≤ cache._cache.keys.length) (absent : key ∉ cache._cache) :
    ∃ newer oldest_key, cache._cache.keys = newer ++ [oldest_key] ∧
      cache.set key value now = some ((cache.without oldest_key).put key value now) := by
  rcases List.eq_nil_or_concat cache._cache.keys with none | ⟨newer, oldest_key, split⟩
  · rw [none, List.length_nil] at full
    omega
  · rw [List.concat_eq_append] at split
    have present : oldest_key ∈ cache._cache := by
      rw [AList.mem_keys, split]
      simp
    have evicted : cache.evict_oldest = some (cache.without oldest_key) := by
      rw [evict_oldest, OrderedDict.first, split, List.getLast?_concat, Option.bind_eq_bind,
        Option.bind_some, OrderedDict.delItem_of_mem present,
        OrderedDict.delItem_of_mem ((same oldest_key).mp present)]
      rfl
    refine ⟨newer, oldest_key, split, ?_⟩
    rw [set, if_pos ⟨full, absent⟩, evicted]
    exact put_eq

/-! ## The same keys -/

theorem SameKeys.without (same : cache.SameKeys) (gone : Key) :
    (cache.without gone).SameKeys := by
  intro key
  rw [TTLCache.without, AList.mem_erase, AList.mem_erase, same key]

theorem SameKeys.put (same : cache.SameKeys) : (cache.put key value now).SameKeys := by
  intro other
  rw [TTLCache.put, AList.mem_insert, OrderedDict.mem_setItem, same other]

theorem SameKeys.touch (same : cache.SameKeys) (present : key ∈ cache._cache) :
    SameKeys { cache with _cache := cache._cache.insert key value } := by
  intro other
  rw [AList.mem_insert, ← same other]
  constructor
  · rintro (here | member)
    · rwa [here]
    · exact member
  · exact .inr

/-! ## What is held -/

variable {held : Value} {at_time : Time}

theorem holds_put_iff :
    (cache.put key value now).Holds other held at_time ↔
      (other = key ∧ value = held ∧ now = at_time) ∨
        (other ≠ key ∧ cache.Holds other held at_time) := by
  unfold Holds put
  rw [OrderedDict.lookup_insert_iff, OrderedDict.lookup_setItem_iff]
  by_cases same : other = key <;> simp [same]

theorem holds_without_iff {gone : Key} :
    (cache.without gone).Holds other held at_time ↔
      other ≠ gone ∧ cache.Holds other held at_time := by
  unfold Holds without
  rw [OrderedDict.lookup_erase_iff, OrderedDict.lookup_erase_iff]
  by_cases same : other = gone <;> simp [same]

theorem holds_touch_iff (holds : cache.Holds key value timestamp) :
    Holds { cache with _cache := cache._cache.insert key value } other held at_time ↔
      cache.Holds other held at_time := by
  unfold Holds
  rw [OrderedDict.lookup_insert_iff]
  by_cases same : other = key
  · subst same
    simp [holds.1]
  · simp [same]

end TTLCache

/-! ## Histories of calls -/

inductive Call (Key Value : Type) where
  | get (key : Key)
  | set (key : Key) (value : Value)
  | clear

/-- A call that has returned: a `get` returns what it has found. -/
structure Event (Key Value Time : Type) where
  time : Time
  call : Call Key Value
  result : Option Value
  before : TTLCache Key Value Time
  after : TTLCache Key Value Time

section Run

variable {Key Value Time : Type} [DecidableEq Key] [Sub Time] [LT Time] [DecidableLT Time]

def perform (now : Time) (cache : TTLCache Key Value Time) :
    Call Key Value → Option (Option Value × TTLCache Key Value Time)
  | .get key => cache.get key now
  | .set key value => do
      let cache ← cache.set key value now
      some (none, cache)
  | .clear => some (none, cache.clear)

/-- A call after a history, with the time of the call. -/
def record (state : List (Event Key Value Time) × TTLCache Key Value Time)
    (request : Time × Call Key Value) :
    Option (List (Event Key Value Time) × TTLCache Key Value Time) := do
  let (history, before) := state
  let (time, call) := request
  let (result, after) ← perform time before call
  some (history ++ [{ time, call, result, before, after }], after)

/-- The history of calls, and the cache after them. -/
def run (maxsize : ℕ) (ttl : Time) (calls : List (Time × Call Key Value)) :
    Option (List (Event Key Value Time) × TTLCache Key Value Time) :=
  calls.foldlM record ([], { maxsize, ttl })

end Run

namespace Event

variable {Key Value Time : Type}

/-- A call that sets the key, or reads it with success. -/
def Uses (event : Event Key Value Time) (key : Key) : Prop :=
  (∃ value, event.call = .set key value) ∨
    (event.call = .get key ∧ event.result.isSome = true)

def Sets (key : Key) (value : Value) (time : Time) (event : Event Key Value Time) : Prop :=
  event.call = .set key value ∧ event.time = time

/-- The key is not set, and is neither evicted nor cleared. -/
def Keeps (key : Key) (event : Event Key Value Time) : Prop :=
  (∀ value, event.call ≠ .set key value) ∧ key ∈ event.after._cache

def isGet (event : Event Key Value Time) : Bool :=
  match event.call with
  | .get _ => true
  | _ => false

end Event

open Recency

section Effects

variable {Key Value Time : Type} [DecidableEq Key] [Sub Time] [LT Time]

/-- What a call may do. -/
inductive Effect (now : Time) (cache : TTLCache Key Value Time) :
    Call Key Value → Option Value → TTLCache Key Value Time → Prop where
  | absent {key : Key} :
      key ∉ cache._cache →
      Effect now cache (.get key) none { cache with misses := cache.misses + 1 }
  | expired {key : Key} {value : Value} {timestamp : Time} :
      cache.Holds key value timestamp →
      now - timestamp > cache.ttl →
      Effect now cache (.get key) none { cache.without key with misses := cache.misses + 1 }
  | hit {key : Key} {value : Value} {timestamp : Time} :
      cache.Holds key value timestamp →
      ¬now - timestamp > cache.ttl →
      Effect now cache (.get key) (some value)
        { cache with _cache := cache._cache.insert key value, hits := cache.hits + 1 }
  | room {key : Key} {value : Value} :
      cache._cache.keys.length < cache.maxsize ∨ key ∈ cache._cache →
      Effect now cache (.set key value) none (cache.put key value now)
  | full {key oldest_key : Key} {value : Value} {newer : List Key} :
      key ∉ cache._cache →
      cache._cache.keys = newer ++ [oldest_key] →
      Effect now cache (.set key value) none ((cache.without oldest_key).put key value now)
  | clear : Effect now cache .clear none cache.clear

variable {now : Time} {cache after : TTLCache Key Value Time} {call : Call Key Value}
  {result : Option Value}

theorem perform_effect [DecidableLT Time] (same : cache.SameKeys)
    (positive : 1 ≤ cache.maxsize) (now : Time) (call : Call Key Value) :
    ∃ result after, perform now cache call = some (result, after) ∧
      Effect now cache call result after := by
  cases call with
  | get key =>
      by_cases present : key ∈ cache._cache
      · obtain ⟨value, timestamp, holds⟩ := same.holds present
        by_cases late : now - timestamp > cache.ttl
        · exact ⟨_, _, TTLCache.get_expired holds late, .expired holds late⟩
        · exact ⟨_, _, TTLCache.get_fresh holds late, .hit holds late⟩
      · exact ⟨_, _, TTLCache.get_absent present, .absent present⟩
  | set key value =>
      by_cases room : cache._cache.keys.length < cache.maxsize ∨ key ∈ cache._cache
      · refine ⟨none, _, ?_, .room room⟩
        rw [perform, TTLCache.set_room room]
        rfl
      · obtain ⟨full, absent⟩ := not_or.mp room
        obtain ⟨newer, oldest_key, split, set⟩ :=
          TTLCache.set_full value now same positive (Nat.le_of_not_lt full) absent
        refine ⟨none, _, ?_, .full absent split⟩
        rw [perform, set]
        rfl
  | clear => exact ⟨none, _, rfl, .clear⟩

namespace Effect

theorem same_keys (effect : Effect now cache call result after) (same : cache.SameKeys) :
    after.SameKeys := by
  cases effect with
  | absent => exact same
  | expired => exact same.without _
  | hit holds => exact same.touch holds.present
  | room => exact same.put
  | full => exact (same.without _).put
  | clear => exact fun _ => Iff.rfl

theorem settings (effect : Effect now cache call result after) :
    after.maxsize = cache.maxsize ∧ after.ttl = cache.ttl := by
  cases effect <;> exact ⟨rfl, rfl⟩

theorem small (effect : Effect now cache call result after)
    (small : cache._cache.keys.length ≤ cache.maxsize) :
    after._cache.keys.length ≤ cache.maxsize := by
  cases effect with
  | absent => exact small
  | expired =>
      refine Nat.le_trans ?_ small
      exact AList.keys_erase _ cache._cache ▸ List.length_erase_le
  | @hit key value _ holds =>
      change (cache._cache.insert key value).keys.length ≤ cache.maxsize
      rw [AList.keys_insert, List.length_cons,
        List.length_erase_add_one (AList.mem_keys.mp holds.present)]
      exact small
  | @room key value room =>
      change (cache._cache.insert key value).keys.length ≤ cache.maxsize
      rw [AList.keys_insert, List.length_cons]
      by_cases present : key ∈ cache._cache
      · rw [List.length_erase_add_one (AList.mem_keys.mp present)]
        exact small
      · have shorter := List.length_erase_le (a := key) (l := cache._cache.keys)
        have below := room.resolve_right present
        omega
  | @full key oldest_key value newer absent split =>
      change ((cache._cache.erase oldest_key).insert key value).keys.length ≤ cache.maxsize
      have present : oldest_key ∈ cache._cache.keys := by
        rw [split]
        simp
      have evicted := List.length_erase_add_one present
      have shorter := List.length_erase_le (a := key) (l := cache._cache.keys.erase oldest_key)
      rw [AList.keys_insert, AList.keys_erase, List.length_cons]
      omega
  | clear => exact Nat.zero_le _

/-- An entry comes from the call, or was there before. -/
theorem holds (effect : Effect now cache call result after) {key : Key} {value : Value}
    {timestamp : Time} (held : after.Holds key value timestamp) :
    (call = .set key value ∧ now = timestamp) ∨
      ((∀ other, call ≠ .set key other) ∧ cache.Holds key value timestamp) := by
  cases effect with
  | absent => exact .inr ⟨nofun, held⟩
  | expired => exact .inr ⟨nofun, (TTLCache.holds_without_iff.mp held).2⟩
  | hit found => exact .inr ⟨nofun, (TTLCache.holds_touch_iff found).mp held⟩
  | room =>
      rcases TTLCache.holds_put_iff.mp held with ⟨rfl, rfl, rfl⟩ | ⟨different, before⟩
      · exact .inl ⟨rfl, rfl⟩
      · refine .inr ⟨?_, before⟩
        rintro other ⟨⟩
        exact different rfl
  | full =>
      rcases TTLCache.holds_put_iff.mp held with ⟨rfl, rfl, rfl⟩ | ⟨different, before⟩
      · exact .inl ⟨rfl, rfl⟩
      · refine .inr ⟨?_, (TTLCache.holds_without_iff.mp before).2⟩
        rintro other ⟨⟩
        exact different rfl
  | clear =>
      rw [TTLCache.Holds, TTLCache.clear, AList.lookup_empty] at held
      cases held.1

/-- Keys listed by their last use before the call are listed so after it. -/
theorem ranked (effect : Effect now cache call result after)
    {history : List (Event Key Value Time)} (ranked : Ranked Event.Uses history cache._cache.keys)
    (event : Event Key Value Time) (called : event.call = call) (returned : event.result = result) :
    Ranked Event.Uses (history ++ [event]) after._cache.keys := by
  obtain ⟨time, own_call, own_result, before, own_after⟩ := event
  subst called returned
  have distinct := cache._cache.keys_nodup
  cases effect with
  | absent => exact ranked.idle (by simp [Event.Uses])
  | @expired key value timestamp =>
      change Ranked _ _ (cache._cache.erase key).keys
      rw [AList.keys_erase]
      exact Ranked.idle (ranked.sublist List.erase_sublist) (by simp [Event.Uses])
  | @hit key value timestamp =>
      change Ranked _ _ (cache._cache.insert key value).keys
      rw [AList.keys_insert]
      refine ranked.use distinct (.inr ⟨rfl, rfl⟩) ?_
      intro other different
      simp [Event.Uses, different.symm]
  | @room key value =>
      change Ranked _ _ (cache._cache.insert key value).keys
      rw [AList.keys_insert]
      refine ranked.use distinct (.inl ⟨value, rfl⟩) ?_
      intro other different
      simp [Event.Uses, different.symm]
  | @full key oldest_key value newer =>
      change Ranked _ _ ((cache._cache.erase oldest_key).insert key value).keys
      rw [AList.keys_insert, AList.keys_erase]
      refine Ranked.use (ranked.sublist List.erase_sublist) (distinct.erase _)
        (.inl ⟨value, rfl⟩) ?_
      intro other different
      simp [Event.Uses, different.symm]
  | clear => exact List.Pairwise.nil

theorem counted (effect : Effect now cache call result after) (event : Event Key Value Time)
    (called : event.call = call) :
    after.hits + after.misses = cache.hits + cache.misses + if event.isGet then 1 else 0 := by
  rw [Event.isGet, called]
  cases effect with
  | absent => exact (Nat.add_assoc _ _ _).symm
  | expired => exact (Nat.add_assoc _ _ _).symm
  | hit => exact Nat.add_right_comm _ _ _
  | room => rfl
  | full => rfl
  | clear => rfl

/-- The key that a `set` takes away is the last one of the list. -/
theorem evicted (effect : Effect now cache call result after) {key gone : Key} {value : Value}
    (called : call = .set key value) (present : gone ∈ cache._cache)
    (absent : gone ∉ after._cache) :
    ∃ newer, cache._cache.keys = newer ++ [gone] := by
  cases effect with
  | room => exact absurd ((AList.mem_insert _).mpr (.inr present)) absent
  | @full own oldest_key _ newer _ split =>
      by_cases same : gone = oldest_key
      · exact ⟨newer, by rw [same]; exact split⟩
      · have kept : gone ∈ cache._cache.erase oldest_key := AList.mem_erase.mpr ⟨same, present⟩
        exact absurd ((AList.mem_insert _).mpr (.inr kept)) absent
  | absent => contradiction
  | expired => contradiction
  | hit => contradiction
  | clear => contradiction

theorem returned (effect : Effect now cache call result after) {key : Key} {value : Value}
    (called : call = .get key) (found : result = some value) :
    ∃ timestamp, cache.Holds key value timestamp ∧ ¬now - timestamp > cache.ttl := by
  cases effect with
  | hit holds fresh =>
      cases called
      cases found
      exact ⟨_, holds, fresh⟩
  | absent => contradiction
  | expired => contradiction
  | room => contradiction
  | full => contradiction
  | clear => contradiction

end Effect

end Effects

/-! ## Runs -/

section Runs

variable {Key Value Time : Type} [DecidableEq Key] [Sub Time] [LinearOrder Time]

/-- What holds of a call after a history. -/
structure Lawful (maxsize : ℕ) (ttl : Time) (earlier : List (Event Key Value Time))
    (event : Event Key Value Time) : Prop where
  same_keys : event.after.SameKeys
  within : event.after._cache.keys.length ≤ maxsize
  returned : ∀ key value, event.call = .get key → event.result = some value →
    ∃ timestamp, Since (Event.Sets key value timestamp) (Event.Keeps key) earlier ∧
      event.time - timestamp ≤ ttl
  evicted : ∀ key value gone, event.call = .set key value → gone ∈ event.before._cache →
    gone ∉ event.after._cache →
    ∀ other ∈ event.before._cache, other ≠ gone → UsedAfter Event.Uses earlier other gone
  counted : event.after.hits + event.after.misses = (earlier ++ [event]).countP Event.isGet

/-- What is known of the cache after a history. -/
structure Kept (maxsize : ℕ) (ttl : Time) (history : List (Event Key Value Time))
    (cache : TTLCache Key Value Time) : Prop where
  settings : cache.maxsize = maxsize ∧ cache.ttl = ttl
  same_keys : cache.SameKeys
  within : cache._cache.keys.length ≤ maxsize
  entries : ∀ key value timestamp, cache.Holds key value timestamp →
    Since (Event.Sets key value timestamp) (Event.Keeps key) history
  ranked : Ranked Event.Uses history cache._cache.keys
  counted : cache.hits + cache.misses = history.countP Event.isGet

variable {maxsize : ℕ} {ttl : Time} {history : List (Event Key Value Time)}
  {cache : TTLCache Key Value Time}

omit [Sub Time] [LinearOrder Time] in
theorem kept_start (maxsize : ℕ) (ttl : Time) :
    Kept maxsize ttl ([] : List (Event Key Value Time)) { maxsize, ttl } where
  settings := ⟨rfl, rfl⟩
  same_keys := fun _ => Iff.rfl
  within := Nat.zero_le _
  entries := by
    intro key value timestamp held
    cases held.1
  ranked := List.Pairwise.nil
  counted := rfl

/-- A call keeps what is known, and is lawful. -/
theorem Kept.record (kept : Kept maxsize ttl history cache) (positive : 1 ≤ maxsize)
    (request : Time × Call Key Value) :
    ∃ event, TwoMaps.record (history, cache) request = some (history ++ [event], event.after) ∧
      (event.time, event.call) = request ∧ Lawful maxsize ttl history event ∧
      Kept maxsize ttl (history ++ [event]) event.after := by
  obtain ⟨time, call⟩ := request
  obtain ⟨rfl, rfl⟩ := kept.settings
  obtain ⟨result, after, performed, effect⟩ :=
    perform_effect kept.same_keys positive time call
  let event : Event Key Value Time := { time, call, result, before := cache, after }
  have counted : after.hits + after.misses = (history ++ [event]).countP Event.isGet := by
    rw [List.countP_append, ← kept.counted, effect.counted event rfl, List.countP_singleton]
  refine ⟨event, ?_, rfl, ?_, ?_⟩
  · rw [TwoMaps.record]
    dsimp only
    rw [performed]
    rfl
  · exact
      { same_keys := effect.same_keys kept.same_keys
        within := effect.small kept.within
        returned := by
          intro key value called found
          obtain ⟨timestamp, holds, fresh⟩ := effect.returned called found
          exact ⟨timestamp, kept.entries key value timestamp holds, le_of_not_gt fresh⟩
        evicted := by
          intro key value gone called present absent other other_present different
          obtain ⟨newer, split⟩ := effect.evicted called present absent
          have ranked := kept.ranked
          rw [split] at ranked
          have listed := AList.mem_keys.mp other_present
          rw [split] at listed
          rcases List.mem_append.mp listed with earlier | last
          · exact (List.pairwise_append.mp ranked).2.2 other earlier gone (by simp)
          · exact absurd (List.mem_singleton.mp last) different
        counted }
  · exact
      { settings := effect.settings
        same_keys := effect.same_keys kept.same_keys
        within := effect.small kept.within
        entries := by
          intro key value timestamp held
          rcases effect.holds held with ⟨called, same⟩ | ⟨other_call, before⟩
          · exact since_snoc.mpr (.inl ⟨called, same⟩)
          · exact since_snoc.mpr (.inr ⟨kept.entries key value timestamp before,
              other_call, held.present⟩)
        ranked := effect.ranked kept.ranked _ rfl rfl
        counted }

/-- Every call of a history is lawful. -/
def AllLawful (maxsize : ℕ) (ttl : Time) (history : List (Event Key Value Time)) : Prop :=
  ∀ earlier event later, history = earlier ++ event :: later → Lawful maxsize ttl earlier event

omit [DecidableEq Key] in
theorem AllLawful.snoc (lawful : AllLawful maxsize ttl history) {event : Event Key Value Time}
    (next : Lawful maxsize ttl history event) : AllLawful maxsize ttl (history ++ [event]) := by
  intro earlier other later split
  rcases snoc_eq_append_cons split with ⟨-, rfl, rfl⟩ | ⟨before, -, same⟩
  · exact next
  · exact lawful earlier other before same

/-- The rest of a run, by induction on its calls. -/
theorem Kept.foldlM (positive : 1 ≤ maxsize) (calls : List (Time × Call Key Value))
    {history : List (Event Key Value Time)} {cache : TTLCache Key Value Time}
    (kept : Kept maxsize ttl history cache) (lawful : AllLawful maxsize ttl history) :
    ∃ all final, calls.foldlM TwoMaps.record (history, cache) = some (all, final) ∧
      all.map (fun event => (event.time, event.call)) =
        history.map (fun event => (event.time, event.call)) ++ calls ∧
      AllLawful maxsize ttl all := by
  induction calls generalizing history cache with
  | nil => exact ⟨history, cache, rfl, (List.append_nil _).symm, lawful⟩
  | cons request calls ih =>
      obtain ⟨event, recorded, called, next, still⟩ := kept.record positive request
      obtain ⟨all, final, ended, listed, every⟩ := ih still (lawful.snoc next)
      refine ⟨all, final, ?_, ?_, every⟩
      · rw [List.foldlM_cons, recorded]
        exact ended
      · rw [listed, List.map_append, List.append_assoc, List.map_singleton, called]
        rfl

/-- Calls at any times: none raises an exception, and every one is lawful. -/
theorem run_allLawful (positive : 1 ≤ maxsize) (ttl : Time) (calls : List (Time × Call Key Value)) :
    ∃ history cache, run maxsize ttl calls = some (history, cache) ∧
      history.map (fun event => (event.time, event.call)) = calls ∧
      AllLawful maxsize ttl history := by
  refine (kept_start maxsize ttl).foldlM positive calls ?_
  intro earlier event later split
  cases earlier with
  | nil => contradiction
  | cons => contradiction

end Runs

/-- Two entries for five seconds: reading key 1 makes 2 the one evicted, and 1 expires. -/
theorem run_allLawful_two :
    (run 2 5 [(0, .set 1 10), (1, .set 2 20), (2, .get 1), (3, .set 3 30), (4, .get 2),
      (6, .get 1), (6, .get 3)]).map (fun (history, cache) =>
        (history.map (·.result), cache.hits, cache.misses, cache.evictions)) =
      some ([none, none, some 10, none, none, none, some 30], 2, 2, 2) ∧
    ∃ (history : List (Event ℕ ℕ ℤ)) (cache : TTLCache ℕ ℕ ℤ),
      run 2 5 [(0, .set 1 10), (1, .set 2 20), (2, .get 1)] = some (history, cache) ∧
      history.map (fun event => (event.time, event.call)) =
        [(0, .set 1 10), (1, .set 2 20), (2, .get 1)] ∧
      AllLawful 2 5 history :=
  ⟨by decide, run_allLawful (by decide) 5 _⟩

/-! ## The cache with one map -/

section Represents

variable {α : Type}

/-- One map of stamped values in place of the two maps. -/
structure Represents (cache : TTLCache String α Float) (single : Processor.TTLCache α) : Prop where
  maxsize : cache.maxsize = single.maxsize
  ttl : cache.ttl = single.ttl
  same_keys : cache.SameKeys
  keys : cache._cache.keys = single.entries.keys
  entries : ∀ key entry, single.entries.lookup key = some entry ↔
    cache.Holds key entry.value entry.timestamp

namespace Represents

variable {cache : TTLCache String α Float} {single : Processor.TTLCache α} {key : String}
  {value : α} {now timestamp : Float}

theorem represents_start (maxsize : ℕ) (ttl : Float) :
    Represents ({ maxsize, ttl } : TTLCache String α Float) { maxsize, ttl } where
  maxsize := rfl
  ttl := rfl
  same_keys := fun _ => Iff.rfl
  keys := rfl
  entries := by
    intro key entry
    constructor
    · intro found
      cases found
    · intro held
      cases held.1

theorem mem_iff (same : Represents cache single) : key ∈ cache._cache ↔ key ∈ single.entries := by
  rw [AList.mem_keys, AList.mem_keys, same.keys]

theorem without (same : Represents cache single) (gone : String) :
    Represents (cache.without gone)
      { single with entries := single.entries.erase gone } where
  maxsize := same.maxsize
  ttl := same.ttl
  same_keys := same.same_keys.without gone
  keys := by
    rw [TTLCache.without, AList.keys_erase, AList.keys_erase, same.keys]
  entries := by
    intro other entry
    rw [TTLCache.holds_without_iff, ← same.entries]
    exact OrderedDict.lookup_erase_iff

theorem put (same : Represents cache single) :
    Represents (cache.put key value now)
      { single with entries := single.entries.insert key { value, timestamp := now } } where
  maxsize := same.maxsize
  ttl := same.ttl
  same_keys := same.same_keys.put
  keys := by
    rw [TTLCache.put, AList.keys_insert, AList.keys_insert, same.keys]
  entries := by
    intro other entry
    rw [TTLCache.holds_put_iff, ← same.entries]
    refine OrderedDict.lookup_insert_iff.trans ?_
    rw [Stamped.mk.injEq]

theorem touch (same : Represents cache single) {entry : Stamped α}
    (found : single.entries.lookup key = some entry) :
    Represents { cache with _cache := cache._cache.insert key entry.value }
      { single with entries := single.entries.insert key entry } where
  maxsize := same.maxsize
  ttl := same.ttl
  same_keys := same.same_keys.touch (((same.entries key entry).mp found).present)
  keys := by
    rw [AList.keys_insert, AList.keys_insert, same.keys]
  entries := by
    intro other stamped
    rw [TTLCache.holds_touch_iff ((same.entries key entry).mp found), ← same.entries]
    refine OrderedDict.lookup_insert_iff.trans ?_
    by_cases here : other = key
    · subst here
      simp [found]
    · simp [here]

/-- The counters are no part of the one map. -/
theorem count (same : Represents cache single) (hits misses evictions : ℕ) :
    Represents { cache with hits, misses, evictions } single :=
  ⟨same.maxsize, same.ttl, same.same_keys, same.keys, same.entries⟩

theorem get (same : Represents cache single) :
    ∃ after, cache.get key now = some ((single.get key now).1, after) ∧
      Represents after (single.get key now).2 := by
  unfold Processor.TTLCache.get
  split
  · rename_i missing
    have absent : key ∉ cache._cache := by
      rw [same.mem_iff]
      exact AList.lookup_eq_none.mp missing
    exact ⟨_, TTLCache.get_absent absent, same.count _ _ _⟩
  · rename_i entry found
    have holds := (same.entries key entry).mp found
    split
    · rename_i expired
      have late : now - entry.timestamp > cache.ttl := by
        rw [same.ttl]
        exact expired
      exact ⟨_, TTLCache.get_expired holds late, (same.without key).count _ _ _⟩
    · rename_i fresh
      have in_time : ¬now - entry.timestamp > cache.ttl := by
        rw [same.ttl]
        exact fresh
      exact ⟨_, TTLCache.get_fresh holds in_time, (same.touch found).count _ _ _⟩

theorem set (same : Represents cache single) (positive : 1 ≤ single.maxsize) :
    ∃ after, cache.set key value now = some after ∧
      Represents after (single.set key value now) := by
  have length : single.entries.entries.length = cache._cache.keys.length := by
    rw [same.keys]
    exact (List.length_map _).symm
  unfold Processor.TTLCache.set
  dsimp only
  split
  · rename_i full
    rw [length, ← same.maxsize, ← same.mem_iff] at full
    rw [← same.maxsize] at positive
    obtain ⟨newer, oldest_key, split, set⟩ :=
      TTLCache.set_full value now same.same_keys positive full.1 full.2
    refine ⟨_, set, ?_⟩
    rw [same.keys] at split
    rw [Processor.TTLCache.evict, split, List.getLast?_concat]
    exact (same.without oldest_key).put
  · rename_i not_full
    rw [length, ← same.maxsize, ← same.mem_iff] at not_full
    refine ⟨_, TTLCache.set_room ?_, same.put⟩
    by_cases present : key ∈ cache._cache
    · exact .inr present
    · exact .inl (Nat.lt_of_not_le (fun full => not_full ⟨full, present⟩))

theorem clear (same : Represents cache single) :
    Represents cache.clear { single with entries := ∅ } where
  maxsize := same.maxsize
  ttl := same.ttl
  same_keys := fun _ => Iff.rfl
  keys := rfl
  entries := (represents_start single.maxsize single.ttl).entries

end Represents

/-! ## Runs of both -/

/-- A call of the cache with one map. -/
def performSingle (now : Float) (single : Processor.TTLCache α) :
    Call String α → Option α × Processor.TTLCache α
  | .get key => single.get key now
  | .set key value => (none, single.set key value now)
  | .clear => (none, { single with entries := ∅ })

/-- What the calls return. -/
def results (single : Processor.TTLCache α) : List (Float × Call String α) → List (Option α)
  | [] => []
  | (now, call) :: calls =>
      (performSingle now single call).1 :: results (performSingle now single call).2 calls

theorem maxsize_performSingle (now : Float) (single : Processor.TTLCache α)
    (call : Call String α) : (performSingle now single call).2.maxsize = single.maxsize := by
  cases call with
  | get key =>
      rw [performSingle, Processor.TTLCache.get]
      split
      · rfl
      · split <;> rfl
  | set key value => rfl
  | clear => rfl

theorem Represents.perform {cache : TTLCache String α Float} {single : Processor.TTLCache α}
    (same : Represents cache single) (positive : 1 ≤ single.maxsize) (now : Float)
    (call : Call String α) :
    ∃ after, perform now cache call = some ((performSingle now single call).1, after) ∧
      Represents after (performSingle now single call).2 := by
  cases call with
  | get key => exact same.get
  | set key value =>
      obtain ⟨after, put, still⟩ := same.set positive
      refine ⟨after, ?_, still⟩
      rw [TwoMaps.perform, put]
      rfl
  | clear => exact ⟨cache.clear, rfl, same.clear⟩

theorem Represents.foldlM {cache : TTLCache String α Float} {single : Processor.TTLCache α}
    (same : Represents cache single) (positive : 1 ≤ single.maxsize)
    (earlier : List (Event String α Float)) (calls : List (Float × Call String α)) :
    ∃ history last, calls.foldlM record (earlier, cache) = some (history, last) ∧
      history.map (·.result) = earlier.map (·.result) ++ results single calls := by
  induction calls generalizing cache single earlier with
  | nil => exact ⟨earlier, cache, rfl, (List.append_nil _).symm⟩
  | cons request calls ih =>
      obtain ⟨now, call⟩ := request
      obtain ⟨after, returned, still⟩ := same.perform positive now call
      have recorded : record (earlier, cache) (now, call) =
          some (earlier ++ [⟨now, call, (performSingle now single call).1, cache, after⟩],
            after) := by
        rw [record, returned]
        rfl
      have still_positive : 1 ≤ (performSingle now single call).2.maxsize := by
        rw [maxsize_performSingle]
        exact positive
      obtain ⟨history, last, ended, listed⟩ := ih still still_positive
        (earlier ++ [⟨now, call, (performSingle now single call).1, cache, after⟩])
      refine ⟨history, last, ?_, ?_⟩
      · rw [List.foldlM_cons, recorded]
        exact ended
      · rw [listed, List.map_append, List.append_assoc]
        rfl

/-- The two maps return what the one map does, whatever is called and when. -/
theorem run_results {maxsize : ℕ} (positive : 1 ≤ maxsize) (ttl : Float)
    (calls : List (Float × Call String α)) :
    ∃ history cache, run maxsize ttl calls = some (history, cache) ∧
      history.map (·.result) = results { maxsize, ttl } calls :=
  (Represents.represents_start maxsize ttl).foldlM positive [] calls

end Represents

end HftEngine.Processor.TwoMaps
