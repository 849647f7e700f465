import HftEngine.Lib.Json.Number
import HftEngine.Processor.EnrichedMessage
import Mathlib.Data.List.AList
import Mathlib.Data.List.Sort

/-!
# The cache of the PCR analysis

`TTLCache`, the keys of `AnalyzerCacheManager`, the PCR of a message and what
`_analyze_pcr` attaches to it.  The counters of the cache are left out, and the
hexadecimal digest of MD5 is a parameter.
-/

namespace HftEngine.Processor

open Py Json

/-! ## A cache whose entries expire -/

structure Stamped (α : Type) where
  value : α
  timestamp : Float

/-- The entry that was used last comes first.  `maxsize` is 1000 and `ttl` is 5
seconds where the processor builds the cache. -/
structure TTLCache (α : Type) where
  maxsize : ℕ := 1000
  ttl : Float := 5
  entries : AList (fun _ : String => Stamped α) := ∅

namespace TTLCache

variable {α : Type}

def expired (cache : TTLCache α) (entry : Stamped α) (now : Float) : Prop :=
  now - entry.timestamp > cache.ttl

instance (cache : TTLCache α) (entry : Stamped α) (now : Float) :
    Decidable (cache.expired entry now) :=
  inferInstanceAs (Decidable (now - entry.timestamp > cache.ttl))

/-- A hit makes the entry the last one used; an expired entry is deleted. -/
def get (key : String) (now : Float) (cache : TTLCache α) : Option α × TTLCache α :=
  match cache.entries.lookup key with
  | none => (none, cache)
  | some entry =>
      if cache.expired entry now then
        (none, { cache with entries := cache.entries.erase key })
      else
        (some entry.value, { cache with entries := cache.entries.insert key entry })

/-- The entries without the one that was used longest ago. -/
def evict (entries : AList (fun _ : String => Stamped α)) :
    AList (fun _ : String => Stamped α) :=
  match entries.keys.getLast? with
  | some oldest_key => entries.erase oldest_key
  | none => entries

def set (key : String) (value : α) (now : Float) (cache : TTLCache α) : TTLCache α :=
  let full := cache.maxsize ≤ cache.entries.entries.length ∧ key ∉ cache.entries
  let entries := if full then evict cache.entries else cache.entries
  { cache with entries := entries.insert key { value, timestamp := now } }

@[simp] theorem ttl_get (key : String) (now : Float) (cache : TTLCache α) :
    (cache.get key now).2.ttl = cache.ttl := by
  unfold get
  split
  · rfl
  · split
    · rfl
    · rfl

@[simp] theorem ttl_set (key : String) (value : α) (now : Float) (cache : TTLCache α) :
    (cache.set key value now).ttl = cache.ttl := rfl

/-- What is found is the value of an entry that has not expired. -/
theorem get_some {key : String} {now : Float} {cache : TTLCache α} {value : α}
    (found : (cache.get key now).1 = some value) :
    ∃ entry, cache.entries.lookup key = some entry ∧
      ¬cache.expired entry now ∧ entry.value = value := by
  unfold get at found
  split at found
  case h_1 => contradiction
  case h_2 entry present =>
    split at found
    case isTrue => contradiction
    case isFalse fresh => exact ⟨entry, present, fresh, Option.some.inj found⟩

/-- To look an entry up adds none. -/
theorem lookup_get {key other : String} {now : Float} {cache : TTLCache α}
    {entry : Stamped α}
    (present : (cache.get key now).2.entries.lookup other = some entry) :
    cache.entries.lookup other = some entry := by
  unfold get at present
  split at present
  case h_1 => exact present
  case h_2 used found =>
    split at present
    case isTrue =>
      by_cases same : other = key
      · subst same
        simp at present
      · rwa [AList.lookup_erase_ne same] at present
    case isFalse =>
      by_cases same : other = key
      · subst same
        rw [AList.lookup_insert] at present
        exact found.trans present
      · rwa [AList.lookup_insert_ne same] at present

theorem lookup_evict {entries : AList (fun _ : String => Stamped α)} {key : String}
    {entry : Stamped α} (present : (evict entries).lookup key = some entry) :
    entries.lookup key = some entry := by
  unfold evict at present
  split at present
  case h_1 oldest_key _ =>
    by_cases same : key = oldest_key
    · subst same
      simp at present
    · rwa [AList.lookup_erase_ne same] at present
  case h_2 => exact present

/-- An entry is the one that was set, or was there before. -/
theorem lookup_set {key other : String} {value : α} {now : Float} {cache : TTLCache α}
    {entry : Stamped α}
    (present : (cache.set key value now).entries.lookup other = some entry) :
    (other = key ∧ entry = { value, timestamp := now }) ∨
      cache.entries.lookup other = some entry := by
  unfold set at present
  by_cases same : other = key
  · subst same
    rw [AList.lookup_insert, Option.some.injEq] at present
    exact .inl ⟨rfl, present.symm⟩
  · rw [AList.lookup_insert_ne same] at present
    right
    split at present
    case isTrue => exact lookup_evict present
    case isFalse => exact present

end TTLCache

/-! ## Keys -/

/-- `repr(x)` of a float. -/
def repr (x : Float) : String :=
  if x.isNaN then "nan"
  else if x.isInf then (if x < 0 then "-inf" else "inf")
  else String.ofList (floatText x)

/-- `str` of a tuple of floats. -/
def tuple_text : List Float → String
  | [x] => "(" ++ repr x ++ ",)"
  | xs => "(" ++ ", ".intercalate (xs.map repr) ++ ")"

/-- `sorted`, which is stable; not a number among the strikes may lead to another
order in Python. -/
def sorted (strikes : List Float) : List Float :=
  strikes.insertionSort (fun a b => ¬b < a)

def create_cache_key (md5_hexdigest : String → String) (analyzer_name : String)
    (symbol_id : ℤ) (expiry : String) (strikes : List Float) : String :=
  let strikes_hash := ((md5_hexdigest (tuple_text (sorted strikes))).toList.take 8)
  analyzer_name ++ ":" ++ String.ofList (intText symbol_id) ++ ":" ++ expiry ++ ":" ++
    String.ofList strikes_hash

/-! ## The PCR of a message -/

def calculate_pcr (put_value call_value : ℤ) : Result (Option Float) :=
  if 0 < call_value then do
    let ratio ← trueDivide put_value call_value.toNat
    .ok (some (roundTo 4 ratio))
  else .ok none

/-- `calculate_pcr(..) or 0`. -/
def pcr_or_zero (put_value call_value : ℤ) : Result Value := do
  let ratio ← calculate_pcr put_value call_value
  .ok ((orNull .float ratio).or (.int 0))

/-- The signal and the sentiment. -/
def interpretation (oi_pcr : Value) : Result (String × String) := do
  let oi_pcr ← oi_pcr.toFloat
  .ok (if oi_pcr > 1.5 then ("OVERSOLD_REVERSAL_POSSIBLE", "BEARISH_EXTREME")
    else if oi_pcr > 1.0 then ("BEARISH_TREND", "BEARISH")
    else if oi_pcr < 0.5 then ("OVERBOUGHT_REVERSAL_POSSIBLE", "BULLISH_EXTREME")
    else if oi_pcr < 0.7 then ("BULLISH_TREND", "BULLISH")
    else ("NEUTRAL", "NEUTRAL"))

def calculate_pcr_detailed
    (total_call_oi total_put_oi total_call_vol total_put_vol : ℤ) :
    Result Dict := do
  let oi_pcr ← pcr_or_zero total_put_oi total_call_oi
  let vol_pcr ← pcr_or_zero total_put_vol total_call_vol
  let (signal, sentiment) ← interpretation oi_pcr
  .ok
    [("pcr_oi", oi_pcr),
     ("pcr_volume", vol_pcr),
     ("total_call_oi", .int total_call_oi),
     ("total_put_oi", .int total_put_oi),
     ("signal", .str signal),
     ("sentiment", .str sentiment)]

def total_volume (option_type : OptionType) (options : List CleanedOptionData) : ℤ :=
  ((options.filter (fun o => o.option_type = option_type)).map (·.volume)).sum

/-- The analysis that is computed from a message. -/
def computed_pcr (cleaned : Cleaned) : Result Dict := do
  let result ← calculate_pcr_detailed cleaned.context.total_call_oi
    cleaned.context.total_put_oi (total_volume .CE cleaned.options)
    (total_volume .PE cleaned.options)
  .ok [("pcr_analysis", .dict result)]

/-! ## The analysis with the cache -/

/-- A message, and what the clock shows when the cache is asked and when the
result is stored. -/
structure Call where
  cleaned : Cleaned
  expiry : String
  asked_at : Float
  stored_at : Float

def Call.key (md5_hexdigest : String → String) (call : Call) : String :=
  create_cache_key md5_hexdigest "pcr" call.cleaned.context.symbol_id call.expiry
    (call.cleaned.options.map (·.strike))

/-- An exception leaves no analysis. -/
def analyze_pcr (md5_hexdigest : String → String) (call : Call)
    (cache : TTLCache Dict) :
    Dict × TTLCache Dict :=
  let key := call.key md5_hexdigest
  match cache.get key call.asked_at with
  | (some (entry :: cached), cache) => (entry :: cached, cache)
  | (_, cache) =>
      match computed_pcr call.cleaned with
      | .ok result_dict => (result_dict, cache.set key result_dict call.stored_at)
      | .error _ => ([], cache)

/-- The analysis of a message by itself. -/
def recomputed (call : Call) : Dict :=
  match computed_pcr call.cleaned with
  | .ok result_dict => result_dict
  | .error _ => []

/-- The cache of a processor that has analyzed these messages. -/
def cache_after (md5_hexdigest : String → String) (calls : List Call) : TTLCache Dict :=
  calls.foldl (fun cache call => (analyze_pcr md5_hexdigest call cache).2) {}

/-- The analysis of a message after these messages. -/
def attached (md5_hexdigest : String → String) (earlier : List Call) (call : Call) :
    Dict :=
  (analyze_pcr md5_hexdigest call (cache_after md5_hexdigest earlier)).1

/-! ## What is attached -/

section Attached

variable (md5_hexdigest : String → String)

/-- An analysis that is not in the cache is computed, and stored if it can be. -/
theorem analyze_pcr_missed {call : Call} {cache asked : TTLCache Dict}
    {missed : Option Dict}
    (found : cache.get (call.key md5_hexdigest) call.asked_at = (missed, asked))
    (falsy : missed.getD [] = []) :
    (analyze_pcr md5_hexdigest call cache).1 = recomputed call ∧
      ((analyze_pcr md5_hexdigest call cache).2 = asked ∨
        (analyze_pcr md5_hexdigest call cache).2 =
          asked.set (call.key md5_hexdigest) (recomputed call) call.stored_at) := by
  have computed : analyze_pcr md5_hexdigest call cache =
      match computed_pcr call.cleaned with
      | .ok result_dict =>
          (result_dict, asked.set (call.key md5_hexdigest) result_dict call.stored_at)
      | .error _ => ([], asked) := by
    rcases missed with _ | _ | ⟨entry, cached⟩
    · simp only [analyze_pcr, found]
    · simp only [analyze_pcr, found]
    · contradiction
  rw [computed, recomputed]
  cases computed_pcr call.cleaned with
  | ok result_dict => exact ⟨rfl, .inr rfl⟩
  | error => exact ⟨rfl, .inl rfl⟩

theorem analyze_pcr_cases (call : Call) (cache : TTLCache Dict) :
    ∃ answer asked,
      cache.get (call.key md5_hexdigest) call.asked_at = (answer, asked) ∧
      ((answer = some (analyze_pcr md5_hexdigest call cache).1 ∧
          (analyze_pcr md5_hexdigest call cache).2 = asked) ∨
        ((analyze_pcr md5_hexdigest call cache).1 = recomputed call ∧
          ((analyze_pcr md5_hexdigest call cache).2 = asked ∨
            (analyze_pcr md5_hexdigest call cache).2 =
              asked.set (call.key md5_hexdigest) (recomputed call)
                call.stored_at))) := by
  rcases found : cache.get (call.key md5_hexdigest) call.asked_at with
    ⟨_ | _ | ⟨entry, cached⟩, asked⟩
  · exact ⟨none, asked, rfl, .inr (analyze_pcr_missed md5_hexdigest found rfl)⟩
  · exact ⟨some [], asked, rfl, .inr (analyze_pcr_missed md5_hexdigest found rfl)⟩
  · have hit : analyze_pcr md5_hexdigest call cache = (entry :: cached, asked) := by
      simp only [analyze_pcr, found]
    exact ⟨some (entry :: cached), asked, rfl, .inl ⟨by rw [hit], by rw [hit]⟩⟩

/-- Every entry is the analysis of one of the messages under its key. -/
structure Stored (md5_hexdigest : String → String) (calls : List Call)
    (cache : TTLCache Dict) : Prop where
  ttl : cache.ttl = 5
  entries : ∀ key entry, cache.entries.lookup key = some entry →
    ∃ source ∈ calls, source.key md5_hexdigest = key ∧
      entry = { value := recomputed source, timestamp := source.stored_at }

theorem stored_step {calls : List Call} {cache : TTLCache Dict}
    (stored : Stored md5_hexdigest calls cache) (call : Call) :
    Stored md5_hexdigest (calls ++ [call])
      (analyze_pcr md5_hexdigest call cache).2 := by
  obtain ⟨answer, asked, found, outcome⟩ :=
    analyze_pcr_cases md5_hexdigest call cache
  have after_get : (cache.get (call.key md5_hexdigest) call.asked_at).2 = asked :=
    congrArg Prod.snd found
  have kept : Stored md5_hexdigest (calls ++ [call]) asked := by
    subst after_get
    refine ⟨(TTLCache.ttl_get _ _ _).trans stored.ttl, ?_⟩
    intro key entry present
    obtain ⟨source, member, same⟩ := stored.entries key entry
      (TTLCache.lookup_get present)
    exact ⟨source, List.mem_append_left _ member, same⟩
  rcases outcome with ⟨-, after⟩ | ⟨-, after | after⟩
  · rwa [after]
  · rwa [after]
  · rw [after]
    refine ⟨kept.ttl, ?_⟩
    intro key entry present
    rcases TTLCache.lookup_set present with ⟨own, set⟩ | before
    · exact ⟨call, by simp, own.symm, set⟩
    · exact kept.entries key entry before

theorem stored_cache_after (calls : List Call) :
    Stored md5_hexdigest calls (cache_after md5_hexdigest calls) := by
  induction calls using List.reverseRecOn with
  | nil => exact ⟨rfl, fun _ _ present => by simp [cache_after] at present⟩
  | append_singleton calls call ih =>
      rw [cache_after, List.foldl_append]
      exact stored_step md5_hexdigest ih call

end Attached

/-- A message is given its own analysis, or that of an earlier message with the
same key that was stored at most 5 seconds before. -/
theorem attached_bounded (md5_hexdigest : String → String) (earlier : List Call)
    (call : Call) :
    attached md5_hexdigest earlier call = recomputed call ∨
      ∃ source ∈ earlier, source.key md5_hexdigest = call.key md5_hexdigest ∧
        ¬call.asked_at - source.stored_at > 5 ∧
        attached md5_hexdigest earlier call = recomputed source := by
  have stored := stored_cache_after md5_hexdigest earlier
  obtain ⟨answer, asked, found, ⟨hit, -⟩ | ⟨own, -⟩⟩ :=
    analyze_pcr_cases md5_hexdigest call (cache_after md5_hexdigest earlier)
  · right
    obtain ⟨entry, present, fresh, value⟩ :=
      TTLCache.get_some ((congrArg Prod.fst found).trans hit)
    obtain ⟨source, member, same, rfl⟩ := stored.entries _ entry present
    rw [TTLCache.expired, stored.ttl] at fresh
    exact ⟨source, member, same, fresh, value.symm⟩
  · exact .inl own

/-- A message with one call, which is asked for and stored at one time. -/
def one_call (total_put_oi : ℤ) (time : Float) : Call where
  cleaned :=
    { context :=
        { symbol := "NIFTY", symbol_id := 13, spot_price := 22010, spot_change := 0
          spot_change_pct := 0, total_call_oi := 100, total_put_oi, pcr_ratio := 1
          atm_iv := 12, atm_iv_change := 0, max_pain_strike := 22000
          days_to_expiry := 3, lot_size := 75, tick_size := 0.05, exchange := "NSE"
          segment := "D", probe_id := none, timestamp := noon }
      futures := none
      options := [{ strike := 22000, option_type := .CE }] }
  expiry := "2025-06-05"
  asked_at := time
  stored_at := time

/-- The digest is the one of the only strike. -/
theorem attached_own_fails :
    ¬∀ earlier call,
      attached (fun _ => "ea8706425d5dbe70c30d68b290335650") earlier call =
        recomputed call := by
  intro own
  have stale := own [one_call 100 0] (one_call 200 1)
  exact absurd stale (by decide)

end HftEngine.Processor
