import HftEngine.Backend.Expiry
import HftEngine.Storage.ProcessMessage
import Mathlib.Algebra.Order.Ring.Int

/-!
# The option chain of a requested expiry

`DhanClient.get_option_chain` takes a chain from the HFT store or from the API of
Dhan.  A chain is modelled by where it comes from and by the expiry that it is
given out with; the symbol is part of the key under which the store was read,
and the store does not change between the two readings of one call.
-/

namespace HftEngine.Backend

open Calendar Py
open Storage (strptime)

/-- The zone of the settings, which is that of India, and the local time. -/
structure Clock where
  offset : ℤ
  now : DateTime
  offset_lt : |offset| < 86400

namespace Clock

def current_year (clock : Clock) : ℕ :=
  clock.now.date.year

/-- `datetime.fromtimestamp(timestamp, tz).date()`. -/
def date_of (clock : Clock) (timestamp : ℤ) : Option Date :=
  (DateTime.ofTimestamp? clock.offset timestamp).map DateTime.date

end Clock

/-! ## The store -/

/-- The expiries in the data of a symbol; a text that is missing is empty. -/
structure HftData where
  expiry : String
  context_expiry : String
  expiry_list : List ℤ

def HftData.raw_expiry (data : HftData) : String :=
  if data.expiry = "" then data.context_expiry else data.expiry

section Format

variable (clock : Clock) (expiry : String) (expiry_list : List ℤ)

def nearest_expiry : Option String :=
  let now_ts := clock.now.timestamp clock.offset
  match (expiry_list.filter (fun e => now_ts < e)).min? with
  | some nearest => (clock.date_of nearest).map Date.isoformat
  | none => some ""

def timestamp_expiry : Option String :=
  if isdigit expiry then do
    let ts ← int? expiry
    if 1700000000 < ts then (clock.date_of ts).map Date.isoformat
    else nearest_expiry clock expiry_list
  else nearest_expiry clock expiry_list

def formatted_expiry : Option String :=
  if expiry.length = 10 ∧ '-' ∈ expiry.toList then do
    let exp_date ← strptime expiry
    if 2024 ≤ exp_date.year then some expiry
    else timestamp_expiry clock expiry expiry_list
  else timestamp_expiry clock expiry expiry_list

/-- Empty where an exception is raised. -/
def format_expiry_date : String :=
  (formatted_expiry clock expiry expiry_list).getD ""

end Format

/-! ## Where a chain comes from -/

inductive Exp where
  | timestamp (t : ℤ)
  | text (s : String)

def Exp.truthy : Exp → Bool
  | .timestamp t => t ≠ 0
  | .text s => s ≠ ""

inductive Source where
  | hft (data : HftData)
  | api (exp : Exp)

structure Chain where
  expiry : Exp
  source : Source

structure Client where
  use_hft_source : Bool
  clock : Clock
  /-- None stands for data that the adapter answers with an error. -/
  latest : Option HftData
  /-- What `get_expiry_dates` returns. -/
  expiry_dates : List ℤ

/-- The expiry with which `normalize_data` gives the data out. -/
def normalized_expiry (clock : Clock) (data : HftData) (requested_expiry : String) :
    String :=
  if requested_expiry ≠ "" then requested_expiry
  else format_expiry_date clock data.raw_expiry data.expiry_list

/-- `HFTDataAdapter.get_option_chain`; none is an error. -/
def adapter_option_chain (client : Client) (expiry : String) : Option Chain :=
  client.latest.map (fun data =>
    { expiry := .text (normalized_expiry client.clock data expiry)
      source := .hft data })

/-- `hft_chain.get("expiry", "")`. -/
def hft_current_expiry (client : Client) : String :=
  match adapter_option_chain client "" with
  | some { expiry := .text expiry, source := _ } => expiry
  | _ => ""

/-- `int(float(expiry))`. -/
def exp_ts (expiry : String) : Result ℤ := do
  truncate (← (Value.str expiry).toFloat)

/-- None where the comparison of the two expiries raises. -/
def delta_days (client : Client) (expiry : String) : Option ℕ := do
  let timestamp ← (exp_ts expiry).toOption
  let exp_date ← client.clock.date_of timestamp
  let hft_date ← strptime (hft_current_expiry client)
  some ((hft_date.toOrdinal : ℤ) - exp_date.toOrdinal).natAbs

def use_hft_for_this_request (client : Client) (expiry : String) : Bool :=
  if expiry = "" then true
  else if hft_current_expiry client = "" then true
  else if '-' ∈ expiry.toList then
    if hft_current_expiry client = expiry then true
    else
      -- forced, however far away the other expiry is
      match delta_days client expiry with
      | some delta_days => if delta_days ≤ 7 then true else true
      | none => true
  else false

/-- The expiry for the API before one is chosen; none where an exception leaves
the method. -/
def original_expiry (clock : Clock) (expiry : String) : Option Exp :=
  match exp_ts expiry with
  | .ok timestamp =>
      let original_exp_ts :=
        revert_expiry_timestamp clock.offset clock.current_year timestamp
      some (if original_exp_ts ≠ 0 then .timestamp original_exp_ts else .text expiry)
  | .error .valueError | .error .typeError =>
      if expiry.toLower ∉ ["null", "none", ""] then
        match int? expiry with
        | some n => some (.timestamp n)
        | none => some (.text expiry)
      else some (.text expiry)
  | .error _ => none

/-- The direct mode. -/
def api_option_chain (client : Client) (expiry : String) : Option Chain := do
  let original ← original_expiry client.clock expiry
  let exp ← (if original.truthy then some original
    else client.expiry_dates.head?.map .timestamp)
  some { expiry := exp, source := .api exp }

/-- None where an exception is raised or an error returned. -/
def get_option_chain (client : Client) (expiry : String) : Option Chain :=
  if client.use_hft_source ∧ use_hft_for_this_request client expiry then
    adapter_option_chain client expiry
  else api_option_chain client expiry

/-! ## Dates -/

/-- The date that a time stamp or an ISO date stands for. -/
def denoted (clock : Clock) (text : String) : Option Date :=
  match exp_ts text with
  | .ok timestamp => clock.date_of timestamp
  | .error _ => strptime text

/-- The date under which an expiry of the API is listed. -/
def listed_date (clock : Clock) (t : ℤ) : Option Date := do
  clock.date_of (← convert_expiry_timestamp clock.offset clock.current_year t)

/-- The API answers to time stamps only. -/
def Source.OfDate (clock : Clock) (date : Date) : Source → Prop
  | .hft data => denoted clock data.raw_expiry = some date
  | .api (.timestamp t) => listed_date clock t = some date
  | .api (.text _) => False

/-- The chain of an expiry is of its date, comes from the HFT store when that has
the date, and has the label of its own data. -/
structure OfExpiry (client : Client) (expiry : String) (date : Date) : Prop where
  of_date : ∀ chain, get_option_chain client expiry = some chain →
    chain.source.OfDate client.clock date
  hft_iff : client.use_hft_source →
    ((∃ chain data, get_option_chain client expiry = some chain ∧
        chain.source = .hft data) ↔
      ∃ data, client.latest = some data ∧
        denoted client.clock data.raw_expiry = some date)
  label : ∀ chain data, get_option_chain client expiry = some chain →
    chain.source = .hft data →
    ∃ text, chain.expiry = .text text ∧
      denoted client.clock text = denoted client.clock data.raw_expiry

/-- The time stamp that is sent for a date is listed under the date. -/
def Listed (clock : Clock) (date : Date) : Prop :=
  clock.current_year ≤ date.year ∧
    (clock.current_year = 2016 ∨ date.year + 2016 < 2 * clock.current_year ∨
      ¬ValidDate (2016 + (date.year - clock.current_year)) date.month date.day)

/-- An ISO date, or an expiry of the store that cannot be shown, leads to the
store; any other request to the API, which knows no ISO dates. -/
def Answered (client : Client) (expiry : String) (date : Date) : Prop :=
  if client.use_hft_source then
    ∀ data, client.latest = some data →
      if '-' ∈ expiry.toList ∨
          format_expiry_date client.clock data.raw_expiry data.expiry_list = "" then
        denoted client.clock data.raw_expiry = some date
      else
        denoted client.clock data.raw_expiry ≠ some date ∧ Listed client.clock date
  else (∃ timestamp, exp_ts expiry = .ok timestamp) ∧ Listed client.clock date

/-! ## Time stamps for the API -/

section Dates

variable {clock : Clock} {date : Date} {timestamp : ℤ}

/-- The moment of a time stamp, with its date. -/
theorem Clock.date_of_eq_some :
    clock.date_of timestamp = some date ↔
      ∃ moment, DateTime.ofTimestamp? clock.offset timestamp = some moment ∧
        moment.date = date :=
  Option.map_eq_some_iff

@[simp] theorem Clock.date_of_atHour (hour : Fin 24) :
    clock.date_of ((atHour hour date).timestamp clock.offset) = some date := by
  rw [Clock.date_of, ofTimestamp?_atHour]
  rfl

/-- Time stamp 0 is on one of two days. -/
theorem date_of_zero (dated : clock.date_of 0 = some date) :
    date = ⟨1970, 1, 1, by decide⟩ ∨ date = ⟨1969, 12, 31, by decide⟩ := by
  obtain ⟨moment, made, rfl⟩ := Clock.date_of_eq_some.mp dated
  obtain ⟨stamp, -⟩ := DateTime.of_ofTimestamp? made
  obtain ⟨above, below⟩ := abs_lt.mp clock.offset_lt
  have within := moment.second_lt
  unfold DateTime.timestamp epochOrdinal at stamp
  have ordinals : moment.date.toOrdinal = 719163 ∨ moment.date.toOrdinal = 719162 := by
    omega
  rcases ordinals with first | last
  · left
    apply Date.toOrdinal_injective
    rw [first]
    rfl
  · right
    apply Date.toOrdinal_injective
    rw [last]
    rfl

/-- The day of time stamp 0 exists in every year. -/
theorem valid_date_of_zero (dated : clock.date_of 0 = some date) {year : ℕ}
    (bounds : 1 ≤ year ∧ year ≤ 9999) : ValidDate year date.month date.day := by
  have january : daysInMonth year 1 = 31 := rfl
  have december : daysInMonth year 12 = 31 := rfl
  rcases date_of_zero dated with rfl | rfl
  · exact ⟨bounds, by decide, by decide, by simp [january]⟩
  · exact ⟨bounds, by decide, by decide, december.ge⟩

theorem year_le_of_date_of_zero (dated : clock.date_of 0 = some date) :
    date.year ≤ 1970 := by
  rcases date_of_zero dated with rfl | rfl
  · exact le_rfl
  · exact Nat.le_succ 1969

theorem midnight_ne_zero (later : 1970 < date.year) :
    (atHour 0 date).timestamp clock.offset ≠ 0 := by
  intro zero
  have dated : clock.date_of ((atHour 0 date).timestamp clock.offset) = some date :=
    Clock.date_of_atHour 0
  rw [zero] at dated
  exact absurd (year_le_of_date_of_zero dated) (Nat.not_le.mpr later)

theorem daysInMonth_le (year other : ℕ) {month day : ℕ}
    (within : day ≤ daysInMonth year month) (beyond : ¬day ≤ daysInMonth other month) :
    month = 2 ∧ day = 29 := by
  by_cases february : month = 2
  · subst february
    rw [daysInMonth_february] at within beyond
    split at within <;> split at beyond <;> omega
  · rw [daysInMonth_other february] at within
    exact absurd within beyond

/-- A 29 February that does not exist has no other day in its stead. -/
theorem replaced_none {year : ℕ} (missing : ¬ValidDate year date.month date.day) :
    replaced date year 29 = none := by
  have same : ¬ValidDate year date.month 29 := by
    rintro ⟨years, months, -, last⟩
    obtain ⟨-, -, day_pos, day_le⟩ := date.valid
    apply missing
    refine ⟨years, months, day_pos, ?_⟩
    by_contra beyond
    obtain ⟨-, day⟩ := daysInMonth_le _ _ day_le beyond
    exact beyond (day ▸ last)
  rw [replaced, Date.ofParts?, dif_neg missing, Date.ofParts?, dif_neg same]
  rfl

/-- What is sent for a time stamp. -/
theorem revert_date_of (dated : clock.date_of timestamp = some date) :
    revert_expiry_timestamp clock.offset clock.current_year timestamp =
      match (if clock.current_year ≤ date.year then
          replaced date (2016 + (date.year - clock.current_year)) 29
        else some date) with
      | some original => (atHour 0 original).timestamp clock.offset
      | none => timestamp := by
  obtain ⟨moment, made, rfl⟩ := Clock.date_of_eq_some.mp dated
  rw [revert_expiry_timestamp, reverted, made, Option.bind_eq_bind, Option.bind_some,
    undo_year_shift, atHour_date, replace_year_atHour]
  by_cases future : clock.current_year ≤ moment.date.year
  · rw [if_pos future, if_pos future]
    cases replaced moment.date (2016 + (moment.date.year - clock.current_year)) 29
      <;> rfl
  · rw [if_neg future, if_neg future]
    rfl

theorem listed_date_midnight (original : Date) :
    listed_date clock ((atHour 0 original).timestamp clock.offset) =
      if original.year < clock.current_year then
        replaced original (clock.current_year + (original.year - 2016)) 28
      else some original := by
  rw [listed_date, convert_midnight, Option.bind_eq_bind, Option.bind_map]
  have noon : clock.date_of ∘ (fun moved => (atHour 12 moved).timestamp clock.offset) =
      some := by
    funext moved
    exact Clock.date_of_atHour 12
  rw [noon, Option.bind_fun_some]

/-- The years to come are listed as they are. -/
theorem listed_date_future (dated : clock.date_of timestamp = some date)
    (future : clock.current_year ≤ date.year) :
    listed_date clock timestamp = some date := by
  obtain ⟨moment, made, rfl⟩ := Clock.date_of_eq_some.mp dated
  rw [listed_date, convert_expiry_timestamp, made]
  simp only [Option.bind_eq_bind, Option.bind_some, if_neg (Nat.not_lt.mpr future)]
  exact Clock.date_of_atHour 12

/-- A date that is as far from 2016 as another is from the current year is listed
under the other. -/
theorem replaced_listed_iff {original : Date} (future : clock.current_year ≤ date.year)
    (year : original.year = 2016 + (date.year - clock.current_year))
    (month : original.month = date.month) (day : original.day = date.day) :
    (if original.year < clock.current_year then
        replaced original (clock.current_year + (original.year - 2016)) 28
      else some original) = some date ↔
      clock.current_year = 2016 ∨ date.year + 2016 < 2 * clock.current_year := by
  by_cases past : original.year < clock.current_year
  · rw [if_pos past]
    apply iff_of_true
    · exact replaced_self ⟨month, day⟩ (by omega)
    · right
      omega
  · rw [if_neg past, Option.some.injEq]
    constructor
    · rintro rfl
      left
      omega
    · intro shifted
      have same : Date.ofParts? original.year original.month original.day = some date :=
        Date.ofParts?_eq_some.mpr ⟨by omega, month.symm, day.symm⟩
      rw [Date.ofParts?_self] at same
      exact Option.some.inj same

/-- What is sent for a time stamp is a time stamp of the listed date exactly in
these years. -/
theorem sent_iff (dated : clock.date_of timestamp = some date) :
    (revert_expiry_timestamp clock.offset clock.current_year timestamp ≠ 0 ∧
        listed_date clock
          (revert_expiry_timestamp clock.offset clock.current_year timestamp) =
          some date) ↔
      Listed clock date := by
  rw [revert_date_of dated, Listed]
  by_cases future : clock.current_year ≤ date.year
  · rw [if_pos future]
    by_cases valid :
        ValidDate (2016 + (date.year - clock.current_year)) date.month date.day
    · obtain ⟨original, found, year, month, day⟩ :
          ∃ original, replaced date (2016 + (date.year - clock.current_year)) 29 =
              some original ∧
            original.year = 2016 + (date.year - clock.current_year) ∧
            original.month = date.month ∧ original.day = date.day :=
        ⟨⟨_, _, _, valid⟩, replaced_self ⟨rfl, rfl⟩ rfl, rfl, rfl, rfl⟩
      have listed := replaced_listed_iff future year month day
      simp only [found]
      rw [and_iff_right (midnight_ne_zero (by omega)), listed_date_midnight, listed]
      simp only [future, valid, not_true_eq_false, or_false, true_and]
    · simp only [replaced_none valid]
      have nonzero : timestamp ≠ 0 := by
        rintro rfl
        have year := year_le_of_date_of_zero dated
        exact valid (valid_date_of_zero dated (by omega))
      exact iff_of_true ⟨nonzero, listed_date_future dated future⟩
        ⟨future, .inr (.inr valid)⟩
  · rw [if_neg future]
    apply iff_of_false
    · rintro ⟨-, listed⟩
      rw [listed_date_midnight, if_pos (Nat.not_le.mp future)] at listed
      have year := (replaced_eq_some listed).1
      omega
    · exact fun listed => future listed.1

end Dates

/-! ## ISO dates -/

/-- An ISO date starts with digits and a dash. -/
theorem strptime_spelled {text : String} {date : Date}
    (read : strptime text = some date) :
    ∃ ds rest, ds ≠ [] ∧ (∀ c ∈ ds, (decimal? c).isSome) ∧
      text.toList = ds ++ '-' :: rest := by
  unfold strptime at read
  split at read
  case h_1 a b c d rest spelled =>
    obtain ⟨first, decimal_a, read⟩ := Option.bind_eq_some_iff.mp read
    obtain ⟨second, decimal_b, read⟩ := Option.bind_eq_some_iff.mp read
    obtain ⟨third, decimal_c, read⟩ := Option.bind_eq_some_iff.mp read
    obtain ⟨fourth, decimal_d, -⟩ := Option.bind_eq_some_iff.mp read
    refine ⟨[a, b, c, d], rest, List.cons_ne_nil _ _, ?_, spelled⟩
    simp [decimal_a, decimal_b, decimal_c, decimal_d]
  case h_2 => contradiction

theorem exp_ts_of_strptime {text : String} {date : Date}
    (read : strptime text = some date) : exp_ts text = .error .valueError := by
  obtain ⟨ds, rest, long, decimal, spelled⟩ := strptime_spelled read
  rw [exp_ts, Value.toFloat, float?_dash long decimal spelled]
  rfl

/-- A text with a date is a time stamp or has a dash in it. -/
theorem exp_ts_of_denoted {clock : Clock} {text : String} {date : Date}
    (requested : denoted clock text = some date) (plain : '-' ∉ text.toList) :
    ∃ timestamp, exp_ts text = .ok timestamp := by
  unfold denoted at requested
  split at requested
  case h_1 timestamp read => exact ⟨timestamp, read⟩
  case h_2 =>
    obtain ⟨ds, rest, -, -, spelled⟩ := strptime_spelled requested
    simp [spelled] at plain

/-! ## The API -/

section Api

variable {client : Client} {expiry : String} {date : Date}

theorem api_option_chain_of_truthy {exp : Exp}
    (original : original_expiry client.clock expiry = some exp) (chosen : exp.truthy) :
    api_option_chain client expiry = some { expiry := exp, source := .api exp } := by
  rw [api_option_chain, original]
  simp only [Option.bind_eq_bind, Option.bind_some, chosen, if_true]

/-- The chains of a request for one expiry. -/
theorem api_of_date_sent {exp : Exp}
    (original : original_expiry client.clock expiry = some exp) (chosen : exp.truthy) :
    (∀ chain, api_option_chain client expiry = some chain →
        chain.source.OfDate client.clock date) ↔
      (Source.api exp).OfDate client.clock date := by
  rw [api_option_chain_of_truthy original chosen]
  constructor
  · intro of_date
    exact of_date _ rfl
  · rintro of_date chain returned
    exact Option.some.inj returned ▸ of_date

theorem original_expiry_of_strptime (read : strptime expiry = some date) :
    original_expiry client.clock expiry = some (.text expiry) := by
  obtain ⟨ds, rest, long, decimal, spelled⟩ := strptime_spelled read
  rw [original_expiry, exp_ts_of_strptime read]
  simp only [int?_dash long decimal spelled, ite_self]

/-- A chain of the API is of the date where the request is a time stamp that is
sent as one of the date. -/
theorem api_of_date_iff (requested : denoted client.clock expiry = some date) :
    (∀ chain, api_option_chain client expiry = some chain →
        chain.source.OfDate client.clock date) ↔
      (∃ timestamp, exp_ts expiry = .ok timestamp) ∧ Listed client.clock date := by
  have asked : (Exp.text expiry).truthy := by
    apply decide_eq_true
    rintro rfl
    cases requested
  cases read : exp_ts expiry with
  | ok timestamp =>
      have dated : client.clock.date_of timestamp = some date := by
        rwa [denoted, read] at requested
      rw [and_iff_right ⟨timestamp, rfl⟩, ← sent_iff dated]
      by_cases zero : revert_expiry_timestamp client.clock.offset
          client.clock.current_year timestamp = 0
      · have original : original_expiry client.clock expiry = some (.text expiry) := by
          simp only [original_expiry, read, zero, ne_eq, not_true_eq_false, if_false]
        rw [api_of_date_sent original asked]
        exact iff_of_false id (fun sent => sent.1 zero)
      · have original : original_expiry client.clock expiry =
            some (.timestamp (revert_expiry_timestamp client.clock.offset
              client.clock.current_year timestamp)) := by
          simp only [original_expiry, read, ne_eq, zero, not_false_eq_true, if_true]
        rw [api_of_date_sent original (decide_eq_true zero), and_iff_right zero]
        rfl
  | error raised =>
      have iso : strptime expiry = some date := by
        rwa [denoted, read] at requested
      rw [api_of_date_sent (original_expiry_of_strptime iso) asked]
      apply iff_of_false
      · exact id
      · rintro ⟨⟨timestamp, impossible⟩, -⟩
        cases impossible

end Api

/-! ## Both sources -/

section Sources

variable {client : Client} {expiry : String} {date : Date}

theorem hft_current_expiry_found {data : HftData} (found : client.latest = some data) :
    hft_current_expiry client =
      format_expiry_date client.clock data.raw_expiry data.expiry_list := by
  rw [hft_current_expiry, adapter_option_chain, found]
  rfl

theorem hft_current_expiry_missing (missing : client.latest = none) :
    hft_current_expiry client = "" := by
  rw [hft_current_expiry, adapter_option_chain, missing]
  rfl

/-- How far away the expiry of the store is makes no difference. -/
theorem use_hft_iff (asked : expiry ≠ "") :
    use_hft_for_this_request client expiry ↔
      '-' ∈ expiry.toList ∨ hft_current_expiry client = "" := by
  unfold use_hft_for_this_request
  rw [if_neg asked]
  by_cases unknown : hft_current_expiry client = ""
  · simp [unknown]
  · rw [if_neg unknown]
    by_cases dashed : '-' ∈ expiry.toList
    · simp only [dashed, if_true, true_or, iff_true]
      split
      case isTrue => rfl
      case isFalse =>
        cases delta_days client expiry with
        | some delta_days => exact ite_self true
        | none => rfl
    · simp [unknown, dashed]

theorem get_option_chain_hft (enabled : client.use_hft_source)
    (used : use_hft_for_this_request client expiry) :
    get_option_chain client expiry = adapter_option_chain client expiry := by
  rw [get_option_chain, if_pos ⟨enabled, used⟩]

theorem get_option_chain_api
    (unused : ¬(client.use_hft_source ∧ use_hft_for_this_request client expiry)) :
    get_option_chain client expiry = api_option_chain client expiry := by
  rw [get_option_chain, if_neg unused]

/-- The API has no data of the store. -/
theorem api_option_chain_source {chain : Chain}
    (returned : api_option_chain client expiry = some chain) :
    ∃ exp, chain.source = .api exp := by
  obtain ⟨original, -, returned⟩ := Option.bind_eq_some_iff.mp returned
  obtain ⟨exp, -, returned⟩ := Option.bind_eq_some_iff.mp returned
  obtain rfl := Option.some.inj returned
  exact ⟨exp, rfl⟩

/-- Data of the store are given out with the request. -/
theorem ofExpiry_hft {data : HftData} (found : client.latest = some data)
    (asked : expiry ≠ "") (requested : denoted client.clock expiry = some date)
    (chosen : get_option_chain client expiry = adapter_option_chain client expiry) :
    OfExpiry client expiry date ↔ denoted client.clock data.raw_expiry = some date := by
  have returned : get_option_chain client expiry =
      some { expiry := .text expiry, source := .hft data } := by
    rw [chosen, adapter_option_chain, found, Option.map_some, normalized_expiry,
      if_pos asked]
  constructor
  · intro ofExpiry
    exact ofExpiry.of_date _ returned
  · intro stored
    constructor
    · intro chain given
      obtain rfl := Option.some.inj (returned.symm.trans given)
      exact stored
    · intro _
      exact iff_of_true ⟨_, data, returned, rfl⟩ ⟨data, found, stored⟩
    · intro chain other given source
      obtain rfl := Option.some.inj (returned.symm.trans given)
      obtain rfl := Source.hft.inj source
      exact ⟨expiry, rfl, requested.trans stored.symm⟩

/-- Data of the API are right where they are of the date, and where the store has
not the date. -/
theorem ofExpiry_api (requested : denoted client.clock expiry = some date)
    (chosen : get_option_chain client expiry = api_option_chain client expiry) :
    OfExpiry client expiry date ↔
      ((∃ timestamp, exp_ts expiry = .ok timestamp) ∧ Listed client.clock date) ∧
        (client.use_hft_source → ∀ data, client.latest = some data →
          denoted client.clock data.raw_expiry ≠ some date) := by
  have no_hft : ∀ chain data, get_option_chain client expiry = some chain →
      chain.source ≠ .hft data := by
    intro chain data returned source
    obtain ⟨exp, api⟩ := api_option_chain_source (chosen.symm.trans returned)
    rw [api] at source
    cases source
  rw [← api_of_date_iff requested, ← chosen]
  constructor
  · intro ofExpiry
    refine ⟨ofExpiry.of_date, ?_⟩
    intro enabled data found stored
    obtain ⟨chain, other, returned, source⟩ :=
      (ofExpiry.hft_iff enabled).mpr ⟨data, found, stored⟩
    exact no_hft chain other returned source
  · rintro ⟨of_date, elsewhere⟩
    constructor
    · exact of_date
    · intro enabled
      apply iff_of_false
      · rintro ⟨chain, data, returned, source⟩
        exact no_hft chain data returned source
      · rintro ⟨data, found, stored⟩
        exact elsewhere enabled data found stored
    · intro chain data returned source
      exact absurd source (no_hft chain data returned)

end Sources

/-- The chain that is returned for a date is the chain of the date exactly where
the request is answered by a source that has it. -/
theorem ofExpiry_iff {client : Client} {expiry : String} {date : Date}
    (requested : denoted client.clock expiry = some date) :
    OfExpiry client expiry date ↔ Answered client expiry date := by
  have asked : expiry ≠ "" := by
    rintro rfl
    cases requested
  unfold Answered
  by_cases enabled : client.use_hft_source
  · rw [if_pos enabled]
    cases found : client.latest with
    | none =>
        have used := (use_hft_iff asked).mpr (.inr (hft_current_expiry_missing found))
        have nothing : get_option_chain client expiry = none := by
          rw [get_option_chain_hft enabled used, adapter_option_chain, found]
          rfl
        refine iff_of_true ?_ (by simp)
        constructor
        · simp [nothing]
        · simp [nothing, found]
        · simp [nothing]
    | some data =>
        have label := hft_current_expiry_found found
        simp only [Option.some.injEq, forall_eq']
        rw [← label]
        by_cases used : '-' ∈ expiry.toList ∨ hft_current_expiry client = ""
        · rw [if_pos used]
          apply ofExpiry_hft found asked requested
          exact get_option_chain_hft enabled ((use_hft_iff asked).mpr used)
        · rw [if_neg used]
          have unused : ¬(client.use_hft_source ∧
              use_hft_for_this_request client expiry) :=
            fun both => used ((use_hft_iff asked).mp both.2)
          rw [ofExpiry_api requested (get_option_chain_api unused)]
          have numeric := exp_ts_of_denoted requested (not_or.mp used).1
          simp only [numeric, enabled, found, Option.some.injEq, forall_eq', true_and,
            forall_const]
          exact and_comm
  · rw [if_neg enabled]
    have unused : ¬(client.use_hft_source ∧ use_hft_for_this_request client expiry) :=
      fun both => enabled both.1
    rw [ofExpiry_api requested (get_option_chain_api unused)]
    exact and_iff_left (fun impossible => absurd impossible enabled)

/-- A client on 2 January 2026 and a store with an expiry. -/
def storing (expiry : String) : Client where
  use_hft_source := true
  clock :=
    { offset := 19800
      now := atHour ⟨9, by decide⟩ ⟨2026, 1, 2, by decide⟩
      offset_lt := by decide }
  latest := some { expiry, context_expiry := "", expiry_list := [] }
  expiry_dates := []

theorem ofExpiry_iff_tuesday :
    OfExpiry (storing "1767637800") "2026-01-06" ⟨2026, 1, 6, by decide⟩ ↔
      Answered (storing "1767637800") "2026-01-06" ⟨2026, 1, 6, by decide⟩ :=
  ofExpiry_iff (by decide)

/-- Data of 6 January are given out as those of 13 January, and are not used for
a time stamp of 6 January. -/
theorem ofExpiry_fails :
    (get_option_chain (storing "2026-01-06") "2026-01-13" =
        some
          { expiry := .text "2026-01-13"
            source := .hft
              { expiry := "2026-01-06", context_expiry := "", expiry_list := [] } } ∧
      ¬OfExpiry (storing "2026-01-06") "2026-01-13" ⟨2026, 1, 13, by decide⟩) ∧
    ¬OfExpiry (storing "2026-01-06") "1767681000" ⟨2026, 1, 6, by decide⟩ := by
  have returned : get_option_chain (storing "2026-01-06") "2026-01-13" =
      some
        { expiry := .text "2026-01-13"
          source := .hft
            { expiry := "2026-01-06", context_expiry := "", expiry_list := [] } } := by
    rw [get_option_chain_hft rfl ((use_hft_iff (by decide)).mpr (.inl (by decide)))]
    rfl
  refine ⟨⟨returned, ?_⟩, ?_⟩
  · intro ofExpiry
    have stored : denoted _ "2026-01-06" = some _ := ofExpiry.of_date _ returned
    exact absurd stored (by decide)
  · intro ofExpiry
    have stored : denoted (storing "2026-01-06").clock "2026-01-06" =
        some ⟨2026, 1, 6, by decide⟩ := by decide
    obtain ⟨chain, data, given, source⟩ := (ofExpiry.hft_iff rfl).mpr ⟨_, rfl, stored⟩
    rw [get_option_chain_api (by decide)] at given
    obtain ⟨exp, api⟩ := api_option_chain_source given
    rw [api] at source
    cases source

end HftEngine.Backend
