import HftEngine.Lib.Calendar
import HftEngine.Lib.Python.Text
import HftEngine.Lib.Traversal
import Mathlib.Data.List.Sort

/-!
# Expiry keys and the expiry that is requested

The API lists its expiries under the time stamps of past years.
`fetch_expiry_dates` moves each of them into the current or the next year,
`target_expiry` picks the nearest one that is still to come, and `api_expiry`
moves that one ten years back before the option chain is requested.  Local
time is a fixed number of seconds ahead of UTC.  The list may come from the
cache, so it is fetched at one instant and used at another.
-/

namespace HftEngine.Ingestion

open Calendar

/-- `replace(year=year)`, and `replace(year=year, day=28)` where that raises. -/
def replace_year (moment : DateTime) (year : ℕ) : Option DateTime :=
  match Date.ofParts? year moment.date.month moment.date.day with
  | some date => some (moment.replaceDate date)
  | none =>
      (Date.ofParts? year moment.date.month 28).map moment.replaceDate

/-- Into the current year, or the next one if that is in the past. -/
def adjusted_date (now old_dt : DateTime) : Option DateTime := do
  let new_dt ← replace_year old_dt now.date.year
  if new_dt.Before now then replace_year old_dt (now.date.year + 1)
  else some new_dt

/-- The body of the loop of `fetch_expiry_dates`; none where it raises. -/
def adjusted_expiry (offset : ℤ) (now : DateTime) (key : String) : Option ℤ := do
  let old_ts ← Py.int? key
  let old_dt ← DateTime.ofTimestamp? offset old_ts
  let new_dt ← adjusted_date now old_dt
  some (new_dt.timestamp offset)

/-- An exception for one key empties the whole list. -/
def fetch_expiry_dates (offset : ℤ) (now : DateTime) (keys : List String) :
    List ℤ :=
  match (keys.filter Py.isdigit).mapM (adjusted_expiry offset now) with
  | some expiries => expiries.insertionSort (· ≤ ·)
  | none => []

/-- Half past three on the next Thursday. -/
def next_expiry_date (now : DateTime) : Option DateTime :=
  let until_thursday := (10 - now.date.weekday) % 7
  let days_until_thursday :=
    if until_thursday = 0 ∧ 15 ≤ now.hour then 7 else until_thursday
  (Date.ofOrdinal? (now.date.toOrdinal + days_until_thursday)).map
    (fun date => ⟨date, 15 * 3600 + 30 * 60, 0, by decide, DateTime.whole_second⟩)

def target_expiry (offset : ℤ) (now : DateTime) (expiries : List ℤ) :
    Option ℤ :=
  match expiries.filter (fun expiry => now.timestamp offset < expiry) with
  | target :: _ => some target
  | [] => (next_expiry_date now).map (DateTime.timestamp offset)

def api_expiry (offset : ℤ) (now : DateTime) (target : ℤ) : Option ℤ := do
  let exp_dt ← DateTime.ofTimestamp? offset target
  if now.date.year ≤ exp_dt.date.year then
    let old_exp_dt ← replace_year exp_dt (exp_dt.date.year - 10)
    some (old_exp_dt.timestamp offset)
  else some target

/-- The selected expiry and the time stamp given to `fetch_option_chain`;
none where nothing is requested. -/
def requested_expiry (offset : ℤ) (fetched now : DateTime) (keys : List String) :
    Option (ℤ × ℤ) := do
  let expiries := fetch_expiry_dates offset fetched keys
  if expiries.isEmpty then none
  else
    let target ← target_expiry offset now expiries
    let sent ← api_expiry offset now target
    some (target, sent)

/-! ## Anniversaries -/

/-- The day of the month on which a date falls in another year. -/
def anniversaryDay (date : Date) (year : ℕ) : ℕ :=
  if date.month = 2 ∧ date.day = 29 ∧ isLeap year = false then 28 else date.day

structure Anniversary (listed : DateTime) (year : ℕ) (occurs : DateTime) :
    Prop where
  year_eq : occurs.date.year = year
  month_eq : occurs.date.month = listed.date.month
  day_eq : occurs.date.day = anniversaryDay listed.date year
  second_eq : occurs.second = listed.second
  microsecond_eq : occurs.microsecond = listed.microsecond

/-- The anniversary of this year unless it is past, and then that of the next
year. -/
def NextAnniversary (now listed occurs : DateTime) : Prop :=
  (Anniversary listed now.date.year occurs ∧ ¬ occurs.Before now) ∨
    ∃ past, Anniversary listed now.date.year past ∧ past.Before now ∧
      Anniversary listed (now.date.year + 1) occurs

theorem anniversaryDay_valid (date : Date) {year : ℕ}
    (bounds : 1 ≤ year ∧ year ≤ 9999) :
    ValidDate year date.month (anniversaryDay date year) := by
  obtain ⟨-, month_bounds, day_pos, day_le⟩ := date.valid
  refine ⟨bounds, month_bounds, ?_⟩
  unfold anniversaryDay
  split
  case isTrue leapDay =>
    rw [leapDay.1, daysInMonth_february, leapDay.2.2]
    decide
  case isFalse ordinary =>
    refine ⟨day_pos, ?_⟩
    by_cases february : date.month = 2
    · rw [february, daysInMonth_february] at day_le ⊢
      cases leap : isLeap year
      · have notLast : date.day ≠ 29 := fun last =>
          ordinary ⟨february, last, leap⟩
        split at day_le <;> simp <;> omega
      · split at day_le <;> simp <;> omega
    · rwa [daysInMonth_other february]

/-- Both spellings of the replacement give the anniversary. -/
theorem replace_year_eq {moment : DateTime} {year : ℕ} :
    replace_year moment year =
      (Date.ofParts? year moment.date.month
        (anniversaryDay moment.date year)).map moment.replaceDate := by
  unfold replace_year
  split
  case h_1 date same =>
    obtain ⟨rfl, month, day⟩ := Date.ofParts?_eq_some.mp same
    have ordinary : anniversaryDay moment.date date.year = moment.date.day := by
      unfold anniversaryDay
      rw [if_neg]
      rintro ⟨february, last, common⟩
      have day_le := date.valid.2.2.2
      rw [month, day, february, last, daysInMonth_february, common] at day_le
      exact absurd day_le (by decide)
    rw [ordinary, same, Option.map_some]
  case h_2 missing =>
    by_cases leapDay : moment.date.month = 2 ∧ moment.date.day = 29 ∧
        isLeap year = false
    · rw [anniversaryDay, if_pos leapDay]
    · rw [anniversaryDay, if_neg leapDay, missing]
      have outside : ¬ (1 ≤ year ∧ year ≤ 9999) := by
        intro bounds
        have valid := anniversaryDay_valid moment.date bounds
        rw [anniversaryDay, if_neg leapDay] at valid
        simp [Date.ofParts?, valid] at missing
      simp [Date.ofParts?, ValidDate, outside]

theorem replace_year_eq_some {moment : DateTime} {year : ℕ} {new : DateTime} :
    replace_year moment year = some new ↔ Anniversary moment year new := by
  rw [replace_year_eq, Option.map_eq_some_iff]
  constructor
  · rintro ⟨date, made, rfl⟩
    obtain ⟨inYear, month, day⟩ := Date.ofParts?_eq_some.mp made
    exact ⟨inYear, month, day, rfl, rfl⟩
  · intro anniversary
    refine ⟨new.date, Date.ofParts?_eq_some.mpr
      ⟨anniversary.year_eq, anniversary.month_eq, anniversary.day_eq⟩, ?_⟩
    exact DateTime.ext_parts rfl anniversary.second_eq.symm
      anniversary.microsecond_eq.symm

/-! ## The expiries fetched -/

/-- The key is the time stamp of a local date-time. -/
def ListedAt (offset : ℤ) (key : String) (listed : DateTime) : Prop :=
  ∃ old_ts, Py.int? key = some old_ts ∧
    DateTime.ofTimestamp? offset old_ts = some listed

theorem adjusted_date_eq_some {now listed occurs : DateTime} :
    adjusted_date now listed = some occurs ↔ NextAnniversary now listed occurs := by
  simp only [adjusted_date, bind, Option.bind_eq_some_iff, replace_year_eq_some]
  constructor
  · rintro ⟨this, thisYear, chosen⟩
    split at chosen
    case isTrue past =>
      exact .inr ⟨this, thisYear, past, replace_year_eq_some.mp chosen⟩
    case isFalse future =>
      cases Option.some.inj chosen
      exact .inl ⟨thisYear, future⟩
  · rintro (⟨thisYear, future⟩ | ⟨past, thisYear, before, nextYear⟩)
    · exact ⟨occurs, thisYear, if_neg future⟩
    · exact ⟨past, thisYear,
        (if_pos before).trans (replace_year_eq_some.mpr nextYear)⟩

theorem adjusted_expiry_eq_some {offset : ℤ} {now : DateTime} {key : String}
    {expiry : ℤ} :
    adjusted_expiry offset now key = some expiry ↔
      ∃ listed occurs, ListedAt offset key listed ∧
        NextAnniversary now listed occurs ∧
        occurs.timestamp offset = expiry := by
  simp only [adjusted_expiry, bind, Option.bind_eq_some_iff, Option.some.injEq,
    adjusted_date_eq_some]
  constructor
  · rintro ⟨old_ts, read, listed, dated, occurs, next, stamped⟩
    exact ⟨listed, occurs, ⟨old_ts, read, dated⟩, next, stamped⟩
  · rintro ⟨listed, occurs, ⟨old_ts, read, dated⟩, next, stamped⟩
    exact ⟨old_ts, read, listed, dated, occurs, next, stamped⟩

theorem ListedAt.microsecond {offset : ℤ} {key : String} {listed : DateTime}
    (at_key : ListedAt offset key listed) : listed.microsecond = 0 := by
  obtain ⟨old_ts, -, dated⟩ := at_key
  exact (DateTime.of_ofTimestamp? dated).2

theorem NextAnniversary.anniversary {now listed occurs : DateTime}
    (next : NextAnniversary now listed occurs) :
    Anniversary listed occurs.date.year occurs := by
  rcases next with ⟨thisYear, -⟩ | ⟨-, -, -, nextYear⟩
  · exact thisYear.year_eq ▸ thisYear
  · exact nextYear.year_eq ▸ nextYear

theorem mem_fetch_expiry_dates {offset : ℤ} {now : DateTime}
    {keys : List String} (fetched : fetch_expiry_dates offset now keys ≠ [])
    (expiry : ℤ) :
    expiry ∈ fetch_expiry_dates offset now keys ↔
      ∃ key ∈ keys, Py.isdigit key = true ∧
        adjusted_expiry offset now key = some expiry := by
  unfold fetch_expiry_dates at fetched ⊢
  cases adjusted : (keys.filter Py.isdigit).mapM (adjusted_expiry offset now) with
  | none =>
      rw [adjusted] at fetched
      exact absurd rfl fetched
  | some expiries =>
      simp only [List.mem_insertionSort, Traversal.mem_of_mapM adjusted, List.mem_filter,
        and_assoc]

theorem pairwise_fetch_expiry_dates (offset : ℤ) (now : DateTime)
    (keys : List String) :
    (fetch_expiry_dates offset now keys).Pairwise (· ≤ ·) := by
  unfold fetch_expiry_dates
  split
  case h_1 expiries _ => exact List.pairwise_insertionSort _ _
  case h_2 => exact .nil

/-! ## The expiry selected -/

theorem next_expiry_date_future {offset : ℤ} {now next : DateTime}
    (found : next_expiry_date now = some next) :
    now.timestamp offset < next.timestamp offset := by
  obtain ⟨date, dated, rfl⟩ := Option.map_eq_some_iff.mp found
  have ordinal := Date.toOrdinal_of_ofOrdinal? dated
  have within := now.second_lt
  simp only [DateTime.timestamp, ordinal]
  split
  case isTrue => omega
  case isFalse early =>
    unfold DateTime.hour at early
    omega

/-- The nearest of the expiries to come, or a day that is to come itself when
none of them is. -/
theorem target_expiry_cases {offset : ℤ} {now : DateTime} {expiries : List ℤ}
    {target : ℤ} (sorted : expiries.Pairwise (· ≤ ·))
    (selected : target_expiry offset now expiries = some target) :
    now.timestamp offset < target ∧
      ((target ∈ expiries ∧
          ∀ expiry ∈ expiries, now.timestamp offset < expiry → target ≤ expiry) ∨
        ∀ expiry ∈ expiries, expiry ≤ now.timestamp offset) := by
  unfold target_expiry at selected
  split at selected
  case h_1 first rest future =>
    cases Option.some.inj selected
    have kept : target ∈
        expiries.filter (fun expiry => now.timestamp offset < expiry) := by
      rw [future]
      exact List.mem_cons_self
    obtain ⟨listed, later⟩ := List.mem_filter.mp kept
    refine ⟨of_decide_eq_true later, .inl ⟨listed, ?_⟩⟩
    intro expiry among after
    have ordered := sorted.filter (fun expiry => now.timestamp offset < expiry)
    rw [future, List.pairwise_cons] at ordered
    have inFuture : expiry ∈ target :: rest := by
      rw [← future]
      exact List.mem_filter.mpr ⟨among, decide_eq_true after⟩
    rcases List.mem_cons.mp inFuture with rfl | inRest
    · exact le_rfl
    · exact ordered.1 expiry inRest
  case h_2 none_future =>
    obtain ⟨next, found, rfl⟩ := Option.map_eq_some_iff.mp selected
    refine ⟨next_expiry_date_future found, .inr ?_⟩
    intro expiry among
    have dropped := List.filter_eq_nil_iff.mp none_future expiry among
    simpa using dropped

/-- A target to come is moved back by ten years. -/
theorem api_expiry_future {offset : ℤ} {now occurs : DateTime}
    (whole : occurs.microsecond = 0)
    (later : now.timestamp offset < occurs.timestamp offset) :
    api_expiry offset now (occurs.timestamp offset) =
      (replace_year occurs (occurs.date.year - 10)).map
        (DateTime.timestamp offset) := by
  have before := DateTime.before_of_timestamp_lt later
  have years : now.date.year ≤ occurs.date.year :=
    Date.year_le_of_toOrdinal_le (DateTime.toOrdinal_le_of_before before)
  simp only [api_expiry, DateTime.ofTimestamp?_timestamp offset whole, bind,
    Option.bind_some, if_pos years]
  cases replace_year occurs (occurs.date.year - 10) <;> rfl

theorem not_leap_ten_years_later {year : ℕ} (leap : isLeap year = true) :
    isLeap (year + 10) = false := by
  rw [isLeap_iff] at leap
  rw [Bool.eq_false_iff, ne_eq, isLeap_iff]
  omega

/-- Ten years back from an anniversary is the day itself exactly when that day
is ten years before and was not moved within its month. -/
theorem Anniversary.ten_years_back {listed occurs : DateTime} {year : ℕ}
    (anniversary : Anniversary listed year occurs) :
    Anniversary occurs (year - 10) listed ↔
      listed.date.year + 10 = year ∧
        ¬ (listed.date.month = 2 ∧ listed.date.day = 29) := by
  obtain ⟨-, month_eq, day_eq, second_eq, microsecond_eq⟩ := anniversary
  constructor
  · intro back
    have positive := listed.date.valid.1.1
    have tenYears : listed.date.year + 10 = year := by
      have := back.year_eq
      omega
    refine ⟨tenYears, ?_⟩
    rintro ⟨february, last⟩
    have leap : isLeap listed.date.year = true := by
      have day_le := listed.date.valid.2.2.2
      rw [february, last, daysInMonth_february] at day_le
      by_contra common
      rw [if_neg common] at day_le
      exact absurd day_le (by decide)
    have common : isLeap year = false :=
      tenYears ▸ not_leap_ten_years_later leap
    have moved : occurs.date.day = 28 := by
      rw [day_eq, anniversaryDay, if_pos ⟨february, last, common⟩]
    have same := back.day_eq
    rw [anniversaryDay, moved, if_neg (by simp), last] at same
    exact absurd same (by decide)
  · rintro ⟨tenYears, ordinary⟩
    have kept : occurs.date.day = listed.date.day := by
      rw [day_eq, anniversaryDay, if_neg]
      exact fun leapDay => ordinary ⟨leapDay.1, leapDay.2.1⟩
    refine ⟨by omega, month_eq.symm, ?_, second_eq.symm, microsecond_eq.symm⟩
    rw [anniversaryDay, kept, month_eq, if_neg]
    exact fun leapDay => ordinary ⟨leapDay.1, leapDay.2.1⟩

/-! ## The key that is sent back -/

/-- The time stamp sent is a key of the API, and the one whose adjusted value
was selected. -/
def SentIsListed (offset : ℤ) (fetched : DateTime) (keys : List String)
    (target sent : ℤ) : Prop :=
  ∃ key ∈ keys, Py.isdigit key = true ∧ Py.int? key = some sent ∧
    adjusted_expiry offset fetched key = some target

instance (offset : ℤ) (fetched : DateTime) (keys : List String)
    (target sent : ℤ) : Decidable (SentIsListed offset fetched keys target sent) :=
  inferInstanceAs (Decidable (∃ key ∈ keys, _))

/-- Of the dates listed, the one whose next anniversary is the first after the
selection lies ten years before that anniversary and is no 29 February. -/
def NextIsTenYearsOn (offset : ℤ) (fetched now : DateTime) (keys : List String) :
    Prop :=
  ∃ key ∈ keys, Py.isdigit key = true ∧
    ∃ listed occurs, ListedAt offset key listed ∧
      NextAnniversary fetched listed occurs ∧
      now.timestamp offset < occurs.timestamp offset ∧
      (∀ other ∈ keys, Py.isdigit other = true →
        ∀ elsewhere later, ListedAt offset other elsewhere →
          NextAnniversary fetched elsewhere later →
          now.timestamp offset < later.timestamp offset →
          occurs.timestamp offset ≤ later.timestamp offset) ∧
      listed.date.year + 10 = occurs.date.year ∧
      ¬ (listed.date.month = 2 ∧ listed.date.day = 29)

theorem requested_expiry_eq_some {offset : ℤ} {fetched now : DateTime}
    {keys : List String} {target sent : ℤ}
    (requested : requested_expiry offset fetched now keys = some (target, sent)) :
    fetch_expiry_dates offset fetched keys ≠ [] ∧
      target_expiry offset now (fetch_expiry_dates offset fetched keys) =
        some target ∧
      api_expiry offset now target = some sent := by
  by_cases empty : fetch_expiry_dates offset fetched keys = []
  · simp [requested_expiry, empty] at requested
  · simp only [requested_expiry, List.isEmpty_iff, if_neg empty, bind,
      Option.bind_eq_some_iff, Option.some.injEq, Prod.mk.injEq] at requested
    obtain ⟨_, selected, _, converted, rfl, rfl⟩ := requested
    exact ⟨empty, selected, converted⟩

theorem ListedAt.timestamp {offset : ℤ} {key : String} {listed : DateTime}
    (at_key : ListedAt offset key listed) :
    Py.int? key = some (listed.timestamp offset) := by
  obtain ⟨old_ts, read, dated⟩ := at_key
  rw [read, (DateTime.of_ofTimestamp? dated).1]

theorem api_expiry_eq_listed {offset : ℤ} {now fetched listed occurs : DateTime}
    {key : String} {sent : ℤ} (at_key : ListedAt offset key listed)
    (next : NextAnniversary fetched listed occurs)
    (later : now.timestamp offset < occurs.timestamp offset)
    (converted : api_expiry offset now (occurs.timestamp offset) = some sent) :
    sent = listed.timestamp offset ↔
      listed.date.year + 10 = occurs.date.year ∧
        ¬ (listed.date.month = 2 ∧ listed.date.day = 29) := by
  have whole := at_key.microsecond
  have anniversary := next.anniversary
  have occurs_whole := anniversary.microsecond_eq.trans whole
  rw [api_expiry_future occurs_whole later, Option.map_eq_some_iff] at converted
  obtain ⟨old, replaced, rfl⟩ := converted
  have old_whole :=
    (replace_year_eq_some.mp replaced).microsecond_eq.trans occurs_whole
  rw [← anniversary.ten_years_back, ← replace_year_eq_some, replaced,
    Option.some.injEq]
  constructor
  · intro same
    have dated := DateTime.ofTimestamp?_timestamp offset old_whole
    rw [same, DateTime.ofTimestamp?_timestamp offset whole] at dated
    exact (Option.some.inj dated).symm
  · exact congrArg (DateTime.timestamp offset)

/-- The next anniversary of this key is the first after the selection, ten years on and of
no 29 February. -/
def FirstTenYearsOn (offset : ℤ) (fetched now : DateTime) (keys : List String)
    (key : String) : Prop :=
  ∃ listed occurs, ListedAt offset key listed ∧
    NextAnniversary fetched listed occurs ∧
    now.timestamp offset < occurs.timestamp offset ∧
    (∀ other ∈ keys, Py.isdigit other = true →
      ∀ elsewhere later, ListedAt offset other elsewhere →
        NextAnniversary fetched elsewhere later →
        now.timestamp offset < later.timestamp offset →
        occurs.timestamp offset ≤ later.timestamp offset) ∧
    listed.date.year + 10 = occurs.date.year ∧
    ¬ (listed.date.month = 2 ∧ listed.date.day = 29)

/-- What is first of the adjusted expiries to come is selected. -/
theorem target_eq_first {offset : ℤ} {fetched now occurs : DateTime}
    {keys : List String} {target : ℤ}
    (selected : target_expiry offset now (fetch_expiry_dates offset fetched keys) =
      some target)
    (among : occurs.timestamp offset ∈ fetch_expiry_dates offset fetched keys)
    (later : now.timestamp offset < occurs.timestamp offset)
    (first : ∀ other ∈ keys, Py.isdigit other = true →
      ∀ elsewhere later, ListedAt offset other elsewhere →
        NextAnniversary fetched elsewhere later →
        now.timestamp offset < later.timestamp offset →
        occurs.timestamp offset ≤ later.timestamp offset) :
    target = occurs.timestamp offset := by
  obtain ⟨target_later, nearest⟩ := target_expiry_cases
    (pairwise_fetch_expiry_dates offset fetched keys) selected
  rcases nearest with ⟨target_among, before_others⟩ | none_later
  · obtain ⟨other, listed_other, other_digits, other_adjusted⟩ :=
      (mem_fetch_expiry_dates (List.ne_nil_of_mem among) target).mp target_among
    obtain ⟨elsewhere, sooner, at_other, next_other, rfl⟩ :=
      adjusted_expiry_eq_some.mp other_adjusted
    exact le_antisymm (before_others _ among later)
      (first other listed_other other_digits elsewhere sooner at_other next_other
        target_later)
  · exact absurd (none_later _ among) (not_le.mpr later)

theorem sent_key_iff {offset : ℤ} {fetched now : DateTime}
    {keys : List String} {target sent : ℤ}
    (requested : requested_expiry offset fetched now keys = some (target, sent))
    {key : String} (listed_key : key ∈ keys) (digits : Py.isdigit key = true) :
    (Py.int? key = some sent ∧ adjusted_expiry offset fetched key = some target) ↔
      FirstTenYearsOn offset fetched now keys key := by
  obtain ⟨nonempty, selected, converted⟩ := requested_expiry_eq_some requested
  have among := mem_fetch_expiry_dates nonempty
  obtain ⟨target_later, nearest⟩ := target_expiry_cases
    (pairwise_fetch_expiry_dates offset fetched keys) selected
  constructor
  · rintro ⟨read, adjusted⟩
    have target_among := (among target).mpr ⟨key, listed_key, digits, adjusted⟩
    obtain ⟨listed, occurs, at_key, next, rfl⟩ :=
      adjusted_expiry_eq_some.mp adjusted
    refine ⟨listed, occurs, at_key, next, target_later, ?_, ?_⟩
    · intro other listed_other other_digits elsewhere later at_other next_other
        other_later
      rcases nearest with ⟨-, first⟩ | none_later
      · exact first _ ((among _).mpr ⟨other, listed_other, other_digits,
          adjusted_expiry_eq_some.mpr ⟨elsewhere, later, at_other, next_other,
            rfl⟩⟩) other_later
      · exact absurd (none_later _ target_among) (not_le.mpr target_later)
    · apply (api_expiry_eq_listed at_key next target_later converted).mp
      exact Option.some.inj (read.symm.trans at_key.timestamp)
  · rintro ⟨listed, occurs, at_key, next, later, first, tenYears⟩
    have adjusted : adjusted_expiry offset fetched key =
        some (occurs.timestamp offset) :=
      adjusted_expiry_eq_some.mpr ⟨listed, occurs, at_key, next, rfl⟩
    have occurs_among := (among _).mpr ⟨key, listed_key, digits, adjusted⟩
    obtain rfl := target_eq_first selected occurs_among later first
    refine ⟨?_, adjusted⟩
    rw [(api_expiry_eq_listed at_key next later converted).mpr tenYears]
    exact at_key.timestamp

theorem sent_listed_iff {offset : ℤ} {fetched now : DateTime}
    {keys : List String} {target sent : ℤ}
    (requested : requested_expiry offset fetched now keys = some (target, sent)) :
    SentIsListed offset fetched keys target sent ↔
      NextIsTenYearsOn offset fetched now keys := by
  apply exists_congr
  intro key
  apply and_congr_right
  intro listed_key
  apply and_congr_right
  intro digits
  exact sent_key_iff requested listed_key digits

theorem secondOfJune_valid : ValidDate 2025 6 2 := by decide

theorem ten_in_day : 36000 < 86400 := by decide

/-- Ten in the morning of 2 June 2025. -/
def secondOfJune : DateTime :=
  ⟨⟨2025, 6, 2, secondOfJune_valid⟩, 36000, 0, ten_in_day, DateTime.whole_second⟩

theorem sent_listed_iff_2015 :
    SentIsListed 19800 secondOfJune ["1435222800"] 1750842000 1435222800 ↔
      NextIsTenYearsOn 19800 secondOfJune secondOfJune ["1435222800"] :=
  sent_listed_iff (by decide)

/-- 30 June 2016 is selected as 30 June 2025 and sent as 30 June 2015. -/
theorem sent_listed_fails :
    requested_expiry 19800 secondOfJune secondOfJune ["1467277200"] =
        some (1751274000, 1435654800) ∧
      ¬ SentIsListed 19800 secondOfJune ["1467277200"] 1751274000 1435654800 := by
  decide

end HftEngine.Ingestion
