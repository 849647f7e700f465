import HftEngine.Backend.OptionChain
import Mathlib.Algebra.Order.Field.Rat
import Mathlib.Data.Rat.Cast.Order

/-!
# Days to expiry

`parse_expiry_to_days` over the text of an expiry.  The clock of the server
shows Indian time, which is 5 hours and 30 minutes ahead of UTC; the counts are
exact quotients.
-/

namespace HftEngine.ExpiryDays

open Calendar Py
open Storage (strptime)

def ist_offset : ℤ := 19800

local instance hours_ne_zero : NeZero 24 := ⟨by decide⟩

local instance minutes_ne_zero : NeZero 60 := ⟨by decide⟩

/-- `moment.replace(hour=hour, minute=minute, second=0, microsecond=0)` -/
def at_time (date : Date) (hour : Fin 24) (minute : Fin 60) : DateTime :=
  ⟨date, hour * 3600 + minute * 60, 0, by omega, DateTime.whole_second⟩

/-- `moment.replace(year=2000, tzinfo=None)` -/
def in_common_year (moment : DateTime) : Option DateTime :=
  (Date.ofParts? 2000 moment.date.month moment.date.day).map moment.replaceDate

/-- `(later - earlier).total_seconds() / (24 * 3600)` -/
def days_between (later earlier : DateTime) : ℚ :=
  ((later.position : ℚ) - earlier.position) / 1000000 / (24 * 3600)

def reference_time (now_ist : DateTime) (yesterday : Date) : DateTime :=
  let today_1530 := at_time now_ist.date 15 30
  let today_0900 := at_time now_ist.date 9 0
  let yesterday_1530 := at_time yesterday 15 30
  if DateTime.Before today_1530 now_ist then today_1530
  else if DateTime.Before now_ist today_0900 then yesterday_1530
  else now_ist

def raising {α : Type} (error : Error) (result : Option α) : Result α :=
  match result with
  | some a => .ok a
  | none => .error error

@[simp] theorem raising_some {α : Type} (error : Error) (a : α) :
    raising error (some a) = .ok a := rfl

def calculate_days_to_expiry_ist (now_ist : DateTime) (expiry_timestamp : ℤ) :
    Result ℚ := do
  let expiry_dt_utc ← raising .valueError (DateTime.ofTimestamp? 0 expiry_timestamp)
  let expiry_ist ←
    raising .overflowError (DateTime.ofTimestamp? ist_offset (expiry_dt_utc.timestamp 0))
  let expiry_target := at_time expiry_ist.date 15 31
  let yesterday ←
    raising .overflowError (Date.ofOrdinal? (now_ist.date.toOrdinal - 1))
  let expiry_normalized ← raising .valueError (in_common_year expiry_target)
  let reference_normalized ←
    raising .valueError (in_common_year (reference_time now_ist yesterday))
  let day_diff := days_between expiry_normalized reference_normalized
  .ok (max (day_diff - 1) 0.000001)

/-- The argument is `str(expiry)`, or none for `None`. -/
def parse_expiry_to_days (now : DateTime) (expiry : Option String) : Result ℚ :=
  match expiry with
  | none => .ok 0
  | some expiry_str =>
      if '-' ∈ expiry_str.toList then
        match strptime expiry_str with
        | some expiry_date => .ok (max 0 (days_between (at_time expiry_date 15 30) now))
        | none => .ok 0
      else
        match int? expiry_str with
        | some timestamp =>
            match calculate_days_to_expiry_ist now timestamp with
            | .error .valueError => .ok 0
            | counted => counted
        | none => .ok 0

/-! ## The common year -/

theorem daysInMonth_le_common (year month : ℕ) :
    daysInMonth year month ≤ daysInMonth 2000 month := by
  by_cases february : month = 2
  · subst february
    rw [daysInMonth_february, daysInMonth_february]
    cases isLeap year <;> decide
  · exact (daysInMonth_other february).le

/-- 2000 has all days that any year has. -/
def common (date : Date) : Date where
  year := 2000
  month := date.month
  day := date.day
  valid :=
    ⟨by decide, date.valid.2.1, date.valid.2.2.1,
      date.valid.2.2.2.trans (daysInMonth_le_common date.year date.month)⟩

theorem in_common_year_eq (moment : DateTime) :
    in_common_year moment = some (moment.replaceDate (common moment.date)) := by
  have parts : Date.ofParts? 2000 moment.date.month moment.date.day =
      some (common moment.date) :=
    Date.ofParts?_self (common moment.date)
  rw [in_common_year, parts]
  rfl

theorem in_common_year_at_time (date : Date) (hour : Fin 24) (minute : Fin 60) :
    in_common_year (at_time date hour minute) = some (at_time (common date) hour minute) :=
  in_common_year_eq (at_time date hour minute)

/-- The day that 2000 has more before this date. -/
def leap_days (date : Date) : ℕ :=
  if isLeap date.year ∨ date.month ≤ 2 then 0 else 1

theorem toOrdinal_common (date : Date) :
    (common date).toOrdinal + daysBeforeYear date.year =
      daysBeforeYear 2000 + date.toOrdinal + leap_days date := by
  have months : daysBeforeMonth 2000 date.month =
      daysBeforeMonth date.year date.month + leap_days date := by
    obtain ⟨year, month, day, _, ⟨month_pos, month_le⟩, _⟩ := date
    unfold leap_days daysBeforeMonth monthLengths
    cases isLeap year <;> interval_cases month <;> rfl
  simp only [Date.toOrdinal, common, months]
  omega

theorem leap_days_le (date : Date) : leap_days date ≤ 1 := by
  unfold leap_days
  split <;> omega

/-- Within a year the common year adds the leap day between two dates. -/
theorem common_of_same_year {earlier later : Date} (year : later.year = earlier.year)
    (ordered : earlier.toOrdinal ≤ later.toOrdinal) :
    ∃ extra ≤ 1, (common later).toOrdinal + earlier.toOrdinal =
      (common earlier).toOrdinal + later.toOrdinal + extra ∧
        (earlier.toOrdinal = later.toOrdinal → extra = 0) := by
  have before := toOrdinal_common earlier
  have after := toOrdinal_common later
  have leap := leap_days_le later
  have grows : leap_days earlier ≤ leap_days later ∧
      (earlier.toOrdinal = later.toOrdinal → leap_days later = leap_days earlier) := by
    obtain same | sooner := Nat.eq_or_lt_of_le ordered
    · obtain rfl := Date.toOrdinal_injective same
      exact ⟨le_rfl, fun _ => rfl⟩
    · have months : earlier.month ≤ later.month := by
        have parts := Date.toOrdinal_lt_iff.mp sooner
        unfold Date.PartsLt at parts
        omega
      refine ⟨?_, fun same => absurd same sooner.ne⟩
      unfold leap_days
      rw [year]
      by_cases leap : isLeap earlier.year = true
      · simp [leap]
      · simp only [leap, false_or, Bool.false_eq_true]
        split <;> split <;> omega
  rw [year] at after
  exact ⟨leap_days later - leap_days earlier, by omega, by omega, fun same => by
    rw [grows.2 same, Nat.sub_self]⟩

/-- Between years the common year leaves out at least 364 days. -/
theorem common_of_later_year {earlier later : Date} (year : earlier.year < later.year) :
    (common later).toOrdinal + earlier.toOrdinal + 364 ≤
      (common earlier).toOrdinal + later.toOrdinal := by
  have before := toOrdinal_common earlier
  have after := toOrdinal_common later
  have leap := leap_days_le later
  have next := daysBeforeYear_succ earlier.valid.1.1
  have years : daysBeforeYear (earlier.year + 1) ≤ daysBeforeYear later.year :=
    daysBeforeYear_mono year
  have length : 365 ≤ yearLength earlier.year := by
    unfold yearLength
    split <;> omega
  omega

/-! ## Counts in microseconds -/

def time_of_day (moment : DateTime) : ℕ := moment.second * 1000000 + moment.microsecond

theorem position_eq (moment : DateTime) :
    moment.position = moment.date.toOrdinal * 86400000000 + time_of_day moment := by
  unfold DateTime.position time_of_day
  omega

theorem position_at_time (date : Date) (hour : Fin 24) (minute : Fin 60) :
    (at_time date hour minute).position =
      date.toOrdinal * 86400000000 + (hour * 3600 + minute * 60) * 1000000 := by
  rw [position_eq]
  simp [time_of_day, at_time]

theorem time_of_day_at_time (date : Date) (hour : Fin 24) (minute : Fin 60) :
    time_of_day (at_time date hour minute) = (hour * 3600 + minute * 60) * 1000000 := by
  simp [time_of_day, at_time]

@[simp] theorem time_of_day_replaceDate (moment : DateTime) (date : Date) :
    time_of_day (moment.replaceDate date) = time_of_day moment := by
  simp [time_of_day]

theorem time_of_day_lt (moment : DateTime) : time_of_day moment < 86400000000 := by
  have seconds := moment.second_lt
  have microseconds := moment.microsecond_lt
  unfold time_of_day
  omega

def microseconds_between (later earlier : DateTime) : ℤ :=
  (later.position : ℤ) - earlier.position

theorem days_between_eq (later earlier : DateTime) :
    days_between later earlier = microseconds_between later earlier / 86400000000 := by
  unfold days_between microseconds_between
  push_cast
  ring

/-- The count of an ISO date. -/
def iso_count (now : DateTime) (expiry : Date) : ℤ :=
  max 0 (microseconds_between (at_time expiry 15 30) now)

/-- The count of a time stamp on a date. -/
def stamp_count (now : DateTime) (yesterday expiry : Date) : ℤ :=
  let reference := reference_time now yesterday
  max (microseconds_between (at_time (common expiry) 15 31)
      (reference.replaceDate (common reference.date)) - 86400000000) 86400

section Counts

variable {now : DateTime} {yesterday expiry : Date}

theorem parse_iso {text : String} (read : strptime text = some expiry) :
    parse_expiry_to_days now (some text) =
      .ok (iso_count now expiry / 86400000000 : ℚ) := by
  have dashed : '-' ∈ text.toList := by
    obtain ⟨ds, rest, _, _, spelled⟩ := Backend.strptime_spelled read
    simp [spelled]
  have quotient (count : ℤ) :
      max 0 (count / 86400000000 : ℚ) = (max 0 count : ℤ) / 86400000000 := by
    push_cast
    rw [← max_div_div_right (by norm_num), zero_div]
  simp only [parse_expiry_to_days, if_pos dashed, read, days_between_eq, iso_count, quotient]

theorem parse_stamp {text : String} {timestamp : ℤ} {moment : DateTime}
    (plain : '-' ∉ text.toList) (read : int? text = some timestamp)
    (converted : DateTime.ofTimestamp? ist_offset timestamp = some moment)
    (previous : yesterday.toOrdinal + 1 = now.date.toOrdinal)
    (ahead : now.date.toOrdinal ≤ moment.date.toOrdinal) :
    parse_expiry_to_days now (some text) =
      .ok (stamp_count now yesterday moment.date / 86400000000 : ℚ) := by
  have found : Date.ofOrdinal? (now.date.toOrdinal - 1) = some yesterday := by
    rw [← previous, Nat.add_sub_cancel]
    exact yesterday.ofOrdinal?_toOrdinal
  have counted : calculate_days_to_expiry_ist now timestamp =
      .ok (stamp_count now yesterday moment.date / 86400000000 : ℚ) := by
    have quotient (count : ℤ) :
        max ((count : ℚ) / 86400000000 - 1) 0.000001 =
          (max (count - 86400000000) 86400 : ℤ) / 86400000000 := by
      push_cast
      rw [← max_div_div_right (by norm_num), sub_div]
      norm_num
    have first : 1 ≤ yesterday.toOrdinal := by
      have valid := yesterday.valid.2.2.1
      unfold Date.toOrdinal
      omega
    obtain ⟨utc, universal⟩ :=
      DateTime.exists_utc_of_ofTimestamp? converted (by omega) (by decide) (by decide)
    have stamp := (DateTime.of_ofTimestamp? universal).1
    have common_expiry := in_common_year_at_time moment.date 15 31
    have common_reference := in_common_year_eq (reference_time now yesterday)
    have count := days_between_eq (at_time (common moment.date) 15 31)
      ((reference_time now yesterday).replaceDate
        (common (reference_time now yesterday).date))
    simp only [calculate_days_to_expiry_ist]
    refine bind_eq_ok.mpr ⟨utc, by rw [universal, raising_some], ?_⟩
    refine bind_eq_ok.mpr ⟨moment, by rw [stamp, converted, raising_some], ?_⟩
    refine bind_eq_ok.mpr ⟨yesterday, by rw [found, raising_some], ?_⟩
    refine bind_eq_ok.mpr ⟨_, by rw [common_expiry, raising_some], ?_⟩
    refine bind_eq_ok.mpr ⟨_, by rw [common_reference, raising_some], ?_⟩
    rw [count, quotient, stamp_count]
  simp only [parse_expiry_to_days, if_neg plain, read, counted]

theorem reference_cases (now : DateTime) (yesterday : Date) :
    (reference_time now yesterday = at_time now.date 15 30 ∧
        55800000000 < time_of_day now) ∨
      (reference_time now yesterday = at_time yesterday 15 30 ∧
        time_of_day now < 32400000000) ∨
      (reference_time now yesterday = now ∧ 32400000000 ≤ time_of_day now ∧
        time_of_day now ≤ 55800000000) := by
  have late : DateTime.Before (at_time now.date 15 30) now ↔
      55800000000 < time_of_day now := by
    rw [DateTime.Before, position_at_time, position_eq now]
    norm_num
  have early : DateTime.Before now (at_time now.date 9 0) ↔
      time_of_day now < 32400000000 := by
    rw [DateTime.Before, position_at_time, position_eq now]
    norm_num
  simp only [reference_time, late, early]
  split
  · exact .inl ⟨rfl, ‹_›⟩
  · split
    · exact .inr (.inl ⟨rfl, ‹_›⟩)
    · exact .inr (.inr ⟨rfl, by omega, by omega⟩)

/-- The expiry is in the year of the reference time, or less than a day and
0.0864 seconds ahead. -/
def Matching (now : DateTime) (yesterday expiry : Date) : Prop :=
  expiry.year = (reference_time now yesterday).date.year ∨
    days_between (at_time expiry 15 30) now < 1.000001

theorem matching_iff :
    Matching now yesterday expiry ↔
      expiry.year = (reference_time now yesterday).date.year ∨
        microseconds_between (at_time expiry 15 30) now < 86400086400 := by
  have quotient (count : ℤ) :
      (count : ℚ) / 86400000000 < 1.000001 ↔ count < 86400086400 := by
    rw [div_lt_iff₀ (by norm_num)]
    norm_num
    exact_mod_cast Iff.rfl
  rw [Matching, days_between_eq, quotient]

theorem microseconds_eq (now : DateTime) (expiry : Date) :
    microseconds_between (at_time expiry 15 30) now =
      ((expiry.toOrdinal : ℤ) - now.date.toOrdinal) * 86400000000 +
        55800000000 - time_of_day now := by
  rw [microseconds_between, position_at_time, position_eq now]
  push_cast
  norm_num
  ring

theorem iso_count_eq (now : DateTime) (expiry : Date) :
    iso_count now expiry =
      max 0 (((expiry.toOrdinal : ℤ) - now.date.toOrdinal) * 86400000000 +
        55800000000 - time_of_day now) := by
  rw [iso_count, microseconds_eq]

theorem stamp_count_eq (now : DateTime) (yesterday expiry : Date) :
    stamp_count now yesterday expiry =
      max ((((common expiry).toOrdinal : ℤ) -
        (common (reference_time now yesterday).date).toOrdinal - 1) * 86400000000 +
          55860000000 - time_of_day (reference_time now yesterday)) 86400 := by
  simp only [stamp_count, microseconds_between, position_at_time]
  rw [position_eq, time_of_day_replaceDate, DateTime.replaceDate_date]
  push_cast
  norm_num
  congr 1
  ring

/-- The reference time is at most a day before the current time, in a year
that is not later. -/
theorem reference_bounds (previous : yesterday.toOrdinal + 1 = now.date.toOrdinal) :
    let reference := reference_time now yesterday
    (reference.date.toOrdinal = now.date.toOrdinal ∧
        time_of_day reference = 55800000000 ∧ 55800000000 < time_of_day now) ∨
      (reference.date.toOrdinal + 1 = now.date.toOrdinal ∧
        time_of_day reference = 55800000000 ∧ time_of_day now < 32400000000) ∨
      (reference.date.toOrdinal = now.date.toOrdinal ∧
        time_of_day reference = time_of_day now ∧ 32400000000 ≤ time_of_day now ∧
        time_of_day now ≤ 55800000000) := by
  obtain ⟨same, late⟩ | ⟨same, early⟩ | ⟨same, opened, closed⟩ :=
    reference_cases now yesterday
  · left
    rw [same, time_of_day_at_time]
    exact ⟨rfl, by norm_num, late⟩
  · right
    left
    rw [same, time_of_day_at_time]
    exact ⟨previous, by norm_num, early⟩
  · rw [same]
    exact .inr (.inr ⟨rfl, rfl, opened, closed⟩)

/-- The two counts of a date are less than a day apart. -/
def Close (now : DateTime) (yesterday expiry : Date) : Prop :=
  |(iso_count now expiry - stamp_count now yesterday expiry : ℤ)| < 86400000000

theorem close_iff (previous : yesterday.toOrdinal + 1 = now.date.toOrdinal)
    (ahead : now.date.toOrdinal ≤ expiry.toOrdinal) :
    Close now yesterday expiry ↔ Matching now yesterday expiry := by
  have bounds := reference_bounds previous
  have later : (reference_time now yesterday).date.toOrdinal ≤ expiry.toOrdinal := by
    obtain ⟨same, _⟩ | ⟨before, _⟩ | ⟨same, _⟩ := bounds <;> omega
  have years := Date.year_le_of_toOrdinal_le later
  have inside := time_of_day_lt now
  rw [Close, matching_iff, iso_count_eq, stamp_count_eq, microseconds_eq, abs_lt]
  obtain same | apart := Nat.eq_or_lt_of_le years
  · obtain ⟨extra, small, shift, none_extra⟩ := common_of_same_year same.symm later
    refine iff_of_true ?_ (.inl same.symm)
    generalize (common expiry).toOrdinal = target at *
    generalize (common (reference_time now yesterday).date).toOrdinal = start at *
    omega
  · have shift := common_of_later_year apart
    rw [or_iff_right (fun same => apart.ne same.symm)]
    generalize (common expiry).toOrdinal = target at *
    generalize (common (reference_time now yesterday).date).toOrdinal = start at *
    omega

theorem iso_count_mono {earlier later : Date}
    (ordered : earlier.toOrdinal ≤ later.toOrdinal) :
    iso_count now earlier ≤ iso_count now later := by
  rw [iso_count_eq, iso_count_eq]
  omega

theorem stamp_count_mono (previous : yesterday.toOrdinal + 1 = now.date.toOrdinal)
    {earlier later : Date} (ahead : now.date.toOrdinal ≤ earlier.toOrdinal)
    (ordered : earlier.toOrdinal ≤ later.toOrdinal)
    (matching : Matching now yesterday later) :
    stamp_count now yesterday earlier ≤ stamp_count now yesterday later := by
  have bounds := reference_bounds previous
  have inside := time_of_day_lt now
  have years := Date.year_le_of_toOrdinal_le ordered
  have reached : (reference_time now yesterday).date.toOrdinal ≤ earlier.toOrdinal := by
    obtain ⟨same, _⟩ | ⟨before, _⟩ | ⟨same, _⟩ := bounds <;> omega
  have started := Date.year_le_of_toOrdinal_le reached
  rw [stamp_count_eq, stamp_count_eq]
  rw [matching_iff, microseconds_eq] at matching
  generalize reference_time now yesterday = reference at *
  obtain same | apart := Nat.eq_or_lt_of_le years
  · obtain ⟨extra, -, shift, -⟩ := common_of_same_year same.symm ordered
    generalize (common earlier).toOrdinal = left at *
    generalize (common later).toOrdinal = right at *
    omega
  · -- The later date is tomorrow, so that the earlier one is today.
    have strict : earlier.toOrdinal < later.toOrdinal := by
      by_contra reversed
      have bounded := Date.year_le_of_toOrdinal_le (not_lt.mp reversed)
      omega
    have soon := matching.resolve_left (by omega)
    obtain today | shorter := Nat.eq_or_lt_of_le started
    · obtain ⟨extra, -, shift, none_extra⟩ := common_of_same_year today.symm reached
      generalize (common earlier).toOrdinal = left at *
      generalize (common reference.date).toOrdinal = start at *
      omega
    · have strictly : reference.date.toOrdinal < earlier.toOrdinal := by
        by_contra reversed
        have bounded := Date.year_le_of_toOrdinal_le (not_lt.mp reversed)
        omega
      omega

end Counts

/-! ## Two expiries -/

/-- The texts of a date: its ISO form and a time stamp on it. -/
structure Expiry where
  date : Date
  iso : String
  stamp : String
  iso_read : strptime iso = some date
  plain : '-' ∉ stamp.toList
  stamp_read : ∃ timestamp moment, int? stamp = some timestamp ∧
    DateTime.ofTimestamp? ist_offset timestamp = some moment ∧ moment.date = date

/-- All four counts are made, those of a date are less than one day apart, and
those of the second date are not smaller. -/
def Agreeing (now : DateTime) (first second : Expiry) : Prop :=
  ∃ iso₁ stamp₁ iso₂ stamp₂ : ℚ,
    parse_expiry_to_days now (some first.iso) = .ok iso₁ ∧
    parse_expiry_to_days now (some first.stamp) = .ok stamp₁ ∧
    parse_expiry_to_days now (some second.iso) = .ok iso₂ ∧
    parse_expiry_to_days now (some second.stamp) = .ok stamp₂ ∧
    |iso₁ - stamp₁| < 1 ∧ |iso₂ - stamp₂| < 1 ∧ iso₁ ≤ iso₂ ∧ stamp₁ ≤ stamp₂

section Expiries

variable {now : DateTime} {yesterday : Date} {first second : Expiry}

theorem Expiry.parse_stamp (expiry : Expiry)
    (previous : yesterday.toOrdinal + 1 = now.date.toOrdinal)
    (ahead : now.date.toOrdinal ≤ expiry.date.toOrdinal) :
    parse_expiry_to_days now (some expiry.stamp) =
      .ok (stamp_count now yesterday expiry.date / 86400000000 : ℚ) := by
  obtain ⟨timestamp, moment, read, converted, dated⟩ := expiry.stamp_read
  rw [← dated] at ahead ⊢
  exact ExpiryDays.parse_stamp expiry.plain read converted previous ahead

theorem close_quotients {iso stamp : ℤ} :
    |(iso / 86400000000 - stamp / 86400000000 : ℚ)| < 1 ↔ |iso - stamp| < 86400000000 := by
  have day : (0 : ℚ) < 86400000000 := by norm_num
  rw [← sub_div, abs_div, abs_of_pos day, div_lt_one day]
  exact_mod_cast Iff.rfl

theorem quotients_le {earlier later : ℤ} :
    (earlier / 86400000000 : ℚ) ≤ later / 86400000000 ↔ earlier ≤ later := by
  rw [div_le_div_iff_of_pos_right (by norm_num), Int.cast_le]

theorem agreeing_iff_counts (previous : yesterday.toOrdinal + 1 = now.date.toOrdinal)
    (ahead : now.date.toOrdinal ≤ first.date.toOrdinal)
    (ordered : first.date.toOrdinal ≤ second.date.toOrdinal) :
    Agreeing now first second ↔
      Close now yesterday first.date ∧ Close now yesterday second.date ∧
        iso_count now first.date ≤ iso_count now second.date ∧
        stamp_count now yesterday first.date ≤ stamp_count now yesterday second.date := by
  unfold Agreeing
  rw [parse_iso first.iso_read, parse_iso second.iso_read, first.parse_stamp previous ahead,
    second.parse_stamp previous (ahead.trans ordered)]
  simp only [Except.ok.injEq, exists_and_left, exists_eq_left', close_quotients, quotients_le,
    Close]

/-- The counts agree exactly for dates of the year of the reference time and for
those that are about a day ahead. -/
theorem counts_agree_iff (previous : yesterday.toOrdinal + 1 = now.date.toOrdinal)
    (ahead : now.date.toOrdinal ≤ first.date.toOrdinal)
    (ordered : first.date.toOrdinal ≤ second.date.toOrdinal) :
    Agreeing now first second ↔
      Matching now yesterday first.date ∧ Matching now yesterday second.date := by
  rw [agreeing_iff_counts previous ahead ordered, close_iff previous ahead,
    close_iff previous (ahead.trans ordered)]
  constructor
  · rintro ⟨close_first, close_second, -⟩
    exact ⟨close_first, close_second⟩
  · rintro ⟨close_first, close_second⟩
    exact ⟨close_first, close_second, iso_count_mono ordered,
      stamp_count_mono previous ahead ordered close_second⟩

end Expiries

theorem ten_o_clock : 36000 < 86400 := by decide

theorem half_past_three : 55800 < 86400 := by decide

theorem december_valid : ValidDate 2025 12 30 := by decide

theorem day_before_valid : ValidDate 2025 12 29 := by decide

theorem january_valid : ValidDate 2026 1 6 := by decide

/-- Ten in the morning of 30 December 2025. -/
def december : DateTime :=
  ⟨⟨2025, 12, 30, december_valid⟩, 36000, 0, ten_o_clock, DateTime.whole_second⟩

def day_before : Date := ⟨2025, 12, 29, day_before_valid⟩

def this_year : Expiry where
  date := december.date
  iso := "2025-12-30"
  stamp := "1767088800"
  iso_read := by decide
  plain := by decide
  stamp_read :=
    ⟨1767088800, ⟨december.date, 55800, 0, half_past_three, DateTime.whole_second⟩,
      by decide⟩

def next_year : Expiry where
  date := ⟨2026, 1, 6, january_valid⟩
  iso := "2026-01-06"
  stamp := "1767693600"
  iso_read := by decide
  plain := by decide
  stamp_read :=
    ⟨1767693600, ⟨⟨2026, 1, 6, january_valid⟩, 55800, 0, half_past_three, DateTime.whole_second⟩,
      by decide⟩

theorem counts_agree_iff_two_years :
    Agreeing december this_year next_year ↔
      Matching december day_before this_year.date ∧
        Matching december day_before next_year.date :=
  counts_agree_iff (by decide) (by decide) (by decide)

/-- The time stamp of 6 January counts no day on 30 December. -/
theorem counts_disagree : ¬Agreeing december this_year next_year := by
  intro agreeing
  have previous : day_before.toOrdinal + 1 = december.date.toOrdinal := by decide
  have ahead : december.date.toOrdinal ≤ this_year.date.toOrdinal := by decide
  have ordered : this_year.date.toOrdinal ≤ next_year.date.toOrdinal := by decide
  obtain ⟨-, close, -⟩ := (agreeing_iff_counts previous ahead ordered).mp agreeing
  have matching := matching_iff.mp ((close_iff previous (ahead.trans ordered)).mp close)
  revert matching
  decide

end HftEngine.ExpiryDays
