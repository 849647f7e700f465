import Mathlib.Data.List.Basic
import Mathlib.Data.Nat.Notation
import Mathlib.Data.Int.Notation
import Mathlib.Tactic.Common
import Mathlib.Data.Option.Basic
import Mathlib.Order.Monotone.Basic
import Mathlib.Order.Nat
import Mathlib.Tactic.IntervalCases
import Mathlib.Algebra.BigOperators.Group.List.Basic
import Mathlib.Algebra.Order.BigOperators.Group.List

/-!
# The proleptic Gregorian calendar

Dates of the years 1 to 9999 and their ordinals (day 1 is 1 January of year
1), local date-times without a zone, and their conversion to seconds since
1970-01-01 UTC under a fixed offset of local time from UTC.
-/

namespace Calendar

def isLeap (year : ℕ) : Bool :=
  year % 4 = 0 && (year % 100 ≠ 0 || year % 400 = 0)

def yearLength (year : ℕ) : ℕ :=
  if isLeap year then 366 else 365

def monthLengths (year : ℕ) : List ℕ :=
  [31, if isLeap year then 29 else 28, 31, 30, 31, 30, 31, 31, 30, 31, 30, 31]

def daysInMonth (year month : ℕ) : ℕ :=
  (monthLengths year).getD (month - 1) 0

def daysBeforeYear (year : ℕ) : ℕ :=
  (year - 1) * 365 + (year - 1) / 4 - (year - 1) / 100 + (year - 1) / 400

def daysBeforeMonth (year month : ℕ) : ℕ :=
  ((monthLengths year).take (month - 1)).sum

/-- The year and the day of the year (from 0) of the day `days` after
1 January of year 1. -/
def splitYear (days : ℕ) : ℕ × ℕ :=
  let cycles := days / 146097
  let inCycle := days % 146097
  let centuries := min 3 (inCycle / 36524)
  let inCentury := inCycle - centuries * 36524
  let quads := inCentury / 1461
  let inQuad := inCentury % 1461
  let years := min 3 (inQuad / 365)
  (400 * cycles + 100 * centuries + 4 * quads + years + 1, inQuad - years * 365)

/-- The position of an element of a list of block lengths, counted from the
start of the first block: the block and the position in it. -/
def splitBlocks : List ℕ → ℕ → ℕ × ℕ
  | [], position => (0, position)
  | length :: rest, position =>
      if position < length then (0, position)
      else
        let (block, inside) := splitBlocks rest (position - length)
        (block + 1, inside)

theorem splitBlocks_take_sum {lengths : List ℕ} {block inside : ℕ}
    (exists_block : block < lengths.length)
    (within : inside < lengths.getD block 0) :
    splitBlocks lengths ((lengths.take block).sum + inside) = (block, inside) := by
  induction lengths generalizing block with
  | nil => simp at exists_block
  | cons length rest ih =>
      cases block with
      | zero =>
          simp only [List.getD_cons_zero] at within
          simp [splitBlocks, within]
      | succ block =>
          simp only [List.getD_cons_succ] at within
          have later : ¬ length + (rest.take block).sum + inside < length := by omega
          have shifted : length + (rest.take block).sum + inside - length =
              (rest.take block).sum + inside := by omega
          simp only [List.take_succ_cons, List.sum_cons, splitBlocks, later,
            if_false, shifted]
          rw [ih (by simpa using exists_block) within]

theorem take_sum_splitBlocks (lengths : List ℕ) (position : ℕ) :
    (lengths.take (splitBlocks lengths position).1).sum +
      (splitBlocks lengths position).2 = position := by
  induction lengths generalizing position with
  | nil => simp [splitBlocks]
  | cons length rest ih =>
      by_cases first : position < length
      · simp [splitBlocks, first]
      · have after := ih (position - length)
        simp only [splitBlocks, first, if_false, List.take_succ_cons,
          List.sum_cons]
        omega

theorem isLeap_iff (year : ℕ) :
    isLeap year = true ↔ year % 4 = 0 ∧ (year % 100 ≠ 0 ∨ year % 400 = 0) := by
  simp [isLeap]

/-- The days before a year given by its position in the 400, 100 and 4 year
cycles. -/
theorem daysBeforeYear_cycles {cycles centuries quads years : ℕ}
    (century_le : centuries ≤ 3) (quad_le : quads ≤ 24) (year_le : years ≤ 3) :
    daysBeforeYear (400 * cycles + 100 * centuries + 4 * quads + years + 1) =
      146097 * cycles + 36524 * centuries + 1461 * quads + 365 * years := by
  have fourths : (400 * cycles + 100 * centuries + 4 * quads + years) / 4 =
      100 * cycles + 25 * centuries + quads := by omega
  have hundredths : (400 * cycles + 100 * centuries + 4 * quads + years) / 100 =
      4 * cycles + centuries := by omega
  have cycle : (400 * cycles + 100 * centuries + 4 * quads + years) / 400 =
      cycles := by omega
  simp only [daysBeforeYear, Nat.add_sub_cancel, fourths, hundredths, cycle]
  omega

theorem daysBeforeYear_splitYear (days : ℕ) :
    daysBeforeYear (splitYear days).1 + (splitYear days).2 = days := by
  have century_le : min 3 (days % 146097 / 36524) ≤ 3 := Nat.min_le_left _ _
  have quad_le : (days % 146097 - min 3 (days % 146097 / 36524) * 36524) / 1461 ≤
      24 := by omega
  have year_le : min 3 ((days % 146097 -
      min 3 (days % 146097 / 36524) * 36524) % 1461 / 365) ≤ 3 :=
    Nat.min_le_left _ _
  simp only [splitYear]
  rw [daysBeforeYear_cycles century_le quad_le year_le]
  omega

theorem splitYear_daysBeforeYear {year day : ℕ} (positive : 1 ≤ year)
    (within : day < yearLength year) :
    splitYear (daysBeforeYear year + day) = (year, day) := by
  obtain ⟨cycles, centuries, quads, years, century_le, quad_le, year_le, rfl⟩ :
      ∃ cycles centuries quads years : ℕ, centuries ≤ 3 ∧ quads ≤ 24 ∧
        years ≤ 3 ∧
        year = 400 * cycles + 100 * centuries + 4 * quads + years + 1 :=
    ⟨(year - 1) / 400, (year - 1) % 400 / 100, (year - 1) % 100 / 4,
      (year - 1) % 4, by omega, by omega, by omega, by omega⟩
  have bound : day < 365 ∨
      (day = 365 ∧ years = 3 ∧ (quads ≠ 24 ∨ centuries = 3)) := by
    unfold yearLength at within
    split at within
    case isTrue leap =>
      rw [isLeap_iff] at leap
      omega
    case isFalse => exact .inl within
  rw [daysBeforeYear_cycles century_le quad_le year_le]
  -- The last day of a leap year is the only one in the way of plain division.
  have cycle : (146097 * cycles + 36524 * centuries + 1461 * quads + 365 * years +
      day) / 146097 = cycles := by omega
  have inCycle : (146097 * cycles + 36524 * centuries + 1461 * quads +
      365 * years + day) % 146097 =
      36524 * centuries + 1461 * quads + 365 * years + day := by omega
  have century : min 3 ((36524 * centuries + 1461 * quads + 365 * years + day) /
      36524) = centuries := by omega
  have inCentury : 36524 * centuries + 1461 * quads + 365 * years + day -
      centuries * 36524 = 1461 * quads + 365 * years + day := by omega
  have quad : (1461 * quads + 365 * years + day) / 1461 = quads := by omega
  have inQuad : (1461 * quads + 365 * years + day) % 1461 = 365 * years + day := by
    omega
  have inYear : min 3 ((365 * years + day) / 365) = years := by omega
  simp only [splitYear, cycle, inCycle, century, inCentury, quad, inQuad, inYear,
    Prod.mk.injEq, true_and]
  rw [Nat.mul_comm years, Nat.add_sub_cancel_left]

theorem daysBeforeYear_succ {year : ℕ} (positive : 1 ≤ year) :
    daysBeforeYear (year + 1) = daysBeforeYear year + yearLength year := by
  obtain ⟨before, rfl⟩ : ∃ before, year = before + 1 := ⟨year - 1, by omega⟩
  have fourths : (before + 1) / 4 =
      before / 4 + if (before + 1) % 4 = 0 then 1 else 0 := by
    split <;> omega
  have hundredths : (before + 1) / 100 =
      before / 100 + if (before + 1) % 100 = 0 then 1 else 0 := by
    split <;> omega
  have cycle : (before + 1) / 400 =
      before / 400 + if (before + 1) % 400 = 0 then 1 else 0 := by
    split <;> omega
  have length : yearLength (before + 1) + (if (before + 1) % 100 = 0 then 1 else 0) =
      365 + (if (before + 1) % 4 = 0 then 1 else 0) +
        if (before + 1) % 400 = 0 then 1 else 0 := by
    simp only [yearLength, isLeap_iff]
    split <;> split <;> split <;> split <;> omega
  have fewer : before / 100 ≤ before := Nat.div_le_self _ _
  simp only [daysBeforeYear, Nat.add_sub_cancel]
  omega

theorem daysBeforeYear_mono : Monotone daysBeforeYear := by
  apply monotone_nat_of_le_succ
  intro year
  rcases Nat.eq_zero_or_pos year with rfl | positive
  · exact Nat.zero_le _
  · rw [daysBeforeYear_succ positive]
    exact Nat.le_add_right _ _

theorem daysBeforeMonth_succ (year : ℕ) {month : ℕ} (positive : 1 ≤ month)
    (within : month ≤ 12) :
    daysBeforeMonth year (month + 1) =
      daysBeforeMonth year month + daysInMonth year month := by
  obtain ⟨before, rfl⟩ : ∃ before, month = before + 1 := ⟨month - 1, by omega⟩
  have inside : before < (monthLengths year).length := by
    simp only [monthLengths, List.length_cons, List.length_nil]
    omega
  simp only [daysBeforeMonth, daysInMonth, Nat.add_sub_cancel]
  simp [List.sum_take_succ _ _ inside, List.getD_eq_getElem?_getD, inside]

theorem daysBeforeMonth_mono (year : ℕ) : Monotone (daysBeforeMonth year) := by
  intro earlier later ordered
  have shorter : earlier - 1 ≤ later - 1 := Nat.sub_le_sub_right ordered 1
  unfold daysBeforeMonth
  exact List.monotone_sum_take _ shorter

theorem daysBeforeMonth_december (year : ℕ) :
    daysBeforeMonth year 12 + 31 = yearLength year := by
  unfold daysBeforeMonth monthLengths yearLength
  cases isLeap year <;> rfl

theorem daysInMonth_pos (year : ℕ) {month : ℕ} (positive : 1 ≤ month) (most : month ≤ 12) :
    1 ≤ daysInMonth year month := by
  unfold daysInMonth monthLengths
  interval_cases month <;> cases isLeap year <;> decide

theorem daysInMonth_other {year other month : ℕ} (notFebruary : month ≠ 2) :
    daysInMonth year month = daysInMonth other month := by
  unfold daysInMonth monthLengths
  match month with
  | 0 | 1 | 3 | 4 | 5 | 6 | 7 | 8 | 9 | 10 | 11 | 12 => rfl
  | 2 => exact absurd rfl notFebruary
  | month + 13 => simp

theorem daysInMonth_february (year : ℕ) :
    daysInMonth year 2 = if isLeap year then 29 else 28 := rfl

/-! ## Dates -/

def ValidDate (year month day : ℕ) : Prop :=
  (1 ≤ year ∧ year ≤ 9999) ∧ (1 ≤ month ∧ month ≤ 12) ∧
    1 ≤ day ∧ day ≤ daysInMonth year month

instance (year month day : ℕ) : Decidable (ValidDate year month day) :=
  inferInstanceAs (Decidable (_ ∧ _))

structure Date where
  year : ℕ
  month : ℕ
  day : ℕ
  valid : ValidDate year month day
  deriving DecidableEq

namespace Date

def ofParts? (year month day : ℕ) : Option Date :=
  if valid : ValidDate year month day then some ⟨year, month, day, valid⟩
  else none

def toOrdinal (date : Date) : ℕ :=
  daysBeforeYear date.year + daysBeforeMonth date.year date.month + date.day

def ofOrdinal? (ordinal : ℕ) : Option Date :=
  if ordinal = 0 then none
  else
    let place := splitYear (ordinal - 1)
    let inYear := splitBlocks (monthLengths place.1) place.2
    ofParts? place.1 (inYear.1 + 1) (inYear.2 + 1)

/-- A number with zeros before it. -/
def padded (width n : ℕ) : String :=
  let digits := Nat.toDigits 10 n
  String.ofList (List.replicate (width - digits.length) '0' ++ digits)

def isoformat (date : Date) : String :=
  padded 4 date.year ++ "-" ++ padded 2 date.month ++ "-" ++ padded 2 date.day

/-- Monday is 0. -/
def weekday (date : Date) : ℕ :=
  (date.toOrdinal + 6) % 7

theorem ofParts?_eq_some {year month day : ℕ} {date : Date} :
    ofParts? year month day = some date ↔
      date.year = year ∧ date.month = month ∧ date.day = day := by
  unfold ofParts?
  split
  case isTrue valid =>
    obtain ⟨_, _, _, _⟩ := date
    simp [eq_comm]
  case isFalse invalid =>
    simp only [reduceCtorEq, false_iff]
    rintro ⟨rfl, rfl, rfl⟩
    exact invalid date.valid

theorem ofParts?_self (date : Date) :
    ofParts? date.year date.month date.day = some date :=
  ofParts?_eq_some.mpr ⟨rfl, rfl, rfl⟩

theorem toOrdinal_of_ofOrdinal? {ordinal : ℕ} {date : Date}
    (made : ofOrdinal? ordinal = some date) : date.toOrdinal = ordinal := by
  unfold ofOrdinal? at made
  split at made
  case isTrue => cases made
  case isFalse positive =>
    obtain ⟨year, month, day⟩ := ofParts?_eq_some.mp made
    have days := daysBeforeYear_splitYear (ordinal - 1)
    have inYear := take_sum_splitBlocks
      (monthLengths (splitYear (ordinal - 1)).1) (splitYear (ordinal - 1)).2
    rw [toOrdinal, daysBeforeMonth, year, month, day, Nat.add_sub_cancel]
    generalize splitYear (ordinal - 1) = place at days inYear ⊢
    omega

theorem month_sum_lt (date : Date) :
    daysBeforeMonth date.year date.month + (date.day - 1) <
      yearLength date.year := by
  obtain ⟨year, month, day, ⟨-, ⟨month_pos, month_le⟩, day_pos, day_le⟩⟩ := date
  unfold daysInMonth monthLengths at day_le
  unfold daysBeforeMonth monthLengths yearLength
  cases leap : isLeap year <;> rw [leap] at day_le <;>
    interval_cases month <;> simp at day_le ⊢ <;> omega

theorem ofOrdinal?_toOrdinal (date : Date) :
    ofOrdinal? date.toOrdinal = some date := by
  obtain ⟨⟨year_pos, -⟩, ⟨month_pos, month_le⟩, day_pos, day_le⟩ := date.valid
  have positive : date.toOrdinal ≠ 0 := by unfold toOrdinal; omega
  have before : date.toOrdinal - 1 = daysBeforeYear date.year +
      (daysBeforeMonth date.year date.month + (date.day - 1)) := by
    unfold toOrdinal
    omega
  have inMonth : splitBlocks (monthLengths date.year)
      (daysBeforeMonth date.year date.month + (date.day - 1)) =
      (date.month - 1, date.day - 1) := by
    refine splitBlocks_take_sum ?_ ?_
    · simp only [monthLengths, List.length_cons, List.length_nil]
      omega
    · unfold daysInMonth at day_le
      omega
  unfold ofOrdinal?
  rw [if_neg positive, before,
    splitYear_daysBeforeYear year_pos date.month_sum_lt]
  simp only [inMonth]
  rw [Nat.sub_add_cancel month_pos, Nat.sub_add_cancel day_pos]
  exact date.ofParts?_self

theorem year_le_of_toOrdinal_le {earlier later : Date}
    (ordered : earlier.toOrdinal ≤ later.toOrdinal) :
    earlier.year ≤ later.year := by
  by_contra reversed
  have within := later.month_sum_lt
  obtain ⟨⟨later_pos, -⟩, -, day_pos, -⟩ := later.valid
  have next := daysBeforeYear_succ later_pos
  have before : daysBeforeYear (later.year + 1) ≤ daysBeforeYear earlier.year :=
    daysBeforeYear_mono (by omega)
  have earlier_pos := earlier.valid.2.2.1
  unfold toOrdinal at ordered
  omega

theorem toOrdinal_injective : Function.Injective toOrdinal := by
  intro left right same
  have := ofOrdinal?_toOrdinal left
  rw [same, ofOrdinal?_toOrdinal right] at this
  exact (Option.some.inj this).symm

/-- The order of the parts of two dates. -/
def PartsLt (earlier later : Date) : Prop :=
  earlier.year < later.year ∨
    earlier.year = later.year ∧
      (earlier.month < later.month ∨
        earlier.month = later.month ∧ earlier.day < later.day)

theorem toOrdinal_lt_of_parts {earlier later : Date} (ordered : earlier.PartsLt later) :
    earlier.toOrdinal < later.toOrdinal := by
  obtain ⟨⟨year_pos, -⟩, ⟨month_pos, month_le⟩, day_pos, day_le⟩ := earlier.valid
  have later_day := later.valid.2.2.1
  unfold toOrdinal
  rcases ordered with years | ⟨same_year, months | ⟨same_month, days⟩⟩
  · have within := earlier.month_sum_lt
    have next := daysBeforeYear_succ year_pos
    have before : daysBeforeYear (earlier.year + 1) ≤ daysBeforeYear later.year :=
      daysBeforeYear_mono years
    omega
  · have next := daysBeforeMonth_succ earlier.year month_pos month_le
    have before : daysBeforeMonth earlier.year (earlier.month + 1) ≤
        daysBeforeMonth earlier.year later.month :=
      daysBeforeMonth_mono earlier.year months
    rw [← same_year]
    omega
  · rw [← same_year, ← same_month]
    omega

theorem toOrdinal_lt_iff {earlier later : Date} :
    earlier.toOrdinal < later.toOrdinal ↔ earlier.PartsLt later := by
  constructor
  · intro ordered
    by_contra unordered
    have reversed : later.PartsLt earlier ∨
        later.year = earlier.year ∧ later.month = earlier.month ∧
          later.day = earlier.day := by
      unfold PartsLt at unordered ⊢
      omega
    rcases reversed with before | ⟨years, months, days⟩
    · have := toOrdinal_lt_of_parts before
      omega
    · rw [toOrdinal, toOrdinal, years, months, days] at ordered
      omega
  · exact toOrdinal_lt_of_parts

/-- Every date but the first has one before it. -/
theorem exists_previous {date : Date} (after : 1 < date.toOrdinal) :
    ∃ previous : Date, previous.toOrdinal + 1 = date.toOrdinal := by
  obtain ⟨year, month, day, ⟨year_pos, year_le⟩, ⟨month_pos, month_le⟩, day_pos, day_le⟩ :=
    date
  simp only [toOrdinal] at after ⊢
  obtain rfl | later_day := Nat.eq_or_lt_of_le day_pos
  · obtain rfl | later_month := Nat.eq_or_lt_of_le month_pos
    · -- 1 January follows 31 December of the year before.
      have first : daysBeforeMonth year 1 = 0 := by simp [daysBeforeMonth]
      have second : 2 ≤ year := by
        by_contra early
        obtain rfl : year = 1 := by omega
        simp [first, daysBeforeYear] at after
      have shorter := daysBeforeYear_succ (Nat.le_sub_one_of_lt second)
      rw [Nat.sub_add_cancel (by omega)] at shorter
      have december := daysBeforeMonth_december (year - 1)
      have last : 31 ≤ daysInMonth (year - 1) 12 := by
        simp [daysInMonth, monthLengths]
      refine ⟨⟨year - 1, 12, 31, ⟨by omega, by omega⟩, by decide, by decide, last⟩, ?_⟩
      simp only [first]
      omega
    · have shorter := daysBeforeMonth_succ year (Nat.le_sub_one_of_lt later_month) (by omega)
      rw [Nat.sub_add_cancel (by omega)] at shorter
      refine ⟨⟨year, month - 1, daysInMonth year (month - 1), ⟨year_pos, year_le⟩,
        ⟨by omega, by omega⟩, daysInMonth_pos year (by omega) (by omega), le_rfl⟩, ?_⟩
      simp only
      omega
  · refine ⟨⟨year, month, day - 1, ⟨year_pos, year_le⟩, ⟨month_pos, month_le⟩, by omega,
      by omega⟩, ?_⟩
    simp only
    omega

end Date

/-! ## Local date-times

`offset` is the number of seconds local time is ahead of UTC.
-/

structure DateTime where
  date : Date
  second : ℕ
  microsecond : ℕ
  second_lt : second < 86400
  microsecond_lt : microsecond < 1000000
  deriving DecidableEq

theorem DateTime.whole_second : 0 < 1000000 := by decide

/-- The ordinal of 1 January 1970. -/
def epochOrdinal : ℕ := 719163

namespace DateTime

/-- Microseconds since the start of year 1, by which local times are ordered. -/
def position (moment : DateTime) : ℕ :=
  (moment.date.toOrdinal * 86400 + moment.second) * 1000000 + moment.microsecond

def Before (earlier later : DateTime) : Prop :=
  earlier.position < later.position

instance (earlier later : DateTime) : Decidable (Before earlier later) :=
  inferInstanceAs (Decidable (_ < _))

def hour (moment : DateTime) : ℕ :=
  moment.second / 3600

/-- The text of the time with that of its zone. -/
def isoformat (zone : String) (moment : DateTime) : String :=
  let minutes := moment.second / 60
  moment.date.isoformat ++ "T" ++ Date.padded 2 (minutes / 60) ++ ":" ++
    Date.padded 2 (minutes % 60) ++ ":" ++ Date.padded 2 (moment.second % 60) ++
    (if moment.microsecond = 0 then "" else "." ++ Date.padded 6 moment.microsecond) ++
    zone

@[simp] theorem isEmpty_isoformat (zone : String) (moment : DateTime) :
    (moment.isoformat zone).isEmpty = false := by
  simp [isoformat]

/-- Whole seconds since 1970-01-01 UTC, rounded down. -/
def timestamp (offset : ℤ) (moment : DateTime) : ℤ :=
  ((moment.date.toOrdinal : ℤ) - epochOrdinal) * 86400 + moment.second - offset

def ofTimestamp? (offset timestamp : ℤ) : Option DateTime :=
  let seconds := timestamp + offset + epochOrdinal * 86400
  if seconds < 0 then none
  else (Date.ofOrdinal? (seconds / 86400).toNat).map
    (fun date => ⟨date, (seconds % 86400).toNat, 0, by omega, whole_second⟩)

/-- The same time of day on another date. -/
def replaceDate (moment : DateTime) (date : Date) : DateTime :=
  { moment with date := date }

@[simp] theorem replaceDate_date (moment : DateTime) (date : Date) :
    (moment.replaceDate date).date = date := rfl

@[simp] theorem replaceDate_second (moment : DateTime) (date : Date) :
    (moment.replaceDate date).second = moment.second := rfl

@[simp] theorem replaceDate_microsecond (moment : DateTime) (date : Date) :
    (moment.replaceDate date).microsecond = moment.microsecond := rfl

theorem ext_parts {left right : DateTime} (date : left.date = right.date)
    (second : left.second = right.second)
    (microsecond : left.microsecond = right.microsecond) : left = right := by
  cases left
  cases right
  simp_all

theorem of_ofTimestamp? {offset timestamp : ℤ} {moment : DateTime}
    (made : ofTimestamp? offset timestamp = some moment) :
    moment.timestamp offset = timestamp ∧ moment.microsecond = 0 := by
  by_cases negative : timestamp + offset + epochOrdinal * 86400 < 0
  · simp [ofTimestamp?, negative] at made
  · simp only [ofTimestamp?, if_neg negative] at made
    obtain ⟨date, dated, rfl⟩ := Option.map_eq_some_iff.mp made
    have ordinal := Date.toOrdinal_of_ofOrdinal? dated
    refine ⟨?_, rfl⟩
    simp only [DateTime.timestamp, ordinal]
    omega

theorem ofTimestamp?_timestamp (offset : ℤ) {moment : DateTime}
    (whole : moment.microsecond = 0) :
    ofTimestamp? offset (moment.timestamp offset) = some moment := by
  have within := moment.second_lt
  have seconds : moment.timestamp offset + offset + epochOrdinal * 86400 =
      moment.date.toOrdinal * 86400 + moment.second := by
    unfold timestamp
    omega
  have day : (((moment.date.toOrdinal : ℤ) * 86400 + moment.second) / 86400).toNat =
      moment.date.toOrdinal := by omega
  have inDay : (((moment.date.toOrdinal : ℤ) * 86400 + moment.second) % 86400).toNat =
      moment.second := by omega
  unfold ofTimestamp?
  simp only [seconds]
  rw [if_neg (by omega), day, moment.date.ofOrdinal?_toOrdinal, Option.map_some,
    Option.some.injEq]
  exact ext_parts rfl inDay whole.symm

/-- An instant of a zone to the east is one of UTC, unless it is on the first date. -/
theorem exists_utc_of_ofTimestamp? {offset timestamp : ℤ} {moment : DateTime}
    (converted : ofTimestamp? offset timestamp = some moment)
    (after : 1 < moment.date.toOrdinal) (east : 0 ≤ offset) (day : offset ≤ 86400) :
    ∃ utc, ofTimestamp? 0 timestamp = some utc := by
  obtain ⟨stamp, -⟩ := of_ofTimestamp? converted
  have inside := moment.second_lt
  obtain ⟨utc, whole, stamped⟩ :
      ∃ utc : DateTime, utc.microsecond = 0 ∧ utc.timestamp 0 = timestamp := by
    by_cases same : offset ≤ moment.second
    · refine ⟨⟨moment.date, moment.second - offset.toNat, 0, by omega, whole_second⟩, rfl, ?_⟩
      simp only [DateTime.timestamp] at stamp ⊢
      omega
    · obtain ⟨previous, before⟩ := Date.exists_previous after
      refine ⟨⟨previous, moment.second + 86400 - offset.toNat, 0, by omega, whole_second⟩,
        rfl, ?_⟩
      simp only [DateTime.timestamp] at stamp ⊢
      omega
  exact ⟨utc, stamped ▸ ofTimestamp?_timestamp 0 whole⟩

theorem before_of_timestamp_lt {offset : ℤ} {earlier later : DateTime}
    (ordered : earlier.timestamp offset < later.timestamp offset) :
    Before earlier later := by
  have within := earlier.microsecond_lt
  unfold timestamp at ordered
  unfold Before position
  omega

theorem toOrdinal_le_of_before {earlier later : DateTime}
    (before : Before earlier later) :
    earlier.date.toOrdinal ≤ later.date.toOrdinal := by
  have seconds := later.second_lt
  have microseconds := later.microsecond_lt
  unfold Before position at before
  omega

end DateTime

end Calendar
