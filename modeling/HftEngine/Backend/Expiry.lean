import HftEngine.Lib.Calendar

/-!
# Expiry time stamps of the backend

`_convert_expiry_timestamps` moves the years from 2016 to the one before the
current year to the years from the current one on, and leaves later years alone;
`revert_expiry_timestamp` moves every year from the current one on back to 2016
and after.  Local time is a fixed number of seconds ahead of UTC, and both run
in the same year.
-/

namespace HftEngine.Backend

open Calendar

/-- `replace(year=year)`, or `replace(year=year, day=day)` where that raises. -/
def replace_year (moment : DateTime) (year day : ℕ) : Option DateTime :=
  match Date.ofParts? year moment.date.month moment.date.day with
  | some date => some (moment.replaceDate date)
  | none => (Date.ofParts? year moment.date.month day).map moment.replaceDate

/-- `replace(hour=hour, minute=0, second=0, microsecond=0)`. -/
def atHour (hour : Fin 24) (date : Date) : DateTime :=
  ⟨date, hour * 3600, 0, by omega, DateTime.whole_second⟩

/-- The body of the loop of `_convert_expiry_timestamps`; none where it raises. -/
def convert_expiry_timestamp (offset : ℤ) (current_year : ℕ) (old_ts : ℤ) :
    Option ℤ := do
  let old_dt ← DateTime.ofTimestamp? offset old_ts
  let new_dt ←
    if old_dt.date.year < current_year then
      replace_year old_dt (current_year + (old_dt.date.year - 2016)) 28
    else some old_dt
  some ((atHour 12 new_dt.date).timestamp offset)

def convert_expiry_timestamps (offset : ℤ) (current_year : ℕ) (timestamps : List ℤ) :
    List ℤ :=
  timestamps.filterMap (convert_expiry_timestamp offset current_year)

/-- A year before the current one is taken to have stayed where it was. -/
def undo_year_shift (current_year : ℕ) (dt : DateTime) : Option DateTime :=
  if current_year ≤ dt.date.year then
    replace_year dt (2016 + (dt.date.year - current_year)) 29
  else some dt

/-- The body of `revert_expiry_timestamp`; none where it raises. -/
def reverted (offset : ℤ) (current_year : ℕ) (timestamp : ℤ) : Option ℤ := do
  let dt ← DateTime.ofTimestamp? offset timestamp
  let original ← undo_year_shift current_year (atHour 0 dt.date)
  some (original.timestamp offset)

def revert_expiry_timestamp (offset : ℤ) (current_year : ℕ) (timestamp : ℤ) : ℤ :=
  (reverted offset current_year timestamp).getD timestamp

/-! ## Dates -/

@[simp] theorem atHour_date (hour : Fin 24) (date : Date) :
    (atHour hour date).date = date := rfl

@[simp] theorem ofTimestamp?_atHour (offset : ℤ) (hour : Fin 24) (date : Date) :
    DateTime.ofTimestamp? offset ((atHour hour date).timestamp offset) =
      some (atHour hour date) :=
  DateTime.ofTimestamp?_timestamp offset rfl

/-- The dates of two time stamps at the same hour. -/
theorem timestamp_atHour_lt (offset : ℤ) (hour : Fin 24) (earlier later : Date) :
    (atHour hour earlier).timestamp offset < (atHour hour later).timestamp offset ↔
      earlier.PartsLt later := by
  rw [← Date.toOrdinal_lt_iff]
  simp only [DateTime.timestamp, atHour]
  omega

theorem atHour_injective (offset : ℤ) {left right : Date} {hour other : Fin 24}
    (same : (atHour hour left).timestamp offset =
      (atHour other right).timestamp offset) :
    left = right ∧ hour = other := by
  have left_bound := hour.isLt
  have right_bound := other.isLt
  simp only [DateTime.timestamp, atHour] at same
  have hours : (hour : ℕ) = other := by omega
  exact ⟨Date.toOrdinal_injective (by omega), Fin.ext hours⟩

/-- `replace_year` of a date. -/
def replaced (date : Date) (year day : ℕ) : Option Date :=
  (Date.ofParts? year date.month date.day).or (Date.ofParts? year date.month day)

theorem replace_year_atHour (hour : Fin 24) (date : Date) (year day : ℕ) :
    replace_year (atHour hour date) year day =
      (replaced date year day).map (atHour hour) := by
  unfold replace_year replaced
  simp only [atHour_date]
  cases Date.ofParts? year date.month date.day with
  | some other => rfl
  | none =>
      cases Date.ofParts? year date.month day with
      | some other => rfl
      | none => rfl

theorem replaced_eq_some {date other : Date} {year day : ℕ}
    (found : replaced date year day = some other) :
    other.year = year ∧ other.month = date.month ∧
      (other.day = date.day ∨
        other.day = day ∧ ¬ValidDate year date.month date.day) := by
  rcases Option.or_eq_some_iff.mp found with whole | ⟨missing, moved⟩
  · obtain ⟨years, months, days⟩ := Date.ofParts?_eq_some.mp whole
    exact ⟨years, months, .inl days⟩
  · obtain ⟨years, months, days⟩ := Date.ofParts?_eq_some.mp moved
    refine ⟨years, months, .inr ⟨days, ?_⟩⟩
    intro valid
    rw [Date.ofParts?, dif_pos valid] at missing
    cases missing

theorem replaced_self {date : Date} {year day : ℕ} {other : Date}
    (moved : other.month = date.month ∧ other.day = date.day)
    (same : year = date.year) :
    replaced other year day = some date := by
  have whole : Date.ofParts? year other.month other.day = some date :=
    Date.ofParts?_eq_some.mpr ⟨same.symm, moved.1.symm, moved.2.symm⟩
  rw [replaced, whole, Option.some_or]

theorem convert_midnight (offset : ℤ) (current_year : ℕ) (date : Date) :
    convert_expiry_timestamp offset current_year ((atHour 0 date).timestamp offset) =
      (if date.year < current_year then
          replaced date (current_year + (date.year - 2016)) 28
        else some date).map (fun moved => (atHour 12 moved).timestamp offset) := by
  rw [convert_expiry_timestamp, ofTimestamp?_atHour, Option.bind_eq_bind,
    Option.bind_some, atHour_date]
  by_cases past : date.year < current_year
  · rw [if_pos past, if_pos past, replace_year_atHour]
    cases replaced date (current_year + (date.year - 2016)) 28 <;> rfl
  · rw [if_neg past, if_neg past]
    rfl

/-- A time stamp at noon is reverted to the midnight of a date, unless the date
does not exist, where it stays as it is. -/
theorem revert_noon_eq_iff (offset : ℤ) (current_year : ℕ) (moved date : Date) :
    revert_expiry_timestamp offset current_year ((atHour 12 moved).timestamp offset) =
        (atHour 0 date).timestamp offset ↔
      (if current_year ≤ moved.year then
          replaced moved (2016 + (moved.year - current_year)) 29
        else some moved) = some date := by
  have read : reverted offset current_year ((atHour 12 moved).timestamp offset) =
      (if current_year ≤ moved.year then
          replaced moved (2016 + (moved.year - current_year)) 29
        else some moved).map
            (fun original => (atHour 0 original).timestamp offset) := by
    rw [reverted, ofTimestamp?_atHour, Option.bind_eq_bind, Option.bind_some,
      undo_year_shift, atHour_date, atHour_date]
    by_cases future : current_year ≤ moved.year
    · rw [if_pos future, if_pos future, replace_year_atHour]
      cases replaced moved (2016 + (moved.year - current_year)) 29 <;> rfl
    · rw [if_neg future, if_neg future]
      rfl
  rw [revert_expiry_timestamp, read]
  generalize (if current_year ≤ moved.year then
      replaced moved (2016 + (moved.year - current_year)) 29 else some moved) = original
  cases original with
  | none =>
      constructor
      · intro same
        exact absurd (atHour_injective offset same).2 (by decide)
      · intro impossible
        cases impossible
  | some original =>
      constructor
      · intro same
        rw [(atHour_injective offset same).1]
      · intro same
        cases same
        rfl

/-! ## One time stamp -/

/-- The date is in a past year and exists in the year that it is moved to, or no
year is moved at all. -/
def Restored (current_year : ℕ) (date : Date) : Prop :=
  current_year = 2016 ∨
    date.year < current_year ∧
      ValidDate (current_year + (date.year - 2016)) date.month date.day

/-- Where a restored date is moved to. -/
structure Moved (current_year : ℕ) (date moved : Date) : Prop where
  year : moved.year + 2016 = date.year + current_year
  month : moved.month = date.month
  day : moved.day = date.day

theorem Restored.moved {current_year : ℕ} {date : Date} (listed : 2016 ≤ date.year)
    (restored : Restored current_year date) (offset : ℤ) :
    ∃ moved, Moved current_year date moved ∧
      convert_expiry_timestamp offset current_year ((atHour 0 date).timestamp offset) =
        some ((atHour 12 moved).timestamp offset) := by
  rcases restored with rfl | ⟨past, valid⟩
  · refine ⟨date, ⟨rfl, rfl, rfl⟩, ?_⟩
    rw [convert_midnight, if_neg (Nat.not_lt.mpr listed)]
    rfl
  · have exists_there : replaced date (current_year + (date.year - 2016)) 28 =
        some ⟨_, _, _, valid⟩ := replaced_self ⟨rfl, rfl⟩ rfl
    refine ⟨⟨_, _, _, valid⟩, ⟨by simp only; omega, rfl, rfl⟩, ?_⟩
    rw [convert_midnight, if_pos past, exists_there]
    rfl

theorem Moved.reverted {current_year : ℕ} {date moved : Date}
    (listed : 2016 ≤ date.year)
    (shift : Moved current_year date moved) (offset : ℤ) :
    revert_expiry_timestamp offset current_year ((atHour 12 moved).timestamp offset) =
      (atHour 0 date).timestamp offset := by
  have years := shift.year
  rw [revert_noon_eq_iff, if_pos (by omega)]
  exact replaced_self ⟨shift.month, shift.day⟩ (by omega)

/-- A time stamp comes back exactly when its date is restored. -/
theorem round_trip_iff {offset : ℤ} {current_year : ℕ} {date : Date}
    (listed : 2016 ≤ date.year) :
    (∃ converted,
        convert_expiry_timestamp offset current_year
          ((atHour 0 date).timestamp offset) =
          some converted ∧
        revert_expiry_timestamp offset current_year converted =
          (atHour 0 date).timestamp offset) ↔
      Restored current_year date := by
  constructor
  · rintro ⟨converted, moved, back⟩
    rw [convert_midnight, Option.map_eq_some_iff] at moved
    obtain ⟨other, found, rfl⟩ := moved
    rw [revert_noon_eq_iff] at back
    by_cases past : date.year < current_year
    · rw [if_pos past] at found
      obtain ⟨years, months, days⟩ := replaced_eq_some found
      rw [if_pos (by omega)] at back
      obtain ⟨-, -, days_back⟩ := replaced_eq_some back
      have valid := other.valid
      rw [years, months] at valid
      rcases days with kept | ⟨shortened, invalid⟩
      · rw [kept] at valid
        exact .inr ⟨past, valid⟩
      · rcases days_back with same | ⟨lengthened, missing⟩
        · rw [← same] at valid
          exact .inr ⟨past, valid⟩
        · -- the 28th exists in the month of the 29th
          have month := date.valid
          refine absurd ?_ missing
          rw [months, shortened]
          have year : 2016 + (other.year - current_year) = date.year := by omega
          rw [year]
          refine ⟨month.1, month.2.1, by decide, ?_⟩
          have last := month.2.2.2
          omega
    · rw [if_neg past] at found
      cases found
      left
      rw [if_pos (Nat.not_lt.mp past)] at back
      have years := (replaced_eq_some back).1
      omega
  · intro restored
    obtain ⟨moved, shift, converted⟩ := restored.moved listed offset
    exact ⟨_, converted, shift.reverted listed offset⟩

/-! ## Lists of time stamps -/

/-- What survives of a list under two functions. -/
theorem map_filterMap_eq_self_iff {α β : Type} {forward : α → Option β} {back : β → α}
    (xs : List α) :
    (xs.filterMap forward).map back = xs ↔
      ∀ x ∈ xs, ∃ y, forward x = some y ∧ back y = x := by
  induction xs with
  | nil => simp
  | cons x xs ih =>
      rw [List.filterMap_cons, List.forall_mem_cons, ← ih]
      cases converted : forward x with
      | none =>
          simp only [reduceCtorEq, false_and, exists_false, iff_false]
          intro same
          have fewer := List.length_filterMap_le forward xs
          have lengths := congrArg List.length same
          rw [List.length_map, List.length_cons] at lengths
          omega
      | some y => simp

theorem mem_zip_filterMap {α β : Type} {forward : α → Option β} {xs : List α}
    (all : ∀ x ∈ xs, ∃ y, forward x = some y) {pair : α × β}
    (member : pair ∈ xs.zip (xs.filterMap forward)) :
    pair.1 ∈ xs ∧ forward pair.1 = some pair.2 := by
  induction xs with
  | nil => cases member
  | cons x xs ih =>
      obtain ⟨⟨y, converted⟩, rest⟩ := List.forall_mem_cons.mp all
      rw [List.filterMap_cons, converted, List.zip_cons_cons, List.mem_cons] at member
      rcases member with rfl | later
      · exact ⟨List.mem_cons_self, converted⟩
      · obtain ⟨among, found⟩ := ih rest later
        exact ⟨List.mem_cons_of_mem _ among, found⟩

/-- Each time stamp comes back, and two converted ones are in the order of the
two that they were made of. -/
structure Faithful (offset : ℤ) (current_year : ℕ) (timestamps : List ℤ) : Prop where
  inverted :
    (convert_expiry_timestamps offset current_year timestamps).map
      (revert_expiry_timestamp offset current_year) = timestamps
  ordered :
    ∀ first ∈ timestamps.zip (convert_expiry_timestamps offset current_year timestamps),
    ∀ second ∈
        timestamps.zip (convert_expiry_timestamps offset current_year timestamps),
      first.1 < second.1 ↔ first.2 < second.2

theorem Moved.parts_lt {current_year : ℕ} {first second moved other : Date}
    (left : Moved current_year first moved) (right : Moved current_year second other) :
    moved.PartsLt other ↔ first.PartsLt second := by
  have left_year := left.year
  have right_year := right.year
  unfold Date.PartsLt
  rw [left.month, left.day, right.month, right.day]
  omega

/-- A list of expiries at midnight of days since 2016 is converted faithfully
exactly when each of its dates is restored. -/
theorem faithful_iff (offset : ℤ) (current_year : ℕ) {dates : List Date}
    (listed : ∀ date ∈ dates, 2016 ≤ date.year) :
    Faithful offset current_year
        (dates.map (fun date => (atHour 0 date).timestamp offset)) ↔
      ∀ date ∈ dates, Restored current_year date := by
  constructor
  · intro faithful date member
    apply (round_trip_iff (listed date member)).mp
    apply (map_filterMap_eq_self_iff _).mp faithful.inverted
    exact List.mem_map_of_mem member
  · intro restored
    have moved : ∀ timestamp ∈ dates.map (fun date => (atHour 0 date).timestamp offset),
        ∃ date other, Moved current_year date other ∧ 2016 ≤ date.year ∧
          timestamp = (atHour 0 date).timestamp offset ∧
          convert_expiry_timestamp offset current_year timestamp =
            some ((atHour 12 other).timestamp offset) := by
      intro timestamp member
      obtain ⟨date, among, rfl⟩ := List.mem_map.mp member
      obtain ⟨other, shift, converted⟩ :=
        (restored date among).moved (listed date among) offset
      exact ⟨date, other, shift, listed date among, rfl, converted⟩
    constructor
    · apply (map_filterMap_eq_self_iff _).mpr
      intro timestamp member
      obtain ⟨date, other, shift, since, rfl, converted⟩ := moved timestamp member
      exact ⟨_, converted, shift.reverted since offset⟩
    · have all : ∀ timestamp ∈ dates.map (fun date => (atHour 0 date).timestamp offset),
          ∃ converted,
            convert_expiry_timestamp offset current_year timestamp =
              some converted := by
        intro timestamp member
        obtain ⟨_, _, _, _, _, converted⟩ := moved timestamp member
        exact ⟨_, converted⟩
      intro first first_member second second_member
      obtain ⟨first_in, first_made⟩ := mem_zip_filterMap all first_member
      obtain ⟨second_in, second_made⟩ := mem_zip_filterMap all second_member
      obtain ⟨date, other, shift, -, first_at, converted⟩ := moved _ first_in
      obtain ⟨later, target, next, -, second_at, reached⟩ := moved _ second_in
      rw [← Option.some.inj (converted.symm.trans first_made),
        ← Option.some.inj (reached.symm.trans second_made), first_at, second_at,
        timestamp_atHour_lt, timestamp_atHour_lt]
      exact (shift.parts_lt next).symm

/-- 28 January 2016 and a day in the year to which it is moved. -/
def januaries (year : ℕ) (valid : ValidDate year 1 28) : List Date :=
  [⟨2016, 1, 28, by decide⟩, ⟨year, 1, 28, valid⟩]

theorem faithful_iff_2019 :
    Faithful 19800 2026 ((januaries 2019 (by decide)).map
        (fun date => (atHour 0 date).timestamp 19800)) ↔
      ∀ date ∈ januaries 2019 (by decide), Restored 2026 date :=
  faithful_iff 19800 2026 (by simp [januaries])

/-- Both are converted to the same time stamp. -/
theorem faithful_fails :
    ¬Faithful 19800 2026 ((januaries 2026 (by decide)).map
      (fun date => (atHour 0 date).timestamp 19800)) := by
  intro faithful
  exact absurd faithful.inverted (by decide)

end HftEngine.Backend
