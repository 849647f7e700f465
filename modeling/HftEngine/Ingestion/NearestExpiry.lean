import HftEngine.Ingestion.Expiry

/-!
# The nearest expiry

A contract expires ten years after the date under which the API lists it, the convention
that `api_expiry` goes back by.  On the day of its expiry it is still the nearest one.
-/

namespace HftEngine.Ingestion

open Calendar

/-- The contract of the key expires at that moment. -/
def Expires (offset : ℤ) (key : String) (expires : DateTime) : Prop :=
  ∃ listed, ListedAt offset key listed ∧
    Anniversary listed (listed.date.year + 10) expires

/-- The contract of the key expires today or later, and none of the others that do expires
on an earlier day. -/
def Nearest (offset : ℤ) (now : DateTime) (keys : List String) (key : String) : Prop :=
  ∃ expires, Expires offset key expires ∧
    now.date.toOrdinal ≤ expires.date.toOrdinal ∧
    ∀ other ∈ keys, Py.isdigit other = true → ∀ later, Expires offset other later →
      now.date.toOrdinal ≤ later.date.toOrdinal →
      expires.date.toOrdinal ≤ later.date.toOrdinal

/-- The contract of a nearest key is selected, and requested by its key. -/
def NearestSelected (offset : ℤ) (fetched now : DateTime) (keys : List String) : Prop :=
  ∃ key ∈ keys, Py.isdigit key = true ∧ Nearest offset now keys key ∧
    ∃ target sent, requested_expiry offset fetched now keys = some (target, sent) ∧
      Py.int? key = some sent ∧ adjusted_expiry offset fetched key = some target

/-- Each key can be adjusted, and of a nearest one the expiry is what the adjustment makes
of it, still to come by its time of day, no 29 February, and the first of all keys'
adjusted expiries that are to come. -/
def NearestIsNext (offset : ℤ) (fetched now : DateTime) (keys : List String) : Prop :=
  (∀ key ∈ keys, Py.isdigit key = true →
    (adjusted_expiry offset fetched key).isSome) ∧
  ∃ key ∈ keys, Py.isdigit key = true ∧ Nearest offset now keys key ∧
    FirstTenYearsOn offset fetched now keys key

/-- One key that cannot be adjusted empties the list. -/
theorem adjusted_of_fetched {offset : ℤ} {fetched : DateTime} {keys : List String}
    (nonempty : fetch_expiry_dates offset fetched keys ≠ []) :
    ∀ key ∈ keys, Py.isdigit key = true →
      (adjusted_expiry offset fetched key).isSome := by
  unfold fetch_expiry_dates at nonempty
  split at nonempty
  case h_1 expiries adjusted =>
      intro key listed_key digits
      exact Traversal.mapM_isSome.mp ⟨expiries, adjusted⟩ key
        (List.mem_filter.mpr ⟨listed_key, digits⟩)
  case h_2 => exact absurd rfl nonempty

theorem fetched_of_adjusted {offset : ℤ} {fetched : DateTime} {keys : List String}
    (adjusted : ∀ key ∈ keys, Py.isdigit key = true →
      (adjusted_expiry offset fetched key).isSome) {key : String} (listed_key : key ∈ keys)
    (digits : Py.isdigit key = true) {expiry : ℤ}
    (found : adjusted_expiry offset fetched key = some expiry) :
    expiry ∈ fetch_expiry_dates offset fetched keys := by
  obtain ⟨expiries, mapped⟩ : ∃ expiries,
      (keys.filter Py.isdigit).mapM (adjusted_expiry offset fetched) = some expiries := by
    rw [Traversal.mapM_isSome]
    intro other member
    obtain ⟨listed_other, other_digits⟩ := List.mem_filter.mp member
    exact adjusted other listed_other other_digits
  unfold fetch_expiry_dates
  rw [mapped, List.mem_insertionSort, Traversal.mem_of_mapM mapped]
  exact ⟨key, List.mem_filter.mpr ⟨listed_key, digits⟩, found⟩

/-- What is first of the adjusted expiries to come and lies ten years on is requested. -/
theorem exists_requested {offset : ℤ} {fetched now : DateTime} {keys : List String}
    (adjusted : ∀ key ∈ keys, Py.isdigit key = true →
      (adjusted_expiry offset fetched key).isSome) {key : String} (listed_key : key ∈ keys)
    (digits : Py.isdigit key = true) (first : FirstTenYearsOn offset fetched now keys key) :
    ∃ target sent, requested_expiry offset fetched now keys = some (target, sent) := by
  obtain ⟨listed, occurs, at_key, next, later, before_others, tenYears⟩ := first
  have found : adjusted_expiry offset fetched key = some (occurs.timestamp offset) :=
    adjusted_expiry_eq_some.mpr ⟨listed, occurs, at_key, next, rfl⟩
  have among := fetched_of_adjusted adjusted listed_key digits found
  have nonempty := List.ne_nil_of_mem among
  obtain ⟨target, selected⟩ : ∃ target,
      target_expiry offset now (fetch_expiry_dates offset fetched keys) = some target := by
    unfold target_expiry
    split
    case h_1 target _ _ => exact ⟨target, rfl⟩
    case h_2 none_future =>
        have dropped := List.filter_eq_nil_iff.mp none_future _ among
        exact absurd (decide_eq_true later) dropped
  obtain rfl := target_eq_first selected among later before_others
  have back : replace_year occurs (occurs.date.year - 10) = some listed :=
    replace_year_eq_some.mpr (next.anniversary.ten_years_back.mpr tenYears)
  have whole := next.anniversary.microsecond_eq.trans at_key.microsecond
  refine ⟨occurs.timestamp offset, listed.timestamp offset, ?_⟩
  unfold requested_expiry
  simp only [List.isEmpty_iff, if_neg nonempty, selected, bind, Option.bind_some,
    api_expiry_future whole later, back, Option.map_some]

/-- The contract of the nearest key is selected and requested exactly when the adjustment to
the next anniversary does not change its place among the others. -/
theorem nearest_selected_iff (offset : ℤ) (fetched now : DateTime) (keys : List String) :
    NearestSelected offset fetched now keys ↔ NearestIsNext offset fetched now keys := by
  constructor
  · rintro ⟨key, listed_key, digits, nearest, target, sent, requested, chosen⟩
    constructor
    · exact adjusted_of_fetched (requested_expiry_eq_some requested).1
    · exact ⟨key, listed_key, digits, nearest,
        (sent_key_iff requested listed_key digits).mp chosen⟩
  · rintro ⟨adjusted, key, listed_key, digits, nearest, first⟩
    obtain ⟨target, sent, requested⟩ := exists_requested adjusted listed_key digits first
    exact ⟨key, listed_key, digits, nearest, target, sent, requested,
      (sent_key_iff requested listed_key digits).mpr first⟩

/-! ### On 25 June 2025 at three, half an hour after the time of the key -/

def expires? (offset : ℤ) (key : String) : Option DateTime := do
  let old_dt ← DateTime.ofTimestamp? offset (← Py.int? key)
  replace_year old_dt (old_dt.date.year + 10)

theorem expires?_eq_some {offset : ℤ} {key : String} {expires : DateTime} :
    expires? offset key = some expires ↔ Expires offset key expires := by
  simp only [expires?, bind, Option.bind_eq_some_iff, replace_year_eq_some]
  constructor
  · rintro ⟨old_ts, read, listed, dated, anniversary⟩
    exact ⟨listed, ⟨old_ts, read, dated⟩, anniversary⟩
  · rintro ⟨listed, ⟨old_ts, read, dated⟩, anniversary⟩
    exact ⟨old_ts, read, listed, dated, anniversary⟩

instance (offset : ℤ) (now : DateTime) (keys : List String) (key : String) :
    Decidable (Nearest offset now keys key) :=
  decidable_of_iff (∃ expires ∈ expires? offset key,
    now.date.toOrdinal ≤ expires.date.toOrdinal ∧
    ∀ other ∈ keys, Py.isdigit other = true → ∀ later ∈ expires? offset other,
      now.date.toOrdinal ≤ later.date.toOrdinal →
      expires.date.toOrdinal ≤ later.date.toOrdinal) (by
    simp only [Nearest, Option.mem_def, expires?_eq_some])

theorem three_in_day : 54000 < 86400 := by decide

theorem june_valid : ValidDate 2025 6 25 := by decide

def expiry_day : DateTime :=
  ⟨⟨2025, 6, 25, june_valid⟩, 54000, 0, three_in_day, DateTime.whole_second⟩

/-- The contracts of 25 June and 2 July, and, on 2 June, those of 31 July and of 30 June of
the next year. -/
theorem nearest_not_selected :
    ¬NearestSelected 19800 expiry_day expiry_day ["1435222800", "1435827600"] ∧
    ¬NearestSelected 19800 secondOfJune secondOfJune ["1438333200", "1467277200"] := by
  constructor
  · rintro ⟨key, listed_key, -, nearest, target, sent, requested, read, -⟩
    have july : requested_expiry 19800 expiry_day expiry_day
        ["1435222800", "1435827600"] = some (1751446800, 1435827600) := by decide
    obtain ⟨-, rfl⟩ := Prod.mk.inj (Option.some.inj (july.symm.trans requested))
    revert key
    decide
  · rintro ⟨key, listed_key, -, -, target, sent, requested, read, -⟩
    have another : requested_expiry 19800 secondOfJune secondOfJune
        ["1438333200", "1467277200"] = some (1751274000, 1435654800) := by decide
    obtain ⟨-, rfl⟩ := Prod.mk.inj (Option.some.inj (another.symm.trans requested))
    revert key
    decide

end HftEngine.Ingestion
