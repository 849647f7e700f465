import Mathlib.Data.List.Count
import Mathlib.Data.List.Nodup

/-!
# Tables of rows with unique keys

A table holds at most one row for each key.  What an insertion, a replacement or a
deletion does to the number of rows with a property is told by the row that comes
and the row that goes.
-/

universe u v

@[ext]
structure KeyedTable {Row : Type u} {Key : Type v} (key : Row → Key) where
  rows : List Row
  unique : (rows.map key).Nodup

namespace KeyedTable

variable {Row : Type u} {Key : Type v} [DecidableEq Key] {key : Row → Key}

def empty : KeyedTable key := ⟨[], List.nodup_nil⟩

def get? (table : KeyedTable key) (k : Key) : Option Row :=
  table.rows.find? (fun row => key row = k)

/-- A row of a new key; none if the key is taken. -/
def insert (table : KeyedTable key) (row : Row) : Option (KeyedTable key) :=
  if fresh : key row ∈ table.rows.map key then none
  else some
    { rows := row :: table.rows
      unique := List.nodup_cons.mpr ⟨fresh, table.unique⟩ }

theorem map_key_replace (rows : List Row) (row : Row) :
    (rows.map (fun other => if key other = key row then row else other)).map key =
      rows.map key := by
  rw [List.map_map]
  apply List.map_congr_left
  intro other _
  by_cases same : key other = key row
  · simp [same]
  · simp [same]

/-- The row takes the place of the one of its key, if there is one. -/
def replace (table : KeyedTable key) (row : Row) : KeyedTable key where
  rows := table.rows.map (fun other => if key other = key row then row else other)
  unique := by
    rw [map_key_replace]
    exact table.unique

def erase (table : KeyedTable key) (k : Key) : KeyedTable key where
  rows := table.rows.filter (fun row => key row ≠ k)
  unique := table.unique.sublist (List.filter_sublist.map key)

def count (table : KeyedTable key) (p : Row → Bool) : ℕ :=
  table.rows.countP p

variable {table : KeyedTable key}

/-! ## Rows by key -/

theorem get?_eq_some_iff {k : Key} {row : Row} :
    table.get? k = some row ↔ row ∈ table.rows ∧ key row = k := by
  obtain ⟨rows, unique⟩ := table
  rw [get?]
  dsimp only
  induction rows with
  | nil => simp
  | cons first rest ih =>
      obtain ⟨absent, others⟩ := List.nodup_cons.mp unique
      rw [List.find?_cons]
      by_cases same : key first = k
      · simp only [same, decide_true, Option.some.injEq, List.mem_cons]
        constructor
        · intro found
          exact ⟨.inl found.symm, found ▸ same⟩
        · rintro ⟨rfl | later, keyed⟩
          · rfl
          · exact absurd (List.mem_map.mpr ⟨row, later, keyed.trans same.symm⟩) absent
      · simp only [same, decide_false, ih others, List.mem_cons]
        constructor
        · rintro ⟨later, keyed⟩
          exact ⟨.inr later, keyed⟩
        · rintro ⟨rfl | later, keyed⟩
          · exact absurd keyed same
          · exact ⟨later, keyed⟩

theorem get?_eq_none_iff {k : Key} : table.get? k = none ↔ k ∉ table.rows.map key := by
  simp [get?, List.find?_eq_none]

theorem insert_eq_some {row : Row} {after : KeyedTable key}
    (inserted : table.insert row = some after) :
    table.get? (key row) = none ∧ after.rows = row :: table.rows := by
  rw [insert] at inserted
  split at inserted
  · cases inserted
  · rename_i fresh
    obtain rfl := Option.some.inj inserted
    exact ⟨get?_eq_none_iff.mpr fresh, rfl⟩

theorem get?_insert {row : Row} {after : KeyedTable key}
    (inserted : table.insert row = some after) (k : Key) :
    after.get? k = if key row = k then some row else table.get? k := by
  rw [get?, (insert_eq_some inserted).2, List.find?_cons]
  by_cases same : key row = k
  · simp [same]
  · simp [same, get?]

theorem mem_replace {row other : Row} :
    other ∈ (table.replace row).rows ↔
      (other = row ∧ ∃ old, table.get? (key row) = some old) ∨
        (other ∈ table.rows ∧ key other ≠ key row) := by
  simp only [replace, List.mem_map, get?_eq_some_iff]
  constructor
  · intro ⟨source, member, mapped⟩
    split at mapped
    · rename_i same
      exact .inl ⟨mapped.symm, source, member, same⟩
    · rename_i different
      subst mapped
      exact .inr ⟨member, different⟩
  · rintro (⟨rfl, old, member, same⟩ | ⟨member, different⟩)
    · exact ⟨old, member, if_pos same⟩
    · exact ⟨other, member, if_neg different⟩

theorem get?_replace (row : Row) (k : Key) :
    (table.replace row).get? k =
      if key row = k then (table.get? k).map (fun _ => row) else table.get? k := by
  by_cases same : key row = k
  · subst same
    rw [if_pos rfl]
    cases found : table.get? (key row) with
    | none =>
        rw [get?_eq_none_iff] at found
        rw [Option.map_none, get?_eq_none_iff, replace, map_key_replace]
        exact found
    | some old =>
        rw [Option.map_some, get?_eq_some_iff, mem_replace]
        exact ⟨.inl ⟨rfl, old, found⟩, rfl⟩
  · rw [if_neg same]
    apply Option.ext
    intro other
    rw [get?_eq_some_iff, get?_eq_some_iff, mem_replace]
    constructor
    · rintro ⟨⟨rfl, _⟩ | ⟨member, _⟩, keyed⟩
      · exact absurd keyed same
      · exact ⟨member, keyed⟩
    · rintro ⟨member, keyed⟩
      exact ⟨.inr ⟨member, fun equal => same (equal.symm.trans keyed)⟩, keyed⟩

/-- A row that takes its own place. -/
theorem replace_self {row : Row} (found : table.get? (key row) = some row) :
    table.replace row = table := by
  have same : (table.replace row).rows = table.rows := by
    calc table.rows.map (fun other => if key other = key row then row else other)
        = table.rows.map id := by
          apply List.map_congr_left
          intro other member
          by_cases keyed : key other = key row
          · have placed := get?_eq_some_iff.mpr ⟨member, keyed⟩
            rw [if_pos keyed]
            exact Option.some.inj (found.symm.trans placed)
          · rw [if_neg keyed]
            rfl
      _ = table.rows := List.map_id _
  exact KeyedTable.ext same

/-! ## Counts -/

/-- One for a row with the property. -/
def tally (p : Row → Bool) (row : Row) : ℕ :=
  if p row then 1 else 0

theorem count_insert {row : Row} {after : KeyedTable key}
    (inserted : table.insert row = some after) (p : Row → Bool) :
    after.count p = table.count p + tally p row := by
  rw [count, (insert_eq_some inserted).2, List.countP_cons]
  rfl

theorem countP_without {rows : List Row} {old : Row} (unique : (rows.map key).Nodup)
    (member : old ∈ rows) (p : Row → Bool) :
    rows.countP p = (rows.filter (fun row => key row ≠ key old)).countP p + tally p old := by
  induction rows with
  | nil => cases member
  | cons first rest ih =>
      obtain ⟨absent, others⟩ := List.nodup_cons.mp unique
      rcases List.mem_cons.mp member with rfl | later
      · have apart : rest.filter (fun row => key row ≠ key old) = rest := by
          rw [List.filter_eq_self]
          intro row listed
          apply decide_eq_true
          intro same
          exact absent (List.mem_map.mpr ⟨row, listed, same⟩)
        rw [List.countP_cons, List.filter_cons_of_neg (by simp), apart]
        rfl
      · have different : key first ≠ key old := by
          intro same
          exact absent (List.mem_map.mpr ⟨old, later, same.symm⟩)
        rw [List.filter_cons_of_pos (by simpa using different), List.countP_cons,
          List.countP_cons, ih others later]
        omega

theorem count_erase {k : Key} {old : Row} (found : table.get? k = some old)
    (p : Row → Bool) :
    table.count p = (table.erase k).count p + tally p old := by
  obtain ⟨member, rfl⟩ := get?_eq_some_iff.mp found
  exact countP_without table.unique member p

theorem erase_replace (row : Row) :
    ((table.replace row).erase (key row)).rows = (table.erase (key row)).rows := by
  rw [erase, erase, replace]
  dsimp only
  induction table.rows with
  | nil => rfl
  | cons first rest ih =>
      rw [List.map_cons]
      by_cases same : key first = key row
      · rw [if_pos same, List.filter_cons_of_neg (by simp),
          List.filter_cons_of_neg (by simp [same]), ih]
      · rw [if_neg same, List.filter_cons_of_pos (by simpa using same),
          List.filter_cons_of_pos (by simpa using same), ih]

theorem count_replace {row old : Row} (found : table.get? (key row) = some old)
    (p : Row → Bool) :
    (table.replace row).count p + tally p old = table.count p + tally p row := by
  have placed : (table.replace row).get? (key row) = some row := by
    rw [get?_replace, if_pos rfl, found]
    rfl
  have rest : ((table.replace row).erase (key row)).count p =
      (table.erase (key row)).count p := by
    rw [count, erase_replace, count]
  rw [count_erase placed p, count_erase found p, rest]
  omega

omit [DecidableEq Key] in
/-- Of what the rows are mapped to, only the image of one row has the property. -/
theorem countP_filterMap {Item : Type*} {f : Row → Option Item} {p : Item → Bool} {row : Row}
    (member : row ∈ table.rows)
    (others : ∀ other ∈ table.rows, key other ≠ key row → ∀ item ∈ f other, p item = false) :
    (table.rows.filterMap f).countP p = if (f row).any p then 1 else 0 := by
  obtain ⟨rows, unique⟩ := table
  dsimp only at member others ⊢
  induction rows with
  | nil => cases member
  | cons first rest ih =>
      obtain ⟨absent, nodup⟩ := List.nodup_cons.mp unique
      have passed : ∀ other ∈ rest, key other ≠ key row →
          ∀ item ∈ f other, p item = false := by
        intro other later
        exact others other (List.mem_cons_of_mem _ later)
      have split : ((first :: rest).filterMap f).countP p =
          (f first).toList.countP p + (rest.filterMap f).countP p := by
        rw [List.filterMap_cons]
        cases f first with
        | none => simp
        | some item => simp [List.countP_cons, Nat.add_comm]
      rw [split]
      rcases List.mem_cons.mp member with rfl | later
      · have none_later : (rest.filterMap f).countP p = 0 := by
          rw [List.countP_eq_zero]
          intro item mapped
          obtain ⟨other, later, image⟩ := List.mem_filterMap.mp mapped
          have apart : key other ≠ key row := by
            intro same
            exact absent (List.mem_map.mpr ⟨other, later, same⟩)
          simp [passed other later apart item image]
        rw [none_later]
        cases f row with
        | none => rfl
        | some item => simp [List.countP_cons]
      · have apart : key first ≠ key row := by
          intro same
          exact absent (List.mem_map.mpr ⟨row, later, same.symm⟩)
        have not_first : (f first).toList.countP p = 0 := by
          rw [List.countP_eq_zero]
          intro item mapped
          have image := Option.mem_toList.mp mapped
          simp [others first List.mem_cons_self apart item image]
        rw [not_first, ih nodup later passed, Nat.zero_add]

end KeyedTable
