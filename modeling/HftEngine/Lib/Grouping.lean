import Mathlib.Data.List.Basic
import Mathlib.Data.List.Induction
import Mathlib.Data.List.Nodup

/-!
# Grouping by a key

A loop that puts each item into the entry of its key, and makes the entry first
when there is none.  The entry of a key holds what its own items put there, in
their order, and nothing of the others.
-/

namespace Grouping

universe u v w

variable {α : Type u} {K : Type v} {V : Type w} [DecidableEq K]

/-- Keys keep their places; a new one comes last. -/
def alter (key : K) (empty : V) (change : V → V) : List (K × V) → List (K × V)
  | [] => [(key, change empty)]
  | (other, value) :: rest =>
      if other = key then (key, change value) :: rest
      else (other, value) :: alter key empty change rest

def group (key : α → K) (empty : V) (put : V → α → V) (items : List α) : List (K × V) :=
  items.foldl
    (fun groups item => alter (key item) empty (fun value => put value item) groups) []

section Alter

variable {key : K} {empty : V} {change : V → V} {groups : List (K × V)}

theorem alter_nil : alter key empty change [] = [(key, change empty)] := rfl

/-- Only the first entry of the key is changed. -/
theorem alter_cons (other : K) (value : V) (rest : List (K × V)) :
    alter key empty change ((other, value) :: rest) =
      if other = key then (key, change value) :: rest
      else (other, value) :: alter key empty change rest := rfl

theorem keys_alter :
    (alter key empty change groups).map Prod.fst =
      if key ∈ groups.map Prod.fst then groups.map Prod.fst
      else groups.map Prod.fst ++ [key] := by
  induction groups with
  | nil => rfl
  | cons entry groups ih =>
      obtain ⟨other, value⟩ := entry
      by_cases same : other = key
      · simp [alter_cons, same]
      · have apart : key ≠ other := Ne.symm same
        simp only [alter_cons, if_neg same, List.map_cons, ih, List.mem_cons, apart, false_or]
        split
        · rfl
        · rfl

theorem nodup_keys_alter (distinct : (groups.map Prod.fst).Nodup) :
    ((alter key empty change groups).map Prod.fst).Nodup := by
  rw [keys_alter]
  split
  case isTrue => exact distinct
  case isFalse missing =>
    rw [← List.concat_eq_append]
    exact distinct.concat missing

theorem mem_alter_other {other : K} {value : V} (apart : other ≠ key) :
    (other, value) ∈ alter key empty change groups ↔ (other, value) ∈ groups := by
  induction groups with
  | nil => simp [alter_nil, apart]
  | cons entry groups ih =>
      obtain ⟨first, old⟩ := entry
      by_cases same : first = key
      · have elsewhere : first ≠ other := same ▸ apart.symm
        simp [alter_cons, same, apart]
      · simp [alter_cons, same, ih]

theorem mem_alter_missing {value : V} (missing : key ∉ groups.map Prod.fst) :
    (key, value) ∈ alter key empty change groups ↔ value = change empty := by
  induction groups with
  | nil => simp [alter_nil]
  | cons entry groups ih =>
      obtain ⟨first, old⟩ := entry
      simp only [List.map_cons, List.mem_cons, not_or] at missing
      have apart : first ≠ key := Ne.symm missing.1
      simp [alter_cons, apart, missing.1, ih missing.2]

theorem mem_alter_present {value old : V} (distinct : (groups.map Prod.fst).Nodup)
    (present : (key, old) ∈ groups) :
    (key, value) ∈ alter key empty change groups ↔ value = change old := by
  induction groups with
  | nil => cases present
  | cons entry groups ih =>
      obtain ⟨first, held⟩ := entry
      obtain ⟨fresh, rest⟩ := List.nodup_cons.mp distinct
      by_cases same : first = key
      · subst same
        have gone : ∀ v, (first, v) ∉ groups :=
          fun v member => fresh (List.mem_map.mpr ⟨(first, v), member, rfl⟩)
        have held_old : old = held := by simpa [gone] using present
        simp [alter_cons, gone, held_old]
      · have later : (key, old) ∈ groups := by simpa [Ne.symm same] using present
        simp [alter_cons, same, Ne.symm same, ih rest later]

end Alter

variable {key : α → K} {empty : V} {put : V → α → V}

/-- What a dictionary holds after some items. -/
structure Grouped (key : α → K) (empty : V) (put : V → α → V) (items : List α)
    (groups : List (K × V)) : Prop where
  distinct : (groups.map Prod.fst).Nodup
  mem_iff : ∀ k value, (k, value) ∈ groups ↔ (∃ item ∈ items, key item = k) ∧
    value = (items.filter (fun item => key item = k)).foldl put empty

theorem Grouped.mem_keys {items : List α} {groups : List (K × V)}
    (grouped : Grouped key empty put items groups) {k : K} :
    k ∈ groups.map Prod.fst ↔ ∃ item ∈ items, key item = k := by
  constructor
  · intro member
    obtain ⟨⟨_, value⟩, entry, rfl⟩ := List.mem_map.mp member
    exact ((grouped.mem_iff _ _).mp entry).1
  · intro given
    exact List.mem_map.mpr ⟨(k, _), (grouped.mem_iff _ _).mpr ⟨given, rfl⟩, rfl⟩

/-- One step of the loop. -/
theorem Grouped.next {items : List α} {groups : List (K × V)}
    (grouped : Grouped key empty put items groups) (item : α) :
    Grouped key empty put (items ++ [item])
      (alter (key item) empty (fun value => put value item) groups) := by
  refine ⟨nodup_keys_alter grouped.distinct, ?_⟩
  intro k value
  by_cases same : k = key item
  · subst same
    have given : ∃ i ∈ items ++ [item], key i = key item := ⟨item, by simp, rfl⟩
    simp only [given, true_and, List.filter_append, List.foldl_append]
    by_cases known : ∃ i ∈ items, key i = key item
    · rw [mem_alter_present grouped.distinct ((grouped.mem_iff _ _).mpr ⟨known, rfl⟩)]
      simp
    · rw [mem_alter_missing (fun member => known (grouped.mem_keys.mp member))]
      have none_before : items.filter (fun i => key i = key item) = [] := by
        rw [List.filter_eq_nil_iff]
        intro i member found
        exact known ⟨i, member, by simpa using found⟩
      simp [none_before]
  · have unchanged : (items ++ [item]).filter (fun i => key i = k) =
        items.filter (fun i => key i = k) := by
      simp [List.filter_append, Ne.symm same]
    rw [mem_alter_other same, grouped.mem_iff, unchanged]
    simp [or_and_right, exists_or, Ne.symm same]

theorem map_alter {W : Type w} {f : V → W} {key : K} {empty : V} {change : V → V}
    (changed : W → W) (commutes : ∀ value, f (change value) = changed (f value))
    (groups : List (K × V)) :
    (alter key empty change groups).map (Prod.map id f) =
      alter key (f empty) changed (groups.map (Prod.map id f)) := by
  induction groups with
  | nil => simp [alter_nil, commutes]
  | cons entry groups ih =>
      obtain ⟨other, value⟩ := entry
      by_cases same : other = key
      · simp [alter_cons, same, commutes]
      · simpa [alter_cons, same] using ih

/-- A map of the entries that each step respects. -/
theorem map_group {W : Type w} {f : V → W} {into : W → α → W}
    (commutes : ∀ value item, f (put value item) = into (f value) item) (items : List α) :
    (group key empty put items).map (Prod.map id f) = group key (f empty) into items := by
  induction items using List.reverseRecOn with
  | nil => rfl
  | append_singleton items item ih =>
      simp only [group, List.foldl_append, List.foldl_cons, List.foldl_nil] at ih ⊢
      rw [map_alter (fun value => into value item) (fun value => commutes value item), ih]

theorem group_grouped (items : List α) :
    Grouped key empty put items (group key empty put items) := by
  suffices run : ∀ later done groups, Grouped key empty put done groups →
      Grouped key empty put (done ++ later) (later.foldl
        (fun groups item => alter (key item) empty (fun value => put value item) groups)
        groups) by
    exact run items [] [] ⟨List.nodup_nil, by simp⟩
  intro later
  induction later with
  | nil =>
      intro done groups grouped
      simpa using grouped
  | cons item later ih =>
      intro done groups grouped
      simpa using ih (done ++ [item]) _ (grouped.next item)

end Grouping
