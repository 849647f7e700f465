import HftEngine.Lib.KeyedWrites
import Mathlib.Data.List.MinMax
import Mathlib.Data.List.Sort
import Mathlib.Order.Defs.LinearOrder

/-!
# Competition ranks

Items in descending order of a key are given ranks in one pass: an item has the
rank of the one before it when their keys are equal, and its own position, from
1 on, when they are not.  So the rank of an item is one more than the number of
items with a greater key.
-/

namespace Ranking

universe u v

variable {α : Type u} {K : Type v} [LinearOrder K] (key : α → K)

/-- The pass, from a position, with the rank and the key of the item before. -/
def assign (position rank : ℕ) (last : Option K) : List α → List (α × ℕ)
  | [] => []
  | item :: items =>
      if last = some (key item) then
        (item, rank) :: assign (position + 1) rank last items
      else
        (item, position + 1) ::
          assign (position + 1) (position + 1) (some (key item)) items

/-- Items with equal keys stay in their order. -/
def descending (items : List α) : List α :=
  items.insertionSort (fun a b => key b ≤ key a)

def ranks (items : List α) : List (α × ℕ) :=
  assign key 0 0 none (descending key items)

theorem perm_descending (items : List α) : (descending key items).Perm items :=
  List.perm_insertionSort _ items

/-- A change of the items that keeps their keys keeps their order. -/
theorem descending_map {β : Type v} (f : β → α) (items : List β) :
    descending key (items.map f) = (descending (fun b => key (f b)) items).map f :=
  (List.map_insertionSort _ _ f items (fun _ _ _ _ => Iff.rfl)).symm

variable {key}

theorem pairwise_descending (items : List α) :
    (descending key items).Pairwise (fun a b => key b ≤ key a) := by
  have total : Std.Total (fun a b : α => key b ≤ key a) :=
    ⟨fun a b => le_total (key b) (key a)⟩
  have transitive : IsTrans α (fun a b => key b ≤ key a) :=
    ⟨fun _ _ _ first second => second.trans first⟩
  exact List.pairwise_insertionSort _ items

/-- The first of the descending items has the greatest key. -/
theorem first_of_descending {items rest : List α} {best : α}
    (listed : descending key items = best :: rest) :
    best ∈ items ∧ ∀ other ∈ items, key other ≤ key best := by
  have perm := perm_descending key items
  have sorted : (descending key items).Pairwise (fun a b => key b ≤ key a) :=
    pairwise_descending items
  rw [listed] at perm sorted
  constructor
  · exact perm.mem_iff.mp List.mem_cons_self
  · intro other member
    rcases List.mem_cons.mp (perm.mem_iff.mpr member) with rfl | later
    · exact le_refl _
    · exact (List.pairwise_cons.mp sorted).1 other later

/-- With distinct keys the order of the items does not matter to the first one. -/
theorem head?_descending_perm {items others : List α} (perm : items.Perm others)
    (distinct : (items.map key).Nodup) :
    (descending key items).head? = (descending key others).head? := by
  cases listed : descending key items with
  | nil =>
      have empty := (perm_descending key items).symm
      rw [listed] at empty
      rw [List.perm_nil.mp (perm.symm.trans empty)]
      rfl
  | cons best rest =>
      obtain ⟨member, greatest⟩ := first_of_descending listed
      cases listed_others : descending key others with
      | nil =>
          have empty := perm_descending key others
          rw [listed_others] at empty
          cases empty.mem_iff.mpr (perm.mem_iff.mp member)
      | cons other_best other_rest =>
          obtain ⟨other_member, other_greatest⟩ := first_of_descending listed_others
          have among := perm.mem_iff.mpr other_member
          have same := (other_greatest best (perm.mem_iff.mp member)).antisymm
            (greatest other_best among)
          exact congrArg some (List.inj_on_of_nodup_map distinct member among same)

theorem map_fst_assign (position rank : ℕ) (last : Option K) (items : List α) :
    (assign key position rank last items).map Prod.fst = items := by
  induction items generalizing position rank last with
  | nil => rfl
  | cons item items ih =>
      unfold assign
      split
      · rw [List.map_cons, ih]
      · rw [List.map_cons, ih]

theorem map_fst_ranks (items : List α) :
    (ranks key items).map Prod.fst = descending key items :=
  map_fst_assign 0 0 none (descending key items)

/-- How many items come before all items with this key. -/
def above (key : α → K) (items : List α) (item : α) : ℕ :=
  items.countP (fun other => key item < key other)

/-- What the pass knows when it has passed the items of `done`. -/
structure Passed (key : α → K) (done items : List α) (rank : ℕ) (last : Option K) :
    Prop where
  sorted : (done ++ items).Pairwise (fun a b => key b ≤ key a)
  first : last = none → done = []
  attained : ∀ k, last = some k → ∃ item ∈ done, key item = k
  least : ∀ k, last = some k → ∀ item ∈ done, k ≤ key item
  shared : ∀ item ∈ items, last = some (key item) →
    rank = above key (done ++ items) item + 1

/-- An item that opens a rank: all the items before it are greater, and none of
those after it is. -/
theorem above_first {done items : List α} {item : α}
    (sorted : (done ++ item :: items).Pairwise (fun a b => key b ≤ key a))
    (greater : ∀ other ∈ done, key item < key other) :
    above key (done ++ item :: items) item = done.length := by
  have counted : done.countP (fun other => key item < key other) = done.length := by
    rw [List.countP_eq_length]
    intro other member
    exact decide_eq_true (greater other member)
  have none_after : (item :: items).countP (fun other => key item < key other) = 0 := by
    rw [List.countP_eq_zero]
    intro other member
    rcases List.mem_cons.mp member with rfl | later
    · simp
    · have after := (List.pairwise_append.mp sorted).2.1
      have below := (List.pairwise_cons.mp after).1 other later
      simpa using below
  rw [above, List.countP_append, counted, none_after, Nat.add_zero]

/-- An item with another key than the one before is below all items before. -/
theorem Passed.greater {done items : List α} {item : α} {rank : ℕ} {last : Option K}
    (passed : Passed key done (item :: items) rank last)
    (different : last ≠ some (key item)) : ∀ other ∈ done, key item < key other := by
  intro other member
  cases last with
  | none => simp [passed.first rfl] at member
  | some k =>
      obtain ⟨latest, among, rfl⟩ := passed.attained k rfl
      have below : key item ≤ key latest :=
        (List.pairwise_append.mp passed.sorted).2.2 latest among item
          List.mem_cons_self
      have apart : key item ≠ key latest := fun same => different (same ▸ rfl)
      exact (lt_of_le_of_ne below apart).trans_le (passed.least _ rfl other member)

theorem Passed.same {done items : List α} {item : α} {rank : ℕ}
    (passed : Passed key done (item :: items) rank (some (key item))) :
    Passed key (done ++ [item]) items rank (some (key item)) := by
  have assoc : done ++ [item] ++ items = done ++ item :: items := by simp
  refine ⟨assoc ▸ passed.sorted, by simp, ?_, ?_, ?_⟩
  · rintro k ⟨⟩
    exact ⟨item, by simp, rfl⟩
  · rintro k ⟨⟩ other member
    rcases List.mem_append.mp member with before | own
    · exact passed.least _ rfl other before
    · rw [List.mem_singleton.mp own]
  · intro other later shared
    rw [assoc]
    exact passed.shared other (List.mem_cons_of_mem _ later) shared

theorem Passed.next {done items : List α} {item : α} {rank : ℕ} {last : Option K}
    (passed : Passed key done (item :: items) rank last)
    (greater : ∀ other ∈ done, key item < key other) :
    Passed key (done ++ [item]) items (done.length + 1) (some (key item)) := by
  have assoc : done ++ [item] ++ items = done ++ item :: items := by simp
  refine ⟨assoc ▸ passed.sorted, by simp, ?_, ?_, ?_⟩
  · rintro k ⟨⟩
    exact ⟨item, by simp, rfl⟩
  · rintro k ⟨⟩ other member
    rcases List.mem_append.mp member with before | own
    · exact (greater other before).le
    · rw [List.mem_singleton.mp own]
  · intro other later shared
    have counted := above_first passed.sorted greater
    rw [assoc, above, ← Option.some.inj shared]
    exact congrArg (· + 1) counted.symm

theorem assign_spec {done items : List α} {rank : ℕ} {last : Option K}
    (passed : Passed key done items rank last) :
    ∀ ranked ∈ assign key done.length rank last items,
      ranked.2 = above key (done ++ items) ranked.1 + 1 := by
  induction items generalizing done rank last with
  | nil => simp [assign]
  | cons item items ih =>
      have length : (done ++ [item]).length = done.length + 1 := List.length_append
      have assoc : done ++ [item] ++ items = done ++ item :: items := by simp
      unfold assign
      split
      case isTrue same =>
        subst same
        have later := ih passed.same
        rw [length, assoc] at later
        intro ranked member
        rcases List.mem_cons.mp member with rfl | after
        · exact passed.shared item List.mem_cons_self rfl
        · exact later ranked after
      case isFalse different =>
        have greater := passed.greater different
        have later := ih (passed.next greater)
        rw [length, assoc] at later
        intro ranked member
        rcases List.mem_cons.mp member with rfl | after
        · exact congrArg (· + 1) (above_first passed.sorted greater).symm
        · exact later ranked after

/-- The rank of an item is one more than the number of items above it. -/
theorem rank_eq {items : List α} {ranked : α × ℕ} (member : ranked ∈ ranks key items) :
    ranked.2 = above key items ranked.1 + 1 := by
  have passed : Passed key [] (descending key items) 0 none :=
    { sorted := pairwise_descending items
      first := fun _ => rfl
      attained := by simp
      least := by simp
      shared := by simp }
  have counted := assign_spec passed ranked member
  rw [List.nil_append] at counted
  rw [counted, above, (perm_descending key items).countP_eq]
  rfl

/-- A rank that is read at the place of an item. -/
theorem read_rank {Place : Type} [DecidableEq Place] {place : α → Place}
    {items : List α} {at_place : Place} {rank : ℕ}
    (read : KeyedWrites.play (fun _ => none) ((ranks key items).map (fun ranked =>
      (place ranked.1, ranked.2))) at_place = some rank) :
    ∃ item ∈ items, place item = at_place ∧ rank = above key items item + 1 := by
  rcases KeyedWrites.mem_of_play read with unwritten | written
  · contradiction
  · obtain ⟨⟨item, assigned⟩, among, same⟩ := List.mem_map.mp written
    obtain ⟨here, rfl⟩ := Prod.mk.inj same
    have listed : item ∈ (ranks key items).map Prod.fst := List.mem_map_of_mem among
    rw [map_fst_ranks] at listed
    exact ⟨item, (perm_descending key items).mem_iff.mp listed, here, rank_eq among⟩

/-! ## The least item -/

/-- Items with equal keys stay in their order. -/
def ascending (key : α → K) (items : List α) : List α :=
  items.insertionSort (fun a b => key a ≤ key b)

theorem perm_ascending (key : α → K) (items : List α) : (ascending key items).Perm items :=
  List.perm_insertionSort _ items

theorem pairwise_ascending {items : List α} :
    (ascending key items).Pairwise (fun a b => key a ≤ key b) := by
  have total : Std.Total (fun a b : α => key a ≤ key b) :=
    ⟨fun a b => le_total (key a) (key b)⟩
  have transitive : IsTrans α (fun a b => key a ≤ key b) :=
    ⟨fun _ _ _ first second => first.trans second⟩
  exact List.pairwise_insertionSort _ items

theorem ascending_map {β : Type v} (f : β → α) (items : List β) :
    ascending key (items.map f) = (ascending (fun b => key (f b)) items).map f :=
  (List.map_insertionSort _ _ f items (fun _ _ _ _ => Iff.rfl)).symm

/-- The first of the ascending items is the first one with the least key. -/
theorem head?_ascending (items : List α) :
    (ascending key items).head? = items.argmin key := by
  induction items with
  | nil => rfl
  | cons item items ih =>
      rw [List.argmin_cons, ← ih, ascending, List.insertionSort_cons, ← ascending]
      cases ascending key items with
      | nil => rfl
      | cons first rest =>
          rw [List.orderedInsert_cons, List.head?_cons]
          by_cases before : key item ≤ key first
          · rw [if_pos before, List.head?_cons]
            exact (if_neg before.not_gt).symm
          · rw [if_neg before, List.head?_cons]
            exact (if_pos (not_le.mp before)).symm

theorem exists_least (key : α → K) {items : List α} (some_item : items ≠ []) :
    ∃ least ∈ items, ∀ item ∈ items, key least ≤ key item := by
  cases found : items.argmin key with
  | none => exact absurd (List.argmin_eq_none.mp found) some_item
  | some least =>
      exact ⟨least, List.argmin_mem found, fun _ member => List.le_of_mem_argmin member found⟩

theorem exists_greatest (key : α → K) {items : List α} (some_item : items ≠ []) :
    ∃ greatest ∈ items, ∀ item ∈ items, key item ≤ key greatest :=
  exists_least (OrderDual.toDual ∘ key) some_item

end Ranking
