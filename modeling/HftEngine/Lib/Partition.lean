import Mathlib.Algebra.Order.Group.Nat
import Mathlib.Data.List.Basic
import Mathlib.Order.Monotone.Basic
import Mathlib.Tactic.Ring

/-!
# Partitions of a list

A list cut at bounds that do not decrease: the slices put together are the list
up to the last bound.  `bound` cuts a length into parts of which the first ones
are longer by one.  A list divided by a number that each item has: the classes
put together are the list in another order.
-/

namespace Partition

/-! ## Slices -/

universe u

variable {α : Type u}

/-- `items[start:stop]`, with bounds from 0 on. -/
def slice (start stop : ℕ) (items : List α) : List α :=
  (items.take stop).drop start

theorem take_append_slice {start stop : ℕ} (ordered : start ≤ stop) (items : List α) :
    items.take start ++ slice start stop items = items.take stop := by
  have shorter : items.take start = (items.take stop).take start := by
    rw [List.take_take, min_eq_left ordered]
  rw [shorter, slice, List.take_append_drop]

theorem length_slice (start stop : ℕ) (items : List α) :
    (slice start stop items).length = min stop items.length - start := by
  rw [slice, List.length_drop, List.length_take]

theorem mem_slice {start stop : ℕ} {items : List α} {item : α} :
    item ∈ slice start stop items ↔ ∃ i, start ≤ i ∧ i < stop ∧ items[i]? = some item := by
  rw [slice, List.mem_iff_getElem?]
  simp only [List.getElem?_drop, List.getElem?_take]
  constructor
  · intro ⟨j, found⟩
    split at found
    · exact ⟨start + j, Nat.le_add_right _ _, by assumption, found⟩
    · cases found
  · intro ⟨i, from_start, before_stop, found⟩
    refine ⟨i - start, ?_⟩
    rw [Nat.add_sub_cancel' from_start, if_pos before_stop]
    exact found

theorem flatMap_slice {bound : ℕ → ℕ} (monotone : Monotone bound) (first : bound 0 = 0)
    (items : List α) (parts : ℕ) :
    (List.range parts).flatMap (fun part => slice (bound part) (bound (part + 1)) items) =
      items.take (bound parts) := by
  induction parts with
  | zero => simp [first]
  | succ parts ih =>
      rw [List.range_succ, List.flatMap_append, ih, List.flatMap_singleton]
      exact take_append_slice (monotone (Nat.le_succ parts)) items

/-! ## Chunks -/

/-- A list cut into pieces, none of them empty or longer than `size`. -/
structure Chunks (size : ℕ) (items : List α) (chunks : List (List α)) : Prop where
  within : ∀ chunk ∈ chunks, chunk ≠ [] ∧ chunk.length ≤ size
  whole : chunks.flatten = items

theorem Chunks.nil (size : ℕ) : Chunks size ([] : List α) [] :=
  ⟨fun _ none => absurd none List.not_mem_nil, rfl⟩

theorem Chunks.snoc {size : ℕ} {items chunk : List α} {chunks : List (List α)}
    (before : Chunks size items chunks) (filled : chunk ≠ []) (short : chunk.length ≤ size) :
    Chunks size (items ++ chunk) (chunks ++ [chunk]) := by
  constructor
  · intro other member
    rcases List.mem_append.mp member with old | new
    · exact before.within other old
    · obtain rfl := List.mem_singleton.mp new
      exact ⟨filled, short⟩
  · rw [List.flatten_append, before.whole, List.flatten_singleton]

/-- Where the chunks of a length start. -/
def starts (size total : ℕ) : List ℕ :=
  (List.range ((total + size - 1) / size)).map (fun part => part * size)

theorem lt_of_mem_starts {size total start : ℕ} (positive : 0 < size)
    (member : start ∈ starts size total) : start < total := by
  obtain ⟨part, inside, rfl⟩ := List.mem_map.mp member
  have next : (part + 1) * size ≤ total + size - 1 :=
    (Nat.le_div_iff_mul_le positive).mp (List.mem_range.mp inside)
  have expanded : (part + 1) * size = part * size + size := by ring
  omega

/-- The slices from each start on are chunks. -/
theorem chunks_slices {size : ℕ} (positive : 0 < size) (items : List α) :
    Chunks size items ((starts size items.length).map
      (fun start => slice start (start + size) items)) := by
  constructor
  · intro chunk member
    obtain ⟨start, among, rfl⟩ := List.mem_map.mp member
    have before_end := lt_of_mem_starts positive among
    have length := length_slice start (start + size) items
    constructor
    · apply List.ne_nil_of_length_pos
      omega
    · omega
  · have monotone : Monotone (fun part => part * size) :=
      fun _ _ le => Nat.mul_le_mul_right size le
    have joined := flatMap_slice monotone (Nat.zero_mul size) items
      ((items.length + size - 1) / size)
    have covered : items.length ≤ (items.length + size - 1) / size * size := by
      have split := Nat.div_add_mod (items.length + size - 1) size
      have remainder := Nat.mod_lt (items.length + size - 1) positive
      rw [Nat.mul_comm] at split
      omega
    rw [List.take_of_length_le covered] at joined
    rw [← List.flatMap_def, starts, List.flatMap_map]
    simpa only [Nat.add_mul, Nat.one_mul] using joined

/-! ## Even parts -/

/-- Where part number `part` of a length starts. -/
def bound (total parts part : ℕ) : ℕ :=
  part * (total / parts) + min part (total % parts)

theorem bound_zero (total parts : ℕ) : bound total parts 0 = 0 := by
  simp [bound]

theorem bound_succ (total parts part : ℕ) :
    bound total parts (part + 1) = bound total parts part + total / parts +
      (if part < total % parts then 1 else 0) := by
  rw [bound, bound, Nat.succ_mul]
  split <;> omega

theorem bound_monotone (total parts : ℕ) : Monotone (bound total parts) := by
  apply monotone_nat_of_le_succ
  intro part
  rw [bound_succ, Nat.add_assoc]
  exact Nat.le_add_right _ _

theorem bound_last {parts : ℕ} (positive : 0 < parts) (total : ℕ) :
    bound total parts parts = total := by
  have remainder : total % parts < parts := Nat.mod_lt total positive
  rw [bound, min_eq_right remainder.le]
  exact Nat.div_add_mod total parts

/-- A part is as long as the quotient, or longer by one. -/
theorem length_slice_bound {parts part : ℕ} {items : List α} (within : part < parts) :
    (slice (bound items.length parts part) (bound items.length parts (part + 1))
      items).length =
      items.length / parts + (if part < items.length % parts then 1 else 0) := by
  have below : bound items.length parts (part + 1) ≤ items.length := by
    calc bound items.length parts (part + 1)
        ≤ bound items.length parts parts := bound_monotone _ _ within
      _ = items.length := bound_last (Nat.zero_lt_of_lt within) _
  rw [length_slice, min_eq_left below, bound_succ, Nat.add_assoc, Nat.add_sub_cancel_left]

/-! ## Classes -/

/-- The items of the numbers below a bound. -/
theorem flatMap_filter_perm (number : α → ℕ) (items : List α) (classes : ℕ) :
    ((List.range classes).flatMap (fun part =>
      items.filter (fun item => number item = part))).Perm
      (items.filter (fun item => number item < classes)) := by
  induction classes with
  | zero => simp
  | succ classes ih =>
      have earlier : items.filter (fun item => number item < classes) =
          (items.filter (fun item => number item < classes + 1)).filter
            (fun item => number item < classes) := by
        rw [List.filter_filter]
        apply List.filter_congr
        intro item _
        rw [Bool.eq_iff_iff, Bool.and_eq_true]
        simp only [decide_eq_true_eq]
        omega
      have last : items.filter (fun item => number item = classes) =
          (items.filter (fun item => number item < classes + 1)).filter
            (fun item => !decide (number item < classes)) := by
        rw [List.filter_filter]
        apply List.filter_congr
        intro item _
        rw [Bool.eq_iff_iff, Bool.and_eq_true]
        simp only [decide_eq_true_eq, Bool.not_eq_true', decide_eq_false_iff_not]
        omega
      rw [List.range_succ, List.flatMap_append, List.flatMap_singleton, last]
      refine (ih.append_right _).trans ?_
      rw [earlier]
      exact List.filter_append_perm _ _

/-- Every item has one of the numbers. -/
theorem flatMap_filter_perm_self {number : α → ℕ} {items : List α} {classes : ℕ}
    (bounded : ∀ item ∈ items, number item < classes) :
    ((List.range classes).flatMap (fun part =>
      items.filter (fun item => number item = part))).Perm items := by
  have all : items.filter (fun item => number item < classes) = items := by
    rw [List.filter_eq_self]
    intro item member
    exact decide_eq_true (bounded item member)
  have divided := flatMap_filter_perm number items classes
  rwa [all] at divided

end Partition
