import Mathlib.Data.List.Sort

/-!
# Ordered selections

A selection takes the rows of a table that have a property and orders them by a
key.  It leaves open the order of rows with one key, so that it has several
answers; it has only one where the keys differ.
-/

universe u v

structure Selection (Row : Type u) (Key : Type v) where
  holds : Row → Bool
  key : Row → Key

namespace Selection

variable {Row : Type u} {Key : Type v} [LinearOrder Key]

structure Answers (selection : Selection Row Key) (rows answer : List Row) : Prop where
  perm : answer.Perm (rows.filter selection.holds)
  ordered : answer.Pairwise (fun left right => selection.key left ≤ selection.key right)

def stable (selection : Selection Row Key) (rows : List Row) : List Row :=
  (rows.filter selection.holds).insertionSort
    (fun left right => selection.key left ≤ selection.key right)

variable {selection : Selection Row Key} {rows answer : List Row}

theorem stable_answers (selection : Selection Row Key) (rows : List Row) :
    selection.Answers rows (selection.stable rows) := by
  have total : Std.Total (fun left right : Row => selection.key left ≤ selection.key right) :=
    ⟨fun left right => le_total (selection.key left) (selection.key right)⟩
  have trans : IsTrans Row (fun left right => selection.key left ≤ selection.key right) :=
    ⟨fun _ _ _ => le_trans⟩
  exact ⟨List.perm_insertionSort _ _, List.pairwise_insertionSort _ _⟩

namespace Answers

theorem mem_iff (answers : selection.Answers rows answer) {row : Row} :
    row ∈ answer ↔ row ∈ rows ∧ selection.holds row := by
  rw [answers.perm.mem_iff, List.mem_filter]

theorem head?_eq_none_iff (answers : selection.Answers rows answer) :
    answer.head? = none ↔ ∀ row ∈ rows, selection.holds row = false := by
  rw [List.head?_eq_none_iff]
  constructor
  · rintro rfl row member
    have absent : row ∉ ([] : List Row) := List.not_mem_nil
    simpa [member] using answers.mem_iff.not.mp absent
  · intro unselected
    apply List.eq_nil_iff_forall_not_mem.mpr
    intro row member
    obtain ⟨stored, holds⟩ := answers.mem_iff.mp member
    simp [unselected row stored] at holds

/-- The first row of an answer is a least one. -/
theorem head_le (answers : selection.Answers rows answer) {first : Row}
    (head : answer.head? = some first) {row : Row} (stored : row ∈ rows)
    (holds : selection.holds row) : selection.key first ≤ selection.key row := by
  obtain ⟨others, rfl⟩ := List.head?_eq_some_iff.mp head
  obtain rfl | later := List.mem_cons.mp (answers.mem_iff.mpr ⟨stored, holds⟩)
  · exact le_rfl
  · exact List.rel_of_pairwise_cons answers.ordered later

/-- The last row of an answer with a property is a greatest one of them. -/
theorem le_getLast (answers : selection.Answers rows answer) {p : Row → Bool} {last : Row}
    (found : (answer.filter p).getLast? = some last) {row : Row} (stored : row ∈ rows)
    (holds : selection.holds row) (has : p row) :
    selection.key row ≤ selection.key last := by
  have member : row ∈ answer.filter p :=
    List.mem_filter.mpr ⟨answers.mem_iff.mpr ⟨stored, holds⟩, has⟩
  obtain ⟨others, split⟩ := List.getLast?_eq_some_iff.mp found
  have ordered := answers.ordered.filter p
  rw [split] at member ordered
  obtain before | same := List.mem_append.mp member
  · exact (List.pairwise_append.mp ordered).2.2 row before last (List.mem_singleton_self last)
  · rw [List.mem_singleton.mp same]

theorem unique {other : List Row} (left : selection.Answers rows answer)
    (right : selection.Answers rows other)
    (distinct : ∀ a ∈ rows, ∀ b ∈ rows, selection.holds a → selection.holds b →
      selection.key a = selection.key b → a = b) :
    answer = other := by
  apply List.Perm.eq_of_pairwise _ left.ordered right.ordered (left.perm.trans right.perm.symm)
  intro a b member_a member_b below above
  obtain ⟨stored_a, holds_a⟩ := left.mem_iff.mp member_a
  obtain ⟨stored_b, holds_b⟩ := right.mem_iff.mp member_b
  exact distinct a stored_a b stored_b holds_a holds_b (le_antisymm below above)

end Answers

end Selection
