import Mathlib.Data.Finset.Basic
import Mathlib.Logic.Function.Basic

/-!
# Loops over a list that changes

A loop goes through a list by index, while elements are appended to it and
removed from it.  An element is skipped when one before the index is removed
and it moves to where the loop has been.
-/

namespace LiveList

variable {α : Type*} [DecidableEq α]

/-! ## Taking and dropping after an erasure -/

theorem mem_take_erase {l : List α} {a b : α} {n : ℕ} (different : b ≠ a)
    (member : b ∈ l.take n) : b ∈ (l.erase a).take n := by
  by_cases before : a ∈ l.take n
  · have split : l.erase a = (l.take n).erase a ++ l.drop n := by
      rw [← List.erase_append_left _ before, List.take_append_drop]
    have short : ((l.take n).erase a).length ≤ n :=
      List.length_erase_le.trans (List.length_take_le n l)
    rw [split, List.take_append, List.take_of_length_le short]
    exact List.mem_append_left _ ((List.mem_erase_of_ne different).mpr member)
  · have split : l.erase a = l.take n ++ (l.drop n).erase a := by
      rw [← List.erase_append_right _ before, List.take_append_drop]
    rw [split, List.take_append, List.take_of_length_le (List.length_take_le n l)]
    exact List.mem_append_left _ member

theorem take_drop_erase {l : List α} {a : α} {n : ℕ} (after : a ∉ l.take n) :
    (l.erase a).take n = l.take n ∧ (l.erase a).drop n = (l.drop n).erase a := by
  have split : l.erase a = l.take n ++ (l.drop n).erase a := by
    rw [← List.erase_append_right _ after, List.take_append_drop]
  by_cases long : n ≤ l.length
  · have exactly : (l.take n).length = n := List.length_take_of_le long
    constructor
    · rw [split, List.take_left' exactly]
    · rw [split, List.drop_left' exactly]
  · have nothing : l.drop n = [] := List.drop_of_length_le (Nat.le_of_not_ge long)
    rw [split, nothing, List.erase_nil, List.append_nil]
    simp

theorem mem_drop_of_erase {l : List α} {a b : α} {n : ℕ}
    (member : b ∈ (l.erase a).drop n) : b ∈ l.drop n := by
  by_cases before : a ∈ l.take n
  · have split : l.erase a = (l.take n).erase a ++ l.drop n := by
      rw [← List.erase_append_left _ before, List.take_append_drop]
    have short : ((l.take n).erase a).length ≤ n :=
      List.length_erase_le.trans (List.length_take_le n l)
    rw [split, List.drop_append, List.drop_of_length_le short] at member
    exact List.mem_of_mem_drop member
  · rw [(take_drop_erase before).2] at member
    exact List.mem_of_mem_erase member

/-! ## Loops -/

/-- A loop by index.  The elements in `kept` were in the list at the start and have
stayed in it. -/
structure Loop (α : Type*) where
  index : ℕ
  kept : Finset α
  visits : α → ℕ

namespace Loop

def start (l : List α) : Loop α where
  index := 0
  kept := l.toFinset
  visits := fun _ => 0

def visit (a : α) (loop : Loop α) : Loop α :=
  { loop with
    index := loop.index + 1
    visits := Function.update loop.visits a (loop.visits a + 1) }

/-- An element is removed from the list. -/
def remove (a : α) (loop : Loop α) : Loop α :=
  { loop with kept := loop.kept.erase a }

/-- Elements that are about to be removed do not make the loop skip a kept one. -/
def Spared (removed l : List α) (loop : Loop α) : Prop :=
  (∃ a ∈ removed, a ∈ l.take loop.index) →
    ∀ b ∈ loop.kept, b ∈ l.drop loop.index → b ∈ removed

/-- The loop has visited a kept element once, or is still to come to it; no word is
said about the elements that are about to be removed. -/
structure Follows (removed l : List α) (loop : Loop α) : Prop where
  listed : ∀ a ∈ loop.kept, a ∈ l
  once : ∀ a ∈ loop.kept, a ∉ removed →
    a ∈ l.take loop.index ∧ loop.visits a = 1 ∨
      a ∈ l.drop loop.index ∧ loop.visits a = 0

variable {l removed : List α} {loop : Loop α} {a : α}

omit [DecidableEq α] in
theorem spared_nil : loop.Spared [] l := by
  intro ⟨a, impossible, _⟩
  cases impossible

theorem follows_start (l : List α) : (start l).Follows [] l where
  listed := fun _ member => List.mem_toFinset.mp member
  once := by
    intro a member _
    exact .inr ⟨List.mem_toFinset.mp member, rfl⟩

omit [DecidableEq α] in
theorem Follows.append (follows : loop.Follows [] l) (a : α) :
    loop.Follows [] (l ++ [a]) where
  listed := fun b member => List.mem_append_left _ (follows.listed b member)
  once := by
    intro b member free
    rcases follows.once b member free with ⟨taken, visited⟩ | ⟨dropped, not_yet⟩
    · left
      rw [List.take_append]
      exact ⟨List.mem_append_left _ taken, visited⟩
    · right
      rw [List.drop_append]
      exact ⟨List.mem_append_left _ dropped, not_yet⟩

/-- The loop comes to the next element. -/
theorem Follows.visit (follows : loop.Follows [] l) (nodup : l.Nodup)
    (next : l[loop.index]? = some a) : (loop.visit a).Follows [] l where
  listed := follows.listed
  once := by
    intro b member free
    obtain ⟨within, rfl⟩ := List.getElem?_eq_some_iff.mp next
    have taken_iff : b ∈ l.take (loop.index + 1) ↔
        b ∈ l.take loop.index ∨ b = l[loop.index] := by
      rw [List.take_succ_eq_append_getElem within, List.mem_append,
        List.mem_singleton]
    have dropped_iff : b ∈ l.drop loop.index ↔
        b = l[loop.index] ∨ b ∈ l.drop (loop.index + 1) := by
      rw [List.drop_eq_getElem_cons within, List.mem_cons]
    have own := follows.once b member free
    by_cases same : b = l[loop.index]
    · left
      have not_taken : b ∉ l.take loop.index := by
        intro taken
        have apart := List.disjoint_take_drop nodup (le_refl loop.index)
        exact apart taken (dropped_iff.mpr (.inl same))
      obtain ⟨_, not_yet⟩ := own.resolve_left (fun taken => not_taken taken.1)
      refine ⟨taken_iff.mpr (.inr same), ?_⟩
      simp only [Loop.visit, ← same, Function.update_self, not_yet]
    · simp only [Loop.visit, Function.update_of_ne same]
      rcases own with ⟨taken, visited⟩ | ⟨dropped, not_yet⟩
      · exact .inl ⟨taken_iff.mpr (.inl taken), visited⟩
      · exact .inr ⟨(dropped_iff.mp dropped).resolve_left same, not_yet⟩

omit [DecidableEq α] in
/-- At the end of the list every kept element has been visited once. -/
theorem Follows.finished (follows : loop.Follows [] l) (ended : l[loop.index]? = none)
    (member : a ∈ loop.kept) : loop.visits a = 1 := by
  rcases follows.once a member List.not_mem_nil with ⟨_, visited⟩ | ⟨dropped, _⟩
  · exact visited
  · rw [List.drop_of_length_le (List.getElem?_eq_none_iff.mp ended)] at dropped
    cases dropped

/-- Removing an element that makes the loop skip no kept one. -/
theorem Follows.remove (follows : loop.Follows (a :: removed) l)
    (spared : loop.Spared (a :: removed) l) :
    (loop.remove a).Follows removed (l.erase a) where
  listed := by
    intro b member
    obtain ⟨different, member⟩ := Finset.mem_erase.mp member
    exact (List.mem_erase_of_ne different).mpr (follows.listed b member)
  once := by
    intro b member free
    obtain ⟨different, member⟩ := Finset.mem_erase.mp member
    have free : b ∉ a :: removed := by
      intro among
      exact (List.mem_cons.mp among).elim different free
    rcases follows.once b member free with ⟨taken, visited⟩ | ⟨dropped, not_yet⟩
    · exact .inl ⟨mem_take_erase different taken, visited⟩
    · right
      have after : a ∉ l.take loop.index := by
        intro before
        exact free (spared ⟨a, List.mem_cons_self, before⟩ b member dropped)
      refine ⟨?_, not_yet⟩
      change b ∈ (l.erase a).drop loop.index
      rw [(take_drop_erase after).2]
      exact (List.mem_erase_of_ne different).mpr dropped

theorem Spared.remove (spared : loop.Spared (a :: removed) l) :
    (loop.remove a).Spared removed (l.erase a) := by
  intro ⟨c, among, taken⟩ b member dropped
  obtain ⟨different, member⟩ := Finset.mem_erase.mp member
  have reached : ∃ c ∈ a :: removed, c ∈ l.take loop.index := by
    by_cases before : a ∈ l.take loop.index
    · exact ⟨a, List.mem_cons_self, before⟩
    · refine ⟨c, List.mem_cons_of_mem a among, ?_⟩
      rw [← (take_drop_erase before).1]
      exact taken
  have listed := spared reached b member (mem_drop_of_erase dropped)
  exact (List.mem_cons.mp listed).resolve_left different

omit [DecidableEq α] in
/-- Nothing is kept of a list that has become empty. -/
theorem Follows.of_empty (follows : loop.Follows removed []) : loop.Follows [] [] where
  listed := follows.listed
  once := by
    intro a member
    cases follows.listed a member

end Loop

end LiveList
