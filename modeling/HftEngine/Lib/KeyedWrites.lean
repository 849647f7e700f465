import Mathlib.Logic.Function.Basic
import Mathlib.Data.List.Basic
import Mathlib.Data.List.Induction

/-!
# Writes to a keyed store

A list of writes played over a store.  Writes of disjoint keys commute, and a
key ends with its last write.
-/

namespace KeyedWrites

universe u v

variable {Key : Type u} {Value : Type v} [DecidableEq Key]

def play (store : Key → Option Value) :
    List (Key × Value) → Key → Option Value
  | [] => store
  | (key, value) :: rest =>
      play (Function.update store key (some value)) rest

def DisjointKeys (left right : List (Key × Value)) : Prop :=
  ∀ first ∈ left, ∀ second ∈ right, first.1 ≠ second.1

instance (left right : List (Key × Value)) : Decidable (DisjointKeys left right) :=
  inferInstanceAs (Decidable (∀ first ∈ left, ∀ second ∈ right, _))

theorem play_append (store : Key → Option Value)
    (left right : List (Key × Value)) :
    play store (left ++ right) = play (play store left) right := by
  induction left generalizing store with
  | nil => rfl
  | cons write rest ih => exact ih _

theorem play_update {store : Key → Option Value} {key : Key} {value : Value}
    {writes : List (Key × Value)} (other : ∀ write ∈ writes, write.1 ≠ key) :
    play (Function.update store key (some value)) writes =
      Function.update (play store writes) key (some value) := by
  induction writes generalizing store with
  | nil => rfl
  | cons write rest ih =>
      have different : write.1 ≠ key := other write List.mem_cons_self
      simp only [play]
      rw [Function.update_comm different.symm,
        ih (fun later member => other later (List.mem_cons_of_mem _ member))]

theorem play_comm {store : Key → Option Value} {left right : List (Key × Value)}
    (disjoint : DisjointKeys left right) :
    play (play store right) left = play (play store left) right := by
  induction left generalizing store with
  | nil => rfl
  | cons write rest ih =>
      have later : DisjointKeys rest right :=
        fun first member => disjoint first (List.mem_cons_of_mem _ member)
      have apart : ∀ second ∈ right, second.1 ≠ write.1 :=
        fun second member => (disjoint write List.mem_cons_self second member).symm
      simp only [play]
      rw [← play_update apart]
      exact ih later

/-- Playing a segment before the writes in front of it changes nothing when
their keys are disjoint. -/
theorem play_segment {store : Key → Option Value}
    {earlier segment later : List (Key × Value)}
    (disjoint : DisjointKeys earlier segment) :
    play (play store segment) (earlier ++ later) =
      play store (earlier ++ segment ++ later) := by
  rw [play_append, play_append, play_append, play_comm disjoint]

theorem play_last (store : Key → Option Value) (writes : List (Key × Value))
    {key : Key} {value : Value}
    (last : (writes.filter (fun write => write.1 = key)).getLast? =
      some (key, value)) :
    play store writes key = some value := by
  induction writes using List.reverseRecOn generalizing store with
  | nil => simp at last
  | append_singleton writes write ih =>
      rw [play_append]
      by_cases same : write.1 = key
      · simp only [List.filter_append, List.filter_cons, same, decide_true,
          if_true, List.filter_nil, List.getLast?_concat,
          Option.some.injEq] at last
        subst write
        exact Function.update_self _ _ _
      · simp only [List.filter_append, List.filter_cons, same, decide_false,
          Bool.false_eq_true, if_false, List.filter_nil, List.append_nil] at last
        apply (Function.update_of_ne (Ne.symm same) _ _).trans
        exact ih store last

theorem play_of_not_mem (store : Key → Option Value) {writes : List (Key × Value)}
    {key : Key} (other : ∀ write ∈ writes, write.1 ≠ key) :
    play store writes key = store key := by
  induction writes generalizing store with
  | nil => rfl
  | cons write rest ih =>
      obtain ⟨different, others⟩ := List.forall_mem_cons.mp other
      exact (ih _ others).trans (Function.update_of_ne different.symm _ _)

/-- When every key is written once, each write is the last one. -/
theorem play_of_mem (store : Key → Option Value) {writes : List (Key × Value)}
    (distinct : (writes.map Prod.fst).Nodup) {key : Key} {value : Value}
    (member : (key, value) ∈ writes) : play store writes key = some value := by
  induction writes generalizing store with
  | nil => simp at member
  | cons write rest ih =>
      rw [List.map_cons, List.nodup_cons] at distinct
      rcases List.mem_cons.mp member with rfl | later
      · have others : ∀ write ∈ rest, write.1 ≠ key :=
          fun write among same => distinct.1 (List.mem_map.mpr ⟨write, among, same⟩)
        exact (play_of_not_mem _ others).trans (Function.update_self _ _ _)
      · exact ih _ distinct.2 later

/-- What is read was in the store or has been written. -/
theorem mem_of_play {store : Key → Option Value} {writes : List (Key × Value)}
    {key : Key} {value : Value} (read : play store writes key = some value) :
    store key = some value ∨ (key, value) ∈ writes := by
  induction writes generalizing store with
  | nil => exact .inl read
  | cons write rest ih =>
      rcases ih read with before | later
      · by_cases same : key = write.1
        · subst same
          rw [Function.update_self, Option.some.injEq] at before
          exact .inr (before ▸ List.mem_cons_self)
        · rw [Function.update_of_ne same] at before
          exact .inl before
      · exact .inr (List.mem_cons_of_mem _ later)

end KeyedWrites
