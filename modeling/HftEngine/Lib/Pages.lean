import Mathlib.Data.List.Basic
import Mathlib.Data.List.Infix
import Mathlib.Tactic.Ring

/-!
# Pages of a sorted list

A list is read in pages of one length, each from what comes after the last item of
the page before.  What comes after an item of a sorted list is an end of the list;
it is the next page and all later ones exactly where the page boundary separates
two items.
-/

namespace Pages

universe u

variable {α : Type u}

/-- The items on the two sides of each page boundary. -/
def Boundaries (good : α → α → Prop) (size : ℕ) (items : List α) : Prop :=
  ∀ k last next, 0 < k → items[k * size - 1]? = some last →
    items[k * size]? = some next → good last next

theorem boundaries_short {good : α → α → Prop} {size : ℕ} {items : List α}
    (short : items.length ≤ size) : Boundaries good size items := by
  intro k last next positive _ found
  have inside : k * size < items.length := (List.getElem?_eq_some_iff.mp found).1
  have page : size ≤ k * size := Nat.le_mul_of_pos_left size positive
  omega

/-- The first boundary, and those of what follows the first page. -/
theorem boundaries_page {good : α → α → Prop} {size : ℕ} {page rest : List α}
    {last next : α} (full : (page ++ [last]).length = size) :
    Boundaries good size (page ++ last :: next :: rest) ↔
      good last next ∧ Boundaries good size (next :: rest) := by
  have split : page ++ last :: next :: rest = (page ++ [last]) ++ next :: rest := by simp
  have after : ∀ i, (page ++ last :: next :: rest)[size + i]? = (next :: rest)[i]? := by
    intro i
    rw [split, List.getElem?_append_right (by omega), full]
    congr 1
    omega
  have size_eq : size = page.length + 1 := by rw [← full]; simp
  have size_pos : 0 < size := by omega
  have first_last : (page ++ last :: next :: rest)[size - 1]? = some last := by
    simp [size_eq]
  have first_next : (page ++ last :: next :: rest)[size]? = some next := after 0
  have shift : ∀ k, (k + 2) * size = size + (k + 1) * size := by
    intro k
    ring
  constructor
  · intro all
    refine ⟨all 1 last next Nat.one_pos (by simpa using first_last) (by simpa using first_next),
      ?_⟩
    intro k before behind positive found_last found_next
    obtain ⟨k, rfl⟩ := Nat.exists_eq_succ_of_ne_zero positive.ne'
    have inside : 0 < (k + 1) * size := Nat.mul_pos (Nat.succ_pos k) size_pos
    apply all (k + 2) before behind (by omega)
    · rw [shift, Nat.add_sub_assoc inside, after]
      exact found_last
    · rw [shift, after]
      exact found_next
  · rintro ⟨first, others⟩ k before behind positive found_last found_next
    obtain ⟨k, rfl⟩ := Nat.exists_eq_succ_of_ne_zero positive.ne'
    cases k with
    | zero =>
        simp only [Nat.succ_eq_add_one, zero_add, one_mul] at found_last found_next
        obtain rfl := Option.some.inj (first_last.symm.trans found_last)
        obtain rfl := Option.some.inj (first_next.symm.trans found_next)
        exact first
    | succ k =>
        have inside : 0 < (k + 1) * size := Nat.mul_pos (Nat.succ_pos k) size_pos
        simp only [Nat.succ_eq_add_one] at found_last found_next
        rw [shift, Nat.add_sub_assoc inside, after] at found_last
        rw [shift, after] at found_next
        exact others (k + 1) before behind (by omega) found_last found_next

/-- A list is one page, or a full page with more behind it. -/
theorem page_cases {size : ℕ} (positive : 0 < size) (items : List α) :
    items.length ≤ size ∨ ∃ page last next rest,
      items = page ++ last :: next :: rest ∧ (page ++ [last]).length = size := by
  by_cases short : items.length ≤ size
  · exact .inl short
  · right
    have inside : size - 1 < items.length := by omega
    have behind : size < items.length := by omega
    refine ⟨items.take (size - 1), items[size - 1], items[size], items.drop (size + 1), ?_, ?_⟩
    · have first := List.drop_eq_getElem_cons inside
      have second := List.drop_eq_getElem_cons behind
      have step : size - 1 + 1 = size := by omega
      rw [step] at first
      rw [← second, ← first, List.take_append_drop]
    · simp only [List.length_append, List.length_take, List.length_singleton]
      omega

section Sorted

variable {lt : α → α → Prop} [DecidableRel lt]

/-- A strict order by a key: what comes after an item comes after all that are not
after it. -/
structure Ordered (lt : α → α → Prop) : Prop where
  irrefl : ∀ a, ¬lt a a
  trans : ∀ a b c, lt a b → ¬lt c b → lt a c

/-- What comes after an item of a sorted list is an end of the list. -/
theorem after_suffix (ordered : Ordered lt) (last : α) {items : List α}
    (sorted : items.Pairwise (fun a b => ¬lt b a)) :
    items.filter (fun a => lt last a) <:+ items := by
  induction items with
  | nil => simp
  | cons item items ih =>
      obtain ⟨first, rest⟩ := List.pairwise_cons.mp sorted
      by_cases behind : lt last item
      · have all : ∀ a ∈ item :: items, decide (lt last a) = true := by
          intro a member
          obtain rfl | later := List.mem_cons.mp member
          · simpa using behind
          · simpa using ordered.trans last item a behind (first a later)
        rw [List.filter_eq_self.mpr all]
      · rw [List.filter_cons_of_neg (by simpa using behind)]
        exact (ih rest).trans (List.suffix_cons _ _)

/-- Nothing up to an item comes after it. -/
theorem after_eq (ordered : Ordered lt) {done rest : List α} {last : α}
    (sorted : (done ++ last :: rest).Pairwise (fun a b => ¬lt b a)) :
    (done ++ last :: rest).filter (fun a => lt last a) =
      rest.filter (fun a => lt last a) := by
  obtain ⟨-, -, across⟩ := List.pairwise_append.mp sorted
  have before : done.filter (fun a => lt last a) = [] := by
    rw [List.filter_eq_nil_iff]
    intro a member
    simpa using across a member last List.mem_cons_self
  rw [List.filter_append, before, List.nil_append,
    List.filter_cons_of_neg (by simpa using ordered.irrefl last)]

/-- All of it comes after an item where the first does. -/
theorem after_first (ordered : Ordered lt) {last next : α} {rest : List α}
    (behind : lt last next) (sorted : (next :: rest).Pairwise (fun a b => ¬lt b a)) :
    (next :: rest).filter (fun a => lt last a) = next :: rest := by
  rw [List.filter_eq_self]
  intro a member
  obtain rfl | later := List.mem_cons.mp member
  · simpa using behind
  · simpa using ordered.trans last next a behind (List.rel_of_pairwise_cons sorted later)

end Sorted

end Pages
