import Mathlib.Data.List.Forall2

/-!
# Maps that may fail

`mapM` with `Option` or `Except` over a list: it succeeds when every entry does, and its
results correspond to the entries in order.
-/

universe u v

namespace Traversal

variable {α : Type u} {β : Type u} {f : α → Option β} {xs : List α}

theorem mapM_eq_some {ys : List β} :
    xs.mapM f = some ys ↔ List.Forall₂ (fun x y => f x = some y) xs ys := by
  induction xs generalizing ys with
  | nil =>
      rw [List.mapM_nil, List.forall₂_nil_left_iff]
      exact Option.some_inj.trans eq_comm
  | cons x xs ih =>
      rw [List.mapM_cons, List.forall₂_cons_left_iff]
      simp only [Option.bind_eq_bind, Option.bind_eq_some_iff, ih]
      constructor
      · rintro ⟨y, first, rest, others, same⟩
        exact ⟨y, rest, first, others, (Option.some.inj same).symm⟩
      · rintro ⟨y, rest, first, others, rfl⟩
        exact ⟨y, first, rest, others, rfl⟩

theorem mapM_cons_eq_some {x : α} {ys : List β} (mapped : (x :: xs).mapM f = some ys) :
    ∃ y rest, f x = some y ∧ xs.mapM f = some rest ∧ ys = y :: rest := by
  obtain ⟨y, rest, first, others, same⟩ :=
    List.forall₂_cons_left_iff.mp (mapM_eq_some.mp mapped)
  exact ⟨y, rest, first, mapM_eq_some.mpr others, same⟩

/-- Every entry on the right corresponds to one on the left. -/
theorem exists_left {ys : List β} {relation : α → β → Prop}
    (related : List.Forall₂ relation xs ys) {y : β} (member : y ∈ ys) :
    ∃ x ∈ xs, relation x y := by
  induction related with
  | nil => cases member
  | cons first _ ih =>
      rcases List.mem_cons.mp member with rfl | later
      · exact ⟨_, List.mem_cons_self, first⟩
      · obtain ⟨x, among, read⟩ := ih later
        exact ⟨x, List.mem_cons_of_mem _ among, read⟩

theorem exists_right {ys : List β} {relation : α → β → Prop}
    (related : List.Forall₂ relation xs ys) {x : α} (member : x ∈ xs) :
    ∃ y ∈ ys, relation x y :=
  exists_left related.flip member

theorem mem_of_mapM {ys : List β} (mapped : xs.mapM f = some ys) (y : β) :
    y ∈ ys ↔ ∃ x ∈ xs, f x = some y := by
  have each := mapM_eq_some.mp mapped
  constructor
  · exact exists_left each
  · rintro ⟨x, among, read⟩
    obtain ⟨other, member, same⟩ := exists_right each among
    obtain rfl := Option.some.inj (read.symm.trans same)
    exact member

theorem mapM_isSome : (∃ ys, xs.mapM f = some ys) ↔ ∀ x ∈ xs, (f x).isSome := by
  induction xs with
  | nil => simp
  | cons x xs ih =>
      rw [List.forall_mem_cons, ← ih, List.mapM_cons, Option.isSome_iff_exists]
      simp only [Option.bind_eq_bind, Option.bind_eq_some_iff]
      constructor
      · rintro ⟨_, y, first, rest, others, -⟩
        exact ⟨⟨y, first⟩, rest, others⟩
      · rintro ⟨⟨y, first⟩, rest, others⟩
        exact ⟨y :: rest, y, first, rest, others, rfl⟩

theorem mapM_eq_map {g : α → β} :
    xs.mapM f = some (xs.map g) ↔ ∀ x ∈ xs, f x = some (g x) := by
  rw [mapM_eq_some, List.forall₂_map_right_iff, List.forall₂_same]

/-- Where entries correspond, a relation between them that only depends on the left one
is a property of the entries on the left. -/
theorem forall₂_iff {ys : List β} {computed relation : α → β → Prop} {property : α → Prop}
    (related : List.Forall₂ computed xs ys)
    (same : ∀ x y, computed x y → (relation x y ↔ property x)) :
    List.Forall₂ relation xs ys ↔ ∀ x ∈ xs, property x := by
  induction related with
  | nil => simp
  | cons first _ ih => rw [List.forall₂_cons, List.forall_mem_cons, ih, same _ _ first]

section Except

variable {ε : Type v} {g : α → Except ε β}

theorem mapM_ok_iff {ys : List β} :
    xs.mapM g = .ok ys ↔ List.Forall₂ (fun x y => g x = .ok y) xs ys := by
  induction xs generalizing ys with
  | nil =>
      rw [List.mapM_nil, List.forall₂_nil_left_iff]
      constructor
      · intro same
        exact (Except.ok.inj same).symm
      · rintro rfl
        rfl
  | cons x xs ih =>
      rw [List.mapM_cons, List.forall₂_cons_left_iff]
      cases first : g x with
      | error => simp [bind, Except.bind]
      | ok y =>
          constructor
          · intro mapped
            cases others : xs.mapM g with
            | error =>
                rw [others] at mapped
                cases mapped
            | ok rest =>
                rw [others] at mapped
                exact ⟨y, rest, rfl, ih.mp others, (Except.ok.inj mapped).symm⟩
          · rintro ⟨z, rest, same, others, rfl⟩
            obtain rfl := Except.ok.inj same
            rw [ih.mpr others]
            rfl

theorem mem_of_mapM_ok {ys : List β} (mapped : xs.mapM g = .ok ys) (y : β) :
    y ∈ ys ↔ ∃ x ∈ xs, g x = .ok y := by
  have each := mapM_ok_iff.mp mapped
  constructor
  · exact exists_left each
  · rintro ⟨x, among, read⟩
    obtain ⟨other, member, same⟩ := exists_right each among
    obtain rfl := Except.ok.inj (read.symm.trans same)
    exact member

theorem mapM_returns_iff : (∃ ys, xs.mapM g = .ok ys) ↔ ∀ x ∈ xs, ∃ y, g x = .ok y := by
  induction xs with
  | nil =>
      constructor
      · exact fun _ => nofun
      · exact fun _ => ⟨[], rfl⟩
  | cons x xs ih =>
      simp only [mapM_ok_iff, List.forall₂_cons_left_iff, List.forall_mem_cons, ← ih]
      constructor
      · rintro ⟨_, y, rest, first, others, -⟩
        exact ⟨⟨y, first⟩, rest, others⟩
      · rintro ⟨⟨y, first⟩, rest, others⟩
        exact ⟨y :: rest, y, rest, first, others, rfl⟩

end Except

/-! ## Items left out -/

section Filter

variable {α β : Type u} {ε : Type v}

theorem flatMap_filter_length_le (f : α → List β) (keep : α → Bool) (xs : List α) :
    ((xs.filter keep).flatMap f).length ≤ (xs.flatMap f).length := by
  induction xs with
  | nil => exact Nat.le_refl 0
  | cons x xs ih =>
      cases kept : keep x with
      | false =>
          rw [List.filter_cons_of_neg (by simp [kept]), List.flatMap_cons,
            List.length_append]
          exact Nat.le_add_left_of_le ih
      | true =>
          rw [List.filter_cons_of_pos kept, List.flatMap_cons, List.flatMap_cons,
            List.length_append, List.length_append]
          exact Nat.add_le_add_left ih _

/-- Items can be left out exactly when they contribute nothing. -/
theorem flatMap_filter_eq_iff (f : α → List β) (keep : α → Bool) (xs : List α) :
    (xs.filter keep).flatMap f = xs.flatMap f ↔
      ∀ x ∈ xs, keep x = false → f x = [] := by
  induction xs with
  | nil => simp
  | cons x xs ih =>
      rw [List.forall_mem_cons, ← ih]
      cases kept : keep x with
      | false =>
          rw [List.filter_cons_of_neg (by simp [kept]), List.flatMap_cons]
          constructor
          · intro same
            have shorter := flatMap_filter_length_le f keep xs
            have empty : f x = [] := by
              rw [same, List.length_append] at shorter
              exact List.length_eq_zero_iff.mp (by omega)
            rw [empty] at same
            exact ⟨fun _ => empty, same⟩
          · rintro ⟨empty, same⟩
            rw [empty rfl, same]
            rfl
      | true =>
          rw [List.filter_cons_of_pos kept, List.flatMap_cons, List.flatMap_cons,
            List.append_cancel_left_eq]
          simp

variable {g : α → Except ε (List β)}

theorem flatten_mapM_toOption (xs : List α) :
    (List.flatten <$> xs.mapM g).toOption = none ∧ (∃ x ∈ xs, ∃ error, g x = .error error) ∨
      (∀ x ∈ xs, g x = .ok ((g x).toOption.getD [])) ∧
        (List.flatten <$> xs.mapM g).toOption =
          some (xs.flatMap (fun x => (g x).toOption.getD [])) := by
  by_cases fails : ∃ x ∈ xs, ∃ error, g x = .error error
  · left
    refine ⟨?_, fails⟩
    cases mapped : xs.mapM g with
    | error => rfl
    | ok ys =>
        obtain ⟨x, listed, error, raised⟩ := fails
        obtain ⟨y, returned⟩ := mapM_returns_iff.mp ⟨ys, mapped⟩ x listed
        rw [raised] at returned
        exact nomatch returned
  · right
    have each : ∀ x ∈ xs, g x = .ok ((g x).toOption.getD []) := by
      intro x listed
      cases returned : g x with
      | ok => rfl
      | error error => exact absurd ⟨x, listed, error, returned⟩ fails
    have mapped : xs.mapM g = .ok (xs.map (fun x => (g x).toOption.getD [])) := by
      rw [mapM_ok_iff, List.forall₂_map_right_iff]
      exact List.forall₂_same.mpr each
    refine ⟨each, ?_⟩
    rw [mapped]
    simp [Except.toOption, List.flatMap_def]

/-- Items can be left out exactly when one that stays fails, or none of them
fails or contributes anything. -/
theorem flatten_mapM_filter_iff (keep : α → Bool) (xs : List α) :
    (List.flatten <$> (xs.filter keep).mapM g).toOption =
        (List.flatten <$> xs.mapM g).toOption ↔
      (∃ x ∈ xs, keep x = true ∧ ∃ error, g x = .error error) ∨
        ∀ x ∈ xs, keep x = false → g x = .ok [] := by
  have kept_fails : (List.flatten <$> (xs.filter keep).mapM g).toOption = none ↔
      ∃ x ∈ xs, keep x = true ∧ ∃ error, g x = .error error := by
    obtain ⟨part, x, listed, raised⟩ | ⟨each, part⟩ := flatten_mapM_toOption (xs.filter keep)
    · obtain ⟨listed, kept⟩ := List.mem_filter.mp listed
      exact iff_of_true part ⟨x, listed, kept, raised⟩
    · refine iff_of_false (part ▸ Option.some_ne_none _) ?_
      rintro ⟨x, listed, kept, error, raised⟩
      have returned := each x (List.mem_filter.mpr ⟨listed, kept⟩)
      rw [raised] at returned
      exact nomatch returned
  obtain ⟨whole, x, listed, error, raised⟩ | ⟨each, whole⟩ := flatten_mapM_toOption xs
  · rw [whole, kept_fails]
    constructor
    · exact .inl
    · rintro (fails | empty)
      · exact fails
      · cases kept : keep x with
        | true => exact ⟨x, listed, kept, error, raised⟩
        | false =>
            have returned := empty x listed kept
            rw [raised] at returned
            exact nomatch returned
  · have unfailing : ¬∃ x ∈ xs, keep x = true ∧ ∃ error, g x = .error error := by
      rintro ⟨x, listed, _, error, raised⟩
      have returned := each x listed
      rw [raised] at returned
      exact nomatch returned
    obtain ⟨part, _⟩ | ⟨_, part⟩ := flatten_mapM_toOption (g := g) (xs.filter keep)
    · exact absurd (kept_fails.mp part) unfailing
    · rw [whole, part, Option.some.injEq, flatMap_filter_eq_iff, or_iff_right unfailing]
      refine forall₂_congr fun x listed => imp_congr_right fun _ => ?_
      constructor
      · intro empty
        rw [each x listed, empty]
      · intro returned
        rw [returned]
        rfl

end Filter

end Traversal
