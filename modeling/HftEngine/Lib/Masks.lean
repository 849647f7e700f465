import Mathlib.Data.List.Basic

/-!
# Masked arrays

`xs[mask]` selects items and `xs[mask] = values` puts values in their places.  Over
one list of items, with every array a function of its items, the two are a filter
and a case distinction.
-/

namespace Masks

universe u v

variable {α : Type u} {β : Type v}

/-- `xs[mask]`. -/
def select : List Bool → List β → List β
  | true :: mask, x :: xs => x :: select mask xs
  | false :: mask, _ :: xs => select mask xs
  | _, _ => []

/-- `xs[mask] = values`. -/
def assign : List Bool → List β → List β → List β
  | true :: mask, value :: values, _ :: xs => value :: assign mask values xs
  | false :: mask, values, x :: xs => x :: assign mask values xs
  | _, _, xs => xs

theorem select_map (p : α → Bool) (f : α → β) (items : List α) :
    select (items.map p) (items.map f) = (items.filter p).map f := by
  induction items with
  | nil => rfl
  | cons item items ih =>
      by_cases chosen : p item
      · simp [select, chosen, ih]
      · simp [select, chosen, ih]

theorem assign_map (p : α → Bool) (f g : α → β) (items : List α) :
    assign (items.map p) ((items.filter p).map f) (items.map g) =
      items.map (fun item => if p item then f item else g item) := by
  induction items with
  | nil => rfl
  | cons item items ih =>
      by_cases chosen : p item
      · simp [assign, chosen, ih]
      · simp [assign, chosen, ih]

end Masks
