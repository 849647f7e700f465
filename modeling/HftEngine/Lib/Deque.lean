import Mathlib.Data.Int.Basic
import Mathlib.Data.List.Basic

/-!
# Deques with a greatest length

A deque that is full drops its first element when one is appended.
-/

/-- The elements of a deque, never more than its greatest length. -/
structure Deque (α : Type*) where
  items : List α
  maxlen : ℕ
  bounded : items.length ≤ maxlen

namespace Deque

variable {α : Type*}

def empty (maxlen : ℕ) : Deque α where
  items := []
  maxlen := maxlen
  bounded := Nat.zero_le maxlen

def append (a : α) (deque : Deque α) : Deque α where
  items := (deque.items ++ [a]).drop (deque.items.length + 1 - deque.maxlen)
  maxlen := deque.maxlen
  bounded := by
    simp only [List.length_drop, List.length_append, List.length_singleton]
    omega

def clear (deque : Deque α) : Deque α :=
  .empty deque.maxlen

/-- Take elements from the left while there are some and the count is positive. -/
def drain : ℤ → List α → List α × List α
  | _, [] => ([], [])
  | remaining, a :: items =>
      if 0 < remaining then
        let (taken, rest) := drain (remaining - 1) items
        (a :: taken, rest)
      else ([], a :: items)

/-- Nothing is dropped where there is room. -/
theorem items_append {deque : Deque α} (room : deque.items.length < deque.maxlen) (a : α) :
    (deque.append a).items = deque.items ++ [a] := by
  have none_over : deque.items.length + 1 - deque.maxlen = 0 := Nat.sub_eq_zero_of_le room
  simp only [append, none_over, List.drop_zero]

/-- One more item of what is drained. -/
theorem drain_cons (remaining : ℤ) (a : α) (items : List α) :
    drain remaining (a :: items) =
      if 0 < remaining then
        (a :: (drain (remaining - 1) items).1, (drain (remaining - 1) items).2)
      else ([], a :: items) := rfl

theorem drain_append (remaining : ℤ) (items : List α) :
    (drain remaining items).1 ++ (drain remaining items).2 = items := by
  induction items generalizing remaining with
  | nil => rfl
  | cons a items ih =>
      rw [drain_cons]
      split
      case isTrue => exact congrArg (a :: ·) (ih (remaining - 1))
      case isFalse => rfl

theorem length_drain_le (remaining : ℤ) (items : List α) :
    (drain remaining items).1.length ≤ remaining.toNat := by
  induction items generalizing remaining with
  | nil => exact Nat.zero_le _
  | cons a items ih =>
      rw [drain_cons]
      split
      case isTrue positive =>
          have shorter := ih (remaining - 1)
          simp only [List.length_cons]
          omega
      case isFalse => exact Nat.zero_le _

/-- Elements stay only when as many as wanted have been taken. -/
theorem length_drain_of_rest {remaining : ℤ} {items : List α}
    (rest : (drain remaining items).2 ≠ []) :
    (drain remaining items).1.length = remaining.toNat := by
  induction items generalizing remaining with
  | nil => contradiction
  | cons a items ih =>
      rw [drain_cons] at rest ⊢
      split
      case isTrue positive =>
          rw [if_pos positive] at rest
          have taken := ih rest
          simp only [List.length_cons]
          omega
      case isFalse none_wanted =>
          simp only [List.length_nil]
          omega

/-- Take at most so many elements from the left. -/
def pop (remaining : ℤ) (deque : Deque α) : List α × Deque α :=
  ((drain remaining deque.items).1,
    { items := (drain remaining deque.items).2
      maxlen := deque.maxlen
      bounded := by
        have all := congrArg List.length (drain_append remaining deque.items)
        rw [List.length_append] at all
        have within := deque.bounded
        omega })

end Deque
