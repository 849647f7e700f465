import Mathlib.Data.List.Chain
import Mathlib.Data.List.Induction

/-!
# Segments of a list

A loop over a list that puts each item into the open segment, or closes it and opens
another one.  The segments hold the items in their order.
-/

namespace Segments

universe u v

variable {α : Type u} {β : Type v} (start : α → β) (extend : β → α → β)
  (joins : β → α → Prop) [∀ segment item, Decidable (joins segment item)]

/-- From the closed segments and the open one. -/
def step (state : List β × Option β) (item : α) : List β × Option β :=
  match state with
  | (closed, none) => (closed, some (start item))
  | (closed, some segment) =>
      if joins segment item then (closed, some (extend segment item))
      else (closed ++ [segment], some (start item))

def close (state : List β × Option β) : List β :=
  state.1 ++ state.2.toList

def segments (items : List α) : List β :=
  close (items.foldl (step start extend joins) ([], none))

/-- An item joins the open segment or closes it. -/
theorem step_some (closed : List β) (segment : β) (item : α) :
    step start extend joins (closed, some segment) item =
      if joins segment item then (closed, some (extend segment item))
      else (closed ++ [segment], some (start item)) := rfl

theorem segments_concat (items : List α) (item : α) :
    segments start extend joins (items ++ [item]) =
      close (step start extend joins
        (items.foldl (step start extend joins) ([], none)) item) :=
  congrArg close (List.foldl_concat (step start extend joins) ([], none) item items)

section Members

variable {start extend joins} {members : β → List α}
  (first : ∀ item, members (start item) = [item])
  (more : ∀ segment item, members (extend segment item) = members segment ++ [item])

include first more

theorem flatMap_step (state : List β × Option β) (item : α) :
    (close (step start extend joins state item)).flatMap members =
      (close state).flatMap members ++ [item] := by
  obtain ⟨closed, current⟩ := state
  cases current with
  | none => simp [step, close, first]
  | some segment =>
      rw [step_some]
      split
      · simp [close, more]
      · simp [close, first]

/-- Together the segments hold all items, one after the other. -/
theorem flatMap_segments (items : List α) :
    (segments start extend joins items).flatMap members = items := by
  induction items using List.reverseRecOn with
  | nil => rfl
  | append_singleton items item ih =>
      rw [segments_concat, flatMap_step first more]
      exact congrArg (· ++ [item]) ih

end Members

section Invariant

variable {start extend joins} {P : β → Prop} {items : List α}

theorem forall_close {closed : List β} {segment : β} :
    (∀ other ∈ close (closed, some segment), P other) ↔
      (∀ other ∈ closed, P other) ∧ P segment := by
  rw [close, List.forall_mem_append]
  exact and_congr_right' List.forall_mem_singleton

theorem forall_step {state : List β × Option β} {item : α}
    (first : P (start item))
    (more : ∀ segment, joins segment item → P segment → P (extend segment item))
    (before : ∀ segment ∈ close state, P segment) :
    ∀ segment ∈ close (step start extend joins state item), P segment := by
  obtain ⟨closed, current⟩ := state
  cases current with
  | none =>
      have earlier : ∀ segment ∈ closed, P segment :=
        fun segment member => before segment (List.mem_append_left _ member)
      exact forall_close.mpr ⟨earlier, first⟩
  | some current =>
      obtain ⟨earlier, last⟩ := forall_close.mp before
      rw [step_some]
      split
      case isTrue joined => exact forall_close.mpr ⟨earlier, more current joined last⟩
      case isFalse => exact forall_close.mpr ⟨before, first⟩

/-- What holds of a new segment and is kept when an item joins holds of all segments. -/
theorem forall_segments (first : ∀ item ∈ items, P (start item))
    (more : ∀ item ∈ items, ∀ segment, joins segment item → P segment →
      P (extend segment item)) :
    ∀ segment ∈ segments start extend joins items, P segment := by
  induction items using List.reverseRecOn with
  | nil =>
      intro segment member
      cases member
  | append_singleton items item ih =>
      have last : item ∈ items ++ [item] := List.mem_append_right _ List.mem_cons_self
      have before := ih (fun item member => first item (List.mem_append_left _ member))
        (fun item member => more item (List.mem_append_left _ member))
      rw [segments_concat]
      exact forall_step (first item last) (more item last) before

end Invariant

/-! ## From the first item on -/

/-- The open segment and those that come after it. -/
def following (segment : β) : List α → List β
  | [] => [segment]
  | item :: items =>
      if joins segment item then following (extend segment item) items
      else segment :: following (start item) items

theorem following_cons (segment : β) (item : α) (items : List α) :
    following start extend joins segment (item :: items) =
      if joins segment item then following start extend joins (extend segment item) items
      else segment :: following start extend joins (start item) items := rfl

theorem close_foldl_step (closed : List β) (segment : β) (items : List α) :
    close (items.foldl (step start extend joins) (closed, some segment)) =
      closed ++ following start extend joins segment items := by
  induction items generalizing closed segment with
  | nil => rfl
  | cons item items ih =>
      rw [List.foldl_cons, step_some, following_cons]
      split
      · exact ih closed (extend segment item)
      · rw [ih, List.append_assoc]
        rfl

theorem segments_cons (item : α) (items : List α) :
    segments start extend joins (item :: items) =
      following start extend joins (start item) items :=
  close_foldl_step start extend joins [] (start item) items

section Boundaries

variable {start extend joins} {head : β → α} (first : ∀ item, head (start item) = item)
  (kept : ∀ segment item, head (extend segment item) = head segment)

include kept

theorem exists_following_eq_cons (segment : β) (items : List α) :
    ∃ opened rest, following start extend joins segment items = opened :: rest ∧
      head opened = head segment := by
  induction items generalizing segment with
  | nil => exact ⟨segment, [], rfl, rfl⟩
  | cons item items ih =>
      rw [following_cons]
      split
      · obtain ⟨opened, rest, same, from_first⟩ := ih (extend segment item)
        exact ⟨opened, rest, same, from_first.trans (kept segment item)⟩
      · exact ⟨segment, _, rfl, rfl⟩

include first

/-- The first item of a segment did not join the segment before. -/
theorem isChain_following (segment : β) (items : List α) :
    (following start extend joins segment items).IsChain
      (fun segment next => ¬joins segment (head next)) := by
  induction items generalizing segment with
  | nil => exact .singleton segment
  | cons item items ih =>
      rw [following_cons]
      split
      case isTrue => exact ih (extend segment item)
      case isFalse refused =>
        obtain ⟨opened, rest, same, from_first⟩ : ∃ opened rest,
            following start extend joins (start item) items = opened :: rest ∧
              head opened = head (start item) :=
          exists_following_eq_cons kept (start item) items
        have rest_chain := ih (start item)
        rw [same] at rest_chain ⊢
        refine .cons_cons ?_ rest_chain
        rw [from_first, first]
        exact refused

theorem isChain_segments (items : List α) :
    (segments start extend joins items).IsChain
      (fun segment next => ¬joins segment (head next)) := by
  cases items with
  | nil => exact .nil
  | cons item items =>
      rw [segments_cons]
      exact isChain_following first kept (start item) items

end Boundaries

end Segments
