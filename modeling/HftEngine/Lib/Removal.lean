import Mathlib.Data.List.DropRight
import Mathlib.Data.List.Infix
import Mathlib.Data.List.ReduceOption

/-!
# Removing sequences from a text

One pass from left to right removes each occurrence of a sequence that does not
overlap one before it.  A sequence that is in what is left was in the text, or its
parts were torn apart by occurrences that are gone.
-/

namespace Removal

universe u

variable {α : Type u}

/-! ## Texts with holes -/

/-- The parts of a sequence on the two sides of a hole. -/
def Torn (sequence : List α) (marks : List (Option α)) : Prop :=
  ∃ left right between, left ≠ [] ∧ right ≠ [] ∧ left ++ right = sequence ∧
    between.reduceOption = right ∧ left.map some ++ none :: between <:+: marks

theorem Torn.of_infix {sequence : List α} {marks more : List (Option α)}
    (torn : Torn sequence marks) (among : marks <:+: more) : Torn sequence more := by
  obtain ⟨left, right, between, left_filled, right_filled, whole, reduced, inside⟩ := torn
  exact ⟨left, right, between, left_filled, right_filled, whole, reduced,
    inside.trans among⟩

/-- Marks without a hole, or up to the first one. -/
theorem holes_cases (marks : List (Option α)) :
    (∃ items : List α, marks = items.map some) ∨
      ∃ (items : List α) (rest : List (Option α)), marks = items.map some ++ none :: rest := by
  induction marks with
  | nil => exact .inl ⟨[], rfl⟩
  | cons mark marks ih =>
      cases mark with
      | none => exact .inr ⟨[], marks, rfl⟩
      | some c =>
          rcases ih with ⟨items, rfl⟩ | ⟨items, rest, rfl⟩
          · exact .inl ⟨c :: items, rfl⟩
          · exact .inr ⟨c :: items, rest, rfl⟩

theorem whole_or_torn {marks : List (Option α)} (filled : marks.reduceOption ≠ []) :
    marks.reduceOption.map some <:+: marks ∨ Torn marks.reduceOption marks := by
  induction marks with
  | nil => exact absurd rfl filled
  | cons mark marks ih =>
      cases mark with
      | none =>
          rw [List.reduceOption_cons_of_none] at filled ⊢
          have longer : marks <:+: none :: marks := List.infix_cons List.infix_rfl
          exact (ih filled).imp (fun whole => whole.trans longer)
            (fun torn => torn.of_infix longer)
      | some c =>
          rw [List.reduceOption_cons_of_some]
          rcases holes_cases marks with ⟨items, rfl⟩ | ⟨items, rest, rfl⟩
          · left
            rw [List.reduceOption, List.filterMap_map]
            simp
          · have kept : (items.map some ++ none :: rest).reduceOption =
                items ++ rest.reduceOption := by
              rw [List.reduceOption_append, List.reduceOption_cons_of_none]
              simp [List.reduceOption, List.filterMap_map]
            rw [kept]
            by_cases last : rest.reduceOption = []
            · left
              rw [last, List.append_nil]
              exact List.IsPrefix.isInfix (List.prefix_append (some c :: items.map some) _)
            · right
              exact ⟨c :: items, rest.reduceOption, rest, List.cons_ne_nil _ _, last, rfl,
                rfl, List.infix_rfl⟩

theorem infix_reduceOption_iff {sequence : List α} (filled : sequence ≠ [])
    {marks : List (Option α)} :
    sequence <:+: marks.reduceOption ↔
      sequence.map some <:+: marks ∨ Torn sequence marks := by
  constructor
  · rintro ⟨before, after, split⟩
    obtain ⟨start, last, rfl, start_left, -⟩ :=
      (List.reduceOption_eq_append_iff _ _ _).mp split.symm
    obtain ⟨first, middle, rfl, -, rfl⟩ :=
      (List.reduceOption_eq_append_iff _ _ _).mp start_left
    have among : middle <:+: first ++ middle ++ last := ⟨first, last, rfl⟩
    exact (whole_or_torn filled).imp (fun whole => whole.trans among)
      (fun torn => torn.of_infix among)
  · rintro (whole | ⟨left, right, between, -, -, rfl, rfl, inside⟩)
    · have kept : (sequence.map some).reduceOption <:+: marks.reduceOption :=
        whole.filterMap id
      simpa [List.reduceOption, List.filterMap_map] using kept
    · have kept : (left.map some ++ none :: between).reduceOption <:+: marks.reduceOption :=
        inside.filterMap id
      rw [List.reduceOption_append, List.reduceOption_cons_of_none] at kept
      simpa [List.reduceOption, List.filterMap_map] using kept

theorem flatMap_map_some (sequence items : List α) :
    (items.map some).flatMap (fun mark => mark.elim sequence (fun c => [c])) = items := by
  rw [List.flatMap_map]
  exact List.flatMap_singleton' items

/-! ## Trimming -/

section Trim

variable (blank : α → Bool)

/-- The text without the blank items at its ends. -/
def trim (text : List α) : List α :=
  (text.dropWhile blank).rdropWhile blank

variable {blank}

theorem infix_dropWhile_iff {sequence : List α} (filled : sequence ≠ [])
    (solid : ∀ c ∈ sequence, blank c = false) {text : List α} :
    sequence <:+: text.dropWhile blank ↔ sequence <:+: text := by
  constructor
  · exact fun inside => inside.trans (List.dropWhile_suffix blank).isInfix
  · intro inside
    induction text with
    | nil => exact inside
    | cons c rest ih =>
        rw [List.dropWhile_cons]
        split
        case isFalse => exact inside
        case isTrue gone =>
            rcases List.infix_cons_iff.mp inside with starts | later
            · obtain ⟨first, others, rfl⟩ := List.exists_cons_of_ne_nil filled
              obtain ⟨after, split⟩ := starts
              obtain ⟨rfl, -⟩ := List.cons.inj split
              rw [solid first List.mem_cons_self] at gone
              cases gone
            · exact ih later

theorem infix_trim_iff {sequence : List α} (filled : sequence ≠ [])
    (solid : ∀ c ∈ sequence, blank c = false) {text : List α} :
    sequence <:+: trim blank text ↔ sequence <:+: text := by
  have solid_reverse : ∀ c ∈ sequence.reverse, blank c = false :=
    fun c member => solid c (List.mem_reverse.mp member)
  rw [trim, List.rdropWhile, ← List.reverse_infix, List.reverse_reverse,
    infix_dropWhile_iff (List.reverse_ne_nil_iff.mpr filled) solid_reverse,
    List.reverse_infix, infix_dropWhile_iff filled solid]

theorem trim_trim (text : List α) : trim blank (trim blank text) = trim blank text := by
  have start : (trim blank text).dropWhile blank = trim blank text := by
    cases left : trim blank text with
    | nil => rfl
    | cons c rest =>
        have starts : trim blank text <+: text.dropWhile blank :=
          List.rdropWhile_prefix blank _
        rw [left] at starts
        obtain ⟨after, split⟩ := starts
        have head := List.head?_dropWhile_not blank text
        rw [← split] at head
        exact List.dropWhile_cons_of_neg (Bool.not_eq_true _ ▸ head)
  rw [trim, start]
  exact List.rdropWhile_idempotent blank _

end Trim

variable [DecidableEq α]

/-! ## One pass -/

/-- The pass where `skip` more items belong to an occurrence. -/
def removeFrom (sequence : List α) : ℕ → List α → List α
  | _, [] => []
  | skip + 1, _ :: rest => removeFrom sequence skip rest
  | 0, c :: rest =>
      if sequence <+: c :: rest then removeFrom sequence (sequence.length - 1) rest
      else c :: removeFrom sequence 0 rest

def remove (sequence text : List α) : List α :=
  removeFrom sequence 0 text

/-- One pass for each sequence. -/
def removeAll (sequences : List (List α)) (text : List α) : List α :=
  sequences.foldl (fun left sequence => remove sequence left) text

/-- The same pass with a hole for each occurrence. -/
def cutFrom (sequence : List α) : ℕ → List α → List (Option α)
  | _, [] => []
  | skip + 1, _ :: rest => cutFrom sequence skip rest
  | 0, c :: rest =>
      if sequence <+: c :: rest then none :: cutFrom sequence (sequence.length - 1) rest
      else some c :: cutFrom sequence 0 rest

def cut (sequence text : List α) : List (Option α) :=
  cutFrom sequence 0 text

/-- Some pass pulls the parts of `torn` together. -/
def PulledTogether (torn : List α) : List (List α) → List α → Prop
  | [], _ => False
  | sequence :: sequences, text =>
      Torn torn (cut sequence text) ∨ PulledTogether torn sequences (remove sequence text)

/-! ## Occurrences after one pass -/

theorem removeFrom_cons (sequence : List α) (c : α) (rest : List α) :
    removeFrom sequence 0 (c :: rest) =
      if sequence <+: c :: rest then removeFrom sequence (sequence.length - 1) rest
      else c :: removeFrom sequence 0 rest := rfl

theorem cutFrom_cons (sequence : List α) (c : α) (rest : List α) :
    cutFrom sequence 0 (c :: rest) =
      if sequence <+: c :: rest then none :: cutFrom sequence (sequence.length - 1) rest
      else some c :: cutFrom sequence 0 rest := rfl

theorem reduceOption_cutFrom (sequence : List α) (skip : ℕ) (text : List α) :
    (cutFrom sequence skip text).reduceOption = removeFrom sequence skip text := by
  induction text generalizing skip with
  | nil => cases skip <;> rfl
  | cons c rest ih =>
      cases skip with
      | succ skip => exact ih skip
      | zero =>
          rw [cutFrom_cons, removeFrom_cons]
          split
          · rw [List.reduceOption_cons_of_none, ih]
          · rw [List.reduceOption_cons_of_some, ih]

/-- Occurrences put back into their holes give the text. -/
theorem flatMap_cutFrom {sequence : List α} (filled : sequence ≠ []) (skip : ℕ)
    (text : List α) :
    (cutFrom sequence skip text).flatMap (fun mark => mark.elim sequence (fun c => [c])) =
      text.drop skip := by
  induction text generalizing skip with
  | nil => cases skip <;> rfl
  | cons c rest ih =>
      cases skip with
      | succ skip => exact ih skip
      | zero =>
          rw [cutFrom_cons]
          split
          case isTrue here =>
              obtain ⟨first, others, rfl⟩ := List.exists_cons_of_ne_nil filled
              obtain ⟨after, split⟩ := here
              obtain ⟨rfl, rfl⟩ := List.cons.inj split
              rw [List.flatMap_cons, ih]
              simp
          case isFalse =>
              rw [List.flatMap_cons, ih]
              rfl

/-- The pass leaves no occurrence whole. -/
theorem not_whole_self {sequence : List α} (filled : sequence ≠ []) (skip : ℕ)
    (text : List α) : ¬ sequence.map some <:+: cutFrom sequence skip text := by
  induction text generalizing skip with
  | nil =>
      have empty : cutFrom sequence skip [] = [] := by cases skip <;> rfl
      rw [empty, List.infix_nil, List.map_eq_nil_iff]
      exact filled
  | cons c rest ih =>
      cases skip with
      | succ skip => exact ih skip
      | zero =>
          have hole : ¬ sequence.map some <+: cutFrom sequence 0 (c :: rest) := by
            intro starts
            have back := starts.flatMap (fun mark => mark.elim sequence (fun c => [c]))
            rw [flatMap_map_some, flatMap_cutFrom filled, List.drop_zero] at back
            obtain ⟨first, others, rfl⟩ := List.exists_cons_of_ne_nil filled
            rw [cutFrom_cons, if_pos back] at starts
            simp [List.prefix_cons_iff] at starts
          rw [cutFrom_cons] at hole ⊢
          split at hole
          case isTrue here =>
              rw [if_pos here, List.infix_cons_iff, not_or]
              exact ⟨hole, ih _⟩
          case isFalse other =>
              rw [if_neg other, List.infix_cons_iff, not_or]
              exact ⟨hole, ih 0⟩

/-- Occurrences of the two never overlap. -/
structure Apart (sequence other : List α) : Prop where
  first : ∀ c ∈ other.take 1, c ∉ sequence
  start : ∀ c ∈ sequence.take 1, c ∉ other

instance (sequence other : List α) : Decidable (Apart sequence other) :=
  decidable_of_iff ((∀ c ∈ other.take 1, c ∉ sequence) ∧ ∀ c ∈ sequence.take 1, c ∉ other)
    ⟨fun both => ⟨both.1, both.2⟩, fun apart => ⟨apart.first, apart.start⟩⟩

omit [DecidableEq α] in
theorem not_prefix_of_start {sequence other : List α} (filled : sequence ≠ [])
    (apart : Apart sequence other) {c : α} (member : c ∈ other) (rest : List α) :
    ¬ sequence <+: c :: rest := by
  obtain ⟨first, others, rfl⟩ := List.exists_cons_of_ne_nil filled
  rintro ⟨after, split⟩
  obtain ⟨rfl, -⟩ := List.cons.inj split
  exact apart.start first (by simp) member

theorem cutFrom_append {sequence other : List α} (filled : sequence ≠ [])
    (apart : Apart sequence other) {part : List α} (among : ∀ c ∈ part, c ∈ other)
    (rest : List α) :
    cutFrom sequence 0 (part ++ rest) = part.map some ++ cutFrom sequence 0 rest := by
  induction part with
  | nil => rfl
  | cons c part ih =>
      obtain ⟨here, later⟩ := List.forall_mem_cons.mp among
      rw [List.cons_append, cutFrom_cons, if_neg (not_prefix_of_start filled apart here _), ih later]
      rfl

omit [DecidableEq α] in
/-- An occurrence without the item `c` that starts before it ends before it. -/
theorem length_le_of_prefix {sequence before rest : List α} {c : α}
    (here : sequence <+: before ++ c :: rest) (missing : c ∉ sequence) :
    sequence.length ≤ before.length := by
  by_contra long
  have inside : before.length < sequence.length := Nat.lt_of_not_le long
  have found : sequence[before.length] = c := by
    rw [here.getElem inside, List.getElem_append_right (Nat.le_refl _)]
    simp
  exact missing (found ▸ List.getElem_mem inside)

theorem whole_of_infix {sequence other : List α} (filled : sequence ≠ [])
    (apart : Apart sequence other) (other_filled : other ≠ []) (before rest : List α)
    {skip : ℕ} (short : skip ≤ before.length) :
    other.map some <:+: cutFrom sequence skip (before ++ (other ++ rest)) := by
  induction before generalizing skip with
  | nil =>
      obtain rfl := Nat.le_zero.mp short
      rw [List.nil_append, cutFrom_append filled apart (fun c member => member)]
      exact (List.prefix_append _ _).isInfix
  | cons c before ih =>
      cases skip with
      | succ skip => exact ih (Nat.le_of_succ_le_succ short)
      | zero =>
          rw [List.cons_append, cutFrom_cons]
          split
          case isTrue here =>
              obtain ⟨first, others, rfl⟩ := List.exists_cons_of_ne_nil other_filled
              have ends : sequence.length ≤ (c :: before).length :=
                length_le_of_prefix here (apart.first first (by simp))
              rw [List.length_cons] at ends
              exact List.infix_cons (ih (by omega))
          case isFalse => exact List.infix_cons (ih (Nat.zero_le _))

theorem infix_of_whole {sequence other : List α} (filled : sequence ≠ []) {text : List α}
    (whole : other.map some <:+: cut sequence text) : other <:+: text := by
  have back := whole.flatMap (fun mark => mark.elim sequence (fun c => [c]))
  rw [flatMap_map_some, cut, flatMap_cutFrom filled, List.drop_zero] at back
  exact back

theorem infix_remove_iff {sequence other : List α} (other_filled : other ≠ [])
    {text : List α} :
    other <:+: remove sequence text ↔
      other.map some <:+: cut sequence text ∨ Torn other (cut sequence text) := by
  rw [remove, ← reduceOption_cutFrom, infix_reduceOption_iff other_filled]
  rfl

theorem infix_remove_apart_iff {sequence other : List α} (filled : sequence ≠ [])
    (apart : Apart sequence other) (other_filled : other ≠ []) {text : List α} :
    other <:+: remove sequence text ↔ other <:+: text ∨ Torn other (cut sequence text) := by
  rw [infix_remove_iff other_filled]
  constructor
  · exact fun left => left.imp_left (infix_of_whole filled)
  · rintro (⟨before, rest, rfl⟩ | torn)
    · left
      rw [List.append_assoc]
      exact whole_of_infix filled apart other_filled before rest (Nat.zero_le _)
    · exact .inr torn

/-! ## Several passes -/

theorem infix_removeAll_iff {other : List α} (other_filled : other ≠ [])
    {sequences : List (List α)}
    (apart : ∀ sequence ∈ sequences, sequence ≠ [] ∧ Apart sequence other) (text : List α) :
    other <:+: removeAll sequences text ↔
      other <:+: text ∨ PulledTogether other sequences text := by
  induction sequences generalizing text with
  | nil => exact (or_iff_left id).symm
  | cons sequence sequences ih =>
      obtain ⟨⟨filled, here⟩, later⟩ := List.forall_mem_cons.mp apart
      have next : removeAll (sequence :: sequences) text =
          removeAll sequences (remove sequence text) := rfl
      rw [next, ih later, infix_remove_apart_iff filled here other_filled, PulledTogether,
        or_assoc]

/-- A sequence in what all passes leave: one pass left it, or one from then on made it. -/
theorem infix_removeAll_append_iff {sequence other : List α} (other_filled : other ≠ [])
    {later : List (List α)} (apart : ∀ next ∈ later, next ≠ [] ∧ Apart next other)
    (earlier : List (List α)) (text : List α) :
    other <:+: removeAll (earlier ++ sequence :: later) text ↔
      other.map some <:+: cut sequence (removeAll earlier text) ∨
        PulledTogether other (sequence :: later) (removeAll earlier text) := by
  have split : removeAll (earlier ++ sequence :: later) text =
      removeAll later (remove sequence (removeAll earlier text)) := List.foldl_append
  rw [split, infix_removeAll_iff other_filled apart, infix_remove_iff other_filled,
    PulledTogether, or_assoc]

theorem infix_removeAll_self_iff {sequence : List α} (filled : sequence ≠ [])
    {later : List (List α)} (apart : ∀ next ∈ later, next ≠ [] ∧ Apart next sequence)
    (earlier : List (List α)) (text : List α) :
    sequence <:+: removeAll (earlier ++ sequence :: later) text ↔
      PulledTogether sequence (sequence :: later) (removeAll earlier text) := by
  rw [infix_removeAll_append_iff filled apart]
  exact or_iff_right (not_whole_self filled 0 _)

theorem remove_of_not_infix {sequence text : List α} (free : ¬ sequence <:+: text) :
    remove sequence text = text := by
  unfold remove
  induction text with
  | nil => rfl
  | cons c rest ih =>
      rw [List.infix_cons_iff, not_or] at free
      rw [removeFrom_cons, if_neg free.1, ih free.2]

theorem removeAll_of_not_infix {sequences : List (List α)} {text : List α}
    (free : ∀ sequence ∈ sequences, ¬ sequence <:+: text) :
    removeAll sequences text = text := by
  induction sequences with
  | nil => rfl
  | cons sequence sequences ih =>
      obtain ⟨here, later⟩ := List.forall_mem_cons.mp free
      have next : removeAll (sequence :: sequences) text =
          removeAll sequences (remove sequence text) := rfl
      rw [next, remove_of_not_infix here, ih later]

end Removal
