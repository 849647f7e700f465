import HftEngine.Lib.Segments
import Mathlib.Algebra.BigOperators.Group.List.Basic
import Mathlib.Algebra.Order.Group.Int
import Mathlib.Data.Int.Notation
import Mathlib.Data.List.MinMax
import Mathlib.Order.Lattice

/-!
# Candles of several minutes

`_aggregate_candles` puts `factor` candles at a time into one.  Prices are of
any linear order and volumes of any commutative monoid, so their sums are
exact; local time has a fixed offset from UTC.
-/

namespace HftEngine.DhanTicks

open Segments

variable {Price Volume : Type*}

@[ext] structure Candle (Price Volume : Type*) where
  time : ℤ
  open_ : Price
  high : Price
  low : Price
  close : Price
  volume : Option Volume
  deriving DecidableEq

/-- `datetime.fromtimestamp(time).date()`, as the number of the day. -/
def date (utc_offset time : ℤ) : ℤ := (time + utc_offset) / 86400

theorem date_mono (utc_offset : ℤ) {a b : ℤ} (earlier : a ≤ b) :
    date utc_offset a ≤ date utc_offset b :=
  Int.ediv_le_ediv (by decide) (add_le_add_left earlier utc_offset)

section Code

variable [LinearOrder Price] [AddCommMonoid Volume]

/-- `candle.get("volume", 0)` -/
def Candle.get_volume (candle : Candle Price Volume) : Volume := candle.volume.getD 0

/-- None where `chunk[0]` raises. -/
def merge_chunk : List (Candle Price Volume) → Option (Candle Price Volume)
  | [] => none
  | first :: rest => some
      { time := first.time
        open_ := first.open_
        high := rest.foldl (fun high candle => max high candle.high) first.high
        low := rest.foldl (fun low candle => min low candle.low) first.low
        close := ((first :: rest).getLast (List.cons_ne_nil first rest)).close
        volume := some ((first :: rest).map Candle.get_volume).sum }

structure Progress (Price Volume : Type*) where
  aggregated : List (Candle Price Volume) := []
  current_chunk : List (Candle Price Volume) := []
  current_date : Option ℤ := none

/-- The body of the loop. -/
def advance (utc_offset : ℤ) (factor : ℕ) (progress : Progress Price Volume)
    (candle : Candle Price Volume) : Progress Price Volume :=
  let candle_date := date utc_offset candle.time
  let merged := (merge_chunk progress.current_chunk).toList
  if progress.current_date ≠ none ∧ progress.current_date ≠ some candle_date then
    { aggregated :=
        if progress.current_chunk = [] then progress.aggregated
        else progress.aggregated ++ merged
      current_chunk := [candle]
      current_date := some candle_date }
  else if factor ≤ progress.current_chunk.length then
    { aggregated := progress.aggregated ++ merged
      current_chunk := [candle]
      current_date := some candle_date }
  else
    { progress with
      current_chunk := progress.current_chunk ++ [candle]
      current_date :=
        if progress.current_date = none then some candle_date
        else progress.current_date }

def aggregate_candles (utc_offset : ℤ) (candles : List (Candle Price Volume))
    (factor : ℕ) : List (Candle Price Volume) :=
  if factor ≤ 1 ∨ candles = [] then candles
  else
    let progress := candles.foldl (advance utc_offset factor) {}
    if progress.current_chunk = [] then progress.aggregated
    else progress.aggregated ++ (merge_chunk progress.current_chunk).toList

end Code

/-! ## Chunks -/

/-- A chunk has a first candle. -/
structure Chunk (Price Volume : Type*) where
  first : Candle Price Volume
  rest : List (Candle Price Volume)

namespace Chunk

def candles (chunk : Chunk Price Volume) : List (Candle Price Volume) :=
  chunk.first :: chunk.rest

def single (candle : Candle Price Volume) : Chunk Price Volume := ⟨candle, []⟩

def add (chunk : Chunk Price Volume) (candle : Candle Price Volume) :
    Chunk Price Volume :=
  ⟨chunk.first, chunk.rest ++ [candle]⟩

def day (utc_offset : ℤ) (chunk : Chunk Price Volume) : ℤ :=
  date utc_offset chunk.first.time

/-- There is room for the candle, and it is of the same day. -/
def Joins (utc_offset : ℤ) (factor : ℕ) (chunk : Chunk Price Volume)
    (candle : Candle Price Volume) : Prop :=
  date utc_offset candle.time = chunk.day utc_offset ∧ chunk.candles.length < factor

instance (utc_offset : ℤ) (factor : ℕ) (chunk : Chunk Price Volume)
    (candle : Candle Price Volume) : Decidable (chunk.Joins utc_offset factor candle) :=
  inferInstanceAs (Decidable (_ ∧ _))

@[simp] theorem first_single (candle : Candle Price Volume) :
    (single candle).first = candle := rfl

@[simp] theorem first_add (chunk : Chunk Price Volume) (candle : Candle Price Volume) :
    (chunk.add candle).first = chunk.first := rfl

@[simp] theorem candles_single (candle : Candle Price Volume) :
    (single candle).candles = [candle] := rfl

@[simp] theorem candles_add (chunk : Chunk Price Volume) (candle : Candle Price Volume) :
    (chunk.add candle).candles = chunk.candles ++ [candle] := rfl

@[simp] theorem candles_ne_nil (chunk : Chunk Price Volume) : chunk.candles ≠ [] :=
  List.cons_ne_nil _ _

@[simp] theorem day_single (utc_offset : ℤ) (candle : Candle Price Volume) :
    (single candle).day utc_offset = date utc_offset candle.time := rfl

@[simp] theorem day_add (utc_offset : ℤ) (chunk : Chunk Price Volume)
    (candle : Candle Price Volume) :
    (chunk.add candle).day utc_offset = chunk.day utc_offset := rfl

end Chunk

/-- The chunks into which the loop splits the candles. -/
def chunks (utc_offset : ℤ) (factor : ℕ) (candles : List (Candle Price Volume)) :
    List (Chunk Price Volume) :=
  segments Chunk.single Chunk.add (Chunk.Joins utc_offset factor) candles

section Simulation

variable [LinearOrder Price] [AddCommMonoid Volume] {utc_offset : ℤ} {factor : ℕ}

def Chunk.merge (chunk : Chunk Price Volume) : Candle Price Volume where
  time := chunk.first.time
  open_ := chunk.first.open_
  high := chunk.rest.foldl (fun high candle => max high candle.high) chunk.first.high
  low := chunk.rest.foldl (fun low candle => min low candle.low) chunk.first.low
  close := (chunk.candles.getLast chunk.candles_ne_nil).close
  volume := some (chunk.candles.map Candle.get_volume).sum

theorem merge_chunk_candles (chunk : Chunk Price Volume) :
    merge_chunk chunk.candles = some chunk.merge := rfl

/-- The variables of the loop for the closed chunks and the open one. -/
def Progress.of (utc_offset : ℤ)
    (state : List (Chunk Price Volume) × Option (Chunk Price Volume)) :
    Progress Price Volume where
  aggregated := state.1.map Chunk.merge
  current_chunk := state.2.elim [] Chunk.candles
  current_date := state.2.map (Chunk.day utc_offset)

theorem advance_of (positive : 0 < factor)
    (state : List (Chunk Price Volume) × Option (Chunk Price Volume))
    (candle : Candle Price Volume) :
    advance utc_offset factor (Progress.of utc_offset state) candle =
      Progress.of utc_offset
        (step Chunk.single Chunk.add (Chunk.Joins utc_offset factor) state candle) := by
  obtain ⟨closed, current⟩ := state
  cases current with
  | none =>
      have room : ¬factor = 0 := by omega
      simp [advance, Progress.of, step, room]
  | some chunk =>
      by_cases same : date utc_offset candle.time = chunk.day utc_offset
      · by_cases room : chunk.candles.length < factor
        · have joins : chunk.Joins utc_offset factor candle := ⟨same, room⟩
          simp [advance, Progress.of, step, same, joins, not_le.mpr room]
        · have refused : ¬chunk.Joins utc_offset factor candle := fun joins => room joins.2
          simp [advance, Progress.of, step, same, refused, not_lt.mp room,
            merge_chunk_candles]
      · have refused : ¬chunk.Joins utc_offset factor candle := fun joins => same joins.1
        have other : ¬chunk.day utc_offset = date utc_offset candle.time := Ne.symm same
        simp [advance, Progress.of, step, other, refused, merge_chunk_candles]

theorem aggregate_candles_eq (several : 1 < factor)
    (candles : List (Candle Price Volume)) :
    aggregate_candles utc_offset candles factor =
      (chunks utc_offset factor candles).map Chunk.merge := by
  have loop :
    candles.foldl (advance utc_offset factor) ({} : Progress Price Volume) =
      Progress.of utc_offset
        (candles.foldl
          (step Chunk.single Chunk.add (Chunk.Joins utc_offset factor)) ([], none)) := by
    change candles.foldl _ (Progress.of utc_offset ([], none)) = _
    exact List.foldl_hom (Progress.of utc_offset)
      (advance_of (Nat.zero_lt_of_lt several))
  by_cases empty : candles = []
  · subst empty
    simp [aggregate_candles, chunks, segments, Segments.close]
  · have looped : ¬(factor ≤ 1 ∨ candles = []) :=
      not_or.mpr ⟨not_le.mpr several, empty⟩
    rw [aggregate_candles, if_neg looped, chunks, segments, loop]
    obtain ⟨closed, current⟩ := candles.foldl
      (step Chunk.single Chunk.add (Chunk.Joins utc_offset factor)) ([], none)
    cases current with
    | none => simp [Progress.of, Segments.close]
    | some chunk => simp [Progress.of, Segments.close, merge_chunk_candles]

end Simulation

/-! ## What a chunk is merged into -/

section Merging

variable [LinearOrder Price] [AddCommMonoid Volume]

/-- The candle stands for the chunk. -/
structure Merged (chunk : Chunk Price Volume) (candle : Candle Price Volume) : Prop where
  time : candle.time = chunk.first.time
  open_ : candle.open_ = chunk.first.open_
  close : candle.close = (chunk.candles.getLast chunk.candles_ne_nil).close
  high_attained : ∃ member ∈ chunk.candles, member.high = candle.high
  le_high : ∀ member ∈ chunk.candles, member.high ≤ candle.high
  low_attained : ∃ member ∈ chunk.candles, member.low = candle.low
  low_le : ∀ member ∈ chunk.candles, candle.low ≤ member.low
  volume : candle.get_volume = (chunk.candles.map Candle.get_volume).sum

theorem foldl_max_spec {Item : Type*} (value : Item → Price) (first : Item)
    (rest : List Item) :
    let greatest := rest.foldl (fun most item => max most (value item)) (value first)
    (∃ item ∈ first :: rest, value item = greatest) ∧
      ∀ item ∈ first :: rest, value item ≤ greatest := by
  induction rest using List.reverseRecOn with
  | nil => simp
  | append_singleton rest last ih =>
      obtain ⟨⟨item, member, attained⟩, bound⟩ := ih
      simp only [List.foldl_append, List.foldl_cons, List.foldl_nil]
      constructor
      · obtain larger | larger := max_choice
            (rest.foldl (fun most item => max most (value item)) (value first)) (value last)
        · refine ⟨item, ?_, attained.trans larger.symm⟩
          exact List.mem_append_left [last] member
        · refine ⟨last, ?_, larger.symm⟩
          exact List.mem_append_right (first :: rest) List.mem_cons_self
      · intro item member
        obtain earlier | same := List.mem_append.mp
          (show item ∈ (first :: rest) ++ [last] from member)
        · exact (bound item earlier).trans (le_max_left _ _)
        · obtain rfl := List.mem_singleton.mp same
          exact le_max_right _ _

theorem Chunk.merged_merge (chunk : Chunk Price Volume) : Merged chunk chunk.merge := by
  obtain ⟨high_attained, le_high⟩ := foldl_max_spec Candle.high chunk.first chunk.rest
  obtain ⟨low_attained, low_le⟩ :=
    foldl_max_spec (fun candle => OrderDual.toDual candle.low) chunk.first chunk.rest
  exact ⟨rfl, rfl, rfl, high_attained, le_high, low_attained, low_le, rfl⟩

theorem Chunk.merged_single (candle : Candle Price Volume) :
    Merged (Chunk.single candle) candle := by
  constructor <;> simp [Chunk.single, Chunk.candles]

namespace Merged

variable {chunk : Chunk Price Volume} {candle other : Candle Price Volume}

/-- The chunk determines its candle, up to a volume of zero or none. -/
theorem eq_merge (merged : Merged chunk candle) (given : candle.volume ≠ none) :
    candle = chunk.merge := by
  have canonical := chunk.merged_merge
  have high : candle.high = chunk.merge.high := by
    obtain ⟨member, inside, attained⟩ := merged.high_attained
    obtain ⟨member', inside', attained'⟩ := canonical.high_attained
    exact le_antisymm (attained ▸ canonical.le_high member inside)
      (attained' ▸ merged.le_high member' inside')
  have low : candle.low = chunk.merge.low := by
    obtain ⟨member, inside, attained⟩ := merged.low_attained
    obtain ⟨member', inside', attained'⟩ := canonical.low_attained
    exact le_antisymm (attained' ▸ merged.low_le member' inside')
      (attained ▸ canonical.low_le member inside)
  have volume : candle.volume = chunk.merge.volume := by
    obtain ⟨volume, known⟩ := Option.ne_none_iff_exists'.mp given
    have sum := merged.volume
    rw [Candle.get_volume, known, Option.getD_some] at sum
    rw [known, sum]
    rfl
  exact Candle.ext merged.time merged.open_ high low merged.close volume

end Merged

/-- The volume of all candles together. -/
def total_volume (candles : List (Candle Price Volume)) : Volume :=
  (candles.map Candle.get_volume).sum

omit [LinearOrder Price] in
theorem total_volume_append (left right : List (Candle Price Volume)) :
    total_volume (left ++ right) = total_volume left + total_volume right := by
  simp [total_volume]

section Splitting

variable {splitting : List (Chunk Price Volume)} {output : List (Candle Price Volume)}

theorem total_volume_of_merged (merged : List.Forall₂ Merged splitting output) :
    total_volume output = total_volume (splitting.flatMap Chunk.candles) := by
  induction merged with
  | nil => rfl
  | @cons chunk candle splitting output first _ ih =>
      rw [List.flatMap_cons, total_volume_append, ← ih, total_volume, total_volume,
        List.map_cons, List.sum_cons, first.volume]
      rfl

/-- Merging merged candles is merging all that they come from. -/
theorem merge_of_merged {chunk whole : Chunk Price Volume}
    {parts : List (Chunk Price Volume)} (middle : chunk.candles = parts.map Chunk.merge)
    (all : whole.candles = parts.flatMap Chunk.candles) : chunk.merge = whole.merge := by
  have outer := chunk.merged_merge
  have nonempty : parts ≠ [] := by
    rintro rfl
    exact chunk.candles_ne_nil middle
  have split {member : Candle Price Volume} (inside : member ∈ whole.candles) :
      ∃ part : Chunk Price Volume,
        part.merge ∈ chunk.candles ∧ member ∈ part.candles := by
    rw [all, List.mem_flatMap] at inside
    obtain ⟨part, listed, inside⟩ := inside
    exact ⟨part, middle ▸ List.mem_map_of_mem listed, inside⟩
  have join {candle : Candle Price Volume} (inside : candle ∈ chunk.candles) :
      ∃ part : Chunk Price Volume,
        candle = part.merge ∧ ∀ member ∈ part.candles, member ∈ whole.candles := by
    rw [middle, List.mem_map] at inside
    obtain ⟨part, listed, same⟩ := inside
    refine ⟨part, same.symm, fun member inside => ?_⟩
    rw [all]
    exact List.mem_flatMap.mpr ⟨part, listed, inside⟩
  have first : chunk.first.time = whole.first.time ∧
      chunk.first.open_ = whole.first.open_ := by
    obtain ⟨part, parts, rfl⟩ := List.exists_cons_of_ne_nil nonempty
    obtain ⟨head, _⟩ := List.cons.inj middle
    obtain ⟨head', _⟩ := List.cons.inj all
    rw [head, head']
    exact ⟨rfl, rfl⟩
  have last : (chunk.candles.getLast chunk.candles_ne_nil).close =
      (whole.candles.getLast whole.candles_ne_nil).close := by
    obtain ⟨parts, part, rfl⟩ := (List.eq_nil_or_concat' parts).resolve_left nonempty
    simp only [middle, all, List.map_append, List.flatMap_append]
    simp [Chunk.merge]
  refine Merged.eq_merge ⟨first.1, first.2, last, ?_, ?_, ?_, ?_, ?_⟩ (Option.some_ne_none _)
  · obtain ⟨candle, inside, attained⟩ := outer.high_attained
    obtain ⟨part, rfl, included⟩ := join inside
    obtain ⟨member, inside, attained'⟩ := part.merged_merge.high_attained
    exact ⟨member, included member inside, attained'.trans attained⟩
  · intro member inside
    obtain ⟨part, listed, inside⟩ := split inside
    exact (part.merged_merge.le_high member inside).trans (outer.le_high part.merge listed)
  · obtain ⟨candle, inside, attained⟩ := outer.low_attained
    obtain ⟨part, rfl, included⟩ := join inside
    obtain ⟨member, inside, attained'⟩ := part.merged_merge.low_attained
    exact ⟨member, included member inside, attained'.trans attained⟩
  · intro member inside
    obtain ⟨part, listed, inside⟩ := split inside
    exact (outer.low_le part.merge listed).trans (part.merged_merge.low_le member inside)
  · have merged : List.Forall₂ Merged parts chunk.candles := by
      rw [middle, List.forall₂_map_right_iff]
      exact List.forall₂_same.mpr (fun part _ => part.merged_merge)
    have total := total_volume_of_merged merged
    rw [← all] at total
    exact total

end Splitting

end Merging

/-! ## How the candles are split -/

/-- The chunks split the candles, and only the last of a day may be short. -/
structure Splits (utc_offset : ℤ) (factor : ℕ) (candles : List (Candle Price Volume))
    (splitting : List (Chunk Price Volume)) : Prop where
  consecutive : splitting.flatMap Chunk.candles = candles
  length_le : ∀ chunk ∈ splitting, chunk.candles.length ≤ factor
  one_day : ∀ chunk ∈ splitting, ∀ candle ∈ chunk.candles,
    date utc_offset candle.time = chunk.day utc_offset
  last_of_day : splitting.Pairwise (fun chunk later =>
    chunk.candles.length < factor → chunk.day utc_offset ≠ later.day utc_offset)

section Chunks

variable {utc_offset : ℤ} {factor : ℕ} {candles : List (Candle Price Volume)}

variable (utc_offset factor)

theorem flatMap_chunks (candles : List (Candle Price Volume)) :
    (chunks utc_offset factor candles).flatMap Chunk.candles = candles :=
  flatMap_segments Chunk.candles_single Chunk.candles_add candles

variable {factor} in
theorem chunk_bounds (positive : 1 ≤ factor) :
    ∀ chunk ∈ chunks utc_offset factor candles, chunk.candles.length ≤ factor ∧
      ∀ candle ∈ chunk.candles, date utc_offset candle.time = chunk.day utc_offset := by
  refine forall_segments ?_ ?_
  · intro candle _
    exact ⟨positive, by simp⟩
  · intro candle _ chunk joins bounds
    obtain ⟨same, room⟩ := joins
    refine ⟨by simpa [Nat.succ_le_iff] using room, ?_⟩
    intro member inside
    rw [Chunk.candles_add] at inside
    obtain earlier | last := List.mem_append.mp inside
    · exact bounds.2 member earlier
    · exact List.mem_singleton.mp last ▸ same

/-- The days of the chunks do not go back where the candles are in order. -/
theorem pairwise_day_chunks (sorted : candles.Pairwise (·.time ≤ ·.time)) :
    (chunks utc_offset factor candles).Pairwise
      (fun chunk later => chunk.day utc_offset ≤ later.day utc_offset) := by
  rw [← flatMap_chunks utc_offset factor candles,
    List.pairwise_flatMap] at sorted
  refine sorted.2.imp ?_
  intro chunk later ordered
  exact date_mono utc_offset
    (ordered _ (List.mem_cons_self) _ (List.mem_cons_self))

theorem pairwise_chunks (sorted : candles.Pairwise (·.time ≤ ·.time)) :
    (chunks utc_offset factor candles).Pairwise (fun chunk later =>
      chunk.candles.length < factor → chunk.day utc_offset ≠ later.day utc_offset) := by
  have days := pairwise_day_chunks utc_offset factor sorted
  have chain : (chunks utc_offset factor candles).IsChain
      (fun chunk next => ¬chunk.Joins utc_offset factor next.first) :=
    isChain_segments Chunk.first_single Chunk.first_add candles
  rw [List.pairwise_iff_getElem] at days ⊢
  rw [List.isChain_iff_getElem] at chain
  intro i j inside inside' before short same
  have next : i + 1 < (chunks utc_offset factor candles).length := by omega
  have refused := chain i next
  have forward := days i (i + 1) inside next (Nat.lt_succ_self i)
  have onward : (chunks utc_offset factor candles)[i + 1].day utc_offset ≤
      (chunks utc_offset factor candles)[j].day utc_offset := by
    obtain rfl | later := Nat.eq_or_lt_of_le (Nat.succ_le_of_lt before)
    · exact le_rfl
    · exact days (i + 1) j next inside' later
  exact refused ⟨le_antisymm (same ▸ onward) forward, short⟩

end Chunks

/-! ## Candles of one day -/

/-- The candles are all of this day. -/
def OnDay (utc_offset day : ℤ) (candles : List (Candle Price Volume)) : Prop :=
  ∀ candle ∈ candles, date utc_offset candle.time = day

section OneDay

variable {utc_offset day : ℤ} {factor : ℕ}

theorem following_append {chunk whole : Chunk Price Volume}
    {more items : List (Candle Price Volume)} (same : chunk.day utc_offset = day)
    (on_day : OnDay utc_offset day more)
    (grown : whole.candles = chunk.candles ++ more)
    (room : whole.candles.length ≤ factor) :
    following Chunk.single Chunk.add (Chunk.Joins utc_offset factor) chunk
        (more ++ items) =
      following Chunk.single Chunk.add (Chunk.Joins utc_offset factor) whole items := by
  induction more generalizing chunk with
  | nil =>
      obtain ⟨first, rest⟩ := chunk
      obtain ⟨first', rest'⟩ := whole
      rw [List.append_nil] at grown
      obtain ⟨rfl, rfl⟩ := List.cons.inj grown
      rfl
  | cons candle more ih =>
      obtain ⟨today, on_day⟩ := List.forall_mem_cons.mp on_day
      have joins : chunk.Joins utc_offset factor candle := by
        refine ⟨today.trans same.symm, ?_⟩
        rw [grown, List.length_append, List.length_cons] at room
        omega
      rw [List.cons_append, following_cons, if_pos joins]
      refine ih ?_ on_day ?_
      · exact same
      · rw [grown, Chunk.candles_add, List.append_assoc]
        rfl

/-- A full chunk is closed before the next candle. -/
theorem following_full {chunk : Chunk Price Volume}
    (full : factor ≤ chunk.candles.length) (items : List (Candle Price Volume)) :
    following Chunk.single Chunk.add (Chunk.Joins utc_offset factor) chunk items =
      chunk :: chunks utc_offset factor items := by
  cases items with
  | nil => rfl
  | cons candle items =>
      have refused : ¬chunk.Joins utc_offset factor candle :=
        fun joins => absurd joins.2 (not_lt.mpr full)
      rw [following_cons, if_neg refused, chunks, segments_cons]

theorem chunks_append {chunk : Chunk Price Volume}
    (on_day : OnDay utc_offset day chunk.candles)
    (room : chunk.candles.length ≤ factor) (items : List (Candle Price Volume)) :
    chunks utc_offset factor (chunk.candles ++ items) =
      following Chunk.single Chunk.add (Chunk.Joins utc_offset factor) chunk items := by
  obtain ⟨today, on_day⟩ := List.forall_mem_cons.mp on_day
  rw [chunks, Chunk.candles, List.cons_append, segments_cons]
  exact following_append today on_day rfl room

theorem chunks_full_append {chunk : Chunk Price Volume}
    (on_day : OnDay utc_offset day chunk.candles)
    (full : chunk.candles.length = factor) (items : List (Candle Price Volume)) :
    chunks utc_offset factor (chunk.candles ++ items) =
      chunk :: chunks utc_offset factor items := by
  rw [chunks_append on_day full.le, following_full full.ge]

theorem chunks_short {chunk : Chunk Price Volume}
    (on_day : OnDay utc_offset day chunk.candles)
    (room : chunk.candles.length ≤ factor) :
    chunks utc_offset factor chunk.candles = [chunk] := by
  have alone := chunks_append on_day room []
  rwa [List.append_nil] at alone

theorem exists_chunk {candles : List (Candle Price Volume)} (nonempty : candles ≠ []) :
    ∃ chunk : Chunk Price Volume, chunk.candles = candles := by
  obtain ⟨first, rest, rfl⟩ := List.exists_cons_of_ne_nil nonempty
  exact ⟨⟨first, rest⟩, rfl⟩

/-- The candles up to the factor are a chunk of their own. -/
theorem exists_full_chunk {candles : List (Candle Price Volume)} (positive : 0 < factor)
    (enough : factor ≤ candles.length) :
    ∃ (chunk : Chunk Price Volume) (rest : List (Candle Price Volume)),
      candles = chunk.candles ++ rest ∧ chunk.candles.length = factor := by
  have length : (candles.take factor).length = factor := by simp [enough]
  have nonempty : candles.take factor ≠ [] := by
    intro empty
    rw [empty, List.length_nil] at length
    omega
  obtain ⟨chunk, same⟩ := exists_chunk nonempty
  refine ⟨chunk, candles.drop factor, ?_, same ▸ length⟩
  rw [same, List.take_append_drop]

/-- Candles for a number of full chunks are split off by themselves. -/
theorem chunks_multiple_append (positive : 0 < factor) (count : ℕ)
    {candles : List (Candle Price Volume)} (on_day : OnDay utc_offset day candles)
    (length : candles.length = factor * count) (items : List (Candle Price Volume)) :
    chunks utc_offset factor (candles ++ items) =
        chunks utc_offset factor candles ++ chunks utc_offset factor items ∧
      (chunks utc_offset factor candles).length = count := by
  induction count generalizing candles with
  | zero =>
      obtain rfl := List.length_eq_zero_iff.mp length
      exact ⟨rfl, rfl⟩
  | succ count ih =>
      have enough : factor ≤ candles.length := by
        rw [length, Nat.mul_succ]
        omega
      obtain ⟨chunk, rest, rfl, full⟩ := exists_full_chunk positive enough
      obtain ⟨first, others⟩ := List.forall_mem_append.mp on_day
      rw [List.length_append, Nat.mul_succ] at length
      obtain ⟨split, number⟩ := ih others (by omega)
      rw [List.append_assoc, chunks_full_append first full, chunks_full_append first full,
        split, List.length_cons, number]
      exact ⟨rfl, rfl⟩

theorem length_chunks_le (positive : 0 < factor) (count : ℕ)
    {candles : List (Candle Price Volume)} (on_day : OnDay utc_offset day candles)
    (length : candles.length ≤ factor * count) :
    (chunks utc_offset factor candles).length ≤ count := by
  induction count generalizing candles with
  | zero =>
      obtain rfl := List.length_eq_zero_iff.mp (Nat.le_zero.mp length)
      exact le_rfl
  | succ count ih =>
      by_cases enough : factor ≤ candles.length
      · obtain ⟨chunk, rest, rfl, full⟩ := exists_full_chunk positive enough
        obtain ⟨first, others⟩ := List.forall_mem_append.mp on_day
        rw [List.length_append, Nat.mul_succ] at length
        rw [chunks_full_append first full, List.length_cons]
        exact Nat.succ_le_succ (ih others (by omega))
      · by_cases empty : candles = []
        · subst empty
          exact Nat.zero_le _
        · obtain ⟨chunk, rfl⟩ := exists_chunk empty
          rw [chunks_short on_day (by omega)]
          exact Nat.succ_le_succ (Nat.zero_le count)

variable [LinearOrder Price] [AddCommMonoid Volume]

theorem onDay_merged (factor : ℕ) {candles : List (Candle Price Volume)}
    (on_day : OnDay utc_offset day candles) :
    OnDay utc_offset day ((chunks utc_offset factor candles).map Chunk.merge) := by
  intro candle merged
  obtain ⟨chunk, listed, rfl⟩ := List.mem_map.mp merged
  refine on_day chunk.first ?_
  rw [← flatMap_chunks utc_offset factor candles]
  exact List.mem_flatMap.mpr ⟨chunk, listed, List.mem_cons_self⟩

/-- Chunks of merged candles are the chunks of the candles. -/
theorem merge_chunks_merged {a b : ℕ} (a_positive : 0 < a) (b_positive : 0 < b)
    (candles : List (Candle Price Volume)) (on_day : OnDay utc_offset day candles) :
    (chunks utc_offset b ((chunks utc_offset a candles).map Chunk.merge)).map
        Chunk.merge =
      (chunks utc_offset (a * b) candles).map Chunk.merge := by
  induction length : candles.length using Nat.strong_induction_on generalizing candles with
  | _ number ih =>
    by_cases empty : candles = []
    · subst empty
      rfl
    by_cases long : a * b < candles.length
    · -- the first chunk of `a * b` candles, and what comes after it
      obtain ⟨whole, rest, rfl, full⟩ :=
        exists_full_chunk (Nat.mul_pos a_positive b_positive) long.le
      obtain ⟨first, others⟩ := List.forall_mem_append.mp on_day
      obtain ⟨split, count⟩ := chunks_multiple_append a_positive b first full rest
      have merged_day := onDay_merged a first
      have merged_some : (chunks utc_offset a whole.candles).map Chunk.merge ≠ [] := by
        intro none_left
        rw [List.map_eq_nil_iff.mp none_left, List.length_nil] at count
        omega
      obtain ⟨chunk, same⟩ := exists_chunk merged_some
      have chunk_full : chunk.candles.length = b := by
        rw [same, List.length_map, count]
      have shorter : rest.length < number := by
        rw [← length, List.length_append, full]
        have := Nat.mul_pos a_positive b_positive
        omega
      rw [split, List.map_append, ← same,
        chunks_full_append (same ▸ merged_day) chunk_full,
        chunks_full_append first full, List.map_cons, List.map_cons,
        merge_of_merged same (flatMap_chunks utc_offset a whole.candles).symm,
        ih rest.length shorter rest others rfl]
    · obtain ⟨whole, rfl⟩ := exists_chunk empty
      have few := length_chunks_le a_positive b on_day (not_lt.mp long)
      have merged_some : (chunks utc_offset a whole.candles).map Chunk.merge ≠ [] := by
        intro none_left
        have all := flatMap_chunks utc_offset a whole.candles
        rw [List.map_eq_nil_iff.mp none_left] at all
        exact whole.candles_ne_nil all.symm
      obtain ⟨chunk, same⟩ := exists_chunk merged_some
      have merged_day := onDay_merged a on_day
      rw [← same, chunks_short (same ▸ merged_day) (by rwa [same, List.length_map]),
        chunks_short on_day (not_lt.mp long), List.map_singleton, List.map_singleton,
        merge_of_merged same (flatMap_chunks utc_offset a whole.candles).symm]

end OneDay

/-! ## Aggregation -/

section Aggregation

variable [LinearOrder Price] [AddCommMonoid Volume] (utc_offset : ℤ)

theorem aggregate_candles_one (candles : List (Candle Price Volume)) :
    aggregate_candles utc_offset candles 1 = candles := by
  simp [aggregate_candles]

theorem exists_splits {candles : List (Candle Price Volume)} {factor : ℕ}
    (sorted : candles.Pairwise (·.time ≤ ·.time)) (positive : 1 ≤ factor) :
    ∃ splitting, Splits utc_offset factor candles splitting ∧
      List.Forall₂ Merged splitting (aggregate_candles utc_offset candles factor) := by
  obtain rfl | several := Nat.eq_or_lt_of_le positive
  · refine ⟨candles.map Chunk.single, ⟨?_, ?_, ?_, ?_⟩, ?_⟩
    · simp [List.flatMap_map]
    · simp
    · simp
    · rw [List.pairwise_map]
      exact List.pairwise_of_forall (by simp)
    · rw [aggregate_candles_one, List.forall₂_map_left_iff]
      exact List.forall₂_same.mpr (fun candle _ => Chunk.merged_single candle)
  · refine ⟨chunks utc_offset factor candles, ⟨?_, ?_, ?_, ?_⟩, ?_⟩
    · exact flatMap_chunks utc_offset factor candles
    · exact fun chunk listed => (chunk_bounds utc_offset positive chunk listed).1
    · exact fun chunk listed => (chunk_bounds utc_offset positive chunk listed).2
    · exact pairwise_chunks utc_offset factor sorted
    · rw [aggregate_candles_eq several, List.forall₂_map_right_iff]
      exact List.forall₂_same.mpr (fun chunk _ => chunk.merged_merge)

theorem total_volume_aggregate {candles : List (Candle Price Volume)} {factor : ℕ}
    (sorted : candles.Pairwise (·.time ≤ ·.time)) (positive : 1 ≤ factor) :
    total_volume (aggregate_candles utc_offset candles factor) = total_volume candles := by
  obtain ⟨splitting, splits, merged⟩ := exists_splits utc_offset sorted positive
  rw [total_volume_of_merged merged, splits.consecutive]

variable {utc_offset} in
theorem aggregate_aggregate {day : ℤ} {candles : List (Candle Price Volume)}
    (on_day : OnDay utc_offset day candles) {a b : ℕ} (a_positive : 1 ≤ a)
    (b_positive : 1 ≤ b) :
    aggregate_candles utc_offset (aggregate_candles utc_offset candles a) b =
      aggregate_candles utc_offset candles (a * b) := by
  obtain rfl | a_several := Nat.eq_or_lt_of_le a_positive
  · rw [aggregate_candles_one, Nat.one_mul]
  obtain rfl | b_several := Nat.eq_or_lt_of_le b_positive
  · rw [aggregate_candles_one, Nat.mul_one]
  have several : 1 < a * b :=
    a_several.trans_le (Nat.le_mul_of_pos_right a b_positive)
  rw [aggregate_candles_eq a_several, aggregate_candles_eq b_several,
    aggregate_candles_eq several, merge_chunks_merged (by omega) (by omega) candles on_day]

/-- A list in the order of time is split by the days and by the factor, keeps
its volume, and two factors one after the other are their product. -/
theorem aggregation (utc_offset : ℤ) :
    (∀ (candles : List (Candle Price Volume)) (factor : ℕ),
      candles.Pairwise (·.time ≤ ·.time) → 1 ≤ factor →
        (∃ splitting, Splits utc_offset factor candles splitting ∧
          List.Forall₂ Merged splitting
            (aggregate_candles utc_offset candles factor)) ∧
        total_volume (aggregate_candles utc_offset candles factor) =
          total_volume candles) ∧
      ∀ (candles : List (Candle Price Volume)) (day : ℤ) (a b : ℕ),
        OnDay utc_offset day candles → 1 ≤ a → 1 ≤ b →
          aggregate_candles utc_offset (aggregate_candles utc_offset candles a) b =
            aggregate_candles utc_offset candles (a * b) := by
  refine ⟨fun candles factor sorted positive => ⟨?_, ?_⟩, ?_⟩
  · exact exists_splits utc_offset sorted positive
  · exact total_volume_aggregate utc_offset sorted positive
  · intro candles day a b on_day a_positive b_positive
    exact aggregate_aggregate on_day a_positive b_positive

end Aggregation

end HftEngine.DhanTicks
