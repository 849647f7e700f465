import HftEngine.Lib.Partition
import Mathlib.Data.List.Sort
import Mathlib.Data.Finset.Basic
import Mathlib.Data.Fintype.Basic
import Mathlib.Logic.Function.Basic

/-!
# Symbols of an ingestion instance

`SymbolPartitioner`, which divides the symbols by a hash of their id, and
`RangePartitioner`, which cuts the sorted symbols into ranges.  MD5 is a parameter,
and the dictionary of the statistics is a partial function.
-/

namespace HftEngine.Ingestion

/-- What both constructors keep: the number of the instance, from 1 on. -/
structure Partitioner where
  instance_id : ℕ
  total_instances : ℕ
  positive : 1 ≤ instance_id
  within : instance_id ≤ total_instances

namespace Partitioner

/-- `__init__`; an error is the message of its `ValueError`. -/
def init (instance_id total_instances : ℤ) : Except String Partitioner :=
  if valid : instance_id < 1 ∨ total_instances < instance_id then
    .error s!"instance_id must be between 1 and {total_instances}, got {instance_id}"
  else
    .ok
      { instance_id := instance_id.toNat
        total_instances := total_instances.toNat
        positive := by omega
        within := by omega }

/-- The instance after the first `part`. -/
def nth {total : ℕ} (part : Fin total) : Partitioner where
  instance_id := part + 1
  total_instances := total
  positive := Nat.le_add_left 1 part
  within := part.isLt

theorem init_nth {total : ℕ} (part : Fin total) :
    init (part + 1) total = .ok (nth part) := by
  have valid : ¬((part : ℤ) + 1 < 1 ∨ (total : ℤ) < part + 1) := by omega
  have number : ((part : ℤ) + 1).toNat = part + 1 := by omega
  rw [init, dif_neg valid]
  simp only [number, Int.toNat_natCast]
  rfl

/-- The instances 1 to `total`. -/
def instances (total : ℕ) : List Partitioner :=
  (List.finRange total).map nth

theorem mem_instances {total : ℕ} {partitioner : Partitioner} :
    partitioner ∈ instances total ↔ partitioner.total_instances = total := by
  rw [instances, List.mem_map]
  constructor
  · intro ⟨part, _, numbered⟩
    rw [← numbered]
    rfl
  · intro same
    subst total
    have positive := partitioner.positive
    have within := partitioner.within
    refine ⟨⟨partitioner.instance_id - 1, by omega⟩, List.mem_finRange _, ?_⟩
    simp only [nth, Nat.sub_add_cancel positive]

/-- What the instances do in turn, by their places. -/
theorem flatMap_instances {β : Type} (total : ℕ) (assigned : ℕ → List β) :
    (instances total).flatMap (fun partitioner => assigned (partitioner.instance_id - 1)) =
      (List.range total).flatMap assigned := by
  rw [instances, List.flatMap_map, ← List.map_coe_finRange_eq_range, List.flatMap_map]
  rfl

end Partitioner

variable {Symbol : Type}

/-! ## Ranges -/

namespace RangePartitioner

section Sorting

variable {Key : Type} [LinearOrder Key] (security_id : Symbol → Key)

/-- `sorted(all_symbols, key=...)`, which keeps the order of equal keys. -/
def sorted_symbols (all_symbols : List Symbol) : List Symbol :=
  all_symbols.insertionSort (fun a b => security_id a ≤ security_id b)

end Sorting

/-- The bounds of the range of an instance. -/
def range (partitioner : Partitioner) (total : ℕ) : ℕ × ℕ :=
  let symbols_per_instance := total / partitioner.total_instances
  let remainder := total % partitioner.total_instances
  let start_idx := (partitioner.instance_id - 1) * symbols_per_instance
  let end_idx := start_idx + symbols_per_instance
  if partitioner.instance_id ≤ remainder then
    (start_idx + (partitioner.instance_id - 1), end_idx + partitioner.instance_id)
  else (start_idx + remainder, end_idx + remainder)

/-- The range, with its bounds counted from the parts before it. -/
theorem range_eq (partitioner : Partitioner) (total : ℕ) :
    range partitioner total =
      (Partition.bound total partitioner.total_instances (partitioner.instance_id - 1),
        Partition.bound total partitioner.total_instances
          (partitioner.instance_id - 1 + 1)) := by
  have positive := partitioner.positive
  rw [Partition.bound_succ, range, Partition.bound]
  split
  · rename_i longer
    rw [min_eq_left (by omega), if_pos (by omega)]
    congr 1
    omega
  · rename_i shorter
    rw [min_eq_right (by omega), if_neg (by omega)]
    congr 1
    omega

section Assignment

variable {Key : Type} [LinearOrder Key] (security_id : Symbol → Key)

def get_assigned_symbols (partitioner : Partitioner) (all_symbols : List Symbol) :
    List Symbol :=
  let sorted := sorted_symbols security_id all_symbols
  let (start_idx, end_idx) := range partitioner sorted.length
  Partition.slice start_idx end_idx sorted

theorem get_assigned_symbols_eq (partitioner : Partitioner) (all_symbols : List Symbol) :
    get_assigned_symbols security_id partitioner all_symbols =
      let sorted := sorted_symbols security_id all_symbols
      let bound := Partition.bound sorted.length partitioner.total_instances
      Partition.slice (bound (partitioner.instance_id - 1))
        (bound (partitioner.instance_id - 1 + 1)) sorted := by
  rw [get_assigned_symbols, range_eq]

theorem flatMap_get_assigned_symbols {total : ℕ} (positive : 1 ≤ total)
    (all_symbols : List Symbol) :
    (Partitioner.instances total).flatMap (fun partitioner =>
      get_assigned_symbols security_id partitioner all_symbols) =
        sorted_symbols security_id all_symbols := by
  let sorted := sorted_symbols security_id all_symbols
  let bound := Partition.bound sorted.length total
  let slices := fun part => Partition.slice (bound part) (bound (part + 1)) sorted
  have last : bound total = sorted.length := Partition.bound_last positive _
  calc (Partitioner.instances total).flatMap (fun partitioner =>
        get_assigned_symbols security_id partitioner all_symbols)
      = (Partitioner.instances total).flatMap (fun partitioner =>
          slices (partitioner.instance_id - 1)) := by
        apply List.flatMap_congr
        intro partitioner member
        rw [get_assigned_symbols_eq, Partitioner.mem_instances.mp member]
    _ = (List.range total).flatMap slices := Partitioner.flatMap_instances total slices
    _ = sorted.take (bound total) :=
        Partition.flatMap_slice (Partition.bound_monotone _ _) (Partition.bound_zero _ _) _ _
    _ = sorted := by rw [last, List.take_length]

theorem length_get_assigned_symbols (partitioner : Partitioner)
    (all_symbols : List Symbol) :
    (get_assigned_symbols security_id partitioner all_symbols).length =
      all_symbols.length / partitioner.total_instances +
        (if partitioner.instance_id - 1 < all_symbols.length % partitioner.total_instances
          then 1 else 0) := by
  have positive := partitioner.positive
  have within := partitioner.within
  have same : (sorted_symbols security_id all_symbols).length = all_symbols.length :=
    List.length_insertionSort _ _
  rw [get_assigned_symbols_eq]
  dsimp only
  rw [Partition.length_slice_bound (by omega), same]

/-- No two instances differ by more than one symbol. -/
theorem length_le_length_succ {total : ℕ} {first second : Partitioner}
    (first_member : first ∈ Partitioner.instances total)
    (second_member : second ∈ Partitioner.instances total) (all_symbols : List Symbol) :
    (get_assigned_symbols security_id first all_symbols).length ≤
      (get_assigned_symbols security_id second all_symbols).length + 1 := by
  rw [length_get_assigned_symbols, length_get_assigned_symbols,
    Partitioner.mem_instances.mp first_member, Partitioner.mem_instances.mp second_member]
  split <;> split <;> omega

theorem sorted_symbols_perm (all_symbols : List Symbol) :
    (sorted_symbols security_id all_symbols).Perm all_symbols :=
  List.perm_insertionSort _ _

theorem pairwise_sorted_symbols (all_symbols : List Symbol) :
    (sorted_symbols security_id all_symbols).Pairwise
      (fun a b => security_id a ≤ security_id b) := by
  have total : Std.Total (fun a b : Symbol => security_id a ≤ security_id b) :=
    ⟨fun a b => le_total (security_id a) (security_id b)⟩
  have transitive : IsTrans Symbol (fun a b => security_id a ≤ security_id b) :=
    ⟨fun _ _ _ first second => first.trans second⟩
  exact List.pairwise_insertionSort _ all_symbols

end Assignment

end RangePartitioner

/-! ## Hashes -/

namespace SymbolPartitioner

variable {Key : Type} (digest : Key → ℕ)

/-- `digest` is `int(md5(str(symbol_id).encode()).hexdigest(), 16)`. -/
def hash_symbol (partitioner : Partitioner) (symbol_id : Key) : ℕ :=
  digest symbol_id % partitioner.total_instances

def is_my_symbol (partitioner : Partitioner) (symbol_id : Key) : Bool :=
  let assigned_instance := hash_symbol digest partitioner symbol_id + 1
  assigned_instance == partitioner.instance_id

variable (security_id : Symbol → Key)

def get_assigned_symbols (partitioner : Partitioner) (all_symbols : List Symbol) :
    List Symbol :=
  all_symbols.filter (fun symbol => is_my_symbol digest partitioner (security_id symbol))

/-- The dictionary of `get_partition_stats`. -/
abbrev Stats := ℕ → Option ℕ

def no_symbols (partitioner : Partitioner) : Stats :=
  fun i => if 1 ≤ i ∧ i ≤ partitioner.total_instances then some 0 else none

/-- `stats[instance] += 1`; none is a `KeyError`. -/
def add_symbol (partitioner : Partitioner) (stats : Stats) (symbol : Symbol) :
    Option Stats := do
  let key := hash_symbol digest partitioner (security_id symbol) + 1
  let count ← stats key
  some (Function.update stats key (some (count + 1)))

def get_partition_stats (partitioner : Partitioner) (all_symbols : List Symbol) :
    Option Stats :=
  all_symbols.foldlM (add_symbol digest security_id partitioner) (no_symbols partitioner)

/-- The instance of a symbol. -/
theorem mem_get_assigned_symbols {partitioner : Partitioner} {all_symbols : List Symbol}
    {symbol : Symbol} :
    symbol ∈ get_assigned_symbols digest security_id partitioner all_symbols ↔
      symbol ∈ all_symbols ∧
        digest (security_id symbol) % partitioner.total_instances + 1 =
          partitioner.instance_id := by
  rw [get_assigned_symbols, List.mem_filter, is_my_symbol, beq_iff_eq, hash_symbol]

theorem get_assigned_symbols_eq (partitioner : Partitioner) (all_symbols : List Symbol) :
    get_assigned_symbols digest security_id partitioner all_symbols =
      all_symbols.filter (fun symbol =>
        digest (security_id symbol) % partitioner.total_instances =
          partitioner.instance_id - 1) := by
  have positive := partitioner.positive
  apply List.filter_congr
  intro symbol _
  rw [is_my_symbol, hash_symbol, Bool.eq_iff_iff, beq_iff_eq, decide_eq_true_eq]
  omega

theorem flatMap_get_assigned_symbols {total : ℕ} (positive : 1 ≤ total)
    (all_symbols : List Symbol) :
    ((Partitioner.instances total).flatMap (fun partitioner =>
      get_assigned_symbols digest security_id partitioner all_symbols)).Perm
        all_symbols := by
  have below : ∀ symbol ∈ all_symbols, digest (security_id symbol) % total < total :=
    fun symbol _ => Nat.mod_lt (digest (security_id symbol)) positive
  have divided := Partition.flatMap_filter_perm_self below
  rw [← Partitioner.flatMap_instances] at divided
  refine List.Perm.trans (List.Perm.of_eq ?_) divided
  apply List.flatMap_congr
  intro partitioner member
  rw [get_assigned_symbols_eq, Partitioner.mem_instances.mp member]

/-- Every symbol is in the list of one instance. -/
theorem exists_unique_assigned {total : ℕ} (positive : 1 ≤ total)
    {all_symbols : List Symbol} {symbol : Symbol} (member : symbol ∈ all_symbols) :
    ∃! part : Fin total,
      symbol ∈ get_assigned_symbols digest security_id (Partitioner.nth part)
        all_symbols := by
  have below := Nat.mod_lt (digest (security_id symbol)) positive
  refine ⟨⟨digest (security_id symbol) % total, below⟩, ?_, ?_⟩
  · exact (mem_get_assigned_symbols digest security_id).mpr ⟨member, rfl⟩
  · intro other assigned
    have number := ((mem_get_assigned_symbols digest security_id).mp assigned).2
    exact Fin.ext (Nat.succ_injective number).symm

/-! ## Statistics -/

/-- The statistics count the symbols added, for every instance. -/
def Counts (partitioner : Partitioner) (stats : Stats) (added : List Symbol) : Prop :=
  ∀ i, stats i =
    if 1 ≤ i ∧ i ≤ partitioner.total_instances then
      some (added.filter (fun symbol =>
        hash_symbol digest partitioner (security_id symbol) + 1 == i)).length
    else none

variable {digest security_id} {partitioner : Partitioner}

theorem Counts.add {stats : Stats} {added : List Symbol}
    (counts : Counts digest security_id partitioner stats added) (symbol : Symbol) :
    ∃ after, add_symbol digest security_id partitioner stats symbol = some after ∧
      Counts digest security_id partitioner after (added ++ [symbol]) := by
  have positive := partitioner.positive
  have within := partitioner.within
  have below : hash_symbol digest partitioner (security_id symbol) + 1 ≤
      partitioner.total_instances :=
    Nat.mod_lt _ (positive.trans within)
  have current := counts (hash_symbol digest partitioner (security_id symbol) + 1)
  rw [if_pos ⟨Nat.le_add_left 1 _, below⟩] at current
  refine ⟨_, by rw [add_symbol, current]; rfl, ?_⟩
  intro i
  by_cases same : i = hash_symbol digest partitioner (security_id symbol) + 1
  · subst same
    rw [Function.update_self, if_pos ⟨Nat.le_add_left 1 _, below⟩, List.filter_append,
      List.length_append]
    simp
  · have other : (hash_symbol digest partitioner (security_id symbol) + 1 == i) = false :=
      beq_false_of_ne (Ne.symm same)
    rw [Function.update_of_ne same, counts i, List.filter_append]
    simp [other]

theorem Counts.foldlM (symbols : List Symbol) {stats : Stats} {added : List Symbol}
    (counts : Counts digest security_id partitioner stats added) :
    ∃ after, symbols.foldlM (add_symbol digest security_id partitioner) stats =
        some after ∧
      Counts digest security_id partitioner after (added ++ symbols) := by
  induction symbols generalizing stats added with
  | nil => exact ⟨stats, rfl, by rwa [List.append_nil]⟩
  | cons symbol symbols ih =>
      obtain ⟨next, taken, counted⟩ := counts.add symbol
      obtain ⟨after, finished, total⟩ := ih counted
      refine ⟨after, ?_, ?_⟩
      · rw [List.foldlM_cons, taken]
        exact finished
      · rwa [List.append_assoc] at total

variable (digest security_id)

theorem counts_no_symbols (partitioner : Partitioner) :
    Counts digest security_id partitioner (no_symbols partitioner) [] := by
  intro i
  rw [no_symbols]
  rfl

/-- The statistics of any instance have the length of every instance's list. -/
theorem get_partition_stats_length {total : ℕ} (all_symbols : List Symbol)
    {asked : Partitioner} (asked_member : asked ∈ Partitioner.instances total) :
    ∃ stats, get_partition_stats digest security_id asked all_symbols = some stats ∧
      ∀ partitioner ∈ Partitioner.instances total,
        stats partitioner.instance_id =
          some (get_assigned_symbols digest security_id partitioner all_symbols).length := by
  obtain ⟨stats, finished, counts⟩ :=
    (counts_no_symbols digest security_id asked).foldlM all_symbols
  refine ⟨stats, finished, ?_⟩
  intro partitioner member
  have same : asked.total_instances = partitioner.total_instances := by
    rw [Partitioner.mem_instances.mp asked_member, Partitioner.mem_instances.mp member]
  have within := partitioner.within
  rw [counts, same, if_pos ⟨partitioner.positive, within⟩, get_assigned_symbols]
  simp only [is_my_symbol, hash_symbol, same, List.nil_append]

end SymbolPartitioner

/-! ## Nothing is lost or duplicated -/

/-- What both partitioners do for the instances 1 to `total`. -/
structure Partitioned {Key : Type} [LinearOrder Key] (security_id : Symbol → Key)
    (digest : Key → ℕ) (total : ℕ) (all_symbols : List Symbol) : Prop where
  concatenated : (Partitioner.instances total).flatMap (fun partitioner =>
      RangePartitioner.get_assigned_symbols security_id partitioner all_symbols) =
    RangePartitioner.sorted_symbols security_id all_symbols
  sorted : (RangePartitioner.sorted_symbols security_id all_symbols).Pairwise
    (fun a b => security_id a ≤ security_id b)
  rearranged : (RangePartitioner.sorted_symbols security_id all_symbols).Perm all_symbols
  balanced : ∀ first ∈ Partitioner.instances total,
    ∀ second ∈ Partitioner.instances total,
      (RangePartitioner.get_assigned_symbols security_id first all_symbols).length ≤
        (RangePartitioner.get_assigned_symbols security_id second all_symbols).length + 1
  assigned_once : ∀ symbol ∈ all_symbols, ∃! part : Fin total,
    symbol ∈ SymbolPartitioner.get_assigned_symbols digest security_id
      (Partitioner.nth part) all_symbols
  ordered : ∀ partitioner ∈ Partitioner.instances total,
    (SymbolPartitioner.get_assigned_symbols digest security_id partitioner
      all_symbols).Sublist all_symbols
  assigned : ((Partitioner.instances total).flatMap (fun partitioner =>
    SymbolPartitioner.get_assigned_symbols digest security_id partitioner
      all_symbols)).Perm all_symbols
  counted : ∀ asked ∈ Partitioner.instances total, ∃ stats,
    SymbolPartitioner.get_partition_stats digest security_id asked all_symbols =
      some stats ∧
    ∀ partitioner ∈ Partitioner.instances total, stats partitioner.instance_id =
      some (SymbolPartitioner.get_assigned_symbols digest security_id partitioner
        all_symbols).length

theorem partitioned {Key : Type} [LinearOrder Key] (security_id : Symbol → Key)
    (digest : Key → ℕ) {total : ℕ} (positive : 1 ≤ total) (all_symbols : List Symbol) :
    Partitioned security_id digest total all_symbols where
  concatenated :=
    RangePartitioner.flatMap_get_assigned_symbols security_id positive all_symbols
  sorted := RangePartitioner.pairwise_sorted_symbols security_id all_symbols
  rearranged := RangePartitioner.sorted_symbols_perm security_id all_symbols
  balanced _ first_member _ second_member :=
    RangePartitioner.length_le_length_succ security_id first_member second_member
      all_symbols
  assigned_once _ member :=
    SymbolPartitioner.exists_unique_assigned digest security_id positive member
  ordered _ _ := List.filter_sublist
  assigned :=
    SymbolPartitioner.flatMap_get_assigned_symbols digest security_id positive all_symbols
  counted _ asked_member :=
    SymbolPartitioner.get_partition_stats_length digest security_id all_symbols asked_member

/-- Five symbols among three instances: two, two and one. -/
theorem partitioned_three :
    (Partitioner.instances 3).map (fun partitioner =>
      RangePartitioner.get_assigned_symbols id partitioner [13, 2, 21, 8, 5]) =
        [[2, 5], [8, 13], [21]] ∧
    Partitioned id (fun symbol_id : ℕ => symbol_id) 3 [13, 2, 21, 8, 5] :=
  ⟨by decide, partitioned id _ (by decide) _⟩

end HftEngine.Ingestion
