import HftEngine.Ingestion.Partitioner
import Mathlib.Algebra.Order.Ring.Int

/-!
# Whose symbol it is

`RangePartitioner.is_my_symbol` beside the list that the instance is assigned, and the
instance that a `SymbolPartitioner` gives a symbol before and after one instance is added.
-/

namespace HftEngine.Ingestion

variable {Symbol : Type}

/-! ## Ranges of ids and of positions -/

/-- Integers that increase are apart by at least as much as their positions. -/
theorem add_gap_le_of_increasing {ids : List ℤ} (increasing : ids.Pairwise (· < ·)) {i j : ℕ}
    {first last : ℤ} (ordered : i ≤ j) (at_first : ids[i]? = some first)
    (at_last : ids[j]? = some last) : first + (j - i) ≤ last := by
  induction j, ordered using Nat.le_induction generalizing last with
  | base =>
      rw [at_first] at at_last
      cases at_last
      simp
  | succ j ordered ih =>
      obtain ⟨inside, same⟩ := List.getElem?_eq_some_iff.mp at_last
      have before : ids[j]? = some ids[j] := List.getElem?_eq_getElem (by omega)
      have grown := List.pairwise_iff_getElem.mp increasing j (j + 1) (by omega) inside (by omega)
      have reached := ih before
      rw [same] at grown
      push_cast
      omega

namespace RangePartitioner

def is_my_symbol (partitioner : Partitioner) (symbol_id : ℤ) (total_symbols : ℕ) : Bool :=
  let (start_idx, end_idx) := range partitioner total_symbols
  decide (start_idx ≤ symbol_id ∧ symbol_id < end_idx)

variable (security_id : Symbol → ℤ) (partitioner : Partitioner) (all_symbols : List Symbol)

/-- The test tells the symbols that the instance is assigned. -/
def Agrees : Prop :=
  ∀ symbol ∈ all_symbols,
    is_my_symbol partitioner (security_id symbol) all_symbols.length = true ↔
      symbol ∈ get_assigned_symbols security_id partitioner all_symbols

/-- In the range of the instance the sorted ids are their own positions. -/
def InPlace : Prop :=
  ∀ i : ℕ, (range partitioner all_symbols.length).1 ≤ i →
    i < (range partitioner all_symbols.length).2 →
    ((sorted_symbols security_id all_symbols).map security_id)[i]? = some (i : ℤ)

variable {security_id partitioner all_symbols}

theorem increasing_ids (distinct : (all_symbols.map security_id).Nodup) :
    ((sorted_symbols security_id all_symbols).map security_id).Pairwise (· < ·) := by
  have different : ((sorted_symbols security_id all_symbols).map security_id).Nodup :=
    ((sorted_symbols_perm security_id all_symbols).map security_id).nodup_iff.mpr distinct
  have ordered : ((sorted_symbols security_id all_symbols).map security_id).Pairwise (· ≤ ·) :=
    List.pairwise_map.mpr (pairwise_sorted_symbols security_id all_symbols)
  exact (ordered.and different).imp (fun both => lt_of_le_of_ne both.1 both.2)

theorem length_sorted_symbols :
    (sorted_symbols security_id all_symbols).length = all_symbols.length :=
  List.length_insertionSort _ _

/-- The bounds of a range, which the symbols reach. -/
theorem range_ordered (partitioner : Partitioner) (total : ℕ) :
    (range partitioner total).1 ≤ (range partitioner total).2 ∧
      (range partitioner total).2 ≤ total := by
  have positive := partitioner.positive
  have within := partitioner.within
  rw [range_eq]
  refine ⟨Partition.bound_monotone _ _ (Nat.le_succ _), ?_⟩
  calc Partition.bound total partitioner.total_instances (partitioner.instance_id - 1 + 1)
      ≤ Partition.bound total partitioner.total_instances partitioner.total_instances :=
        Partition.bound_monotone _ _ (by omega)
    _ = total := Partition.bound_last (by omega) _

theorem mem_get_assigned_symbols {symbol : Symbol} :
    symbol ∈ get_assigned_symbols security_id partitioner all_symbols ↔
      ∃ i, (range partitioner all_symbols.length).1 ≤ i ∧
        i < (range partitioner all_symbols.length).2 ∧
        (sorted_symbols security_id all_symbols)[i]? = some symbol := by
  rw [get_assigned_symbols]
  dsimp only
  rw [Partition.mem_slice, length_sorted_symbols]

theorem is_my_symbol_iff {symbol_id : ℤ} {total : ℕ} :
    is_my_symbol partitioner symbol_id total = true ↔
      (range partitioner total).1 ≤ symbol_id ∧ symbol_id < (range partitioner total).2 := by
  rw [is_my_symbol]
  exact decide_eq_true_iff

/-- Ids of the range that all pass the test are in place: they increase, and there are as
many of them as numbers in the range. -/
theorem inPlace_of_agrees (distinct : (all_symbols.map security_id).Nodup)
    (agrees : Agrees security_id partitioner all_symbols) :
    InPlace security_id partitioner all_symbols := by
  intro i from_start before_end
  have increasing := increasing_ids distinct
  obtain ⟨_, reached⟩ := range_ordered partitioner all_symbols.length
  have in_range : ∀ j, (range partitioner all_symbols.length).1 ≤ j →
      j < (range partitioner all_symbols.length).2 →
      ∃ id, ((sorted_symbols security_id all_symbols).map security_id)[j]? = some id ∧
        (range partitioner all_symbols.length).1 ≤ id ∧
        id < (range partitioner all_symbols.length).2 := by
    intro j after_start before
    have inside : j < (sorted_symbols security_id all_symbols).length := by
      rw [length_sorted_symbols]
      omega
    have found := List.getElem?_eq_getElem inside
    have assigned := mem_get_assigned_symbols.mpr ⟨j, after_start, before, found⟩
    have listed := (sorted_symbols_perm security_id all_symbols).mem_iff.mp
      (List.mem_of_getElem? found)
    refine ⟨security_id (sorted_symbols security_id all_symbols)[j], ?_, ?_⟩
    · rw [List.getElem?_map, found]
      rfl
    · exact is_my_symbol_iff.mp ((agrees _ listed).mpr assigned)
  obtain ⟨id, at_i, _, _⟩ := in_range i from_start before_end
  obtain ⟨first, at_first, low, _⟩ := in_range _ (Nat.le_refl _) (by omega)
  obtain ⟨last, at_last, _, high⟩ :=
    in_range ((range partitioner all_symbols.length).2 - 1) (by omega) (by omega)
  have below := add_gap_le_of_increasing increasing from_start at_first at_i
  have above := add_gap_le_of_increasing increasing (by omega) at_i at_last
  have here : id = i := by omega
  rw [at_i, here]

theorem agrees_of_inPlace (distinct : (all_symbols.map security_id).Nodup)
    (placed : InPlace security_id partitioner all_symbols) :
    Agrees security_id partitioner all_symbols := by
  intro symbol listed
  have different : ((sorted_symbols security_id all_symbols).map security_id).Nodup :=
    ((sorted_symbols_perm security_id all_symbols).map security_id).nodup_iff.mpr distinct
  obtain ⟨j, at_j⟩ := List.mem_iff_getElem?.mp
    ((sorted_symbols_perm security_id all_symbols).mem_iff.mpr listed)
  have id_at_j : ((sorted_symbols security_id all_symbols).map security_id)[j]? =
      some (security_id symbol) := by
    rw [List.getElem?_map, at_j]
    rfl
  rw [is_my_symbol_iff, mem_get_assigned_symbols]
  constructor
  · intro ⟨low, high⟩
    have same_id := placed (security_id symbol).toNat (by omega) (by omega)
    rw [Int.toNat_of_nonneg (by omega), ← id_at_j] at same_id
    have same := (List.getElem?_inj (by
      obtain ⟨inside, _⟩ := List.getElem?_eq_some_iff.mp id_at_j
      exact inside) different).mp same_id.symm
    exact ⟨j, by omega, by omega, at_j⟩
  · intro ⟨i, from_start, before_end, at_i⟩
    have here := placed i from_start before_end
    rw [List.getElem?_map, at_i] at here
    have same : security_id symbol = i := Option.some.inj here
    omega

/-- The test is right if and only if the ids are in place. -/
theorem agrees_iff_inPlace (distinct : (all_symbols.map security_id).Nodup) :
    Agrees security_id partitioner all_symbols ↔
      InPlace security_id partitioner all_symbols :=
  ⟨inPlace_of_agrees distinct, agrees_of_inPlace distinct⟩

/-- The second of two instances, with ids 0 to 3. -/
theorem agrees_iff_inPlace_four :
    Agrees (id : ℤ → ℤ) (Partitioner.nth (1 : Fin 2)) [2, 0, 3, 1] ↔
      InPlace (id : ℤ → ℤ) (Partitioner.nth (1 : Fin 2)) [2, 0, 3, 1] :=
  agrees_iff_inPlace (by decide)

/-- The ids of an index and of four contracts: instance 1 of 3 has the first two, and its
test knows neither. -/
theorem agrees_fails :
    ¬Agrees (id : ℤ → ℤ) (Partitioner.nth (0 : Fin 3)) [13, 2, 21, 8, 5] := by
  intro agrees
  have assigned : (2 : ℤ) ∈ get_assigned_symbols id (Partitioner.nth (0 : Fin 3))
      [13, 2, 21, 8, 5] := by
    decide
  have known := (agrees 2 (by decide)).mpr assigned
  revert known
  decide

end RangePartitioner

/-! ## One more instance -/

namespace SymbolPartitioner

variable {Key : Type} (digest : Key → ℕ)

/-- A symbol of one of `total` instances stays there or goes to the instance added. -/
def StaysOrJoins (total : ℕ) (symbol_id : Key) : Prop :=
  ∀ before ∈ Partitioner.instances total, ∀ after ∈ Partitioner.instances (total + 1),
    is_my_symbol digest before symbol_id = true → is_my_symbol digest after symbol_id = true →
      after.instance_id = before.instance_id ∨ after.instance_id = total + 1

/-- Two remainders of a number differ by its quotient. -/
theorem mod_succ_add_div (number total : ℕ) :
    (number % (total + 1) + number / total % (total + 1)) % (total + 1) =
      number % total % (total + 1) := by
  have whole : number + number / total = number % total + (total + 1) * (number / total) := by
    have divided := Nat.div_add_mod number total
    rw [Nat.succ_mul]
    omega
  rw [← Nat.add_mod, whole, Nat.add_mul_mod_self_left]

variable {digest}

theorem is_my_symbol_iff {partitioner : Partitioner} {symbol_id : Key} :
    is_my_symbol digest partitioner symbol_id = true ↔
      partitioner.instance_id = digest symbol_id % partitioner.total_instances + 1 := by
  rw [is_my_symbol, hash_symbol, beq_iff_eq]
  exact eq_comm

/-- The property is about the two instances of the symbol. -/
theorem staysOrJoins_iff_mod {total : ℕ} (positive : 1 ≤ total) {symbol_id : Key} :
    StaysOrJoins digest total symbol_id ↔
      digest symbol_id % (total + 1) = digest symbol_id % total ∨
        digest symbol_id % (total + 1) = total := by
  constructor
  · intro moves
    have below := Nat.mod_lt (digest symbol_id) positive
    have below_next : digest symbol_id % (total + 1) < total + 1 :=
      Nat.mod_lt _ (Nat.succ_pos total)
    have moved := moves (Partitioner.nth ⟨_, below⟩) (Partitioner.mem_instances.mpr rfl)
      (Partitioner.nth ⟨_, below_next⟩) (Partitioner.mem_instances.mpr rfl)
      (is_my_symbol_iff.mpr rfl) (is_my_symbol_iff.mpr rfl)
    simp only [Partitioner.nth] at moved
    omega
  · intro moved before before_member after after_member assigned reassigned
    have number := is_my_symbol_iff.mp assigned
    have next_number := is_my_symbol_iff.mp reassigned
    rw [Partitioner.mem_instances.mp before_member] at number
    rw [Partitioner.mem_instances.mp after_member] at next_number
    omega

/-- A symbol moves as promised if and only if the quotient of its hash, counted up to the
instances after the change, is 0 or the number of its instance. -/
theorem staysOrJoins_iff {total : ℕ} (positive : 1 ≤ total) {symbol_id : Key} :
    StaysOrJoins digest total symbol_id ↔
      digest symbol_id / total % (total + 1) = 0 ∨
        digest symbol_id / total % (total + 1) = digest symbol_id % total + 1 := by
  have together := mod_succ_add_div (digest symbol_id) total
  have below := Nat.mod_lt (digest symbol_id) positive
  have below_next : digest symbol_id % (total + 1) < total + 1 :=
    Nat.mod_lt _ (Nat.succ_pos total)
  have quotient : digest symbol_id / total % (total + 1) < total + 1 :=
    Nat.mod_lt _ (Nat.succ_pos total)
  rw [Nat.mod_eq_of_lt (Nat.lt_succ_of_lt below)] at together
  rw [staysOrJoins_iff_mod positive]
  -- the two remainders sum up to the old place, or to it and a whole round
  rcases Nat.lt_or_ge (digest symbol_id % (total + 1) + digest symbol_id / total % (total + 1))
    (total + 1) with small | large
  · rw [Nat.mod_eq_of_lt small] at together
    omega
  · rw [Nat.mod_eq_sub_mod large, Nat.mod_eq_of_lt (by omega)] at together
    omega

/-- Hash 2 leaves the first of two instances for the third, which is new. -/
theorem staysOrJoins_iff_two :
    StaysOrJoins (fun symbol_id : ℕ => symbol_id) 2 2 ↔
      2 / 2 % 3 = 0 ∨ 2 / 2 % 3 = 2 % 2 + 1 :=
  staysOrJoins_iff (by decide)

/-- The hash of symbol 5: the third instance takes it from the second one to the first. -/
theorem staysOrJoins_fails :
    ¬StaysOrJoins (fun _ : ℤ => 304197110536387568331823853743770900693) 2 5 := by
  rw [staysOrJoins_iff_mod (by decide)]
  decide

end SymbolPartitioner

end HftEngine.Ingestion
