import HftEngine.Core.BlackScholes
import HftEngine.Lib.Traversal
import Mathlib.Tactic.Linarith
import Mathlib.Tactic.FieldSimp
import Mathlib.Tactic.LinearCombination

/-!
# The branches option by option

Each branch does to an option what its own data say, whatever the others in the list
are, and puts it at the option's place.
-/

namespace HftEngine.BlackScholes

open Py.Exact

/-! ## Arrays over a list of items -/

section Arrays

variable {α β γ : Type}

theorem range_map {items : List β} {f : ℕ → γ} {g : β → γ}
    (same : ∀ i (inside : i < items.length), f i = g items[i]) :
    (List.range items.length).map f = items.map g := by
  apply List.ext_getElem
  · simp
  · intro i inside _
    rw [List.getElem_map, List.getElem_map, List.getElem_range]
    exact same i (by simpa using inside)

theorem getD_map {items : List β} {f : β → γ} {i : ℕ} (inside : i < items.length)
    (default : γ) : (items.map f).getD i default = f items[i] := by
  simp [List.getD_eq_getElem?_getD, inside]

theorem by_side_map [Field α] (items : List β) (row : β → α × α) (side : β → OptionType)
    (f : α → α → OptionType → α) :
    by_side (items.map (fun item => decide (side item = .CE))) (items.map row) f =
      items.map (fun item => f (row item).1 (row item).2 (side item)) := by
  have zeros : List.replicate (items.map row).length (0 : α) = items.map (fun _ => 0) := by
    simp
  have puts_mask : (items.map (fun item => decide (side item = .CE))).map not =
      items.map (fun item => !decide (side item = .CE)) := by
    rw [List.map_map]
    rfl
  rw [by_side, zeros, puts_mask, Masks.select_map, Masks.select_map, List.map_map,
    List.map_map, Masks.assign_map, Masks.assign_map]
  apply List.map_congr_left
  intro item _
  cases side item with
  | CE => simp
  | PE => simp

end Arrays

variable {α : Type} [Field α] [LinearOrder α] [FloorRing α]

/-! ## Outcomes of one option -/

section Outcomes

variable (functions : Functions α) (model : BlackScholesModel α)

/-- The values of the formulas, the price cut at 0. -/
def values (S K T sigma : α) (option_type : OptionType) : Values α where
  theoretical_price := max (price functions model S K T sigma option_type) 0
  delta := delta functions model S K T sigma option_type
  gamma := gamma functions model S K T sigma
  theta := theta functions model S K T sigma option_type
  vega := vega functions model S K T sigma
  rho := rho functions model S K T sigma option_type

def OptionData.valid (option : OptionData α) : Bool :=
  0 < option.vol ∧ 0 < option.strike

def numpy_option (S T : α) (option : OptionData α) : Outcome α :=
  if option.valid then
    if T ≤ 0 ∨ S ≤ 0 then .not_finite
    else .set (values functions model S option.strike T option.vol option.option_type).rounded
  else .untouched

def rust_option (S T : α) (option : OptionData α) : Outcome α :=
  let res := calculate_bsm functions S option.strike T model.risk_free_rate option.vol
    option.option_type
  if option.valid ∧ 0 < res.theoretical_price then .set res.rounded
  else .untouched

variable {options : List (OptionData α)} {spot_price : α} {days_to_expiry : ℕ}

theorem numpy_batch_eq : numpy_batch functions model options spot_price days_to_expiry =
    options.map (numpy_option functions model spot_price (days_to_expiry / 365)) := by
  have valid_mask : List.zipWith (fun iv strike => decide (0 < iv ∧ 0 < strike))
      (options.map OptionData.vol) (options.map OptionData.strike) =
        options.map OptionData.valid := by
    rw [List.zipWith_map, List.zipWith_self]
    rfl
  have zeros : List.replicate options.length (0 : α) = options.map (fun _ => 0) := by simp
  rw [numpy_batch]
  simp only [valid_mask, zeros, Masks.select_map, List.zip_map', by_side_map, List.map_map,
    Masks.assign_map]
  split
  case isTrue =>
    split
    case isTrue undefined =>
      apply List.map_congr_left
      intro option _
      simp [numpy_option, undefined]
    case isFalse defined =>
      apply range_map
      intro i inside
      simp only [getD_map inside, numpy_option, if_neg defined]
      split
      case isTrue => simp [values]
      case isFalse => rfl
  case isFalse none_valid =>
    apply List.map_congr_left
    intro option member
    have invalid : option.valid = false := by
      by_contra valid
      exact none_valid (List.any_eq_true.mpr
        ⟨true, List.mem_map.mpr ⟨option, member, by simpa using valid⟩, rfl⟩)
    simp [numpy_option, invalid]

theorem rust_batch_eq : rust_batch functions model options spot_price days_to_expiry =
    options.map (rust_option functions model spot_price (days_to_expiry / 365)) := by
  rw [rust_batch]
  apply range_map
  intro i inside
  have results : (calculate_batch_bsm functions (List.replicate options.length spot_price)
      (options.map OptionData.strike) (List.replicate options.length (days_to_expiry / 365))
      model.risk_free_rate (options.map OptionData.vol)
      (options.map OptionData.option_type)).getD i ⟨0, 0, 0, 0, 0, 0⟩ =
        calculate_bsm functions spot_price options[i].strike (days_to_expiry / 365)
          model.risk_free_rate options[i].vol options[i].option_type := by
    rw [calculate_batch_bsm, List.length_replicate,
      getD_map (by simpa using inside), List.getElem_range]
    simp only [getD_map inside, List.getD_replicate, inside]
  have index : i ∈ (List.range options.length).filter
      (fun i => 0 < (options.map OptionData.strike).getD i 0 ∧
        0 < (options.map OptionData.vol).getD i 0) ↔ options[i].valid = true := by
    simp [OptionData.valid, inside, and_comm]
  simp only [results, index, rust_option]
  by_cases valid : options[i].valid = true
  · simp [valid]
  · simp [valid]

end Outcomes

end HftEngine.BlackScholes
