import HftEngine.Backend.StrategySimulation.Payoff
import Mathlib.SetTheory.Cardinal.NatCard

/-!
# The breakevens that are found

`find_breakevens` takes the payoff at 201 prices and bisects each cell of that grid at
whose ends the signs differ.  What it returns lies in such a cell; a sign change that
shares its cell with another one has no returned value of its own.
-/

namespace HftEngine.Backend.StrategySimulation

open PiecewiseLinear

/-- The width of a cell of the grid. -/
def grid_step (current_spot : ℚ) : ℚ :=
  (current_spot * (3 / 2) - current_spot * (1 / 2)) / 200

def grid_price (current_spot : ℚ) (i : ℕ) : ℚ :=
  current_spot * (1 / 2) + i * grid_step current_spot

section Grid

variable {current_spot : ℚ}

theorem grid_step_pos (positive : 0 < current_spot) : 0 < grid_step current_spot := by
  unfold grid_step
  linarith

theorem grid_price_succ (i : ℕ) :
    grid_price current_spot (i + 1) =
      grid_price current_spot i + grid_step current_spot := by
  unfold grid_price
  push_cast
  ring

theorem grid_price_zero : grid_price current_spot 0 = current_spot * (1 / 2) := by
  simp [grid_price]

theorem grid_price_last : grid_price current_spot 200 = current_spot * (3 / 2) := by
  rw [grid_price, grid_step]
  norm_num
  ring

theorem grid_price_strictMono (positive : 0 < current_spot) :
    StrictMono (grid_price current_spot) := by
  apply strictMono_nat_of_lt_succ
  intro i
  rw [grid_price_succ]
  exact lt_add_of_pos_right _ (grid_step_pos positive)

theorem low_le_grid_price (positive : 0 < current_spot) (i : ℕ) :
    current_spot * (1 / 2) ≤ grid_price current_spot i := by
  rw [← grid_price_zero]
  exact (grid_price_strictMono positive).monotone (Nat.zero_le i)

theorem grid_price_le_high (positive : 0 < current_spot) {i : ℕ} (cell : i < 200) :
    grid_price current_spot (i + 1) ≤ current_spot * (3 / 2) := by
  rw [← grid_price_last]
  exact (grid_price_strictMono positive).monotone cell

end Grid

/-! ## Bisection -/

theorem same_sign_iff {left right : ℚ} : same_sign left right ↔ (left < 0 ↔ right < 0) := by
  rw [same_sign, ← not_lt, ← not_lt, ← iff_iff_and_or_not_and_not]

section Legs

variable (legs : List StrategyLeg)

/-- The payoff has different signs at the ends. -/
def Crosses (low high : ℚ) : Prop :=
  ¬same_sign (calculate_expiry_payoff legs low) (calculate_expiry_payoff legs high)

instance (low high : ℚ) : Decidable (Crosses legs low high) :=
  inferInstanceAs (Decidable (¬_))

variable {legs}

/-- Of the two halves of a bracket one is a bracket. -/
theorem Crosses.half {low high : ℚ} (crosses : Crosses legs low high) (mid : ℚ)
    (same : same_sign (calculate_expiry_payoff legs low)
      (calculate_expiry_payoff legs mid)) : Crosses legs mid high := by
  intro across
  rw [same_sign_iff] at same across
  exact crosses (same_sign_iff.mpr (same.trans across))

/-- Bisection returns the midpoint of a bracket, after all its iterations or at a payoff
below the tolerance. -/
theorem bisect_spec (iterations : ℕ) {low high : ℚ} (between : low < high)
    (crosses : Crosses legs low high) :
    ∃ l h, low ≤ l ∧ l < h ∧ h ≤ high ∧ Crosses legs l h ∧
      bisect_breakeven legs iterations low high = (l + h) / 2 ∧
      (|calculate_expiry_payoff legs ((l + h) / 2)| < 1 / 2 ∨
        h - l = (high - low) / 2 ^ iterations) := by
  induction iterations generalizing low high with
  | zero => exact ⟨low, high, le_rfl, between, le_rfl, crosses, rfl, .inr (by simp)⟩
  | succ iterations ih =>
      have after_low : low < (low + high) / 2 := left_lt_add_div_two.mpr between
      have before_high : (low + high) / 2 < high := add_div_two_lt_right.mpr between
      rw [bisect_breakeven]
      split
      case isTrue small =>
          exact ⟨low, high, le_rfl, between, le_rfl, crosses, rfl, .inl small⟩
      case isFalse =>
        split
        case isTrue same =>
            obtain ⟨l, h, above, inside, below, changes, found, near⟩ :=
              ih before_high (crosses.half _ same)
            refine ⟨l, h, after_low.le.trans above, inside, below, changes, found, ?_⟩
            refine near.imp_right fun width => ?_
            rw [width, pow_succ']
            ring
        case isFalse different =>
            obtain ⟨l, h, above, inside, below, changes, found, near⟩ :=
              ih after_low different
            refine ⟨l, h, above, inside, below.trans before_high.le, changes, found, ?_⟩
            refine near.imp_right fun width => ?_
            rw [width, pow_succ']
            ring

theorem bisect_inside (iterations : ℕ) {low high : ℚ} (between : low < high)
    (crosses : Crosses legs low high) :
    low < bisect_breakeven legs iterations low high ∧
      bisect_breakeven legs iterations low high < high := by
  obtain ⟨l, h, above, inside, below, -, found, -⟩ := bisect_spec iterations between crosses
  rw [found]
  exact ⟨above.trans_lt (left_lt_add_div_two.mpr inside),
    (add_div_two_lt_right.mpr inside).trans_le below⟩

/-! ## What is returned -/

variable (legs) (current_spot : ℚ)

/-- What is found in a cell whose ends have different signs. -/
def cell_breakeven (i : ℕ) : ℚ :=
  bisect_breakeven legs 20 (grid_price current_spot i) (grid_price current_spot (i + 1))

def CellCrosses (i : ℕ) : Prop :=
  Crosses legs (grid_price current_spot i) (grid_price current_spot (i + 1))

instance (i : ℕ) : Decidable (CellCrosses legs current_spot i) :=
  inferInstanceAs (Decidable (Crosses _ _ _))

theorem zip_tail_range {α : Type*} (f : ℕ → α) (n : ℕ) :
    ((List.range (n + 1)).map f).zip ((List.range (n + 1)).map f).tail =
      (List.range n).map (fun i => (f i, f (i + 1))) := by
  apply List.ext_getElem
  · simp
  · intro i _ _
    simp

theorem find_breakevens_eq :
    find_breakevens legs current_spot =
      if grid_step current_spot ≤ 1 / 10000 then []
      else (List.range 200).filterMap (fun i =>
        if CellCrosses legs current_spot i then some (cell_breakeven legs current_spot i)
        else none) := by
  have prices : (do let i ← List.range 201; pure (i : ℚ)) =
      (List.range 201).map (Nat.cast : ℕ → ℚ) :=
    List.map_eq_flatMap.symm
  unfold find_breakevens
  dsimp only
  rw [prices, List.map_map]
  change (if grid_step current_spot ≤ 1 / 10000 then []
    else (((List.range 201).map (grid_price current_spot)).zip
      ((List.range 201).map (grid_price current_spot)).tail).filterMap _) = _
  rw [zip_tail_range, List.filterMap_map]
  congr 1
  apply List.filterMap_congr
  intro i _
  have low : grid_price current_spot (i + 1) -
      (current_spot * (3 / 2) - current_spot * (1 / 2)) / 200 =
        grid_price current_spot i := by
    rw [grid_price_succ]
    exact add_sub_cancel_right _ _
  simp only [Function.comp_apply, low, CellCrosses, Crosses, cell_breakeven]
  exact (ite_not _ _ _).symm

theorem mem_find_breakevens {found : ℚ} :
    found ∈ find_breakevens legs current_spot ↔
      1 / 10000 < grid_step current_spot ∧ ∃ i < 200, CellCrosses legs current_spot i ∧
        cell_breakeven legs current_spot i = found := by
  rw [find_breakevens_eq]
  split
  case isTrue small => simp only [List.not_mem_nil, not_lt.mpr small, false_and]
  case isFalse large =>
      rw [not_le] at large
      simp only [List.mem_filterMap, List.mem_range, Option.ite_none_right_eq_some,
        Option.some.injEq, large, true_and]

variable {legs current_spot}

theorem cell_breakeven_inside (positive : 0 < current_spot) {i : ℕ}
    (crosses : CellCrosses legs current_spot i) :
    grid_price current_spot i < cell_breakeven legs current_spot i ∧
      cell_breakeven legs current_spot i < grid_price current_spot (i + 1) :=
  bisect_inside 20 (grid_price_strictMono positive i.lt_succ_self) crosses

/-- What is returned for an earlier cell is lower. -/
theorem cell_breakeven_lt (positive : 0 < current_spot) {i j : ℕ} (earlier : i < j)
    (first : CellCrosses legs current_spot i) (second : CellCrosses legs current_spot j) :
    cell_breakeven legs current_spot i < cell_breakeven legs current_spot j :=
  (cell_breakeven_inside positive first).2.trans_le
    (((grid_price_strictMono positive).monotone earlier).trans
      (cell_breakeven_inside positive second).1.le)

theorem cell_breakeven_injective (positive : 0 < current_spot) {i j : ℕ}
    (first : CellCrosses legs current_spot i) (second : CellCrosses legs current_spot j)
    (same : cell_breakeven legs current_spot i = cell_breakeven legs current_spot j) :
    i = j := by
  rcases lt_trichotomy i j with earlier | equal | later
  · exact absurd same (cell_breakeven_lt positive earlier first second).ne
  · exact equal
  · exact absurd same (cell_breakeven_lt positive later second first).ne'

/-- The returned values come in order, each but once. -/
theorem find_breakevens_sorted (positive : 0 < current_spot) :
    (find_breakevens legs current_spot).Pairwise (· < ·) := by
  rw [find_breakevens_eq]
  split
  case isTrue => exact .nil
  case isFalse =>
      rw [List.pairwise_filterMap]
      apply List.pairwise_lt_range.imp
      intro i j earlier found first later second
      rw [Option.ite_none_right_eq_some] at first second
      obtain ⟨crosses, same⟩ := first
      obtain ⟨again, equal⟩ := second
      rw [← Option.some.inj same, ← Option.some.inj equal]
      exact cell_breakeven_lt positive earlier crosses again

/-! ## The sign changes -/

/-- The payoff comes up to 0, or it leaves 0 downwards; a payoff of 0 is no loss. -/
inductive Turn where
  | rise
  | fall
  deriving DecidableEq

def TurnsAt (legs : List StrategyLeg) : Turn × ℚ → Prop
  | (.rise, price) =>
      0 ≤ calculate_expiry_payoff legs price ∧
        LeftSign (calculate_expiry_payoff legs) price (-1)
  | (.fall, price) =>
      0 ≤ calculate_expiry_payoff legs price ∧
        RightSign (calculate_expiry_payoff legs) price (-1)

/-- The sign changes from half of the spot price to one and a half of it. -/
def sign_changes (legs : List StrategyLeg) (current_spot : ℚ) : Set (Turn × ℚ) :=
  { change | TurnsAt legs change ∧
    current_spot * (1 / 2) ≤ change.2 ∧ change.2 ≤ current_spot * (3 / 2) }

/-- The cell in which a sign change shows at the ends. -/
def InCell (current_spot : ℚ) (i : ℕ) : Turn × ℚ → Prop
  | (.rise, price) => grid_price current_spot i < price ∧
      price ≤ grid_price current_spot (i + 1)
  | (.fall, price) => grid_price current_spot i ≤ price ∧
      price < grid_price current_spot (i + 1)

theorem InCell.bounds {i : ℕ} {change : Turn × ℚ} (inside : InCell current_spot i change) :
    grid_price current_spot i ≤ change.2 ∧
      change.2 ≤ grid_price current_spot (i + 1) := by
  obtain ⟨turn, price⟩ := change
  cases turn with
  | rise => exact ⟨inside.1.le, inside.2⟩
  | fall => exact ⟨inside.1, inside.2.le⟩

theorem InCell.le (positive : 0 < current_spot) {i j : ℕ} {change : Turn × ℚ}
    (inside : InCell current_spot i change) (also : InCell current_spot j change) :
    i ≤ j := by
  by_contra later
  have apart := (grid_price_strictMono positive).monotone
    (Nat.succ_le_of_lt (not_le.mp later))
  obtain ⟨turn, price⟩ := change
  cases turn with
  | rise => exact absurd (also.2.trans apart) (not_le.mpr inside.1)
  | fall => exact absurd (apart.trans inside.1) (not_le.mpr also.2)

theorem InCell.unique (positive : 0 < current_spot) {i j : ℕ} {change : Turn × ℚ}
    (inside : InCell current_spot i change) (also : InCell current_spot j change) :
    i = j :=
  le_antisymm (inside.le positive also) (also.le positive inside)

theorem CellCrosses.exists_change (positive : 0 < current_spot) {i : ℕ} (cell : i < 200)
    (crosses : CellCrosses legs current_spot i) :
    ∃ change ∈ sign_changes legs current_spot, InCell current_spot i change := by
  have between := grid_price_strictMono positive i.lt_succ_self
  have low := low_le_grid_price positive i
  have high := grid_price_le_high positive cell
  rw [CellCrosses, Crosses, same_sign_iff] at crosses
  rcases lt_or_ge (calculate_expiry_payoff legs (grid_price current_spot i)) 0 with
    start | start
  · have finish : 0 ≤ calculate_expiry_payoff legs (grid_price current_spot (i + 1)) :=
      not_lt.mp fun below => crosses (iff_of_true start below)
    obtain ⟨x, after, within, turns⟩ :=
      (knotted_payoff legs).exists_rise between start finish
    exact ⟨(.rise, x), ⟨turns, low.trans after.le, within.trans high⟩, after, within⟩
  · have finish : calculate_expiry_payoff legs (grid_price current_spot (i + 1)) < 0 :=
      not_le.mp fun above => crosses (iff_of_false (not_lt.mpr start) (not_lt.mpr above))
    obtain ⟨x, within, before, turns⟩ :=
      (knotted_payoff legs).exists_fall between start finish
    exact ⟨(.fall, x), ⟨turns, low.trans within, before.le.trans high⟩, within, before⟩

/-- Before it comes up to 0, a payoff that was no loss has left 0. -/
theorem exists_fall_before {low x : ℚ} (rises : TurnsAt legs (.rise, x)) (before : low < x)
    (start : 0 ≤ calculate_expiry_payoff legs low) :
    ∃ y, low ≤ y ∧ y < x ∧ TurnsAt legs (.fall, y) := by
  obtain ⟨near, after, below, sign⟩ := rises.2.exists_near before
  obtain ⟨y, within, under, turns⟩ :=
    (knotted_payoff legs).exists_fall after start (sign_eq_neg_one_iff.mp sign)
  exact ⟨y, within, under.trans below, turns⟩

theorem exists_rise_after {x high : ℚ} (falls : TurnsAt legs (.fall, x)) (after : x < high)
    (finish : 0 ≤ calculate_expiry_payoff legs high) :
    ∃ y, x < y ∧ y ≤ high ∧ TurnsAt legs (.rise, y) := by
  obtain ⟨near, above, before, sign⟩ := falls.2.exists_near after
  obtain ⟨y, beyond, within, turns⟩ :=
    (knotted_payoff legs).exists_rise before (sign_eq_neg_one_iff.mp sign) finish
  exact ⟨y, above.trans beyond, within, turns⟩

/-- A sign change that is alone in its cell shows at its ends. -/
theorem crosses_of_alone (positive : 0 < current_spot) {i : ℕ} (cell : i < 200)
    {change : Turn × ℚ} (member : change ∈ sign_changes legs current_spot)
    (inside : InCell current_spot i change)
    (alone : ∀ other ∈ sign_changes legs current_spot, InCell current_spot i other →
      other = change) : CellCrosses legs current_spot i := by
  have low := low_le_grid_price positive i
  have high := grid_price_le_high positive cell
  rw [CellCrosses, Crosses, same_sign_iff]
  obtain ⟨turn, x⟩ := change
  obtain ⟨turns, -, -⟩ := member
  have no_fall : turn = .rise → ∀ y, grid_price current_spot i ≤ y →
      y < grid_price current_spot (i + 1) → ¬TurnsAt legs (.fall, y) := by
    rintro rfl y within before falls
    have same := alone (.fall, y) ⟨falls, low.trans within, before.le.trans high⟩
      ⟨within, before⟩
    cases same
  have no_rise : turn = .fall → ∀ y, grid_price current_spot i < y →
      y ≤ grid_price current_spot (i + 1) → ¬TurnsAt legs (.rise, y) := by
    rintro rfl y after within rises
    have same := alone (.rise, y) ⟨rises, low.trans after.le, within.trans high⟩
      ⟨after, within⟩
    cases same
  cases turn with
  | rise =>
      have start : calculate_expiry_payoff legs (grid_price current_spot i) < 0 := by
        by_contra none
        obtain ⟨y, within, before, falls⟩ :=
          exists_fall_before turns inside.1 (not_lt.mp none)
        exact no_fall rfl y within (before.trans_le inside.2) falls
      have finish : ¬calculate_expiry_payoff legs (grid_price current_spot (i + 1)) < 0 := by
        intro below
        have before : x < grid_price current_spot (i + 1) := by
          rcases inside.2.lt_or_eq with before | same
          · exact before
          · exact absurd (same ▸ turns.1) (not_le.mpr below)
        obtain ⟨y, within, under, falls⟩ :=
          (knotted_payoff legs).exists_fall before turns.1 below
        exact no_fall rfl y (inside.1.le.trans within) under falls
      exact fun same => finish (same.mp start)
  | fall =>
      have finish : calculate_expiry_payoff legs (grid_price current_spot (i + 1)) < 0 := by
        by_contra none
        obtain ⟨y, after, within, rises⟩ :=
          exists_rise_after turns inside.2 (not_lt.mp none)
        exact no_rise rfl y (inside.1.trans_lt after) within rises
      have start : ¬calculate_expiry_payoff legs (grid_price current_spot i) < 0 := by
        intro below
        have after : grid_price current_spot i < x := by
          rcases inside.1.lt_or_eq with after | same
          · exact after
          · exact absurd (same ▸ turns.1) (not_le.mpr below)
        obtain ⟨y, beyond, within, rises⟩ :=
          (knotted_payoff legs).exists_rise after below turns.1
        exact no_rise rfl y beyond (within.trans inside.2.le) rises
      exact fun same => start (same.mpr finish)

/-! ## Each has a returned value of its own -/

variable (legs current_spot)

/-- The value lies in a cell whose ends have different signs; there the payoff is below
the tolerance, or it is the midpoint of a part of the cell at whose ends they still
differ. -/
def Bracketed (found : ℚ) : Prop :=
  ∃ i < 200, CellCrosses legs current_spot i ∧
    grid_price current_spot i < found ∧ found < grid_price current_spot (i + 1) ∧
    (|calculate_expiry_payoff legs found| < 1 / 2 ∨
      ∃ low high, grid_price current_spot i ≤ low ∧
        high ≤ grid_price current_spot (i + 1) ∧
        high - low = grid_step current_spot / 2 ^ 20 ∧ Crosses legs low high ∧
        found = (low + high) / 2)

/-- Every sign change lies within the width of a cell of a returned value of its own. -/
def EachFound : Prop :=
  ∃ assign : Turn × ℚ → ℚ, Set.InjOn assign (sign_changes legs current_spot) ∧
    ∀ change ∈ sign_changes legs current_spot,
      assign change ∈ find_breakevens legs current_spot ∧
        |assign change - change.2| ≤ grid_step current_spot

/-- The cells are wide enough to be searched, and each sign change has its own. -/
structure Separated : Prop where
  wide : (sign_changes legs current_spot).Nonempty → 1 / 10000 < grid_step current_spot
  inner : ∀ change ∈ sign_changes legs current_spot,
    ∃ i < 200, InCell current_spot i change
  apart : ∀ change ∈ sign_changes legs current_spot,
    ∀ other ∈ sign_changes legs current_spot, ∀ i, InCell current_spot i change →
      InCell current_spot i other → other = change

variable {legs current_spot}

theorem bracketed_of_mem (positive : 0 < current_spot) {found : ℚ}
    (member : found ∈ find_breakevens legs current_spot) :
    Bracketed legs current_spot found := by
  obtain ⟨-, i, cell, crosses, rfl⟩ := (mem_find_breakevens legs current_spot).mp member
  have between := grid_price_strictMono positive i.lt_succ_self
  obtain ⟨after, before⟩ := cell_breakeven_inside positive crosses
  refine ⟨i, cell, crosses, after, before, ?_⟩
  obtain ⟨low, high, above, -, below, changes, same, near⟩ :=
    bisect_spec 20 between crosses
  rw [cell_breakeven, same]
  refine near.imp_right fun width => ⟨low, high, above, below, ?_, changes, rfl⟩
  rw [width, grid_price_succ, add_sub_cancel_left]

/-- What finitely many picks out of a set give, when the set has no more members than
there are picks: all its members. -/
theorem exists_pick {ι δ ρ : Type*} [Finite ι] {members : Set δ} {pick : ι → δ}
    {assign : δ → ρ} (value : ι → ρ) (picked : ∀ i, pick i ∈ members)
    (injective : pick.Injective) (injOn : Set.InjOn assign members)
    (assigned : ∀ d ∈ members, ∃ i, value i = assign d) :
    ∀ d ∈ members, ∃ i, pick i = d := by
  choose back same using fun i => assigned (pick i) (picked i)
  have back_injective : back.Injective := by
    intro i j equal
    apply injective
    apply injOn (picked i) (picked j)
    rw [← same i, ← same j, equal]
  intro d member
  obtain ⟨i, found⟩ := assigned d member
  obtain ⟨j, rfl⟩ := Finite.surjective_of_injective back_injective i
  refine ⟨j, injOn (picked j) member ?_⟩
  rw [← same j, found]

theorem Separated.of_eachFound (positive : 0 < current_spot)
    (found : EachFound legs current_spot) : Separated legs current_spot := by
  obtain ⟨assign, injOn, assigned⟩ := found
  choose pick picked inside using
    fun i : { i : Fin 200 // CellCrosses legs current_spot i } =>
      i.2.exists_change positive i.1.isLt
  have injective : pick.Injective := by
    intro i j same
    apply Subtype.ext
    apply Fin.ext
    exact (inside i).unique positive (same ▸ inside j)
  -- there are no more returned values than cells with a sign change picked out of each
  have covered := exists_pick (fun i => cell_breakeven legs current_spot i.1) picked
    injective injOn (by
      intro change member
      obtain ⟨-, i, cell, crosses, same⟩ :=
        (mem_find_breakevens legs current_spot).mp (assigned change member).1
      exact ⟨⟨⟨i, cell⟩, crosses⟩, same⟩)
  refine ⟨?_, ?_, ?_⟩
  · rintro ⟨change, member⟩
    exact ((mem_find_breakevens legs current_spot).mp (assigned change member).1).1
  · intro change member
    obtain ⟨i, rfl⟩ := covered change member
    exact ⟨i.1, i.1.isLt, inside i⟩
  · intro change member other also k first second
    obtain ⟨i, rfl⟩ := covered change member
    obtain ⟨j, rfl⟩ := covered other also
    have left := first.unique positive (inside i)
    have right := second.unique positive (inside j)
    rw [Subtype.ext (Fin.ext (right.symm.trans left))]

theorem EachFound.of_separated (positive : 0 < current_spot)
    (separated : Separated legs current_spot) : EachFound legs current_spot := by
  choose! cell cell_lt inside using separated.inner
  have crosses : ∀ change ∈ sign_changes legs current_spot,
      CellCrosses legs current_spot (cell change) := by
    intro change member
    apply crosses_of_alone positive (cell_lt change member) member (inside change member)
    intro other also within
    exact separated.apart change member other also _ (inside change member) within
  refine ⟨fun change => cell_breakeven legs current_spot (cell change), ?_, ?_⟩
  · intro change member other also same
    have equal := cell_breakeven_injective positive (crosses change member)
      (crosses other also) same
    have within := inside change member
    rw [equal] at within
    exact separated.apart other also change member _ (inside other also) within
  · intro change member
    constructor
    · rw [mem_find_breakevens]
      exact ⟨separated.wide ⟨change, member⟩, cell change, cell_lt change member,
        crosses change member, rfl⟩
    · obtain ⟨after, before⟩ := cell_breakeven_inside positive (crosses change member)
      obtain ⟨above, below⟩ := (inside change member).bounds
      rw [grid_price_succ] at before below
      rw [abs_le]
      constructor
      · linarith
      · linarith

/-- Every returned value is bracketed; each sign change has one of its own exactly when
each has a cell of its own. -/
theorem find_breakevens_spec (positive : 0 < current_spot) :
    (∀ found ∈ find_breakevens legs current_spot, Bracketed legs current_spot found) ∧
      (EachFound legs current_spot ↔ Separated legs current_spot) :=
  ⟨fun _ member => bracketed_of_mem positive member,
    .of_eachFound positive, .of_separated positive⟩

end Legs

/-! ### A call, and a straddle within one cell -/

theorem find_breakevens_spec_call :
    (∀ found ∈ find_breakevens [option_leg .CE .BUY 100 5] 100,
        Bracketed [option_leg .CE .BUY 100 5] 100 found) ∧
      (EachFound [option_leg .CE .BUY 100 5] 100 ↔
        Separated [option_leg .CE .BUY 100 5] 100) :=
  find_breakevens_spec (by norm_num)

def narrow_straddle : List StrategyLeg :=
  [option_leg .CE .SELL (401 / 4) (1 / 20), option_leg .PE .SELL (401 / 4) (1 / 20)]

/-- The straddle has a profit between 100 and 100.5 only, where the grid has no price. -/
theorem find_breakevens_misses :
    find_breakevens narrow_straddle 100 = [] ∧ ¬EachFound narrow_straddle 100 := by
  have none_found : find_breakevens narrow_straddle 100 = [] := by decide +kernel
  refine ⟨none_found, ?_⟩
  rintro ⟨assign, -, assigned⟩
  have between : (100 : ℚ) < 401 / 4 := by norm_num
  obtain ⟨x, after, within, turns⟩ := (knotted_payoff narrow_straddle).exists_rise between
    (by with_unfolding_all decide) (by with_unfolding_all decide)
  have member : ((.rise, x) : Turn × ℚ) ∈ sign_changes narrow_straddle 100 :=
    ⟨turns, by linarith, by linarith⟩
  have found := (assigned _ member).1
  rw [none_found] at found
  exact List.not_mem_nil found

end HftEngine.Backend.StrategySimulation
