import HftEngine.Lib.KeyedWrites
import HftEngine.Lib.Python.Number
import HftEngine.Lib.Ranking

/-!
# Percentage highlights of the option table

`usePercentageHighlights`, without the colours.  The counts of a chain are ints
that a JavaScript number holds exactly, so that the quotient of two is the
double nearest their ratio.
-/

namespace HftEngine.Frontend

open Py

inductive Column where
  | volume
  | oi
  | oichng
  deriving DecidableEq

inductive Side where
  | ce
  | pe
  deriving DecidableEq

/-- The fields of one side of a strike that are read; a field may be missing. -/
structure SideData where
  volume : Option ℤ := none
  OI : Option ℤ := none
  oi : Option ℤ := none
  oichng : Option ℤ := none

/-- The sides of the chain, by their strikes. -/
abbrev OptionData := Float → Side → Option SideData

/-- `field || other`. -/
def orElse (field : Option ℤ) (other : ℤ) : ℤ :=
  match field with
  | some n => if n = 0 then other else n
  | none => other

def rawValue (optionData : OptionData) (strike : Float) (column : Column)
    (side : Side) :
    ℤ :=
  let sideData := (optionData strike side).getD {}
  match column with
  | .volume => orElse sideData.volume 0
  | .oi => orElse sideData.OI (orElse sideData.oi 0)
  | .oichng => orElse sideData.oichng 0

/-- Of a change of the open interest only an increase counts. -/
def value (column : Column) (rawValue : ℤ) : ℤ :=
  match column with
  | .oichng => if 0 < rawValue then rawValue else 0
  | .volume | .oi => rawValue

/-- `Math.round`, which rounds half of an odd number up; none of what is not
finite. -/
def mathRound (x : Float) : Option ℤ :=
  match x.toModel.unpack with
  | .zero _ => some 0
  | .finite sign mantissa exponent _ =>
      let scaled : ℤ := mantissa * 2 ^ exponent.toNat
      let unit : ℤ := 2 ^ (-exponent).toNat
      some (match sign with
        | .positive => (2 * scaled + unit) / (2 * unit)
        | .negative => (-2 * scaled + unit) / (2 * unit))
  | _ => none

/-- How many steps of 50 a strike is in the money. -/
def getITMDepth (strike atmStrike : Float) (side : Side) : Option ℤ :=
  if atmStrike == 0 ∨ atmStrike.isNaN then some 0
  else match side with
    | .ce =>
        if strike < atmStrike then mathRound ((atmStrike - strike) / 50) else some 0
    | .pe =>
        if strike > atmStrike then mathRound ((strike - atmStrike) / 50) else some 0

def isValidFor100 (strike atmStrike : Float) (side : Side) : Bool :=
  (getITMDepth strike atmStrike side).any (fun itmDepth => itmDepth ≤ 2)

structure Item where
  strike : Float
  value : ℤ
  rawValue : ℤ
  isValidFor100 : Bool

def item (optionData : OptionData) (atmStrike : Float) (column : Column) (side : Side)
    (strike : Float) : Item :=
  let rawValue := rawValue optionData strike column side
  { strike, value := value column rawValue, rawValue
    isValidFor100 := isValidFor100 strike atmStrike side }

def items (strikes : List Float) (optionData : OptionData) (atmStrike : Float)
    (column : Column) (side : Side) : List Item :=
  strikes.map (item optionData atmStrike column side)

/-- The largest of the positive valid values, and 0 when there are none. -/
def maxValue (values : List Item) : ℤ :=
  let validValues := values.filter (fun v => v.isValidFor100 && 0 < v.value)
  ((validValues.map (·.value)).max?).getD 0

structure Highlight where
  pct : Float
  rank : ℕ

/-- `value / maxValue`. -/
def quotient (value maxValue : ℤ) : Float :=
  let magnitude := ofRatio value.natAbs maxValue.toNat
  if value < 0 then -magnitude else magnitude

def pct (column : Column) (maxValue : ℤ) (item : Item) : Float :=
  if column = .oichng ∧ item.rawValue < 0 then
    quotient |item.rawValue| maxValue * 100
  else quotient item.value maxValue * 100

def ranks (values : List Item) : List (Float × ℕ) :=
  (Ranking.ranks (·.value) (values.filter (0 < ·.value))).map (fun ranked =>
    (ranked.1.strike, ranked.2))

/-- The rank of a strike, and 0 of one that has none. -/
def rankOf (values : List Item) (strike : Float) : ℕ :=
  (KeyedWrites.play (fun _ => none) (ranks values) strike).getD 0

def calculateColumnHighlights (strikes : List Float) (optionData : OptionData)
    (atmStrike : Float) (column : Column) (side : Side) : List (Float × Highlight) :=
  let values := items strikes optionData atmStrike column side
  let maxValue := maxValue values
  if maxValue = 0 then strikes.map (fun strike => (strike, ⟨0, 0⟩))
  else values.map (fun item =>
    (item.strike, ⟨pct column maxValue item, rankOf values item.strike⟩))

/-- The highlight of a column and side at a strike; none where the hook gives
none. -/
def usePercentageHighlights (visibleStrikes : List Float) (optionData : OptionData)
    (atmStrike : Float) (column : Column) (side : Side) : Float → Option Highlight :=
  KeyedWrites.play (fun _ => none)
    (calculateColumnHighlights visibleStrikes optionData atmStrike column side)

/-! ## The highlight of a strike -/

section Highlights

variable {strikes : List Float} {optionData : OptionData} {atmStrike : Float}
  {column : Column} {side : Side}

theorem calculateColumnHighlights_eq :
    calculateColumnHighlights strikes optionData atmStrike column side =
      strikes.map (fun strike => (strike,
        if maxValue (items strikes optionData atmStrike column side) = 0 then ⟨0, 0⟩
        else
          ⟨pct column (maxValue (items strikes optionData atmStrike column side))
            (item optionData atmStrike column side strike),
            rankOf (items strikes optionData atmStrike column side) strike⟩)) := by
  unfold calculateColumnHighlights
  by_cases none_valid : maxValue (items strikes optionData atmStrike column side) = 0
  · simp only [none_valid, if_true]
  · simp only [none_valid, if_false]
    rw [items, List.map_map]
    rfl

theorem usePercentageHighlights_eq (distinct : strikes.Nodup) {strike : Float}
    (member : strike ∈ strikes) :
    usePercentageHighlights strikes optionData atmStrike column side strike =
      some (if maxValue (items strikes optionData atmStrike column side) = 0 then ⟨0, 0⟩
        else
          ⟨pct column (maxValue (items strikes optionData atmStrike column side))
            (item optionData atmStrike column side strike),
            rankOf (items strikes optionData atmStrike column side) strike⟩) := by
  rw [usePercentageHighlights, calculateColumnHighlights_eq]
  apply KeyedWrites.play_of_mem
  · rw [List.map_map]
    simpa [Function.comp_def] using distinct
  · exact List.mem_map_of_mem member

/-- The value that a strike is ranked by. -/
def rankValue (optionData : OptionData) (column : Column) (side : Side)
    (strike : Float) :
    ℤ :=
  value column (rawValue optionData strike column side)

/-- A rank is one more than the number of larger values. -/
theorem rankOf_eq {strike : Float}
    (ranked : rankOf (items strikes optionData atmStrike column side) strike ≠ 0) :
    rankOf (items strikes optionData atmStrike column side) strike =
      strikes.countP (fun other =>
        rankValue optionData column side strike <
          rankValue optionData column side other ∧
          0 < rankValue optionData column side other) + 1 := by
  unfold rankOf at ranked ⊢
  cases found : KeyedWrites.play (fun _ => none)
      (ranks (items strikes optionData atmStrike column side)) strike with
  | none => simp [found] at ranked
  | some rank =>
      obtain ⟨ranked_item, among, rfl, counted⟩ := Ranking.read_rank found
      obtain ⟨other, member, rfl⟩ := List.mem_map.mp (List.mem_of_mem_filter among)
      rw [Option.getD_some, counted, Ranking.above, List.countP_filter, items,
        List.countP_map]
      congr 2
      funext strike
      exact (Bool.decide_and _ _).symm

theorem maxValue_pos {values : List Item} (nonzero : maxValue values ≠ 0) :
    0 < maxValue values := by
  cases found : ((values.filter (fun v => v.isValidFor100 && 0 < v.value)).map
      (·.value)).max? with
  | none => simp [maxValue, found] at nonzero
  | some greatest =>
      have largest : maxValue values = greatest := by
        rw [maxValue, found]
        rfl
      obtain ⟨attained, -⟩ := List.max?_eq_some_iff.mp found
      obtain ⟨v, among, rfl⟩ := List.mem_map.mp attained
      have valid := (List.mem_filter.mp among).2
      rw [Bool.and_eq_true, decide_eq_true_iff] at valid
      rw [largest]
      exact valid.2

/-- A decrease is shown by its absolute value. -/
theorem pct_oichng (reference : ℤ) (strike : Float) :
    pct .oichng reference (item optionData atmStrike .oichng side strike) =
      quotient |rawValue optionData strike .oichng side| reference * 100 := by
  unfold pct
  split
  case isTrue decrease => rfl
  case isFalse notDecrease =>
    have nonneg : 0 ≤ rawValue optionData strike .oichng side := by
      by_contra negative
      exact notDecrease ⟨rfl, not_le.mp negative⟩
    have shown : (item optionData atmStrike .oichng side strike).value =
        |rawValue optionData strike .oichng side| := by
      rw [abs_of_nonneg nonneg]
      simp only [item, value]
      split
      · rfl
      · omega
    rw [shown]

theorem pct_other (other : column ≠ .oichng) (reference : ℤ) (strike : Float) :
    pct column reference (item optionData atmStrike column side strike) =
      quotient (rawValue optionData strike column side) reference * 100 := by
  rw [pct, if_neg (fun decrease => other decrease.1)]
  cases column with
  | volume => rfl
  | oi => rfl
  | oichng => contradiction

end Highlights

end HftEngine.Frontend
