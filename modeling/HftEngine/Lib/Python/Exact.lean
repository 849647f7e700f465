import HftEngine.Lib.Python.Number
import Mathlib.Algebra.Order.Floor.Ring
import Mathlib.Data.Rat.Floor
import Mathlib.Order.WithBot

/-!
# Exact numbers

The exact value of a number, comparisons, and `int`, `round` and the formats with a fixed number
of places for numbers that are not rounded on the way.  Of two nearest decimals the
latter take the even one.
-/

namespace Py

open Binary64

/-- The exact value of a number. -/
def exact (value : Value) : Result ℚ := do
  match ← value.operand with
  | .int n => .ok n
  | .float x =>
      match x.toModel.unpack with
      | .zero _ => .ok 0
      | .finite sign mantissa exponent _ =>
          let magnitude : ℚ := mantissa * 2 ^ exponent
          .ok (if isNegative sign then -magnitude else magnitude)
      | _ => .error .valueError

/-! ## Comparisons -/

/-- Where a number stands among all others; none of what is not a number. -/
def magnitude : Value.Operand → Option (WithBot (WithTop ℚ))
  | .int n => some ((n : ℚ) : WithTop ℚ)
  | .float x =>
      match x.toModel.unpack with
      | .notANumber => none
      | .infinity sign => some (if isNegative sign then ⊥ else ((⊤ : WithTop ℚ) : WithBot _))
      | .zero _ => some ((0 : ℚ) : WithTop ℚ)
      | .finite sign mantissa exponent _ =>
          let magnitude : ℚ := mantissa * 2 ^ exponent
          some ((if isNegative sign then -magnitude else magnitude : ℚ) : WithTop ℚ)

namespace Value

/-- A comparison of numbers, which is exact for an int and a float as well. -/
def compare (holds : WithBot (WithTop ℚ) → WithBot (WithTop ℚ) → Bool) (left right : Value) :
    Result Bool := do
  match magnitude (← left.operand), magnitude (← right.operand) with
  | some x, some y => .ok (holds x y)
  | _, _ => .ok false

/-- `left < right` -/
def lt : Value → Value → Result Bool :=
  compare (fun x y => x < y)

/-- `left <= right` -/
def le : Value → Value → Result Bool :=
  compare (fun x y => x ≤ y)

/-- `abs(value)` -/
def abs (value : Value) : Result Value := do
  match ← value.operand with
  | .int n => .ok (.int n.natAbs)
  | .float x => .ok (.float x.abs)

/-- `left * right` -/
def mul : Value → Value → Result Value :=
  arithmetic (· * ·) (· * ·)

end Value

namespace Exact

variable {α : Type} [Field α] [LinearOrder α] [FloorRing α]

/-- `int(x)`. -/
def trunc (x : α) : ℤ :=
  if 0 ≤ x then ⌊x⌋ else ⌈x⌉

def roundHalfEven (x : α) : ℤ :=
  let below := ⌊x⌋
  let rest := x - below
  if rest + rest < 1 then below
  else if 1 < rest + rest then below + 1
  else if below % 2 = 0 then below
  else below + 1

/-- `round(x, places)`. -/
def roundTo (places : ℕ) (x : α) : α :=
  roundHalfEven (x * 10 ^ places) / 10 ^ places

/-- `f"{x:.0f}"`, which keeps the sign of what is rounded to 0. -/
def whole (x : α) : String :=
  let magnitude := toString (roundHalfEven |x|).natAbs
  if x < 0 then "-" ++ magnitude else magnitude

/-- `f"{x:.2f}"` and its like, with so many places, at least one. -/
def fixed (places : ℕ) (x : ℚ) : String :=
  let scaled := (roundHalfEven (|x| * (10 ^ places : ℕ))).natAbs
  let fraction := toString (scaled % 10 ^ places)
  let magnitude := toString (scaled / 10 ^ places) ++ "." ++
    String.ofList (List.replicate (places - fraction.length) '0') ++ fraction
  if x < 0 then "-" ++ magnitude else magnitude

@[simp] theorem trunc_intCast [IsStrictOrderedRing α] (n : ℤ) : trunc (n : α) = n := by
  simp [trunc]

@[simp] theorem roundHalfEven_intCast [IsStrictOrderedRing α] (n : ℤ) :
    roundHalfEven (n : α) = n := by
  simp [roundHalfEven]

theorem floor_le_roundHalfEven (x : α) : ⌊x⌋ ≤ roundHalfEven x := by
  unfold roundHalfEven
  dsimp only
  split_ifs <;> omega

theorem roundHalfEven_le_ceil [IsStrictOrderedRing α] (x : α) : roundHalfEven x ≤ ⌈x⌉ := by
  unfold roundHalfEven
  dsimp only
  split
  case isTrue => exact Int.floor_le_ceil x
  case isFalse high =>
      have above : ⌊x⌋ < ⌈x⌉ := by
        rw [Int.lt_ceil]
        linarith
      split_ifs <;> omega

theorem le_roundHalfEven {x : α} {n : ℤ} (bound : n ≤ x) : n ≤ roundHalfEven x :=
  (Int.le_floor.mpr bound).trans (floor_le_roundHalfEven x)

theorem roundHalfEven_le [IsStrictOrderedRing α] {x : α} {n : ℤ} (bound : x ≤ n) :
    roundHalfEven x ≤ n :=
  (roundHalfEven_le_ceil x).trans (Int.ceil_le.mpr bound)

theorem roundHalfEven_le_floor_succ (x : α) : roundHalfEven x ≤ ⌊x⌋ + 1 := by
  unfold roundHalfEven
  dsimp only
  split_ifs <;> omega

theorem roundHalfEven_mono [IsStrictOrderedRing α] {x y : α} (le : x ≤ y) :
    roundHalfEven x ≤ roundHalfEven y := by
  rcases (Int.floor_le_floor le).eq_or_lt with same | before
  · unfold roundHalfEven
    dsimp only
    rw [same]
    have rest : x - ⌊y⌋ ≤ y - ⌊y⌋ := sub_le_sub_right le _
    split_ifs <;> first | omega | linarith
  · exact (roundHalfEven_le_floor_succ x).trans (before.trans_le (floor_le_roundHalfEven y))

theorem abs_roundHalfEven_sub_le [IsStrictOrderedRing α] (x : α) :
    |(roundHalfEven x : α) - x| ≤ 1 / 2 := by
  have below := Int.floor_le x
  have above := Int.lt_floor_add_one x
  unfold roundHalfEven
  dsimp only
  rw [abs_le]
  split
  case isTrue low => constructor <;> linarith
  case isFalse high =>
      rw [not_lt] at high
      split
      case isTrue more =>
          push_cast
          constructor <;> linarith
      case isFalse half =>
          rw [not_lt] at half
          split
          · constructor <;> linarith
          · push_cast
            constructor <;> linarith

/-- No integer is nearer. -/
theorem abs_roundHalfEven_sub_le_abs [IsStrictOrderedRing α] (x : α) (n : ℤ) :
    |(roundHalfEven x : α) - x| ≤ |n - x| := by
  obtain rfl | other := eq_or_ne n (roundHalfEven x)
  · exact le_rfl
  · have apart : 1 ≤ |(n : α) - roundHalfEven x| := by
      exact_mod_cast Int.one_le_abs (sub_ne_zero.mpr other)
    have near := abs_roundHalfEven_sub_le x
    have split := abs_sub_le (n : α) x (roundHalfEven x)
    rw [abs_sub_comm x] at split
    linarith

/-- What is already so many places long stays as it is. -/
theorem roundTo_of_scaled [IsStrictOrderedRing α] {places : ℕ} {x : α} {n : ℤ}
    (scaled : x * 10 ^ places = n) : roundTo places x = x := by
  have nonzero : (10 : α) ^ places ≠ 0 := by positivity
  rw [roundTo, scaled, roundHalfEven_intCast, ← scaled, mul_div_cancel_right₀ _ nonzero]

@[simp] theorem roundTo_zero [IsStrictOrderedRing α] (places : ℕ) :
    roundTo places (0 : α) = 0 := by
  apply roundTo_of_scaled (n := 0)
  simp

theorem abs_roundTo_sub_le [IsStrictOrderedRing α] (places : ℕ) (x : α) :
    |roundTo places x - x| ≤ 1 / 2 / 10 ^ places := by
  have scale : (0 : α) < 10 ^ places := by positivity
  have error := abs_roundHalfEven_sub_le (x * 10 ^ places)
  have scaled : roundTo places x - x =
      (roundHalfEven (x * 10 ^ places) - x * 10 ^ places) / 10 ^ places := by
    rw [roundTo]
    field_simp
  rw [scaled, abs_div, abs_of_pos scale]
  gcongr

/-- No number of so many places is nearer. -/
theorem abs_roundTo_sub_le_abs [IsStrictOrderedRing α] (places : ℕ) (x y : α) :
    |roundTo places x - x| ≤ |roundTo places y - x| := by
  have scale : (0 : α) < 10 ^ places := by positivity
  have nearest := abs_roundHalfEven_sub_le_abs (x * 10 ^ places)
    (roundHalfEven (y * 10 ^ places))
  have scaled (n : ℤ) : (n : α) / 10 ^ places - x = (n - x * 10 ^ places) / 10 ^ places := by
    field_simp
  rw [roundTo, roundTo, scaled, scaled, abs_div, abs_div, abs_of_pos scale]
  gcongr

theorem roundTo_mono [IsStrictOrderedRing α] (places : ℕ) {x y : α} (le : x ≤ y) :
    roundTo places x ≤ roundTo places y := by
  have rounded := roundHalfEven_mono (mul_le_mul_of_nonneg_right le
    (pow_nonneg (Nat.ofNat_nonneg 10) places))
  unfold roundTo
  gcongr

example : roundHalfEven (5 / 2 : ℚ) = 2 := by with_unfolding_all decide
example : whole (-22499.5 : ℚ) = "-22500" := by with_unfolding_all decide

end Exact

end Py
