import HftEngine.Lib.Python.Value

/-!
# Numbers among Python values

`int`, `float`, the arithmetic operators and the comparisons with 0, with the
exceptions they raise.  A bool counts as 0 or 1; an int that meets a float is
converted, which raises `OverflowError` when it is too large.
-/

namespace Py

open Binary64

open Float.Model in
/-- The double nearest a quotient of positive numbers; 0 if one of them is 0. -/
def ofRatio (numerator denominator : ℕ) : Float :=
  if positive : 0 < numerator ∧ 0 < denominator then
    Float.ofModel (pack (UnpackedFloat.div Format.binary64
      (.finite .positive numerator 0 positive.1)
      (.finite .positive denominator 0 positive.2)))
  else 0

/-- `numerator / denominator` of ints. -/
def trueDivide (numerator : ℤ) (denominator : ℕ) : Result Float :=
  let magnitude := ofRatio numerator.natAbs denominator
  if magnitude.isInf then .error .overflowError
  else .ok (if numerator < 0 then -magnitude else magnitude)

/-- `float(n)`. -/
def ofInt (n : ℤ) : Result Float :=
  trueDivide n 1

/-- `int(x)`. -/
def truncate (x : Float) : Result ℤ :=
  match x.toModel.unpack with
  | .infinity _ => .error .overflowError
  | .notANumber => .error .valueError
  | .zero _ => .ok 0
  | .finite sign mantissa exponent _ =>
      let magnitude := mantissa * 2 ^ exponent.toNat / 2 ^ (-exponent).toNat
      .ok (match sign with
        | .positive => magnitude
        | .negative => -(magnitude : ℤ))

/-- `round(x)`: the nearest int, the even one of two. -/
def round (x : Float) : Result ℤ :=
  match x.toModel.unpack with
  | .infinity _ => .error .overflowError
  | .notANumber => .error .valueError
  | .zero _ => .ok 0
  | .finite sign mantissa exponent _ =>
      let scaled := mantissa * 2 ^ exponent.toNat
      let unit := 2 ^ (-exponent).toNat
      let below := scaled / unit
      let twice := 2 * (scaled % unit)
      let nearest :=
        if twice < unit ∨ (twice = unit ∧ below % 2 = 0) then below else below + 1
      .ok (match sign with
        | .positive => nearest
        | .negative => -(nearest : ℤ))

/-- `round(x, places)`: the decimal of so many places that is nearest the exact
value of `x`, the even one of two. -/
def roundTo (places : ℕ) (x : Float) : Float :=
  match x.toModel.unpack with
  | .finite sign mantissa exponent _ =>
      let decimal := expand mantissa exponent
      if -places ≤ decimal.2 then x
      else
        let unit := 10 ^ (-places - decimal.2).toNat
        let below := decimal.1 / unit
        let twice := 2 * (decimal.1 % unit)
        let nearest :=
          if twice < unit ∨ (twice = unit ∧ below % 2 = 0) then below else below + 1
        ofDecimal (isNegative sign) nearest (-places)
  | _ => x

theorem canonical_one : Canonical (2 ^ 52) (-52) :=
  ⟨by norm_num, by norm_num, by decide⟩

open Float.Model in
theorem ofRatio_self {n : ℕ} (positive : 0 < n) : ofRatio n n = 1 := by
  have divided : UnpackedFloat.divCore Format.binary64 n 0 n 0 =
      (2 ^ 52 * 2 ^ 1, (-52 : ℤ) - (1 : ℕ), .exact) := by
    have target : min (0 - 0) (Format.binary64.targetExponent
        (totalExponent n 0 - totalExponent n 0)) = -53 := by
      rw [sub_self, sub_self]
      decide
    rw [UnpackedFloat.divCore, target]
    simp only [Nat.shiftLeft_eq]
    rw [Nat.mul_div_cancel_left _ positive, Nat.mul_mod_right]
    rfl
  have quotient := roundWithAccuracy_exact canonical_one .positive 1
  simp only [ofRatio, positive, and_self, dif_pos, UnpackedFloat.div, divided]
  change Float.ofModel (pack (UnpackedFloat.roundWithAccuracy Format.binary64
    .positive _ _ _)) = 1
  rw [quotient]
  decide

/-- A positive int divided by itself. -/
theorem trueDivide_self {n : ℤ} (positive : 0 < n) : trueDivide n n.toNat = .ok 1 := by
  have same : n.natAbs = n.toNat := by omega
  have finite : (1 : Float).isInf = false := by decide
  rw [trueDivide, same, ofRatio_self (by omega)]
  simp [finite, not_lt.mpr positive.le]

namespace Value

/-- `int(value)`. -/
def toInt : Value → Result ℤ
  | .bool b => .ok (if b then 1 else 0)
  | .int n => .ok n
  | .float x => truncate x
  | .str s =>
      match int? s with
      | some n => .ok n
      | none => .error .valueError
  | .null | .list _ | .dict _ => .error .typeError

/-- `float(value)`. -/
def toFloat : Value → Result Float
  | .bool b => ofInt (if b then 1 else 0)
  | .int n => ofInt n
  | .float x => .ok x
  | .str s =>
      match float? s with
      | some x => .ok x
      | none => .error .valueError
  | .null | .list _ | .dict _ => .error .typeError

@[simp] theorem toInt_int (n : ℤ) : (Value.int n).toInt = .ok n := rfl

@[simp] theorem toFloat_float (x : Float) : (Value.float x).toFloat = .ok x := rfl

/-! ## Operators -/

inductive Operand where
  | int (n : ℤ)
  | float (x : Float)

/-- What an arithmetic operator sees of a value. -/
def operand : Value → Result Operand
  | .bool b => .ok (.int (if b then 1 else 0))
  | .int n => .ok (.int n)
  | .float x => .ok (.float x)
  | .null | .str _ | .list _ | .dict _ => .error .typeError

def Operand.toFloat : Operand → Result Float
  | .int n => ofInt n
  | .float x => .ok x

def arithmetic (ints : ℤ → ℤ → ℤ) (floats : Float → Float → Float)
    (left right : Value) : Result Value := do
  match ← left.operand, ← right.operand with
  | .int a, .int b => .ok (.int (ints a b))
  | a, b => .ok (.float (floats (← a.toFloat) (← b.toFloat)))

def add : Value → Value → Result Value :=
  arithmetic (· + ·) (· + ·)

def sub : Value → Value → Result Value :=
  arithmetic (· - ·) (· - ·)

/-- `value / 2`. -/
def half (value : Value) : Result Value := do
  match ← value.operand with
  | .int n => .ok (.float (← trueDivide n 2))
  | .float x => .ok (.float (x / 2))

/-- `value > 0`. -/
def isPositive (value : Value) : Result Bool := do
  match ← value.operand with
  | .int n => .ok (0 < n)
  | .float x => .ok (0 < x)

/-- `value == 0`, which compares values of any types. -/
def isZero (value : Value) : Bool :=
  match value.operand with
  | .ok (.int n) => n = 0
  | .ok (.float x) => x == 0
  | .error _ => false

end Value

/-! ## Converted fields -/

/-- `float(data.get(key, default))`. -/
def floatOf (data : Value) (key : String) (default : Value) : Result Float := do
  (← data.get key default).toFloat

/-- `int(data.get(key, default))`. -/
def intOf (data : Value) (key : String) (default : Value) : Result ℤ := do
  (← data.get key default).toInt

/-- `float(data.get(key)) if data.get(key) else None`. -/
def optionalFloatOf (data : Value) (key : String) : Result (Option Float) := do
  let value ← data.get key .null
  if value.truthy then some <$> value.toFloat else .ok none

/-- `int(data.get(key)) if data.get(key) else None`. -/
def optionalIntOf (data : Value) (key : String) : Result (Option ℤ) := do
  let value ← data.get key .null
  if value.truthy then some <$> value.toInt else .ok none

section Found

variable {entries : Dict} {key : String}

theorem floatOf_found {x : Float} (found : lookup? key entries = some (.float x))
    (default : Value) : floatOf (.dict entries) key default = .ok x :=
  bind_step (get_of_lookup found default) rfl

theorem intOf_found {n : ℤ} (found : lookup? key entries = some (.int n))
    (default : Value) : intOf (.dict entries) key default = .ok n :=
  bind_step (get_of_lookup found default) rfl

theorem optionalFloatOf_found {value : Option Float}
    (found : lookup? key entries = some (orNull .float value)) :
    optionalFloatOf (.dict entries) key =
      .ok (value.filter (fun x => !(x == 0))) := by
  apply bind_step (get_of_lookup found .null)
  cases value with
  | none => rfl
  | some x =>
      by_cases zero : x == 0
      · simp [orNull, Value.truthy, Option.filter, zero]
      · simp [orNull, Value.truthy, Option.filter, zero]

theorem optionalIntOf_found {value : Option ℤ}
    (found : lookup? key entries = some (orNull .int value)) :
    optionalIntOf (.dict entries) key = .ok (value.filter (fun n => n ≠ 0)) := by
  apply bind_step (get_of_lookup found .null)
  cases value with
  | none => rfl
  | some n =>
      by_cases zero : n = 0
      · simp [orNull, Value.truthy, Option.filter, zero]
      · simp [orNull, Value.truthy, Option.filter, zero]

end Found

example : (Value.str "1e3").toFloat = .ok 1000 := by decide
example : (Value.float (-7.9)).toInt = .ok (-7) := by decide
example : ofInt (10 ^ 400) = .error .overflowError := by decide +kernel

end Py
