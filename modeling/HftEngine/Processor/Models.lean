import HftEngine.Lib.Calendar
import HftEngine.Lib.Python.Number

/-!
# The pydantic models of the processor

The coercions of pydantic are a parameter; a field that cannot be coerced
raises a `ValidationError`.
-/

namespace HftEngine.Processor

open Py

/-- The coercion of a field of type `str` and of type `float`; none is a
`ValidationError`. -/
structure Pydantic where
  str : Value → Option String
  float : Value → Option Float

/-- What pydantic documents of values that already have the type, and of ints
in a field of type `float`. -/
structure Pydantic.Documented (pydantic : Pydantic) : Prop where
  str_str : ∀ s, pydantic.str (.str s) = some s
  float_float : ∀ x, pydantic.float (.float x) = some x
  float_int : ∀ n x, ofInt n = .ok x → pydantic.float (.int n) = some x

/-- Pydantic on values that already have the type of the field. -/
def exactPydantic : Pydantic where
  str value := match value with
    | .str s => some s
    | _ => none
  float value := match value with
    | .float x => some x
    | .int n => (ofInt n).toOption
    | _ => none

theorem exactPydantic_documented : exactPydantic.Documented where
  str_str _ := rfl
  float_float _ := rfl
  float_int n x converted := by simp [exactPydantic, converted, Except.toOption]

namespace Pydantic

def strField (pydantic : Pydantic) (value : Value) : Result String :=
  match pydantic.str value with
  | some s => .ok s
  | none => .error .validationError

def floatField (pydantic : Pydantic) (value : Value) : Result Float :=
  match pydantic.float value with
  | some x => .ok x
  | none => .error .validationError

/-- A field of type `Optional[str]`. -/
def optionalStrField (pydantic : Pydantic) : Value → Result (Option String)
  | .null => .ok none
  | value => some <$> pydantic.strField value

/-- A field of type `Optional[float]`. -/
def optionalFloatField (pydantic : Pydantic) : Value → Result (Option Float)
  | .null => .ok none
  | value => some <$> pydantic.floatField value

end Pydantic

structure CleanedGlobalContext where
  symbol : String
  symbol_id : ℤ
  spot_price : Float
  spot_change : Float
  spot_change_pct : Float
  total_call_oi : ℤ
  total_put_oi : ℤ
  pcr_ratio : Float
  atm_iv : Float
  atm_iv_change : Float
  max_pain_strike : Float
  days_to_expiry : ℤ
  lot_size : ℤ
  tick_size : Float
  exchange : String
  segment : String
  probe_id : Option String
  timestamp : Calendar.DateTime

structure CleanedFuturesData where
  symbol : String
  ltp : Float
  prev_close : Float
  price_change : Float
  price_change_pct : Float
  volume : ℤ
  prev_volume : ℤ
  volume_change : ℤ
  volume_change_pct : Float
  oi : ℤ
  oi_change : ℤ
  oi_change_pct : Float
  lot_size : ℤ := 75
  tick_size : Float := 0.1

inductive OptionType where
  | CE
  | PE
  deriving DecidableEq, Repr

structure CleanedOptionData where
  strike : Float
  option_type : OptionType
  ltp : Option Float := none
  bid : Option Float := none
  ask : Option Float := none
  mid_price : Option Float := none
  bid_qty : ℤ := 0
  ask_qty : ℤ := 0
  prev_close : Float := 0
  price_change : Float := 0
  price_change_pct : Float := 0
  avg_traded_price : Float := 0
  volume : ℤ := 0
  prev_volume : ℤ := 0
  volume_change : ℤ := 0
  volume_change_pct : Float := 0
  oi : ℤ := 0
  prev_oi : ℤ := 0
  oi_change : ℤ := 0
  oi_change_pct : Float := 0
  delta : Float := 0
  gamma : Float := 0
  theta : Float := 0
  vega : Float := 0
  rho : Float := 0
  iv : Option Float := none
  theoretical_price : Option Float := none
  intrinsic_value : Float := 0
  time_value : Option Float := none
  moneyness : Float := 0
  moneyness_type : String := "OTM"
  buildup_type : String := ""
  buildup_name : String := ""
  reversal_price : Option Float := none
  support_price : Option Float := none
  resistance_price : Option Float := none
  resistance_range_price : Option Float := none
  weekly_reversal_price : Option Float := none
  future_reversal_price : Option Float := none
  oi_pct : Option Float := none
  volume_pct : Option Float := none
  oichng_pct : Option Float := none
  oi_rank : Option ℤ := none
  is_liquid : Bool := true
  is_valid : Bool := true

/-- Noon of 2 June 2025, when the messages of the examples are sent. -/
def noon : Calendar.DateTime :=
  ⟨⟨2025, 6, 2, by decide⟩, 43200, 0, by decide, Calendar.DateTime.whole_second⟩

end HftEngine.Processor
