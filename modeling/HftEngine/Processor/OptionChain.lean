import HftEngine.Processor.Models

/-!
# Cleaning of an option chain

`DataCleaner._clean_option_chain` over the chain that `deserialize_avro_map`
returned.  Nothing between a leg and `process_message` catches an exception,
so that one leg that cannot be converted loses the chain.  Of the context the
legs are cleaned with the cleaner reads the spot price only; its statistics
are left out.
-/

namespace HftEngine.Processor

open Py

def OptionType.key : OptionType → String
  | .CE => "ce"
  | .PE => "pe"

/-- `raw_opt.get(key) or None`. -/
def priceOf (raw_opt : Value) (key : String) : Result Value := do
  .ok ((← raw_opt.get key .null).or .null)

def mid_price (bid ask : Value) : Result Value := do
  if bid = .null ∨ ask = .null then .ok .null
  else if ← bid.isPositive then
    if ← ask.isPositive then (← bid.add ask).half
    else .ok .null
  else .ok .null

/-- `max(x, 0)`. -/
def orZero (x : Float) : Value :=
  if x < 0 then .int 0 else .float x

def intrinsic (spot_price strike : Float) : OptionType → Value
  | .CE => orZero (spot_price - strike)
  | .PE => orZero (strike - spot_price)

def moneyness (spot_price strike : Float) : Float :=
  if 0 < strike then spot_price / strike else 0

def mness_type (mness : Value) (moneyness : Float) (option_type : OptionType) :
    Value :=
  if mness = .str "I" ∨ mness = .str "O" ∨ mness = .str "A" then mness
  else if (moneyness - 1.0).abs < 0.01 then .str "ATM"
  else if (option_type = .CE ∧ 1.0 < moneyness) ∨
      (option_type = .PE ∧ moneyness < 1.0) then .str "ITM"
  else .str "OTM"

/-- `price is None or price == 0`. -/
def isMissing (price : Value) : Bool :=
  price = .null || price.isZero

/-- The rest of `_clean_single_option`, once there is a price. -/
def build_option (pydantic : Pydantic) (spot_price : Float) (raw_opt : Value)
    (strike : Float) (option_type : OptionType) (ltp bid ask mid : Value) :
    Result CleanedOptionData := do
  let iv ← priceOf raw_opt "iv"
  let optgeeks ← raw_opt.get "optgeeks" (.dict [])
  let delta ← floatOf optgeeks "delta" (.int 0)
  let gamma ← floatOf optgeeks "gamma" (.int 0)
  let theta ← floatOf optgeeks "theta" (.int 0)
  let vega ← floatOf optgeeks "vega" (.int 0)
  let rho ← floatOf optgeeks "rho" (.int 0)
  let intrinsic := intrinsic spot_price strike option_type
  let time_value ← if ltp.truthy then ltp.sub intrinsic else .ok .null
  let mness ← raw_opt.get "mness" (.str "O")
  let bid_qty ← intOf raw_opt "bid_qty" (.int 0)
  let ask_qty ← intOf raw_opt "ask_qty" (.int 0)
  let prev_close ← floatOf raw_opt "pc" (.int 0)
  let price_change ← floatOf raw_opt "p_chng" (.int 0)
  let price_change_pct ← floatOf raw_opt "p_pchng" (.int 0)
  let avg_traded_price ← floatOf raw_opt "atp" (.int 0)
  let volume ← intOf raw_opt "vol" (.int 0)
  let prev_volume ← intOf raw_opt "pVol" (.int 0)
  let volume_change ← intOf raw_opt "v_chng" (.int 0)
  let volume_change_pct ← floatOf raw_opt "v_pchng" (.int 0)
  let oi ← intOf raw_opt "OI" (.int 0)
  let prev_oi ← intOf raw_opt "p_oi" (.int 0)
  let oi_change ← intOf raw_opt "oichng" (.int 0)
  let oi_change_pct ← floatOf raw_opt "oiperchnge" (.int 0)
  let buildup_type ← raw_opt.get "btyp" (.str "")
  let buildup_name ← raw_opt.get "BuiltupName" (.str "")
  -- The model is validated once all conversions are done.
  let ltp ← pydantic.optionalFloatField ltp
  let best_bid ← pydantic.optionalFloatField bid
  let best_ask ← pydantic.optionalFloatField ask
  let mid_price ← pydantic.optionalFloatField mid
  let valid_iv ← pydantic.optionalFloatField iv
  let intrinsic_value ← pydantic.floatField intrinsic
  let time_value ← pydantic.optionalFloatField time_value
  let moneyness_type ← pydantic.strField
    (mness_type mness (moneyness spot_price strike) option_type)
  let buildup_type ← pydantic.strField buildup_type
  let buildup_name ← pydantic.strField buildup_name
  .ok
    { strike, option_type, ltp, bid := best_bid, ask := best_ask, mid_price,
      bid_qty, ask_qty, prev_close, price_change, price_change_pct,
      avg_traded_price, volume, prev_volume, volume_change, volume_change_pct,
      oi, prev_oi, oi_change, oi_change_pct, delta, gamma, theta, vega, rho,
      iv := valid_iv, intrinsic_value, time_value,
      moneyness := moneyness spot_price strike, moneyness_type, buildup_type,
      buildup_name
      is_liquid := !(isMissing bid || isMissing ask)
      is_valid := iv ≠ .null }

def clean_single_option (pydantic : Pydantic) (spot_price : Float)
    (raw_opt : Value) (strike : Float) (option_type : OptionType) :
    Result (Option CleanedOptionData) := do
  let ltp ← priceOf raw_opt "ltp"
  let bid ← priceOf raw_opt "bid"
  let ask ← priceOf raw_opt "ask"
  let mid ← mid_price bid ask
  if isMissing ltp then
    if mid.truthy then
      some <$> build_option pydantic spot_price raw_opt strike option_type mid
        bid ask mid
    else .ok none
  else
    some <$> build_option pydantic spot_price raw_opt strike option_type ltp
      bid ask mid

/-- The option of one leg, if the entry has the leg and it has a price. -/
def clean_leg (pydantic : Pydantic) (spot_price : Float) (strike_data : Value)
    (strike : Float) (option_type : OptionType) :
    Result (List CleanedOptionData) := do
  if ← strike_data.contains option_type.key then
    let raw_opt ← strike_data.getItem option_type.key
    let cleaned ← clean_single_option pydantic spot_price raw_opt strike option_type
    .ok cleaned.toList
  else .ok []

def clean_strike (pydantic : Pydantic) (spot_price : Float)
    (entry : String × Value) : Result (List CleanedOptionData) := do
  let strike ← (Value.str entry.1).toFloat
  let ce ← clean_leg pydantic spot_price entry.2 strike .CE
  let pe ← clean_leg pydantic spot_price entry.2 strike .PE
  .ok (ce ++ pe)

def clean_option_chain (pydantic : Pydantic) (spot_price : Float) :
    Dict → Result (List CleanedOptionData)
  | [] => .ok []
  | entry :: oc_dict => do
      let options ← clean_strike pydantic spot_price entry
      let rest ← clean_option_chain pydantic spot_price oc_dict
      .ok (options ++ rest)

/-! ## Malformed legs -/

def greek_fields : List String := ["delta", "gamma", "theta", "vega", "rho"]

def int_fields : List String :=
  ["bid_qty", "ask_qty", "vol", "pVol", "v_chng", "OI", "p_oi", "oichng"]

def float_fields : List String :=
  ["pc", "p_chng", "p_pchng", "atp", "v_pchng", "oiperchnge"]

def text_fields : List String := ["btyp", "BuiltupName"]

/-- A price of the leg; zero and empty values count as none. -/
def quote (leg : Dict) (key : String) : Value :=
  (Dict.get leg key .null).or .null

/-- The value can be a field of type `Optional[float]`. -/
def Pydantic.Accepts (pydantic : Pydantic) (value : Value) : Prop :=
  value = .null ∨ (pydantic.float value).isSome = true

/-- The fields of a leg that has a price are numbers and texts. -/
structure Convertible (pydantic : Pydantic) (leg : Dict) (ltp intrinsic : Value) :
    Prop where
  greeks : ∀ key ∈ greek_fields,
    (floatOf (Dict.get leg "optgeeks" (.dict [])) key (.int 0)).isOk = true
  ints : ∀ key ∈ int_fields, (intOf (.dict leg) key (.int 0)).isOk = true
  floats : ∀ key ∈ float_fields, (floatOf (.dict leg) key (.int 0)).isOk = true
  texts : ∀ key ∈ text_fields,
    (pydantic.str (Dict.get leg key (.str ""))).isSome = true
  prices : ∀ price ∈ [ltp, quote leg "bid", quote leg "ask", quote leg "iv"],
    pydantic.Accepts price
  subtracts : (ltp.sub intrinsic).isOk = true

theorem Convertible.iff {pydantic : Pydantic} {leg : Dict} {ltp intrinsic : Value} :
    Convertible pydantic leg ltp intrinsic ↔
      (∀ key ∈ greek_fields,
        (floatOf (Dict.get leg "optgeeks" (.dict [])) key (.int 0)).isOk = true) ∧
      (∀ key ∈ int_fields, (intOf (.dict leg) key (.int 0)).isOk = true) ∧
      (∀ key ∈ float_fields, (floatOf (.dict leg) key (.int 0)).isOk = true) ∧
      (∀ key ∈ text_fields,
        (pydantic.str (Dict.get leg key (.str ""))).isSome = true) ∧
      (∀ price ∈ [ltp, quote leg "bid", quote leg "ask", quote leg "iv"],
        pydantic.Accepts price) ∧
      (ltp.sub intrinsic).isOk = true :=
  ⟨fun ⟨a, b, c, d, e, f⟩ => ⟨a, b, c, d, e, f⟩,
    fun ⟨a, b, c, d, e, f⟩ => ⟨a, b, c, d, e, f⟩⟩

instance (pydantic : Pydantic) (value : Value) :
    Decidable (pydantic.Accepts value) :=
  inferInstanceAs (Decidable (_ ∨ _))

instance (pydantic : Pydantic) (leg : Dict) (ltp intrinsic : Value) :
    Decidable (Convertible pydantic leg ltp intrinsic) :=
  decidable_of_iff' _ Convertible.iff

/-- The price of a leg: its last price, or the middle of its quotes. -/
def priced (leg : Dict) : Value :=
  if isMissing (quote leg "ltp") then
    match mid_price (quote leg "bid") (quote leg "ask") with
    | .ok mid => mid.or .null
    | .error _ => .null
  else quote leg "ltp"

/-- A dictionary whose quotes are numbers where they are compared and whose
fields are convertible if it has a price. -/
def WellFormedLeg (pydantic : Pydantic) (spot_price strike : Float)
    (option_type : OptionType) : Value → Prop
  | .dict leg =>
      (mid_price (quote leg "bid") (quote leg "ask")).isOk = true ∧
        (priced leg = .null ∨
          Convertible pydantic leg (priced leg)
            (intrinsic spot_price strike option_type))
  | _ => False

instance (pydantic : Pydantic) (spot_price strike : Float)
    (option_type : OptionType) :
    (raw_opt : Value) →
      Decidable (WellFormedLeg pydantic spot_price strike option_type raw_opt)
  | .dict _ => inferInstanceAs (Decidable (_ ∧ _))
  | .null | .bool _ | .int _ | .float _ | .str _ | .list _ => isFalse id

/-! ## A leg is cleaned exactly when it is well formed -/

theorem arithmetic_cases {ints : ℤ → ℤ → ℤ} {floats : Float → Float → Float}
    {left right result : Value}
    (computed : Value.arithmetic ints floats left right = .ok result) :
    (∃ a b, left.operand = .ok (.int a) ∧ right.operand = .ok (.int b) ∧
      result = .int (ints a b)) ∨ ∃ x, result = .float x := by
  simp only [Value.arithmetic, bind_eq_ok] at computed
  obtain ⟨a, left_at, b, right_at, computed⟩ := computed
  cases a with
  | int a =>
      cases b with
      | int b =>
          cases computed
          exact .inl ⟨a, b, left_at, right_at, rfl⟩
      | float b =>
          simp only [bind_eq_ok] at computed
          obtain ⟨x, -, y, -, same⟩ := computed
          cases same
          exact .inr ⟨_, rfl⟩
  | float a =>
      simp only [bind_eq_ok] at computed
      obtain ⟨x, -, y, -, same⟩ := computed
      cases same
      exact .inr ⟨_, rfl⟩

theorem half_float {value result : Value} (halved : value.half = .ok result) :
    ∃ x, result = .float x := by
  simp only [Value.half, bind_eq_ok] at halved
  obtain ⟨operand, -, halved⟩ := halved
  cases operand with
  | int n =>
      simp only [bind_eq_ok] at halved
      obtain ⟨x, -, same⟩ := halved
      cases same
      exact ⟨_, rfl⟩
  | float x =>
      cases halved
      exact ⟨_, rfl⟩

theorem mid_price_cases {bid ask mid : Value}
    (computed : mid_price bid ask = .ok mid) :
    mid = .null ∨ ∃ x, mid = .float x := by
  unfold mid_price at computed
  split at computed
  case isTrue =>
    cases computed
    exact .inl rfl
  case isFalse =>
    obtain ⟨bid_positive, -, computed⟩ := bind_eq_ok.mp computed
    split at computed
    case isTrue =>
      obtain ⟨ask_positive, -, computed⟩ := bind_eq_ok.mp computed
      split at computed
      case isTrue =>
        obtain ⟨sum, -, halved⟩ := bind_eq_ok.mp computed
        exact .inr (half_float halved)
      case isFalse =>
        cases computed
        exact .inl rfl
    case isFalse =>
      cases computed
      exact .inl rfl

variable {pydantic : Pydantic}

theorem optionalFloatField_ok_iff {value : Value} :
    (∃ field, pydantic.optionalFloatField value = .ok field) ↔
      pydantic.Accepts value := by
  unfold Pydantic.Accepts
  by_cases null : value = .null
  · subst null
    simp [Pydantic.optionalFloatField]
  · rw [Pydantic.optionalFloatField.eq_2 _ _ null]
    unfold Pydantic.floatField
    cases coerced : pydantic.float value <;> simp [null]

theorem strField_coerced {value : Value} {text : String}
    (valid : pydantic.strField value = .ok text) :
    ∃ s, pydantic.str value = some s := by
  unfold Pydantic.strField at valid
  cases coerced : pydantic.str value with
  | none => simp [coerced] at valid
  | some s => exact ⟨s, rfl⟩

theorem strField_of_coerced {value : Value} {text : String}
    (coerced : pydantic.str value = some text) :
    pydantic.strField value = .ok text := by
  simp [Pydantic.strField, coerced]

theorem priceOf_dict (leg : Dict) (key : String) :
    priceOf (.dict leg) key = .ok (quote leg key) := rfl

theorem quote_null_or_truthy (leg : Dict) (key : String) :
    quote leg key = .null ∨ (quote leg key).truthy = true := by
  unfold quote Value.or
  split
  case isTrue truthy => exact .inr truthy
  case isFalse => exact .inl rfl

theorem map_some_ok_iff {α : Type} {result : Result α} :
    (∃ option, some <$> result = .ok option) ↔ ∃ a, result = .ok a := by
  cases result <;> simp

section Documented

variable (documented : pydantic.Documented)
include documented

theorem accepts_float (x : Float) : pydantic.Accepts (.float x) :=
  .inr (by simp [documented.float_float])

theorem intrinsic_valid (spot_price strike : Float) (option_type : OptionType) :
    ∃ x, pydantic.floatField (intrinsic spot_price strike option_type) =
      .ok x := by
  have zero : ∃ x, pydantic.floatField (.int 0) = .ok x := by
    have coerced := documented.float_int 0 0 (by decide)
    exact ⟨0, by simp [Pydantic.floatField, coerced]⟩
  have valid : ∀ x, ∃ y, pydantic.floatField (orZero x) = .ok y := by
    intro x
    unfold orZero
    split
    · exact zero
    · exact ⟨x, by simp [Pydantic.floatField, documented.float_float]⟩
  cases option_type
  · exact valid _
  · exact valid _

theorem mness_type_valid (mness : Value) (m : Float) (option_type : OptionType) :
    ∃ text, pydantic.strField (mness_type mness m option_type) = .ok text := by
  have text : ∃ s, mness_type mness m option_type = .str s := by
    unfold mness_type
    split
    case isTrue listed =>
      rcases listed with rfl | rfl | rfl <;> exact ⟨_, rfl⟩
    case isFalse => split <;> [exact ⟨_, rfl⟩; (split <;> exact ⟨_, rfl⟩)]
  obtain ⟨s, same⟩ := text
  exact ⟨s, by simp [same, Pydantic.strField, documented.str_str]⟩

/-- The difference is a float, or the price itself as an int. -/
theorem time_value_accepted {ltp difference : Value} {spot_price strike : Float}
    {option_type : OptionType} (truthy : ltp.truthy = true)
    (accepted : pydantic.Accepts ltp)
    (subtracted : ltp.sub (intrinsic spot_price strike option_type) =
      .ok difference) :
    pydantic.Accepts difference := by
  rcases arithmetic_cases subtracted with ⟨a, b, left_at, right_at, rfl⟩ | ⟨x, rfl⟩
  · have nothing : b = 0 := by
      have valid : ∀ x, (orZero x).operand = .ok (.int b) → b = 0 := by
        intro x operand
        unfold orZero at operand
        split at operand
        · simpa [Value.operand, eq_comm] using operand
        · simp [Value.operand] at operand
      cases option_type
      · exact valid _ right_at
      · exact valid _ right_at
    subst nothing
    cases ltp with
    | bool price =>
        cases price with
        | false => simp [Value.truthy] at truthy
        | true =>
            have one : a = 1 := by simpa [Value.operand, eq_comm] using left_at
            subst one
            have coerced := documented.float_int 1 1 (by decide)
            exact .inr (by simp [coerced])
    | int n =>
        have same : n = a := by simpa [Value.operand] using left_at
        subst same
        simpa using accepted
    | null | float _ | str _ | list _ | dict _ => simp [Value.operand] at left_at
  · exact accepts_float documented x

theorem build_option_ok_iff {spot_price strike : Float} {leg : Dict}
    {option_type : OptionType} {ltp mid : Value} (truthy : ltp.truthy = true)
    (midpoint : mid = .null ∨ ∃ x, mid = .float x) :
    (∃ option, build_option pydantic spot_price (.dict leg) strike option_type
        ltp (quote leg "bid") (quote leg "ask") mid = .ok option) ↔
      Convertible pydantic leg ltp (intrinsic spot_price strike option_type) := by
  simp only [Convertible.iff, greek_fields, int_fields, float_fields, text_fields,
    List.forall_mem_cons, List.not_mem_nil, false_implies, implies_true,
    and_true, isOk_iff, Option.isSome_iff_exists]
  constructor
  · rintro ⟨option, built⟩
    simp only [build_option, bind_eq_ok, get_dict, priceOf, Except.ok.injEq,
      exists_eq_left', if_pos truthy] at built
    obtain ⟨_, delta, _, gamma, _, theta, _, vega, _, rho, _, subtracts, built⟩ :=
      built
    obtain ⟨_, bid_qty, _, ask_qty, _, pc, _, p_chng, _, p_pchng, _, atp, built⟩ :=
      built
    obtain ⟨_, vol, _, pVol, _, v_chng, _, v_pchng, _, oi, _, p_oi, built⟩ := built
    obtain ⟨_, oichng, _, oiperchnge, _, ltp_valid, _, bid_valid, built⟩ := built
    obtain ⟨_, ask_valid, _, -, _, iv_valid, _, -, _, -, _, -, built⟩ := built
    obtain ⟨_, btyp, _, name, -⟩ := built
    exact ⟨⟨⟨_, delta⟩, ⟨_, gamma⟩, ⟨_, theta⟩, ⟨_, vega⟩, ⟨_, rho⟩⟩,
      ⟨⟨_, bid_qty⟩, ⟨_, ask_qty⟩, ⟨_, vol⟩, ⟨_, pVol⟩, ⟨_, v_chng⟩, ⟨_, oi⟩,
        ⟨_, p_oi⟩, ⟨_, oichng⟩⟩,
      ⟨⟨_, pc⟩, ⟨_, p_chng⟩, ⟨_, p_pchng⟩, ⟨_, atp⟩, ⟨_, v_pchng⟩,
        ⟨_, oiperchnge⟩⟩,
      ⟨strField_coerced btyp, strField_coerced name⟩,
      ⟨optionalFloatField_ok_iff.mp ⟨_, ltp_valid⟩,
        optionalFloatField_ok_iff.mp ⟨_, bid_valid⟩,
        optionalFloatField_ok_iff.mp ⟨_, ask_valid⟩,
        optionalFloatField_ok_iff.mp ⟨_, iv_valid⟩⟩,
      ⟨_, subtracts⟩⟩
  · rintro ⟨⟨⟨_, delta⟩, ⟨_, gamma⟩, ⟨_, theta⟩, ⟨_, vega⟩, ⟨_, rho⟩⟩,
      ⟨⟨_, bid_qty⟩, ⟨_, ask_qty⟩, ⟨_, vol⟩, ⟨_, pVol⟩, ⟨_, v_chng⟩, ⟨_, oi⟩,
        ⟨_, p_oi⟩, ⟨_, oichng⟩⟩,
      ⟨⟨_, pc⟩, ⟨_, p_chng⟩, ⟨_, p_pchng⟩, ⟨_, atp⟩, ⟨_, v_pchng⟩,
        ⟨_, oiperchnge⟩⟩,
      ⟨⟨_, btyp⟩, ⟨_, name⟩⟩, ⟨ltp_accepted, bid_accepted, ask_accepted,
        iv_accepted⟩, ⟨_, subtracts⟩⟩
    have btyp_valid := strField_of_coerced btyp
    have name_valid := strField_of_coerced name
    obtain ⟨_, ltp_valid⟩ := optionalFloatField_ok_iff.mpr ltp_accepted
    obtain ⟨_, bid_valid⟩ := optionalFloatField_ok_iff.mpr bid_accepted
    obtain ⟨_, ask_valid⟩ := optionalFloatField_ok_iff.mpr ask_accepted
    obtain ⟨_, iv_valid⟩ := optionalFloatField_ok_iff.mpr iv_accepted
    obtain ⟨_, time_valid⟩ := optionalFloatField_ok_iff.mpr
      (time_value_accepted documented truthy ltp_accepted subtracts)
    have mid_accepted : pydantic.Accepts mid := by
      rcases midpoint with null | ⟨x, rfl⟩
      · exact .inl null
      · exact accepts_float documented x
    obtain ⟨_, mid_valid⟩ := optionalFloatField_ok_iff.mpr mid_accepted
    obtain ⟨_, intrinsic_ok⟩ :=
      intrinsic_valid documented spot_price strike option_type
    obtain ⟨_, mness_ok⟩ := mness_type_valid documented
      (Dict.get leg "mness" (.str "O")) (moneyness spot_price strike) option_type
    simp only [quote] at bid_valid ask_valid iv_valid
    simp only [build_option, get_dict, priceOf, quote, delta, gamma, theta, vega,
      rho, if_pos truthy, subtracts, bid_qty, ask_qty, pc, p_chng, p_pchng, atp,
      vol, pVol, v_chng, v_pchng, oi, p_oi, oichng, oiperchnge, ltp_valid,
      bid_valid, ask_valid, mid_valid, iv_valid, intrinsic_ok, time_valid,
      mness_ok, btyp_valid, name_valid, bind, Except.bind]
    exact ⟨_, rfl⟩

theorem clean_single_option_ok_iff {spot_price strike : Float} {raw_opt : Value}
    {option_type : OptionType} :
    (∃ option, clean_single_option pydantic spot_price raw_opt strike
        option_type = .ok option) ↔
      WellFormedLeg pydantic spot_price strike option_type raw_opt := by
  cases raw_opt with
  | dict leg =>
      simp only [clean_single_option, priceOf_dict, WellFormedLeg, bind_eq_ok,
        Except.ok.injEq, exists_eq_left']
      cases computed : mid_price (quote leg "bid") (quote leg "ask") with
      | error => simp [Except.isOk, Except.toBool]
      | ok mid =>
          have midpoint := mid_price_cases computed
          simp only [Except.ok.injEq, exists_eq_left', priced, computed,
            isOk_iff, exists_eq', true_and]
          by_cases missing : isMissing (quote leg "ltp") = true
          · simp only [if_pos missing]
            by_cases truthy : mid.truthy = true
            · have notNull : mid ≠ .null := by
                rintro rfl
                cases truthy
              simp only [if_pos truthy, Value.or, notNull, false_or,
                map_some_ok_iff]
              exact build_option_ok_iff documented truthy midpoint
            · simp [truthy, Value.or]
          · simp only [if_neg missing]
            have notNull : quote leg "ltp" ≠ .null := by
              intro null
              simp [isMissing, null] at missing
            have truthy := (quote_null_or_truthy leg "ltp").resolve_left notNull
            simp only [notNull, false_or, map_some_ok_iff]
            exact build_option_ok_iff documented truthy midpoint
  | null | bool _ | int _ | float _ | str _ | list _ =>
      simp [clean_single_option, WellFormedLeg, priceOf, Value.get, bind,
        Except.bind]

end Documented

/-! ## Chains without their malformed legs -/

section Chain

variable (pydantic) (spot_price : Float)

/-- The entry has no such leg, or a well-formed one; a text or a list that
contains the name of the leg cannot be indexed with it. -/
def WellFormedLegOf (strike : Float) (option_type : OptionType) : Value → Prop
  | .dict legs =>
      ∀ raw_opt ∈ lookup? option_type.key legs,
        WellFormedLeg pydantic spot_price strike option_type raw_opt
  | .list items => Value.str option_type.key ∉ items
  | .str text => ¬ option_type.key.toList <:+: text.toList
  | _ => False

instance (strike : Float) (option_type : OptionType) :
    (strike_data : Value) → Decidable
      (WellFormedLegOf pydantic spot_price strike option_type strike_data)
  | .dict legs => inferInstanceAs
      (Decidable (∀ raw_opt ∈ lookup? option_type.key legs, _))
  | .list _ => inferInstanceAs (Decidable (_ ∉ _))
  | .str _ => inferInstanceAs (Decidable (¬ _))
  | .null | .bool _ | .int _ | .float _ => isFalse id

/-- A numeric strike with well-formed legs. -/
def WellFormedStrike (entry : String × Value) : Prop :=
  ∃ strike, (Value.str entry.1).toFloat = .ok strike ∧
    WellFormedLegOf pydantic spot_price strike .CE entry.2 ∧
    WellFormedLegOf pydantic spot_price strike .PE entry.2

def withoutLeg (strike : Float) (option_type : OptionType) (legs : Dict) : Dict :=
  if WellFormedLegOf pydantic spot_price strike option_type (.dict legs) then legs
  else legs.filter (fun leg => leg.1 ≠ option_type.key)

/-- The entry without its malformed legs, or nothing if it has no numeric
strike or is no dictionary of legs. -/
def wellFormedPart (entry : String × Value) : Option (String × Value) :=
  match (Value.str entry.1).toFloat, entry.2 with
  | .ok strike, .dict legs =>
      some (entry.1, .dict (withoutLeg pydantic spot_price strike .PE
        (withoutLeg pydantic spot_price strike .CE legs)))
  | .ok strike, strike_data =>
      if WellFormedLegOf pydantic spot_price strike .CE strike_data ∧
          WellFormedLegOf pydantic spot_price strike .PE strike_data then
        some entry
      else none
  | .error _, _ => none

def withoutMalformed (oc_dict : Dict) : Dict :=
  oc_dict.filterMap (wellFormedPart pydantic spot_price)

variable {pydantic spot_price}

theorem clean_leg_ok_iff (documented : pydantic.Documented) {strike : Float}
    {option_type : OptionType} {strike_data : Value} :
    (∃ options, clean_leg pydantic spot_price strike_data strike option_type =
        .ok options) ↔
      WellFormedLegOf pydantic spot_price strike option_type strike_data := by
  cases strike_data with
  | dict legs =>
      cases found : lookup? option_type.key legs with
      | none =>
          simp [clean_leg, Value.contains, WellFormedLegOf, found, bind,
            Except.bind]
      | some raw_opt =>
          simp only [clean_leg, Value.contains, Value.getItem, WellFormedLegOf,
            found, Option.isSome_some, Option.mem_some_iff, forall_eq',
            ← clean_single_option_ok_iff documented, bind_eq_ok, Except.ok.injEq,
            exists_eq_left', if_true]
          constructor
          · rintro ⟨_, option, cleaned, -⟩
            exact ⟨option, cleaned⟩
          · rintro ⟨option, cleaned⟩
            exact ⟨_, option, cleaned, rfl⟩
  | list items =>
      by_cases listed : Value.str option_type.key ∈ items
      · simp [clean_leg, Value.contains, Value.getItem, WellFormedLegOf, listed,
          bind, Except.bind]
      · simp [clean_leg, Value.contains, WellFormedLegOf, listed, bind,
          Except.bind]
  | str text =>
      by_cases contained : option_type.key.toList <:+: text.toList
      · simp [clean_leg, Value.contains, Value.getItem, WellFormedLegOf,
          contained, bind, Except.bind]
      · simp [clean_leg, Value.contains, WellFormedLegOf, contained, bind,
          Except.bind]
  | null | bool _ | int _ | float _ =>
      simp [clean_leg, Value.contains, WellFormedLegOf, bind, Except.bind]

theorem clean_strike_ok_iff (documented : pydantic.Documented)
    {entry : String × Value} :
    (∃ options, clean_strike pydantic spot_price entry = .ok options) ↔
      WellFormedStrike pydantic spot_price entry := by
  simp only [clean_strike, bind_eq_ok, WellFormedStrike,
    ← clean_leg_ok_iff documented]
  constructor
  · rintro ⟨_, strike, read, ce, ce_cleaned, pe, pe_cleaned, -⟩
    exact ⟨strike, read, ⟨ce, ce_cleaned⟩, ⟨pe, pe_cleaned⟩⟩
  · rintro ⟨strike, read, ⟨ce, ce_cleaned⟩, ⟨pe, pe_cleaned⟩⟩
    exact ⟨_, strike, read, ce, ce_cleaned, pe, pe_cleaned, rfl⟩

theorem clean_option_chain_ok_iff (documented : pydantic.Documented)
    {oc_dict : Dict} :
    (∃ options, clean_option_chain pydantic spot_price oc_dict = .ok options) ↔
      ∀ entry ∈ oc_dict, WellFormedStrike pydantic spot_price entry := by
  induction oc_dict with
  | nil => simp [clean_option_chain]
  | cons entry oc_dict ih =>
      rw [List.forall_mem_cons, ← ih, ← clean_strike_ok_iff documented]
      simp only [clean_option_chain, bind_eq_ok]
      constructor
      · rintro ⟨_, options, cleaned, rest, rest_cleaned, -⟩
        exact ⟨⟨options, cleaned⟩, ⟨rest, rest_cleaned⟩⟩
      · rintro ⟨⟨options, cleaned⟩, ⟨rest, rest_cleaned⟩⟩
        exact ⟨_, options, cleaned, rest, rest_cleaned, rfl⟩

theorem lookup?_filter_ne {key name : String} (different : key ≠ name)
    (entries : Dict) :
    lookup? key (entries.filter (fun entry => entry.1 ≠ name)) =
      lookup? key entries := by
  induction entries with
  | nil => rfl
  | cons entry rest ih =>
      by_cases removed : entry.1 = name
      · have other : entry.1 ≠ key := removed ▸ different.symm
        simpa [lookup?, removed, other, different.symm] using ih
      · by_cases found : entry.1 = key
        · simp [lookup?, found, different]
        · simpa [lookup?, removed, found] using ih

theorem lookup?_filter_self (key : String) (entries : Dict) :
    lookup? key (entries.filter (fun entry => entry.1 ≠ key)) = none := by
  induction entries with
  | nil => rfl
  | cons entry rest ih =>
      by_cases removed : entry.1 = key
      · simpa [removed] using ih
      · simpa [lookup?, removed] using ih

/-- A leg of its own kind is well formed or gone. -/
theorem wellFormedLegOf_withoutLeg (strike : Float) (option_type : OptionType)
    (legs : Dict) :
    WellFormedLegOf pydantic spot_price strike option_type
      (.dict (withoutLeg pydantic spot_price strike option_type legs)) := by
  unfold withoutLeg
  split
  case isTrue wellFormed => exact wellFormed
  case isFalse =>
    intro raw_opt found
    rw [lookup?_filter_self] at found
    cases found

theorem wellFormedLegOf_withoutLeg_other {strike : Float}
    {option_type other : OptionType} (different : option_type ≠ other)
    (legs : Dict) :
    WellFormedLegOf pydantic spot_price strike option_type
        (.dict (withoutLeg pydantic spot_price strike other legs)) ↔
      WellFormedLegOf pydantic spot_price strike option_type (.dict legs) := by
  have keys : option_type.key ≠ other.key := by
    revert different
    cases option_type <;> cases other <;> decide
  unfold withoutLeg
  split
  case isTrue => rfl
  case isFalse => simp only [WellFormedLegOf, lookup?_filter_ne keys]

theorem withoutLeg_of_wellFormed {strike : Float} {option_type : OptionType}
    {legs : Dict} (wellFormed :
      WellFormedLegOf pydantic spot_price strike option_type (.dict legs)) :
    withoutLeg pydantic spot_price strike option_type legs = legs :=
  if_pos wellFormed

theorem wellFormedPart_wellFormed {entry part : String × Value}
    (kept : wellFormedPart pydantic spot_price entry = some part) :
    WellFormedStrike pydantic spot_price part := by
  unfold wellFormedPart at kept
  split at kept
  case h_1 strike legs read _ =>
    cases Option.some.inj kept
    refine ⟨strike, read, ?_, wellFormedLegOf_withoutLeg strike .PE _⟩
    rw [wellFormedLegOf_withoutLeg_other (by decide)]
    exact wellFormedLegOf_withoutLeg strike .CE legs
  case h_2 =>
    split at kept
    case isTrue wellFormed =>
      cases Option.some.inj kept
      exact ⟨_, by assumption, wellFormed⟩
    case isFalse => cases kept
  case h_3 => cases kept

theorem wellFormedPart_of_wellFormed {entry : String × Value}
    (wellFormed : WellFormedStrike pydantic spot_price entry) :
    wellFormedPart pydantic spot_price entry = some entry := by
  obtain ⟨key, strike_data⟩ := entry
  obtain ⟨strike, read, ce, pe⟩ := wellFormed
  simp only at read ce pe
  unfold wellFormedPart
  rw [read]
  cases strike_data with
  | dict legs =>
      simp only [withoutLeg_of_wellFormed ce, withoutLeg_of_wellFormed pe]
  | _ => simp only [ce, pe, and_self, if_true]

theorem withoutMalformed_wellFormed (oc_dict : Dict) :
    ∀ entry ∈ withoutMalformed pydantic spot_price oc_dict,
      WellFormedStrike pydantic spot_price entry := by
  intro entry kept
  obtain ⟨_, -, part⟩ := List.mem_filterMap.mp kept
  exact wellFormedPart_wellFormed part

theorem withoutMalformed_of_wellFormed {oc_dict : Dict}
    (wellFormed : ∀ entry ∈ oc_dict,
      WellFormedStrike pydantic spot_price entry) :
    withoutMalformed pydantic spot_price oc_dict = oc_dict := by
  induction oc_dict with
  | nil => rfl
  | cons entry oc_dict ih =>
      obtain ⟨first, rest⟩ := List.forall_mem_cons.mp wellFormed
      rw [withoutMalformed,
        List.filterMap_cons_some (wellFormedPart_of_wellFormed first)]
      exact congrArg (entry :: ·) (ih rest)

/-- The chain is cleaned as it is without its malformed legs exactly when it
has none. -/
theorem clean_isolates_malformed_iff (documented : pydantic.Documented)
    (oc_dict : Dict) :
    clean_option_chain pydantic spot_price oc_dict =
        clean_option_chain pydantic spot_price
          (withoutMalformed pydantic spot_price oc_dict) ↔
      ∀ entry ∈ oc_dict, WellFormedStrike pydantic spot_price entry := by
  constructor
  · intro same
    obtain ⟨options, cleaned⟩ := (clean_option_chain_ok_iff documented).mpr
      (withoutMalformed_wellFormed oc_dict)
    exact (clean_option_chain_ok_iff documented).mp ⟨options, same.trans cleaned⟩
  · intro wellFormed
    rw [withoutMalformed_of_wellFormed wellFormed]

end Chain

/-- Two calls, the second with a volume left open. -/
def twoCalls (vol : Value) : Dict :=
  [("24000", .dict [("ce", .dict [("ltp", .float 10.5), ("vol", .int 3)])]),
   ("24100", .dict [("ce", .dict [("ltp", .float 12.5), ("vol", vol)])])]

theorem clean_isolates_malformed_iff_twoCalls :
    clean_option_chain exactPydantic 24010 (twoCalls (.int 4)) =
        clean_option_chain exactPydantic 24010
          (withoutMalformed exactPydantic 24010 (twoCalls (.int 4))) ↔
      ∀ entry ∈ twoCalls (.int 4), WellFormedStrike exactPydantic 24010 entry :=
  clean_isolates_malformed_iff exactPydantic_documented _

/-- A null volume loses the call of the other strike too. -/
theorem clean_isolates_malformed_fails :
    clean_option_chain exactPydantic 24010 (twoCalls .null) = .error .typeError ∧
      List.map CleanedOptionData.strike <$> clean_option_chain exactPydantic 24010
        (withoutMalformed exactPydantic 24010 (twoCalls .null)) = .ok [24000] := by
  refine ⟨rfl, ?_⟩
  decide

end HftEngine.Processor
