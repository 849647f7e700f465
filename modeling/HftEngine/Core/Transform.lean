import HftEngine.Lib.Python.Number
import HftEngine.Lib.Traversal

/-!
# Normalisation of a Dhan response

`normalize_dhan_data` over the decoded JSON.  The options of a strike are read
under an `except` for `ValueError` and `TypeError`; every other exception is
caught around the whole response, which then comes to an empty dictionary.
-/

namespace HftEngine.Transform

open Py

/-- `parse_timestamp` with the time zone and the formats of dates, and the
current time. -/
structure Clock (Datetime : Type) where
  parse_timestamp : Value → Result Datetime
  utcnow : Datetime

variable {Datetime : Type} (clock : Clock Datetime)

def Clock.parse_expiry_date (explst : Value) : Datetime :=
  let parsed (expiry_value : Value) :=
    match clock.parse_timestamp expiry_value with
    | .ok expiry => expiry
    | .error _ => clock.utcnow
  match explst with
  | .list [] => clock.utcnow
  | .list (expiry_value :: _) => parsed expiry_value
  | _ => parsed explst

/-! ## Options -/

inductive OptionType where
  | CE
  | PE
  deriving DecidableEq, Repr

def OptionType.key : OptionType → String
  | .CE => "ce"
  | .PE => "pe"

structure OptionContract (Datetime : Type) where
  symbol_id : Value
  expiry : Datetime
  strike_price : Float
  option_type : OptionType
  ltp : Float
  volume : ℤ
  oi : ℤ
  iv : Float
  delta : Float
  gamma : Float
  theta : Float
  vega : Float

/-- `float(leg_data.get("optgeeks", {}).get(key, 0))` -/
def greek (leg_data : Value) (key : String) : Result Float := do
  floatOf (← leg_data.get "optgeeks" (.dict [])) key (.int 0)

/-- The body of the `try` of one leg. -/
def contract (s_id : Value) (expiry : Datetime) (strike_price : Float)
    (option_type : OptionType) (leg_data : Value) : Result (OptionContract Datetime) := do
  let ltp ← floatOf leg_data "ltp" (.int 0)
  let volume ← intOf leg_data "vol" (.int 0)
  let oi ← intOf leg_data "OI" (.int 0)
  let iv ← floatOf leg_data "iv" (.int 0)
  let delta ← greek leg_data "delta"
  let gamma ← greek leg_data "gamma"
  let theta ← greek leg_data "theta"
  let vega ← greek leg_data "vega"
  .ok
    { symbol_id := s_id, expiry, strike_price, option_type, ltp, volume, oi, iv,
      delta, gamma, theta, vega }

def isDict : Value → Bool
  | .dict _ => true
  | _ => false

/-- The exceptions that the loop catches. -/
def caught : Error → Bool
  | .valueError => true
  | .typeError => true
  | _ => false

/-- `except (ValueError, TypeError)` with a warning. -/
def skipping {α : Type} (options : Result (List α)) : Result (List α) :=
  match options with
  | .ok options => .ok options
  | .error error => if caught error then .ok [] else .error error

def extract_leg (s_id : Value) (expiry : Datetime) (strike_price : Float)
    (option_type : OptionType) (strike_data : Value) :
    Result (List (OptionContract Datetime)) := do
  let leg_data ← strike_data.get option_type.key (.dict [])
  if leg_data.truthy && isDict leg_data then
    skipping ((fun option => [option]) <$>
      contract s_id expiry strike_price option_type leg_data)
  else .ok []

/-- The body of the loop. -/
def extract_strike (s_id : Value) (expiry : Datetime) (entry : String × Value) :
    Result (List (OptionContract Datetime)) :=
  match (Value.str entry.1).toFloat with
  | .error error => if caught error then .ok [] else .error error
  | .ok strike_price => do
      let ce ← extract_leg s_id expiry strike_price .CE entry.2
      let pe ← extract_leg s_id expiry strike_price .PE entry.2
      .ok (ce ++ pe)

def extract_option_contracts (data : Value) :
    Result (List (OptionContract Datetime)) := do
  let s_id ← data.get "s_sid" (.int 0)
  let symbol_exp ← data.get "explst" (.list [])
  match ← data.get "oc" (.dict []) with
  | .dict oc_data =>
      List.flatten <$>
        oc_data.mapM (extract_strike s_id (clock.parse_expiry_date symbol_exp))
  | _ => .error .attributeError

/-! ## The response -/

/-- The keys of the snapshot, with those of the response and their defaults. -/
def snapshot_fields : List (String × String × Value) :=
  [("symbol_id", "s_sid", .int 0), ("total_oi_calls", "OIC", .int 0),
    ("total_oi_puts", "OIP", .int 0), ("pcr_ratio", "Rto", .int 0),
    ("exchange", "exch", .str ""), ("segment", "seg", .str ""),
    ("instrument_type", "oinst", .str ""), ("atm_iv", "atmiv", .int 0),
    ("aiv_percent_change", "aivperchng", .int 0), ("ltp", "sltp", .int 0),
    ("volume", "svol", .int 0), ("spot_percent_change", "SPerChng", .int 0),
    ("spot_change", "SChng", .int 0), ("option_lot_size", "olot", .int 0),
    ("option_tick_size", "otick", .int 0), ("days_to_expiry", "dte", .int 0)]

def extract_market_snapshot (data : Value) : Result Dict :=
  snapshot_fields.mapM (fun (key, source, default) => do
    .ok (key, ← data.get source default))

structure Normalized (Datetime : Type) where
  market_snapshot : Dict
  options : List (OptionContract Datetime)

/-- The body of the `try`; none stands for an empty dictionary. -/
def normalized (raw_payload : Value) : Result (Option (Normalized Datetime)) := do
  let data ← raw_payload.get "data" (.dict [])
  if data.truthy then
    let market_snapshot ← extract_market_snapshot data
    let options ← extract_option_contracts clock data
    .ok (some { market_snapshot, options })
  else .ok none

def normalize_dhan_data (raw_payload : Value) : Option (Normalized Datetime) :=
  match normalized clock raw_payload with
  | .ok result => result
  | .error _ => none

/-! ## What an entry does -/

/-- The conversions of a leg, in their order. -/
def conversions (leg_data : Value) : List (Result Unit) :=
  [discard (floatOf leg_data "ltp" (.int 0)), discard (intOf leg_data "vol" (.int 0)),
    discard (intOf leg_data "OI" (.int 0)), discard (floatOf leg_data "iv" (.int 0)),
    discard (greek leg_data "delta"), discard (greek leg_data "gamma"),
    discard (greek leg_data "theta"), discard (greek leg_data "vega")]

/-- The first of the conversions that raises. -/
def first_error : List (Result Unit) → Option Error
  | [] => none
  | .ok _ :: rest => first_error rest
  | .error error :: _ => some error

/-- The leg that the loop reads, if it is not empty and a dictionary. -/
def leg? (option_type : OptionType) (strike_data : Dict) : Option Value :=
  (some (Dict.get strike_data option_type.key (.dict []))).filter
    (fun leg_data => leg_data.truthy && isDict leg_data)

/-- The first field of the leg that cannot be read is no dictionary of greeks
or too large a number. -/
def LegBreaks (leg_data : Value) : Prop :=
  ∃ error, first_error (conversions leg_data) = some error ∧ caught error = false

/-- All fields of the leg can be read. -/
def LegComplete (leg_data : Value) : Prop :=
  first_error (conversions leg_data) = none

def numeric (strike : String) : Prop := (float? strike).isSome

/-- The key is a number, but the entry is no dictionary or has a leg that
breaks. -/
def Breaks (entry : String × Value) : Prop :=
  numeric entry.1 ∧
    match entry.2 with
    | .dict strike_data =>
        ∃ option_type, ∃ leg_data ∈ leg? option_type strike_data, LegBreaks leg_data
    | _ => True

/-- The key is a number, and a leg of the entry is complete. -/
def Contributes (entry : String × Value) : Prop :=
  numeric entry.1 ∧
    match entry.2 with
    | .dict strike_data =>
        ∃ option_type, ∃ leg_data ∈ leg? option_type strike_data, LegComplete leg_data
    | _ => False

section Entry

variable {s_id : Value} {expiry : Datetime} {strike_price : Float}
  {option_type : OptionType} {leg_data : Value}

theorem first_error_contract :
    match contract s_id expiry strike_price option_type leg_data with
    | .ok _ => first_error (conversions leg_data) = none
    | .error error => first_error (conversions leg_data) = some error := by
  simp only [contract, conversions]
  cases floatOf leg_data "ltp" (.int 0) with
  | error => rfl
  | ok =>
  cases intOf leg_data "vol" (.int 0) with
  | error => rfl
  | ok =>
  cases intOf leg_data "OI" (.int 0) with
  | error => rfl
  | ok =>
  cases floatOf leg_data "iv" (.int 0) with
  | error => rfl
  | ok =>
  cases greek leg_data "delta" with
  | error => rfl
  | ok =>
  cases greek leg_data "gamma" with
  | error => rfl
  | ok =>
  cases greek leg_data "theta" with
  | error => rfl
  | ok =>
  cases greek leg_data "vega" with
  | error => rfl
  | ok => rfl

theorem extract_leg_dict (strike_data : Dict) :
    extract_leg s_id expiry strike_price option_type (.dict strike_data) =
      match leg? option_type strike_data with
      | none => .ok []
      | some leg_data =>
          skipping ((fun option => [option]) <$>
            contract s_id expiry strike_price option_type leg_data) := by
  rw [extract_leg, get_dict, leg?]
  change (if _ then _ else _) = _
  cases read : (Dict.get strike_data option_type.key (.dict [])).truthy &&
      isDict (Dict.get strike_data option_type.key (.dict [])) with
  | false => simp [Option.filter, read]
  | true => simp [Option.filter, read]

/-- A leg fails, gives an option, or gives none. -/
theorem skipping_contract :
    (LegBreaks leg_data ∧ ∃ error, skipping ((fun option => [option]) <$>
        contract s_id expiry strike_price option_type leg_data) = .error error) ∨
      (LegComplete leg_data ∧ ¬LegBreaks leg_data ∧
        ∃ option, skipping ((fun option => [option]) <$>
          contract s_id expiry strike_price option_type leg_data) = .ok [option]) ∨
      (¬LegComplete leg_data ∧ ¬LegBreaks leg_data ∧
        skipping ((fun option => [option]) <$>
          contract s_id expiry strike_price option_type leg_data) = .ok []) := by
  have first := @first_error_contract _ s_id expiry strike_price option_type leg_data
  cases read : contract s_id expiry strike_price option_type leg_data with
  | ok option =>
      simp only [read] at first
      right
      left
      refine ⟨first, ?_, option, rfl⟩
      rintro ⟨error, raised, _⟩
      rw [first] at raised
      exact nomatch raised
  | error error =>
      simp only [read] at first
      cases handled : caught error with
      | false => exact .inl ⟨⟨error, first, handled⟩, error, by simp [skipping, handled]⟩
      | true =>
          right
          right
          refine ⟨?_, ?_, by simp [skipping, handled]⟩
          · intro complete
            rw [LegComplete, first] at complete
            exact nomatch complete
          · rintro ⟨other, raised, uncaught⟩
            obtain rfl := Option.some.inj (first.symm.trans raised)
            rw [handled] at uncaught
            exact nomatch uncaught

theorem extract_leg_cases (strike_data : Dict) :
    ((∃ leg_data ∈ leg? option_type strike_data, LegBreaks leg_data) ∧
      ∃ error, extract_leg s_id expiry strike_price option_type (.dict strike_data) =
        .error error) ∨
    ((¬∃ leg_data ∈ leg? option_type strike_data, LegBreaks leg_data) ∧
      ∃ options, extract_leg s_id expiry strike_price option_type (.dict strike_data) =
          .ok options ∧
        (options = [] ↔
          ¬∃ leg_data ∈ leg? option_type strike_data, LegComplete leg_data)) := by
  rw [extract_leg_dict]
  cases leg? option_type strike_data with
  | none => simp
  | some leg_data =>
      simp only [Option.mem_some_iff, exists_eq_left']
      obtain ⟨breaks, raised⟩ | ⟨complete, intact, option, read⟩ |
          ⟨incomplete, intact, read⟩ :=
        @skipping_contract _ s_id expiry strike_price option_type leg_data
      · exact .inl ⟨breaks, raised⟩
      · exact .inr ⟨intact, [option], read, by simp [complete]⟩
      · exact .inr ⟨intact, [], read, by simp [incomplete]⟩

theorem exists_option_type {P : OptionType → Prop} :
    (∃ option_type, P option_type) ↔ P .CE ∨ P .PE := by
  constructor
  · rintro ⟨option_type, holds⟩
    cases option_type with
    | CE => exact .inl holds
    | PE => exact .inr holds
  · rintro (holds | holds)
    · exact ⟨.CE, holds⟩
    · exact ⟨.PE, holds⟩

theorem extract_strike_cases (entry : String × Value) :
    (Breaks entry ∧ ∃ error, extract_strike s_id expiry entry = .error error) ∨
      (¬Breaks entry ∧ ∃ options, extract_strike s_id expiry entry = .ok options ∧
        (options = [] ↔ ¬Contributes entry)) := by
  obtain ⟨strike, strike_data⟩ := entry
  simp only [Breaks, Contributes, extract_strike, Value.toFloat, numeric]
  cases float? strike with
  | none => simp [caught]
  | some strike_price =>
      simp only [Option.isSome_some, true_and]
      cases strike_data with
      | dict strike_data =>
          simp only [exists_option_type]
          obtain ⟨breaks, error, raised⟩ | ⟨intact, ce, read, nothing⟩ :=
            @extract_leg_cases _ s_id expiry strike_price .CE strike_data
          · exact .inl ⟨.inl breaks, error, by rw [raised]; rfl⟩
          obtain ⟨breaks, error, raised⟩ | ⟨intact', pe, read', nothing'⟩ :=
            @extract_leg_cases _ s_id expiry strike_price .PE strike_data
          · exact .inl ⟨.inr breaks, error, by rw [read, raised]; rfl⟩
          · refine .inr ⟨not_or.mpr ⟨intact, intact'⟩, ce ++ pe, ?_, ?_⟩
            · rw [read, read']
              rfl
            · rw [List.append_eq_nil_iff, nothing, nothing', not_or]
      | null | bool | int | float | str | list =>
          exact .inl ⟨trivial, .attributeError, rfl⟩

end Entry

/-! ## Malformed strikes -/

/-- The response with these entries only. -/
def keeping (keep : String × Value → Bool) (raw_payload data oc_data : Dict) : Dict :=
  setItem "data" (.dict (setItem "oc" (.dict (oc_data.filter keep)) data)) raw_payload

section Response

variable {raw_payload data oc_data : Dict}

theorem extract_market_snapshot_dict (data : Dict) :
    extract_market_snapshot (.dict data) =
      .ok (snapshot_fields.map (fun entry =>
        (entry.1, Dict.get data entry.2.1 entry.2.2))) := by
  rw [extract_market_snapshot, Traversal.mapM_ok_iff, List.forall₂_map_right_iff]
  exact List.forall₂_same.mpr (fun _ _ => rfl)

theorem options_normalize (found : lookup? "data" raw_payload = some (.dict data))
    (listed : lookup? "oc" data = some (.dict oc_data)) :
    (normalize_dhan_data clock (.dict raw_payload)).map Normalized.options =
      (List.flatten <$> oc_data.mapM
        (extract_strike (Dict.get data "s_sid" (.int 0))
          (clock.parse_expiry_date (Dict.get data "explst" (.list []))))).toOption := by
  have nonempty : (Value.dict data).truthy = true := by
    cases data with
    | nil => exact nomatch listed
    | cons => rfl
  have extracted : extract_option_contracts clock (.dict data) =
      List.flatten <$> oc_data.mapM
        (extract_strike (Dict.get data "s_sid" (.int 0))
          (clock.parse_expiry_date (Dict.get data "explst" (.list [])))) := by
    simp only [extract_option_contracts, get_dict, Dict.get, listed, Option.getD_some]
    rfl
  have read : normalized clock (.dict raw_payload) =
      (fun options => some
        { market_snapshot := snapshot_fields.map (fun entry =>
            (entry.1, Dict.get data entry.2.1 entry.2.2))
          options }) <$> extract_option_contracts clock (.dict data) := by
    refine bind_step (get_of_lookup found _) ?_
    rw [if_pos nonempty]
    refine bind_step (extract_market_snapshot_dict data) ?_
    cases extract_option_contracts clock (.dict data) <;> rfl
  rw [normalize_dhan_data, read, ← extracted]
  cases extract_option_contracts clock (.dict data) <;> rfl

theorem get_setItem_oc {key : String} (other : key ≠ "oc") (value default : Value) :
    Dict.get (setItem "oc" value data) key default = Dict.get data key default := by
  rw [Dict.get, lookup_setItem, if_neg other.symm, Dict.get]

/-- Entries can be left out of the response exactly when one that stays breaks,
or none of them breaks or contributes an option. -/
theorem normalize_isolated_iff (raw_payload data oc_data : Dict)
    (keep : String × Value → Bool)
    (found : lookup? "data" raw_payload = some (.dict data))
    (listed : lookup? "oc" data = some (.dict oc_data)) :
    (normalize_dhan_data clock (.dict (keeping keep raw_payload data oc_data))).map
          Normalized.options =
        (normalize_dhan_data clock (.dict raw_payload)).map Normalized.options ↔
      (∃ entry ∈ oc_data, keep entry = true ∧ Breaks entry) ∨
        ∀ entry ∈ oc_data, keep entry = false → ¬Breaks entry ∧ ¬Contributes entry := by
  have found' : lookup? "data" (keeping keep raw_payload data oc_data) =
      some (.dict (setItem "oc" (.dict (oc_data.filter keep)) data)) := by
    rw [keeping, lookup_setItem, if_pos rfl]
  have listed' : lookup? "oc" (setItem "oc" (.dict (oc_data.filter keep)) data) =
      some (.dict (oc_data.filter keep)) := by
    rw [lookup_setItem, if_pos rfl]
  rw [options_normalize clock found listed, options_normalize clock found' listed',
    get_setItem_oc (by decide), get_setItem_oc (by decide),
    Traversal.flatten_mapM_filter_iff]
  have each := @extract_strike_cases _ (Dict.get data "s_sid" (.int 0))
    (clock.parse_expiry_date (Dict.get data "explst" (.list [])))
  refine or_congr ?_ ?_
  · refine exists_congr fun entry => and_congr_right fun _ => and_congr_right fun _ => ?_
    obtain ⟨breaks, raised⟩ | ⟨intact, options, read, _⟩ := each entry
    · exact iff_of_true raised breaks
    · refine iff_of_false ?_ intact
      rintro ⟨error, raised⟩
      rw [read] at raised
      exact nomatch raised
  · refine forall₂_congr fun entry _ => imp_congr_right fun _ => ?_
    obtain ⟨breaks, error, raised⟩ | ⟨intact, options, read, nothing⟩ := each entry
    · refine iff_of_false ?_ (fun intact => intact.1 breaks)
      rw [raised]
      exact nofun
    · rw [read, Except.ok.injEq, nothing, and_iff_right intact]

end Response

/-- A clock that reads no date. -/
def stopped : Clock Unit where
  parse_timestamp := fun _ => .error .valueError
  utcnow := ()

/-- A call with a last price. -/
def quoted : Value := .dict [("ce", .dict [("ltp", .float 10.5)])]

/-- A call without a price beside a put with one. -/
def half_quoted : Value :=
  .dict [("ce", .dict [("ltp", .str "-")]), ("pe", .dict [("ltp", .float 10.5)])]

def response (oc_data : Dict) : Dict := [("data", .dict [("oc", .dict oc_data)])]

def first_strike (entry : String × Value) : Bool := entry.1 = "24000"

theorem normalize_isolated_iff_invalid :
    (normalize_dhan_data stopped (.dict (keeping first_strike
        (response [("24000", quoted), ("ATM", quoted)])
        [("oc", .dict [("24000", quoted), ("ATM", quoted)])]
        [("24000", quoted), ("ATM", quoted)]))).map Normalized.options =
      (normalize_dhan_data stopped (.dict
        (response [("24000", quoted), ("ATM", quoted)]))).map Normalized.options := by
  refine (normalize_isolated_iff stopped _ _ _ first_strike rfl rfl).mpr (.inr ?_)
  have unread : ¬numeric "ATM" := by
    unfold numeric
    decide
  intro entry listed removed
  simp only [List.mem_cons, List.not_mem_nil, or_false] at listed
  obtain rfl | rfl := listed
  · exact nomatch removed
  · exact ⟨fun breaks => unread breaks.1, fun contributes => unread contributes.1⟩

/-- A null entry takes the other strike with it, and a put stays where its
malformed call is dropped. -/
theorem normalize_not_isolated :
    (normalize_dhan_data stopped (.dict (keeping first_strike
          (response [("24000", quoted), ("24100", .null)])
          [("oc", .dict [("24000", quoted), ("24100", .null)])]
          [("24000", quoted), ("24100", .null)]))).map Normalized.options ≠
        (normalize_dhan_data stopped (.dict
          (response [("24000", quoted), ("24100", .null)]))).map Normalized.options ∧
      (normalize_dhan_data stopped (.dict (keeping first_strike
          (response [("24000", quoted), ("24100", half_quoted)])
          [("oc", .dict [("24000", quoted), ("24100", half_quoted)])]
          [("24000", quoted), ("24100", half_quoted)]))).map Normalized.options ≠
        (normalize_dhan_data stopped (.dict
          (response [("24000", quoted), ("24100", half_quoted)]))).map
            Normalized.options := by
  constructor
  · intro same
    have counted := congrArg (Option.map List.length) same
    revert counted
    decide
  · intro same
    have counted := congrArg (Option.map List.length) same
    revert counted
    decide

end HftEngine.Transform
