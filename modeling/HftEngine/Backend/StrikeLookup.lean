import HftEngine.Lib.Decimal

/-!
# Strikes in a chain

The four ways in which the entry of a strike is found in an option chain.  The
keys of a chain are texts; a strike is a double.
-/

namespace HftEngine.StrikeLookup

open Py Json Binary64
open Py.Exact (trunc fixed)

/-- A finite double, with its exact value. -/
structure Strike where
  value : Float
  number : ℚ
  exact_value : exact (.float value) = .ok number

/-- `float(key) == strike` -/
def equals (key : String) (strike : Strike) : Bool :=
  (float? key).any (fun number => number == strike.value)

namespace Strike

/-- `str(int(strike))` -/
def int_text (strike : Strike) : String :=
  String.ofList (intText (trunc strike.number))

/-- `f"{strike:.6f}"`, which keeps the sign of zero. -/
def six_decimals (strike : Strike) : String :=
  match strike.value.toModel.unpack with
  | .zero .negative => "-" ++ fixed 6 strike.number
  | _ => fixed 6 strike.number

/-- `str(strike)` -/
def text (strike : Strike) : String :=
  String.ofList (floatText strike.value)

/-- `str(strike)` without `.0` at its end. -/
def short_text (strike : Strike) : String :=
  let text := floatText strike.value
  if ['.', '0'].isSuffixOf text then String.ofList (text.take (text.length - 2))
  else String.ofList text

end Strike

abbrev Chain (Entry : Type) := List (String × Entry)

section Lookups

variable {Entry : Type} (oc : Chain Entry) (strike : Strike)

def keys : List String := oc.map Prod.fst

/-- `oc.get(key)`, with the key. -/
def get? (key : String) : Option (String × Entry) :=
  oc.find? (fun entry => entry.1 = key)

def find_strike_key : String :=
  let int_key := strike.int_text
  let float_key := strike.six_decimals
  if int_key ∈ keys oc then int_key
  else if float_key ∈ keys oc then float_key
  else ((keys oc).find? (fun key => equals key strike)).getD int_key

/-- The lookup of `get_percentage_data`. -/
def get_percentage_data : Option (String × Entry) :=
  get? oc (find_strike_key oc strike)

/-- The lookup of `run_sr_screener`. -/
def run_sr_screener : Option (String × Entry) :=
  get? oc strike.int_text

/-- The entry whose leg `_find_option_in_dict` returns. -/
def _find_option_in_dict : Option (String × Entry) :=
  get? oc strike.text

/-- The lookup of `get_strike_timeseries`. -/
def get_strike_timeseries : Option (String × Entry) :=
  let strike_key := strike.six_decimals
  get? oc (if strike_key ∈ keys oc then strike_key else strike.short_text)

/-- The lookup of `get_strike_multiview_timeseries`. -/
def get_strike_multiview_timeseries : Option (String × Entry) :=
  let strike_key := strike.int_text
  get? oc (if strike_key ∈ keys oc then strike_key else strike.six_decimals)

end Lookups

/-! ## Texts that equal a strike -/

section Texts

variable {strike : Strike}

def Strike.IsWhole (strike : Strike) : Prop := strike.number = trunc strike.number

theorem equals_of_float? {key : String} (read : float? key = some strike.value) :
    equals key strike = true := by
  have worth := (isExact strike.exact_value).worth
  rw [equals, read, Option.any_some]
  exact (beq_iff worth worth).mpr rfl

@[simp] theorem equals_text (strike : Strike) : equals strike.text strike = true :=
  equals_of_float? (float?_of_number? (number?_floatText (isExact strike.exact_value)))

@[simp] theorem equals_short_text (strike : Strike) :
    equals strike.short_text strike = true := by
  unfold Strike.short_text
  dsimp only
  split
  case isTrue ended =>
    obtain ⟨text, spelled⟩ := List.isSuffixOf_iff_suffix.mp ended
    have shorter : (floatText strike.value).take ((floatText strike.value).length - 2) =
        text := by
      rw [← spelled]
      simp
    rw [shorter]
    apply equals_of_float?
    apply float?_without_zero
    rw [spelled]
    exact number?_floatText (isExact strike.exact_value)
  case isFalse => exact equals_text strike

theorem equals_int_text : equals strike.int_text strike = true ↔ strike.IsWhole := by
  have exact := isExact strike.exact_value
  rw [equals, Strike.int_text, float?_intText, Option.any_some,
    beq_iff exact.worth_trunc exact.worth]
  exact eq_comm

end Texts

/-! ## The five lookups -/

inductive Helper where
  | percentage_data
  | sr_screener
  | option_in_dict
  | strike_timeseries
  | strike_multiview
  deriving DecidableEq, Repr

section Right

variable {Entry : Type}

def Helper.lookup (helper : Helper) (oc : Chain Entry) (strike : Strike) :
    Option (String × Entry) :=
  match helper with
  | .percentage_data => get_percentage_data oc strike
  | .sr_screener => run_sr_screener oc strike
  | .option_in_dict => _find_option_in_dict oc strike
  | .strike_timeseries => get_strike_timeseries oc strike
  | .strike_multiview => get_strike_multiview_timeseries oc strike

/-- No key equals the strike. -/
def Missing (oc : Chain Entry) (strike : Strike) : Prop :=
  ∀ key ∈ keys oc, equals key strike = false

/-- An entry whose key equals the strike, or none if there is no such key. -/
def Right (oc : Chain Entry) (strike : Strike) : Option (String × Entry) → Prop
  | some entry => entry ∈ oc ∧ equals entry.1 strike = true
  | none => Missing oc strike

/-- The strike is the first text tried if that is a key, or else the second. -/
def Helper.Condition (helper : Helper) (oc : Chain Entry) (strike : Strike) : Prop :=
  match helper with
  | .percentage_data =>
      (strike.int_text ∈ keys oc → strike.IsWhole) ∧
      (strike.int_text ∉ keys oc → strike.six_decimals ∈ keys oc →
        equals strike.six_decimals strike = true)
  | .sr_screener =>
      (strike.int_text ∈ keys oc → strike.IsWhole) ∧
      (strike.int_text ∉ keys oc → Missing oc strike)
  | .option_in_dict => strike.text ∉ keys oc → Missing oc strike
  | .strike_timeseries =>
      (strike.six_decimals ∈ keys oc → equals strike.six_decimals strike = true) ∧
      (strike.six_decimals ∉ keys oc → strike.short_text ∉ keys oc → Missing oc strike)
  | .strike_multiview =>
      (strike.int_text ∈ keys oc → strike.IsWhole) ∧
      (strike.int_text ∉ keys oc → strike.six_decimals ∈ keys oc →
        equals strike.six_decimals strike = true) ∧
      (strike.int_text ∉ keys oc → strike.six_decimals ∉ keys oc → Missing oc strike)

variable {oc : Chain Entry} {strike : Strike} {key : String}

theorem get?_of_mem (listed : key ∈ keys oc) :
    ∃ entry ∈ oc, get? oc key = some entry ∧ entry.1 = key := by
  cases found : get? oc key with
  | none =>
      obtain ⟨entry, member, rfl⟩ := List.mem_map.mp listed
      have other := List.find?_eq_none.mp found entry member
      simp at other
  | some entry =>
      have same := List.find?_some found
      exact ⟨entry, List.mem_of_find?_eq_some found, rfl, by simpa using same⟩

theorem get?_of_not_mem (unlisted : key ∉ keys oc) : get? oc key = none := by
  apply List.find?_eq_none.mpr
  intro entry member same
  exact unlisted (List.mem_map.mpr ⟨entry, member, by simpa using same⟩)

theorem right_of_mem (listed : key ∈ keys oc) :
    Right oc strike (get? oc key) ↔ equals key strike = true := by
  obtain ⟨entry, member, found, rfl⟩ := get?_of_mem listed
  rw [found]
  exact and_iff_right member

theorem right_of_not_mem (unlisted : key ∉ keys oc) :
    Right oc strike (get? oc key) ↔ Missing oc strike := by
  rw [get?_of_not_mem unlisted]
  rfl

/-- One key is looked up. -/
theorem right_get?_iff :
    Right oc strike (get? oc key) ↔ (key ∈ keys oc → equals key strike = true) ∧
      (key ∉ keys oc → Missing oc strike) := by
  by_cases listed : key ∈ keys oc
  · simp [right_of_mem listed, listed]
  · simp [right_of_not_mem listed, listed]

theorem percentage_data_iff :
    Right oc strike (get_percentage_data oc strike) ↔
      (strike.int_text ∈ keys oc → strike.IsWhole) ∧
      (strike.int_text ∉ keys oc → strike.six_decimals ∈ keys oc →
        equals strike.six_decimals strike = true) := by
  unfold get_percentage_data find_strike_key
  dsimp only
  by_cases whole : strike.int_text ∈ keys oc
  · simp [whole, right_of_mem whole, equals_int_text]
  · by_cases fixed : strike.six_decimals ∈ keys oc
    · simp [whole, fixed, right_of_mem fixed]
    · have found : Right oc strike (get? oc (((keys oc).find?
          (fun key => equals key strike)).getD strike.int_text)) := by
        cases search : (keys oc).find? (fun key => equals key strike) with
        | none =>
            rw [Option.getD_none, right_of_not_mem whole]
            intro key listed
            simpa using List.find?_eq_none.mp search key listed
        | some key =>
            rw [Option.getD_some, right_of_mem (List.mem_of_find?_eq_some search)]
            have same := List.find?_some search
            simpa using same
      simp [whole, fixed, found]

/-- Each lookup is right under its condition and only then. -/
theorem lookup_right_iff (helper : Helper) (oc : Chain Entry) (strike : Strike) :
    Right oc strike (helper.lookup oc strike) ↔ helper.Condition oc strike := by
  cases helper with
  | percentage_data => exact percentage_data_iff
  | sr_screener => rw [Helper.lookup, run_sr_screener, right_get?_iff, equals_int_text]; rfl
  | option_in_dict =>
      rw [Helper.lookup, _find_option_in_dict, right_get?_iff, equals_text]
      exact and_iff_right (fun _ => rfl)
  | strike_timeseries =>
      rw [Helper.lookup, get_strike_timeseries]
      by_cases fixed : strike.six_decimals ∈ keys oc
      · simp [Helper.Condition, fixed, right_of_mem fixed]
      · simp [Helper.Condition, fixed, right_get?_iff]
  | strike_multiview =>
      rw [Helper.lookup, get_strike_multiview_timeseries]
      by_cases whole : strike.int_text ∈ keys oc
      · simp [Helper.Condition, whole, right_of_mem whole, equals_int_text]
      · simp [Helper.Condition, whole, right_get?_iff]

end Right

theorem exact_fraction : exact (.float 102.5) = .ok (205 / 2) := by with_unfolding_all decide

theorem exact_whole : exact (.float 24000.0) = .ok 24000 := by with_unfolding_all decide

def fraction : Strike := ⟨102.5, 205 / 2, exact_fraction⟩

def whole : Strike := ⟨24000.0, 24000, exact_whole⟩

/-- The entry of 102 for the strike 102.5, and none for 24000. -/
theorem not_right :
    ¬Right [("102", 1), ("102.5", 2)] fraction
      (Helper.percentage_data.lookup [("102", 1), ("102.5", 2)] fraction) ∧
    ¬Right [("24000", 1)] whole (Helper.option_in_dict.lookup [("24000", 1)] whole) := by
  constructor
  · intro right
    have truncated : Helper.percentage_data.lookup [("102", 1), ("102.5", 2)] fraction =
        some ("102", 1) := by with_unfolding_all decide
    have other : equals "102" fraction = false := by decide
    rw [truncated] at right
    exact Bool.false_ne_true (other.symm.trans right.2)
  · intro right
    have unlisted : Helper.option_in_dict.lookup [("24000", 1)] whole = none := by
      decide
    have same : equals "24000" whole = true := by decide
    rw [unlisted] at right
    exact Bool.false_ne_true ((right "24000" (by simp [keys])).symm.trans same)

end HftEngine.StrikeLookup
