import HftEngine.Backend.AdjustmentEngine
import HftEngine.Lib.Traversal

/-!
# The rolls that are suggested

A critical alert about a tested leg has `_generate_adjustments` roll all short legs of
the position, in the direction that it reads off the alert's message.
-/

namespace HftEngine.Backend

namespace AdjustmentEngine

open Py (Value Dict Result)
open Py.Exact

/-- A leg to close or to open.  The legs of a position have an entry price, and those of
a roll the price of the chain. -/
structure AdjustmentLeg where
  strike : ℚ
  option_type : String
  action : String
  qty : ℤ
  lot_size : ℤ
  ltp : Option ℚ := none
  entry_price : Option ℚ := none
  deriving DecidableEq

structure AdjustmentSuggestion where
  adjustment_type : String
  trigger_reason : String
  close_legs : List AdjustmentLeg
  open_legs : List AdjustmentLeg
  estimated_cost : ℚ
  new_max_profit : ℚ := 0
  new_max_loss : ℚ := 0
  new_breakevens : List ℚ := []
  new_pop : ℚ := 0
  confidence : ℚ
  deriving DecidableEq

inductive RollType where
  | up
  | down
  | out
  deriving DecidableEq

def RollType.value : RollType → String
  | .up => "up"
  | .down => "down"
  | .out => "out"

/-- The strike that a short leg is rolled to. -/
def RollType.new_strike (roll_type : RollType) (step_size original_strike : ℚ) : ℚ :=
  match roll_type with
  | .up => original_strike + step_size
  | .down => original_strike - step_size
  | .out => original_strike

section Suggestions

variable {Date : Type} (engine : Engine Date) (option_chain : Dict)

/-- What raises is None. -/
def _find_option_in_dict (strike : ℚ) (option_type : String) : Option Value := do
  let strike_data := Dict.get option_chain (engine.text strike) .null
  if strike_data.truthy then
    let leg_data ← (strike_data.get option_type.toLower .null).toOption
    if leg_data.truthy then some leg_data else none
  else none

/-- `data.get("ltp", 0)`, which has to be a number once it is summed. -/
def last_price (data : Value) : Result ℚ := do
  Py.exact (← data.get "ltp" (.int 0))

/-- What a short leg is closed and opened for, unless the chain lacks one of the two. -/
def roll_leg (roll_type : RollType) (step_size : ℚ) (leg : Leg) :
    Result (Option (AdjustmentLeg × AdjustmentLeg)) :=
  let new_strike := roll_type.new_strike step_size leg.strike
  match _find_option_in_dict engine option_chain leg.strike leg.option_type,
      _find_option_in_dict engine option_chain new_strike leg.option_type with
  | some old_opt_data, some new_opt_data => do
      let close_leg : AdjustmentLeg :=
        { strike := leg.strike
          option_type := leg.option_type
          action := "BUY"
          qty := leg.qty
          lot_size := leg.lot_size
          ltp := some (← last_price old_opt_data) }
      let open_leg : AdjustmentLeg :=
        { strike := new_strike
          option_type := leg.option_type
          action := "SELL"
          qty := leg.qty
          lot_size := leg.lot_size
          ltp := some (← last_price new_opt_data) }
      .ok (some (close_leg, open_leg))
  | _, _ => .ok none

/-- The sum of `ltp * qty * lot_size`. -/
def leg_cost (legs : List AdjustmentLeg) : ℚ :=
  (legs.map (fun leg => leg.ltp.getD 0 * (leg.qty : ℚ) * (leg.lot_size : ℚ))).sum

def suggest_roll (legs : List Leg) (roll_type : RollType) (step_size : ℚ) :
    Result (Option AdjustmentSuggestion) := do
  let short_legs := legs.filter (fun leg => leg.action = "SELL")
  let pairs ← short_legs.mapM (roll_leg engine option_chain roll_type step_size)
  let rolled := pairs.reduceOption
  if rolled = [] then .ok none
  else
    let close_legs := rolled.map (·.1)
    let open_legs := rolled.map (·.2)
    .ok (some
      { adjustment_type := "roll_" ++ roll_type.value
        trigger_reason := "Manual roll " ++ roll_type.value ++ " requested"
        close_legs, open_legs
        estimated_cost := leg_cost close_legs - leg_cost open_legs
        confidence := 6 / 10 })

/-- `"PE" in alert.message` -/
def roll_direction (message : String) : RollType :=
  if "PE".toList <:+: message.toList then .up else .down

def position_leg (leg : Leg) : AdjustmentLeg where
  strike := leg.strike
  option_type := leg.option_type
  action := leg.action
  qty := leg.qty
  lot_size := leg.lot_size
  entry_price := some leg.entry_price

/-- What one critical alert has suggested. -/
def adjustment_for (legs : List Leg) (alert : PositionAlert) :
    Result (Option AdjustmentSuggestion) :=
  match alert.alert_type with
  | .LEG_TESTED => do
      let suggestion ← suggest_roll engine option_chain legs
        (roll_direction alert.message) 50
      .ok (suggestion.map (fun found => { found with trigger_reason := alert.message }))
  | .TIME_WARNING =>
      .ok (some
        { adjustment_type := "roll_out"
          trigger_reason := alert.message
          close_legs := []
          open_legs := []
          estimated_cost := 0
          confidence := 6 / 10 })
  | .STOP_LOSS =>
      .ok (some
        { adjustment_type := "close_full"
          trigger_reason := alert.message
          close_legs := legs.map position_leg
          open_legs := []
          estimated_cost := 0
          confidence := 8 / 10 })
  | _ => .ok none

def _generate_adjustments (legs : List Leg) (critical_alerts : List PositionAlert) :
    Result (List AdjustmentSuggestion) := do
  let found ← critical_alerts.mapM (adjustment_for engine option_chain legs)
  .ok found.reduceOption

/-- The suggestions of an analysis: none without a critical alert or without a chain. -/
def adjustments_for (legs : List Leg) (alerts : List PositionAlert) :
    Result (List AdjustmentSuggestion) :=
  let critical_alerts := alerts.filter (fun alert => alert.severity = .CRITICAL)
  if critical_alerts = [] ∨ option_chain = [] then .ok []
  else _generate_adjustments engine option_chain legs critical_alerts

/-- `analyze_position` with the chain that it is given, and what it suggests. -/
def analyze_with_chain (position : Given) (current_spot current_iv : ℚ)
    (current_date : Date) : Result (Analysis × List AdjustmentSuggestion) := do
  let analysis ← analyze_position engine position current_spot current_iv current_date
  let adjustments ← adjustments_for engine option_chain position.legs analysis.alerts
  .ok (analysis, adjustments)

/-! ## Away from the money -/

/-- The spot price is within the buffer of the strike. -/
def Tested (current_spot strike : ℚ) : Prop :=
  |current_spot - strike| / current_spot ≤ engine.config.leg_test_buffer

/-- A strike farther out of the money: higher for a call, lower for a put. -/
def Farther (option_type : String) (old new : ℚ) : Prop :=
  if option_type = "CE" then old < new else new < old

/-- A tested short leg of the position is bought back and sold again farther out of the
money, at a strike of the chain. -/
structure RolledAway (legs : List Leg) (current_spot : ℚ)
    (close_leg open_leg : AdjustmentLeg) : Prop where
  tested : ∃ leg ∈ legs, leg.action = "SELL" ∧ leg.strike = close_leg.strike ∧
    leg.option_type = close_leg.option_type ∧ Tested engine current_spot leg.strike
  option_type : open_leg.option_type = close_leg.option_type
  side : open_leg.action = "SELL"
  present : ∃ data, _find_option_in_dict engine option_chain open_leg.strike
    open_leg.option_type = some data
  farther : Farther close_leg.option_type close_leg.strike open_leg.strike

/-- Whatever is rolled is rolled away. -/
def RollsAway (legs : List Leg) (current_spot : ℚ)
    (adjustments : List AdjustmentSuggestion) : Prop :=
  ∀ suggestion ∈ adjustments,
    ∀ rolled ∈ suggestion.close_legs.zip suggestion.open_legs,
      RolledAway engine option_chain legs current_spot rolled.1 rolled.2

/-- The chain has a leg at its strike and at the next one. -/
def Rollable (roll_type : RollType) (leg : Leg) : Prop :=
  (_find_option_in_dict engine option_chain leg.strike leg.option_type).isSome ∧
    (_find_option_in_dict engine option_chain (roll_type.new_strike 50 leg.strike)
      leg.option_type).isSome

/-- Where the alerts about a leg of this type roll to. -/
def type_direction (option_type : String) : RollType :=
  if "PE".toList <:+: option_type.toList then .up else .down

/-- Each tested leg finds only such short legs in the chain as are tested themselves, and
are calls where it rolls up and no calls where it rolls down. -/
def RollsFit (legs : List Leg) (current_spot : ℚ) : Prop :=
  ∀ tested ∈ legs, tested.action = "SELL" → Tested engine current_spot tested.strike →
    ∀ leg ∈ legs, leg.action = "SELL" →
      Rollable engine option_chain (type_direction tested.option_type) leg →
        Tested engine current_spot leg.strike ∧
          (leg.option_type = "CE" ↔ type_direction tested.option_type = .up)

variable {engine option_chain}

theorem roll_leg_cases {roll_type : RollType} {step_size : ℚ} {leg : Leg}
    {rolled : Option (AdjustmentLeg × AdjustmentLeg)}
    (found : roll_leg engine option_chain roll_type step_size leg = .ok rolled) :
    (rolled = none ∧
      ((_find_option_in_dict engine option_chain leg.strike leg.option_type).isNone ∨
        (_find_option_in_dict engine option_chain
          (roll_type.new_strike step_size leg.strike) leg.option_type).isNone)) ∨
    ∃ close_leg open_leg, rolled = some (close_leg, open_leg) ∧
      (_find_option_in_dict engine option_chain leg.strike leg.option_type).isSome ∧
      (_find_option_in_dict engine option_chain
        (roll_type.new_strike step_size leg.strike) leg.option_type).isSome ∧
      close_leg.strike = leg.strike ∧ close_leg.option_type = leg.option_type ∧
      open_leg.strike = roll_type.new_strike step_size leg.strike ∧
      open_leg.option_type = leg.option_type ∧ open_leg.action = "SELL" := by
  unfold roll_leg at found
  cases old : _find_option_in_dict engine option_chain leg.strike leg.option_type with
  | none =>
      rw [old] at found
      exact .inl ⟨(Except.ok.inj found).symm, .inl rfl⟩
  | some old_opt_data =>
      cases new : _find_option_in_dict engine option_chain
          (roll_type.new_strike step_size leg.strike) leg.option_type with
      | none =>
          rw [old] at found
          dsimp only at found
          rw [new] at found
          exact .inl ⟨(Except.ok.inj found).symm, .inr rfl⟩
      | some new_opt_data =>
          rw [old] at found
          dsimp only at found
          rw [new] at found
          obtain ⟨old_ltp, -, found⟩ := Py.bind_eq_ok.mp found
          obtain ⟨new_ltp, -, found⟩ := Py.bind_eq_ok.mp found
          obtain rfl := Except.ok.inj found
          exact .inr ⟨_, _, rfl, rfl, rfl, rfl, rfl, rfl, rfl, rfl⟩

theorem zip_map_fst_snd {α β : Type} (pairs : List (α × β)) :
    (pairs.map (·.1)).zip (pairs.map (·.2)) = pairs := by
  induction pairs with
  | nil => rfl
  | cons pair pairs ih => rw [List.map_cons, List.map_cons, List.zip_cons_cons, ih]

/-- What a roll closes and opens are the short legs that it can roll. -/
theorem mem_suggest_roll {legs : List Leg} {roll_type : RollType} {step_size : ℚ}
    {found : Option AdjustmentSuggestion}
    (suggested : suggest_roll engine option_chain legs roll_type step_size = .ok found)
    (pair : AdjustmentLeg × AdjustmentLeg) :
    (∃ suggestion ∈ found, pair ∈ suggestion.close_legs.zip suggestion.open_legs) ↔
      ∃ leg ∈ legs, leg.action = "SELL" ∧
        roll_leg engine option_chain roll_type step_size leg = .ok (some pair) := by
  obtain ⟨pairs, mapped, suggested⟩ := Py.bind_eq_ok.mp suggested
  have members : pair ∈ pairs.reduceOption ↔ ∃ leg ∈ legs, leg.action = "SELL" ∧
      roll_leg engine option_chain roll_type step_size leg = .ok (some pair) := by
    rw [List.reduceOption_mem_iff, Traversal.mem_of_mapM_ok mapped]
    simp only [List.mem_filter, decide_eq_true_eq, and_assoc]
  rw [← members]
  dsimp only at suggested
  split at suggested
  case isTrue none_rolled =>
      obtain rfl := Except.ok.inj suggested
      simp [none_rolled]
  case isFalse =>
      obtain rfl := Except.ok.inj suggested
      simp only [Option.mem_some_iff, exists_eq_left', zip_map_fst_snd]

theorem mem_adjustment_for {legs : List Leg} {alert : PositionAlert}
    {found : Option AdjustmentSuggestion}
    (adjusted : adjustment_for engine option_chain legs alert = .ok found)
    (pair : AdjustmentLeg × AdjustmentLeg) :
    (∃ suggestion ∈ found, pair ∈ suggestion.close_legs.zip suggestion.open_legs) ↔
      alert.alert_type = .LEG_TESTED ∧ ∃ leg ∈ legs, leg.action = "SELL" ∧
        roll_leg engine option_chain (roll_direction alert.message) 50 leg =
          .ok (some pair) := by
  unfold adjustment_for at adjusted
  cases kind : alert.alert_type with
  | LEG_TESTED =>
      rw [kind] at adjusted
      obtain ⟨suggestion, suggested, adjusted⟩ := Py.bind_eq_ok.mp adjusted
      obtain rfl := Except.ok.inj adjusted
      rw [← mem_suggest_roll suggested]
      cases suggestion <;> simp
  | TIME_WARNING =>
      rw [kind] at adjusted
      obtain rfl := Except.ok.inj adjusted
      simp
  | STOP_LOSS =>
      rw [kind] at adjusted
      obtain rfl := Except.ok.inj adjusted
      simp
  | _ =>
      rw [kind] at adjusted
      obtain rfl := Except.ok.inj adjusted
      simp

/-! ## The alerts about tested legs -/

theorem infix_after {p e : Char} {before after : List Char} (absent : p ∉ before) :
    [p, e] <:+: before ++ after ↔ [p, e] <:+: after := by
  induction before with
  | nil => rfl
  | cons c before ih =>
      rw [List.mem_cons, not_or] at absent
      rw [List.cons_append, List.infix_cons_iff, ih absent.2, List.cons_prefix_cons]
      simp [absent.1]

theorem infix_before {p e : Char} {before after : List Char} (absent : p ∉ after)
    (different : after.head? ≠ some e) :
    [p, e] <:+: before ++ after ↔ [p, e] <:+: before := by
  induction before with
  | nil =>
      refine iff_of_false (fun inside => absent (inside.subset List.mem_cons_self)) ?_
      simp
  | cons c before ih =>
      rw [List.cons_append, List.infix_cons_iff, List.infix_cons_iff, ih]
      apply or_congr_left
      rw [List.cons_prefix_cons, List.cons_prefix_cons]
      apply and_congr_right
      intro _
      cases before with
      | nil =>
          cases after with
          | nil => simp
          | cons d after =>
              rw [List.head?_cons, Ne, Option.some.injEq] at different
              simp [Ne.symm different]
      | cons d before => simp

theorem no_letter_digits {n : ℕ} : 'P' ∉ Nat.toDigits 10 n := by
  intro member
  exact absurd (Nat.isDigit_of_mem_toDigits (by decide) (by decide) member) (by decide)

theorem no_letter_fixed {places : ℕ} {x : ℚ} : 'P' ∉ (fixed places x).toList := by
  unfold fixed
  dsimp only
  split
  · simp [no_letter_digits]
  · simp [no_letter_digits]

theorem leg_tested_eq_some {current_spot : ℚ} {index : ℕ} {leg : Leg}
    {alert : PositionAlert} :
    leg_tested engine current_spot index leg = some alert →
      leg.action = "SELL" ∧ Tested engine current_spot leg.strike := by
  unfold leg_tested
  intro found
  split at found
  case isTrue => cases found
  case isFalse sold =>
      dsimp only at found
      split at found
      case isTrue near => exact ⟨not_not.mp sold, near⟩
      case isFalse => cases found

theorem leg_tested_of_tested {current_spot : ℚ} {leg : Leg} (sold : leg.action = "SELL")
    (near : Tested engine current_spot leg.strike) (index : ℕ) :
    ∃ alert, leg_tested engine current_spot index leg = some alert := by
  unfold leg_tested
  rw [if_neg (not_not.mpr sold)]
  exact ⟨_, if_pos near⟩

/-- The direction comes from the type of the leg, where the text of a strike has no
letter P. -/
theorem leg_tested_direction (plain : ∀ x, 'P' ∉ (engine.text x).toList)
    {current_spot : ℚ} {index : ℕ} {leg : Leg} {alert : PositionAlert}
    (found : leg_tested engine current_spot index leg = some alert) :
    alert.alert_type = .LEG_TESTED ∧ alert.severity = .CRITICAL ∧
      roll_direction alert.message = type_direction leg.option_type := by
  unfold leg_tested at found
  split at found
  case isTrue => cases found
  case isFalse =>
      dsimp only at found
      split at found
      case isFalse => cases found
      case isTrue =>
          obtain rfl := Option.some.inj found
          refine ⟨rfl, rfl, ?_⟩
          generalize side_eq : (if leg.strike < current_spot then "above" else "below") = side
          have no_side : 'P' ∉ side.toList := by
            rw [← side_eq]
            split
            · decide
            · decide
          have before : 'P' ∉ "Short ".toList ++ (engine.text leg.strike).toList ++
              " ".toList := by
            simp [plain]
          have after : 'P' ∉ " is being tested (spot ".toList ++ (side.toList ++
              (" at ".toList ++
                ((fixed 1 (|current_spot - leg.strike| / current_spot * 100)).toList ++
                  "%)".toList))) := by
            simp [no_side, no_letter_fixed]
          have blank : (" is being tested (spot ".toList ++ (side.toList ++
              (" at ".toList ++
                ((fixed 1 (|current_spot - leg.strike| / current_spot * 100)).toList ++
                  "%)".toList)))).head? ≠ some 'E' := by
            simp
          refine if_congr (Iff.trans ?_ ((infix_after before).trans
            (infix_before after blank))) rfl rfl
          simp only [String.toList_append, List.append_assoc]
          rfl

/-- The alerts about tested legs are those of their check. -/
theorem mem_alerts {position : Given} {current_spot current_iv : ℚ} {current_date : Date}
    {analysis : Analysis}
    (analyzed : analyze_position engine position current_spot current_iv current_date =
      .ok analysis) {alert : PositionAlert} (tested : alert.alert_type = .LEG_TESTED) :
    alert ∈ analysis.alerts ↔
      alert ∈ _check_leg_tested engine position.legs current_spot := by
  rcases analyze_position_ok analyzed with
    ⟨empty, none, -⟩ | ⟨drift, iv, pnl, -, -, alerts, drifted, changed, reached⟩
  · simp [empty, none, _check_leg_tested]
  · rw [mem_alerts_iff alerts drifted changed reached, tested]

theorem mem_check_leg_tested {legs : List Leg} {current_spot : ℚ} {alert : PositionAlert} :
    alert ∈ _check_leg_tested engine legs current_spot ↔
      ∃ leg ∈ legs, ∃ index, legs[index]? = some leg ∧
        leg_tested engine current_spot index leg = some alert := by
  unfold _check_leg_tested
  rw [List.mem_filterMap]
  constructor
  · rintro ⟨⟨leg, index⟩, member, found⟩
    have at_index := List.mem_zipIdx_iff_getElem?.mp member
    exact ⟨leg, List.mem_of_getElem? at_index, index, at_index, found⟩
  · rintro ⟨leg, -, index, at_index, found⟩
    exact ⟨(leg, index), List.mem_zipIdx_iff_getElem?.mpr at_index, found⟩

theorem mem_adjustments_for {legs : List Leg} {alerts : List PositionAlert}
    {adjustments : List AdjustmentSuggestion}
    (generated : adjustments_for engine option_chain legs alerts = .ok adjustments)
    (pair : AdjustmentLeg × AdjustmentLeg) :
    (∃ suggestion ∈ adjustments, pair ∈ suggestion.close_legs.zip suggestion.open_legs) ↔
      ∃ alert ∈ alerts, alert.severity = .CRITICAL ∧ alert.alert_type = .LEG_TESTED ∧
        ∃ leg ∈ legs, leg.action = "SELL" ∧
          roll_leg engine option_chain (roll_direction alert.message) 50 leg =
            .ok (some pair) := by
  unfold adjustments_for at generated
  dsimp only at generated
  split at generated
  case isTrue nothing =>
      obtain rfl := Except.ok.inj generated
      refine iff_of_false (by simp) ?_
      rintro ⟨alert, member, critical, -, leg, -, -, rolled⟩
      rcases nothing with no_alert | no_chain
      · rw [List.filter_eq_nil_iff] at no_alert
        exact no_alert alert member (decide_eq_true critical)
      · -- an empty chain finds no option
        rw [no_chain] at rolled
        cases Except.ok.inj rolled
  case isFalse =>
      obtain ⟨found, mapped, same⟩ := Py.bind_eq_ok.mp generated
      obtain rfl := Except.ok.inj same
      constructor
      · rintro ⟨suggestion, member, inside⟩
        rw [List.reduceOption_mem_iff, Traversal.mem_of_mapM_ok mapped] at member
        obtain ⟨alert, among, adjusted⟩ := member
        obtain ⟨among, critical⟩ := List.mem_filter.mp among
        have rolled := (mem_adjustment_for adjusted pair).mp ⟨suggestion, rfl, inside⟩
        exact ⟨alert, among, of_decide_eq_true critical, rolled⟩
      · rintro ⟨alert, among, critical, rolled⟩
        have filtered : alert ∈ alerts.filter (fun alert => alert.severity = .CRITICAL) :=
          List.mem_filter.mpr ⟨among, decide_eq_true critical⟩
        obtain ⟨one, _, adjusted⟩ :=
          Traversal.exists_right (Traversal.mapM_ok_iff.mp mapped) filtered
        obtain ⟨suggestion, here, inside⟩ := (mem_adjustment_for adjusted pair).mpr rolled
        refine ⟨suggestion, ?_, inside⟩
        rw [List.reduceOption_mem_iff, Traversal.mem_of_mapM_ok mapped]
        rw [Option.mem_def] at here
        exact ⟨alert, filtered, here ▸ adjusted⟩

/-- Each tested leg has an alert, which rolls in the direction of its type. -/
theorem exists_alert (plain : ∀ x, 'P' ∉ (engine.text x).toList) {position : Given}
    {current_spot current_iv : ℚ} {current_date : Date} {analysis : Analysis}
    (analyzed : analyze_position engine position current_spot current_iv current_date =
      .ok analysis) {leg : Leg} (among : leg ∈ position.legs) (sold : leg.action = "SELL")
    (near : Tested engine current_spot leg.strike) :
    ∃ alert ∈ analysis.alerts, alert.alert_type = .LEG_TESTED ∧
      alert.severity = .CRITICAL ∧
      roll_direction alert.message = type_direction leg.option_type := by
  obtain ⟨index, at_index⟩ := List.mem_iff_getElem?.mp among
  obtain ⟨alert, found⟩ := leg_tested_of_tested sold near index
  obtain ⟨tested, critical, direction⟩ := leg_tested_direction plain found
  refine ⟨alert, ?_, tested, critical, direction⟩
  exact (mem_alerts analyzed tested).mpr
    (mem_check_leg_tested.mpr ⟨leg, among, index, at_index, found⟩)

/-- What is rolled are the short legs that a tested leg's direction can roll. -/
theorem mem_adjustments (plain : ∀ x, 'P' ∉ (engine.text x).toList) {position : Given}
    {current_spot current_iv : ℚ} {current_date : Date} {analysis : Analysis}
    {adjustments : List AdjustmentSuggestion}
    (analyzed : analyze_with_chain engine option_chain position current_spot current_iv
      current_date = .ok (analysis, adjustments)) (pair : AdjustmentLeg × AdjustmentLeg) :
    (∃ suggestion ∈ adjustments, pair ∈ suggestion.close_legs.zip suggestion.open_legs) ↔
      ∃ tested ∈ position.legs, tested.action = "SELL" ∧
        Tested engine current_spot tested.strike ∧
        ∃ leg ∈ position.legs, leg.action = "SELL" ∧
          roll_leg engine option_chain (type_direction tested.option_type) 50 leg =
            .ok (some pair) := by
  obtain ⟨_, examined, rest⟩ := Py.bind_eq_ok.mp analyzed
  obtain ⟨_, generated, same⟩ := Py.bind_eq_ok.mp rest
  obtain ⟨rfl, rfl⟩ := Prod.mk.inj (Except.ok.inj same)
  rw [mem_adjustments_for generated]
  constructor
  · rintro ⟨alert, member, -, tested, rolled⟩
    obtain ⟨leg, among, index, -, found⟩ :=
      mem_check_leg_tested.mp ((mem_alerts examined tested).mp member)
    obtain ⟨sold, near⟩ := leg_tested_eq_some found
    rw [(leg_tested_direction plain found).2.2] at rolled
    exact ⟨leg, among, sold, near, rolled⟩
  · rintro ⟨leg, among, sold, near, rolled⟩
    obtain ⟨alert, member, tested, critical, direction⟩ :=
      exists_alert plain examined among sold near
    exact ⟨alert, member, critical, tested, direction ▸ rolled⟩

/-- An alert whose roll is suggested has met no error at any short leg. -/
theorem roll_leg_of_adjustments {legs : List Leg} {alerts : List PositionAlert}
    {adjustments : List AdjustmentSuggestion} (chain : option_chain ≠ [])
    (generated : adjustments_for engine option_chain legs alerts = .ok adjustments)
    {alert : PositionAlert} (member : alert ∈ alerts) (critical : alert.severity = .CRITICAL)
    (tested : alert.alert_type = .LEG_TESTED) {leg : Leg} (among : leg ∈ legs)
    (short : leg.action = "SELL") :
    ∃ rolled, roll_leg engine option_chain (roll_direction alert.message) 50 leg =
      .ok rolled := by
  have filtered : alert ∈ alerts.filter (fun alert => alert.severity = .CRITICAL) :=
    List.mem_filter.mpr ⟨member, decide_eq_true critical⟩
  have sold : leg ∈ legs.filter (fun leg => leg.action = "SELL") :=
    List.mem_filter.mpr ⟨among, decide_eq_true short⟩
  unfold adjustments_for at generated
  dsimp only at generated
  rw [if_neg (not_or.mpr ⟨List.ne_nil_of_mem filtered, chain⟩)] at generated
  obtain ⟨found, mapped, -⟩ := Py.bind_eq_ok.mp generated
  obtain ⟨one, -, adjusted⟩ := Traversal.exists_right (Traversal.mapM_ok_iff.mp mapped) filtered
  unfold adjustment_for at adjusted
  rw [tested] at adjusted
  obtain ⟨suggestion, suggested, -⟩ := Py.bind_eq_ok.mp adjusted
  obtain ⟨pairs, rolls, -⟩ := Py.bind_eq_ok.mp suggested
  obtain ⟨rolled, -, same⟩ := Traversal.exists_right (Traversal.mapM_ok_iff.mp rolls) sold
  exact ⟨rolled, same⟩

/-- What can be rolled is rolled. -/
theorem exists_rolled (plain : ∀ x, 'P' ∉ (engine.text x).toList) {position : Given}
    {current_spot current_iv : ℚ} {current_date : Date} {analysis : Analysis}
    {adjustments : List AdjustmentSuggestion}
    (analyzed : analyze_with_chain engine option_chain position current_spot current_iv
      current_date = .ok (analysis, adjustments)) {tested leg : Leg}
    (member : tested ∈ position.legs) (sold : tested.action = "SELL")
    (near : Tested engine current_spot tested.strike) (among : leg ∈ position.legs)
    (short : leg.action = "SELL")
    (rollable : Rollable engine option_chain (type_direction tested.option_type) leg) :
    ∃ pair, roll_leg engine option_chain (type_direction tested.option_type) 50 leg =
      .ok (some pair) := by
  obtain ⟨_, examined, rest⟩ := Py.bind_eq_ok.mp analyzed
  obtain ⟨_, generated, same⟩ := Py.bind_eq_ok.mp rest
  obtain ⟨rfl, rfl⟩ := Prod.mk.inj (Except.ok.inj same)
  obtain ⟨alert, found, kind, critical, direction⟩ :=
    exists_alert plain examined member sold near
  have chain : option_chain ≠ [] := by
    rintro rfl
    cases rollable.1
  obtain ⟨rolled, same⟩ :=
    roll_leg_of_adjustments chain generated found critical kind among short
  rw [direction] at same
  rcases roll_leg_cases same with ⟨-, old | new⟩ | ⟨close_leg, open_leg, rfl, -⟩
  · rw [Option.isNone_iff_eq_none] at old
    rw [Rollable, old] at rollable
    cases rollable.1
  · rw [Option.isNone_iff_eq_none] at new
    rw [Rollable, new] at rollable
    cases rollable.2
  · exact ⟨_, same⟩

/-- A strike on the next step up or down is farther out of the money for a call or
another option. -/
theorem farther_type_direction {tested option_type : String} {strike : ℚ} :
    Farther option_type strike ((type_direction tested).new_strike 50 strike) ↔
      (option_type = "CE" ↔ type_direction tested = .up) := by
  unfold Farther type_direction
  by_cases put : "PE".toList <:+: tested.toList
  · rw [if_pos put]
    by_cases call : option_type = "CE"
    · simp [call, RollType.new_strike]
    · simp [call, RollType.new_strike]
  · rw [if_neg put]
    by_cases call : option_type = "CE"
    · simp [call, RollType.new_strike]
    · simp [call, RollType.new_strike]

/-- Whatever is rolled is rolled away from the money, and is tested, exactly when each
tested leg's direction is right for the short legs that it rolls, and these are tested. -/
theorem rolls_away_iff (plain : ∀ x, 'P' ∉ (engine.text x).toList) {position : Given}
    {current_spot current_iv : ℚ} {current_date : Date} {analysis : Analysis}
    {adjustments : List AdjustmentSuggestion}
    (analyzed : analyze_with_chain engine option_chain position current_spot current_iv
      current_date = .ok (analysis, adjustments)) :
    RollsAway engine option_chain position.legs current_spot adjustments ↔
      RollsFit engine option_chain position.legs current_spot := by
  constructor
  · intro away tested member sold near leg among short rollable
    obtain ⟨⟨close_leg, open_leg⟩, rolled⟩ :=
      exists_rolled plain analyzed member sold near among short rollable
    obtain ⟨suggestion, inside, zipped⟩ := (mem_adjustments plain analyzed _).mpr
      ⟨tested, member, sold, near, leg, among, short, rolled⟩
    have fits := away suggestion inside _ zipped
    rcases roll_leg_cases rolled with ⟨none, -⟩ | ⟨_, _, same, -, -, strike, type, new, -⟩
    · cases none
    · obtain ⟨rfl, rfl⟩ := Prod.mk.inj (Option.some.inj same)
      have farther := fits.farther
      dsimp only at farther
      rw [strike, type, new, farther_type_direction] at farther
      obtain ⟨other, -, -, at_strike, -, tested_strike⟩ := fits.tested
      exact ⟨strike ▸ at_strike ▸ tested_strike, farther⟩
  · intro fit suggestion inside pair zipped
    obtain ⟨tested, member, sold, near, leg, among, short, rolled⟩ :=
      (mem_adjustments plain analyzed pair).mp ⟨suggestion, inside, zipped⟩
    rcases roll_leg_cases rolled with
      ⟨none, -⟩ | ⟨close_leg, open_leg, same, old, present, strike, type, new, kept, side⟩
    · cases none
    · obtain rfl := Option.some.inj same
      obtain ⟨leg_tested, away⟩ := fit tested member sold near leg among short ⟨old, present⟩
      constructor
      · exact ⟨leg, among, short, strike.symm, type.symm, leg_tested⟩
      · exact kept.trans type.symm
      · exact side
      · dsimp only
        rw [new, kept]
        exact Option.isSome_iff_exists.mp present
      · dsimp only
        rw [strike, type, new, farther_type_direction]
        exact away

end Suggestions

/-! ### Short options at 25000

The chain of the straddle has only the options that are out of the money, and that of the
call also one in the money. -/

def undated : Engine Unit where
  config := {}
  sim :=
    { functions := ⟨id, id, id, id, id, 3⟩
      risk_free_rate := 7 / 100
      total_seconds := fun _ _ => none
      gauss := fun _ _ => 0 }
  days_to _ _ := some 30
  text := fixed 1

def short_options (option_types : List String) : Given where
  legs := option_types.map (fun option_type => ⟨25000, option_type, "SELL", 1, 50, 100⟩)
  entry_metrics := none
  entry_atm_iv := some 15
  expiry := "2025-02-27"
  current_pnl := none

def quoted (option_types : List String) : Value :=
  .dict (option_types.map (fun option_type => (option_type, .dict [("ltp", .int 90)])))

def straddle_chain : Dict :=
  [("24950.0", quoted ["pe"]), ("25000.0", quoted ["ce", "pe"]), ("25050.0", quoted ["ce"])]

def call_chain : Dict :=
  [("24950.0", quoted ["ce"]), ("25000.0", quoted ["ce"]), ("25050.0", quoted ["ce"])]

instance {Date : Type} (engine : Engine Date) (current_spot strike : ℚ) :
    Decidable (Tested engine current_spot strike) :=
  inferInstanceAs (Decidable (_ ≤ _))

instance {Date : Type} (engine : Engine Date) (option_chain : Dict)
    (roll_type : RollType) (leg : Leg) :
    Decidable (Rollable engine option_chain roll_type leg) :=
  inferInstanceAs (Decidable (_ ∧ _))

instance {Date : Type} (engine : Engine Date) (option_chain : Dict) (legs : List Leg)
    (current_spot : ℚ) : Decidable (RollsFit engine option_chain legs current_spot) :=
  inferInstanceAs (Decidable (∀ tested ∈ legs, tested.action = "SELL" →
    Tested engine current_spot tested.strike → ∀ leg ∈ legs, leg.action = "SELL" →
      Rollable engine option_chain (type_direction tested.option_type) leg →
        Tested engine current_spot leg.strike ∧
          (leg.option_type = "CE" ↔ type_direction tested.option_type = .up)))

theorem no_letter_text (x : ℚ) : 'P' ∉ (undated.text x).toList :=
  no_letter_fixed

/-- The straddle is rolled apart. -/
theorem rolls_away_straddle :
    ∃ analysis adjustments,
      analyze_with_chain undated straddle_chain (short_options ["CE", "PE"]) 25000 15 () =
          .ok (analysis, adjustments) ∧
        adjustments.map (fun suggestion => suggestion.open_legs.map (·.strike)) =
          [[24950], [25050]] ∧
        RollsAway undated straddle_chain (short_options ["CE", "PE"]).legs 25000
          adjustments := by
  have checked : ∃ result ∈ (analyze_with_chain undated straddle_chain
      (short_options ["CE", "PE"]) 25000 15 ()).toOption,
      result.2.map (fun suggestion => suggestion.open_legs.map (·.strike)) =
        [[24950], [25050]] := by decide +kernel
  obtain ⟨⟨analysis, adjustments⟩, found, strikes⟩ := checked
  have analyzed := Py.toOption_eq_some.mp found
  refine ⟨analysis, adjustments, analyzed, strikes, ?_⟩
  exact (rolls_away_iff no_letter_text analyzed).mpr (by with_unfolding_all decide)

/-- The call is rolled into the money. -/
theorem not_rolls_away :
    ∃ analysis adjustments,
      analyze_with_chain undated call_chain (short_options ["CE"]) 25000 15 () =
          .ok (analysis, adjustments) ∧
        ¬RollsAway undated call_chain (short_options ["CE"]).legs 25000 adjustments := by
  have checked : ∃ result ∈ (analyze_with_chain undated call_chain
      (short_options ["CE"]) 25000 15 ()).toOption,
      ∃ suggestion ∈ result.2,
        ∃ rolled ∈ suggestion.close_legs.zip suggestion.open_legs,
          rolled.1.option_type = "CE" ∧ ¬rolled.1.strike < rolled.2.strike := by
    decide +kernel
  obtain ⟨⟨analysis, adjustments⟩, found, suggestion, member, rolled, inside, call, lower⟩ :=
    checked
  refine ⟨analysis, adjustments, Py.toOption_eq_some.mp found, ?_⟩
  intro away
  have farther := (away suggestion member rolled inside).farther
  rw [Farther, if_pos call] at farther
  exact lower farther

end AdjustmentEngine

end HftEngine.Backend
