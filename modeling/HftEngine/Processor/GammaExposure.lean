import HftEngine.Lib.Grouping
import HftEngine.Lib.Python.Exact
import HftEngine.Lib.Ranking
import Mathlib.Algebra.Order.BigOperators.Group.List

/-!
# Gamma exposure of a chain

The exposure of the dealers at each strike, who are taken to be short of every option.
Numbers are exact.
-/

namespace HftEngine.GammaExposure

open Py.Exact

variable {α : Type} [Field α] [LinearOrder α] [FloorRing α]

/-- What the analyzer reads of a `CleanedOptionData`. -/
structure OptionData (α : Type) where
  strike : α
  option_type : String
  oi : ℤ
  gamma : α

/-- The entry of a strike in `strikes_data`. -/
structure StrikeData (α : Type) where
  call_oi : ℤ
  put_oi : ℤ
  call_gamma : α
  put_gamma : α

structure Level (α : Type) where
  call_gex : α
  put_gex : α
  net_gex : α
  distance_from_spot : α
  distance_pct : α

structure Wall (α : Type) where
  strike : α
  gex : α
  distance_pct : α
  squeeze_risk : String

structure Result (α : Type) where
  gamma_walls : List (Wall α)
  zero_gamma_strike : Option α
  total_market_gex : α
  market_regime : String
  regime_description : String

/-- The exposure of the writers of so many options. -/
def gex (oi : ℤ) (gamma spot_price : α) : α :=
  -oi * gamma * ((100 : ℕ) : α) * spot_price ^ 2 / ((10000000 : ℕ) : α)

/-! ## The analysis of a chain -/

def StrikeData.empty : StrikeData α := ⟨0, 0, 0, 0⟩

def StrikeData.put (data : StrikeData α) (opt : OptionData α) : StrikeData α :=
  if opt.option_type = "CE" then { data with call_oi := opt.oi, call_gamma := opt.gamma }
  else { data with put_oi := opt.oi, put_gamma := |opt.gamma| }

def strikes_data (options : List (OptionData α)) : List (α × StrikeData α) :=
  Grouping.group OptionData.strike .empty .put options

def StrikeData.level (spot_price strike : α) (data : StrikeData α) : Level α :=
  let call_gex := gex data.call_oi data.call_gamma spot_price
  let put_gex := gex data.put_oi data.put_gamma spot_price
  let distance := |strike - spot_price|
  { call_gex := roundTo 2 call_gex
    put_gex := roundTo 2 put_gex
    net_gex := roundTo 2 (call_gex + put_gex)
    distance_from_spot := distance
    distance_pct := if 0 < spot_price then distance / spot_price * ((100 : ℕ) : α) else 0 }

def gamma_levels (options : List (OptionData α)) (spot_price : α) : List (α × Level α) :=
  (strikes_data options).map (fun (strike, data) => (strike, data.level spot_price strike))

def calculate_squeeze_risk (gex distance_pct : α) : String :=
  let strength := |gex| * (1 / (1 + distance_pct))
  if distance_pct < 1 then
    if ((1000 : ℕ) : α) < strength then "EXTREME"
    else if ((500 : ℕ) : α) < strength then "HIGH"
    else "LOW"
  else if distance_pct < ((2 : ℕ) : α) then
    if ((500 : ℕ) : α) < strength then "MODERATE" else "LOW"
  else "LOW"

/-- The loop over the sorted strikes, from the strike and the exposure before. -/
def flip_after (previous : α × α) : List (α × α) → Option α
  | [] => none
  | (strike, curr_gex) :: rest =>
      if previous.2 * curr_gex < 0 then
        some (roundTo 2 ((previous.1 + strike) / ((2 : ℕ) : α)))
      else flip_after (strike, curr_gex) rest

/-- The strikes in order, with their net exposures. -/
def profile (levels : List (α × Level α)) : List (α × α) :=
  (Ranking.ascending Prod.fst levels).map (fun (strike, level) => (strike, level.net_gex))

def find_zero_gamma_strike (levels : List (α × Level α)) : Option α :=
  match profile levels with
  | [] => none
  | first :: rest => flip_after first rest

def regime (total_gex : α) : String × String :=
  if total_gex < -((500 : ℕ) : α) then
    ("EXPLOSIVE", "Dealers short gamma - expect large moves")
  else if ((500 : ℕ) : α) < total_gex then
    ("RANGE_BOUND", "Dealers long gamma - expect pinning")
  else ("NEUTRAL", "Balanced gamma - normal volatility")

def analyze (options : List (OptionData α)) (spot_price : α) : Result α :=
  let levels := gamma_levels options spot_price
  let sorted_gex := Ranking.descending (fun (_, level) => |level.net_gex|) levels
  let total_gex := (levels.map (fun (_, level) => level.net_gex)).sum
  { gamma_walls := (sorted_gex.take 5).map (fun (strike, data) =>
      { strike
        gex := data.net_gex
        distance_pct := roundTo 2 data.distance_pct
        squeeze_risk := calculate_squeeze_risk data.net_gex data.distance_pct })
    zero_gamma_strike := find_zero_gamma_strike levels
    total_market_gex := roundTo 2 total_gex
    market_regime := (regime total_gex).1
    regime_description := (regime total_gex).2 }

/-! ## The detail of a strike -/

structure Detail (α : Type) where
  strike : α
  call_oi : ℤ
  put_oi : ℤ
  call_gamma : α
  put_gamma : α
  call_gex : α
  put_gex : α
  net_gex : α
  distance_from_spot : α

def get_strike_detail (strike : α) (options : List (OptionData α)) (spot_price : α) :
    Option (Detail α) :=
  let call_opt := options.find? (fun opt => opt.strike = strike && opt.option_type = "CE")
  let put_opt := options.find? (fun opt => opt.strike = strike && opt.option_type = "PE")
  if call_opt.isNone && put_opt.isNone then none
  else
    let call_gex := call_opt.elim 0 (fun opt => gex opt.oi opt.gamma spot_price)
    let put_gex := put_opt.elim 0 (fun opt => gex opt.oi |opt.gamma| spot_price)
    some {
      strike
      call_oi := call_opt.elim 0 OptionData.oi
      put_oi := put_opt.elim 0 OptionData.oi
      call_gamma := call_opt.elim 0 OptionData.gamma
      put_gamma := put_opt.elim 0 OptionData.gamma
      call_gex := roundTo 2 call_gex
      put_gex := roundTo 2 put_gex
      net_gex := roundTo 2 (call_gex + put_gex)
      distance_from_spot := |strike - spot_price| }

/-! ## Where the exposure changes its sign -/

/-- Two neighbours with no change of sign between them. -/
def SameSide (left right : α × α) : Prop := 0 ≤ left.2 * right.2

theorem flip_after_eq_none {previous : α × α} {levels : List (α × α)} :
    flip_after previous levels = none ↔ (previous :: levels).IsChain SameSide := by
  induction levels generalizing previous with
  | nil => simp [flip_after]
  | cons level levels ih =>
      rw [flip_after, List.isChain_cons_cons]
      split
      · rename_i flips
        simp [SameSide, not_le.mpr flips]
      · rename_i stays
        simp [SameSide, not_lt.mp stays, ih]

theorem find_zero_gamma_strike_eq_none {levels : List (α × Level α)} :
    find_zero_gamma_strike levels = none ↔ (profile levels).IsChain SameSide := by
  rw [find_zero_gamma_strike]
  cases profile levels with
  | nil => simp
  | cons first rest => exact flip_after_eq_none

section Short

variable [IsStrictOrderedRing α] {options : List (OptionData α)} {spot_price : α}

theorem gex_nonpos {oi : ℤ} {gamma : α} (spot_price : α) (held : 0 ≤ oi) (convex : 0 ≤ gamma) :
    gex oi gamma spot_price ≤ 0 := by
  have held : (0 : α) ≤ oi := Int.cast_nonneg held
  have product : 0 ≤ oi * gamma * ((100 : ℕ) : α) * spot_price ^ 2 / ((10000000 : ℕ) : α) := by
    positivity
  have negated : gex oi gamma spot_price =
      -(oi * gamma * ((100 : ℕ) : α) * spot_price ^ 2 / ((10000000 : ℕ) : α)) := by
    rw [gex]
    ring
  rw [negated]
  exact neg_nonpos.mpr product

/-- Open interest is not negative, nor is the gamma of a call. -/
def Plain (opt : OptionData α) : Prop :=
  0 ≤ opt.oi ∧ (opt.option_type = "CE" → 0 ≤ opt.gamma)

instance (opt : OptionData α) : Decidable (Plain opt) :=
  inferInstanceAs (Decidable (0 ≤ opt.oi ∧ (opt.option_type = "CE" → 0 ≤ opt.gamma)))

/-- The entry of a strike to which only such options were put. -/
structure StrikeData.Plain (data : StrikeData α) : Prop where
  call_oi : 0 ≤ data.call_oi
  put_oi : 0 ≤ data.put_oi
  call_gamma : 0 ≤ data.call_gamma
  put_gamma : 0 ≤ data.put_gamma

omit [FloorRing α] in
theorem StrikeData.Plain.put {data : StrikeData α} {opt : OptionData α} (plain : data.Plain)
    (opt_plain : GammaExposure.Plain opt) : (data.put opt).Plain := by
  rw [StrikeData.put]
  split
  · rename_i call
    exact { plain with call_oi := opt_plain.1, call_gamma := opt_plain.2 call }
  · exact { plain with put_oi := opt_plain.1, put_gamma := abs_nonneg _ }

omit [FloorRing α] in
theorem StrikeData.Plain.foldl {data : StrikeData α} (plain : data.Plain)
    (all : ∀ opt ∈ options, GammaExposure.Plain opt) :
    (options.foldl StrikeData.put data).Plain := by
  induction options generalizing data with
  | nil => exact plain
  | cons opt options ih =>
      obtain ⟨first, rest⟩ := List.forall_mem_cons.mp all
      exact ih (plain.put first) rest

theorem net_gex_nonpos (spot_price : α) (all : ∀ opt ∈ options, GammaExposure.Plain opt) :
    ∀ entry ∈ gamma_levels options spot_price, entry.2.net_gex ≤ 0 := by
  intro entry member
  obtain ⟨⟨strike, data⟩, listed, rfl⟩ := List.mem_map.mp member
  obtain ⟨_, folded⟩ := ((Grouping.group_grouped options).mem_iff strike data).mp listed
  have empty : (StrikeData.empty : StrikeData α).Plain :=
    ⟨le_rfl, le_rfl, le_rfl, le_rfl⟩
  have plain : data.Plain := by
    rw [folded]
    exact empty.foldl (fun opt member => all opt (List.mem_of_mem_filter member))
  have short := add_nonpos (gex_nonpos spot_price plain.call_oi plain.call_gamma)
    (gex_nonpos spot_price plain.put_oi plain.put_gamma)
  have rounded := roundTo_mono 2 short
  rw [roundTo_zero] at rounded
  exact rounded

omit [FloorRing α] in
theorem regime_of_nonpos {total_gex : α} (short : total_gex ≤ 0) :
    (regime total_gex).1 ≠ "RANGE_BOUND" := by
  have bound : ¬((500 : ℕ) : α) < total_gex :=
    not_lt.mpr (short.trans (Nat.cast_nonneg 500))
  rw [regime, if_neg bound]
  split
  · decide
  · decide

/-- A chain with no negative open interest and no negative gamma of a call has no flip
point and is not range-bound. -/
theorem never_flips (all : ∀ opt ∈ options, GammaExposure.Plain opt) :
    (analyze options spot_price).zero_gamma_strike = none ∧
      (analyze options spot_price).market_regime ≠ "RANGE_BOUND" := by
  have short := net_gex_nonpos spot_price all
  constructor
  · apply find_zero_gamma_strike_eq_none.mpr
    apply List.Pairwise.isChain
    have nonpos : ∀ point ∈ profile (gamma_levels options spot_price), point.2 ≤ 0 := by
      intro point member
      obtain ⟨entry, listed, rfl⟩ := List.mem_map.mp member
      exact short entry ((Ranking.perm_ascending _ _).mem_iff.mp listed)
    exact List.pairwise_of_forall_mem_list fun left left_mem right right_mem =>
      mul_nonneg_of_nonpos_of_nonpos (nonpos left left_mem) (nonpos right right_mem)
  · have bounded : ∀ net_gex ∈ (gamma_levels options spot_price).map
        (fun (_, level) => level.net_gex), net_gex ≤ 0 := by
      intro net_gex member
      obtain ⟨entry, listed, rfl⟩ := List.mem_map.mp member
      exact short entry listed
    have total := List.sum_le_card_nsmul _ 0 bounded
    rw [nsmul_zero] at total
    exact regime_of_nonpos total

end Short

/-! ## The analysis and the detail -/

section Agreement

variable {options : List (OptionData α)} {spot_price strike : α}

/-- What the analysis keeps of a detail. -/
def Detail.level (spot_price : α) (detail : Detail α) : Level α where
  call_gex := detail.call_gex
  put_gex := detail.put_gex
  net_gex := detail.net_gex
  distance_from_spot := detail.distance_from_spot
  distance_pct :=
    if 0 < spot_price then detail.distance_from_spot / spot_price * ((100 : ℕ) : α) else 0

omit [FloorRing α] in
/-- The last call and the last put of a strike stay in its entry. -/
theorem foldl_put (opts : List (OptionData α)) :
    opts.foldl StrikeData.put .empty =
      { call_oi := (opts.reverse.find? (·.option_type = "CE")).elim 0 OptionData.oi
        put_oi := (opts.reverse.find? (·.option_type ≠ "CE")).elim 0 OptionData.oi
        call_gamma := (opts.reverse.find? (·.option_type = "CE")).elim 0 OptionData.gamma
        put_gamma := (opts.reverse.find? (·.option_type ≠ "CE")).elim 0 (|·.gamma|) } := by
  induction opts using List.reverseRecOn with
  | nil => rfl
  | append_singleton opts opt ih =>
      rw [List.foldl_append, List.foldl_cons, List.foldl_nil, ih, StrikeData.put,
        List.reverse_append, List.reverse_singleton, List.singleton_append, List.find?_cons,
        List.find?_cons]
      by_cases call : opt.option_type = "CE"
      · simp [call]
      · simp [call]

theorem find?_reverse {β : Type} {p : β → Bool} {items : List β}
    (unique : ∀ one ∈ items, ∀ other ∈ items, p one = true → p other = true → one = other) :
    items.reverse.find? p = items.find? p := by
  cases found : items.find? p with
  | none =>
      rw [List.find?_eq_none] at found ⊢
      intro item member
      exact found item (List.mem_reverse.mp member)
  | some item =>
      have member := List.mem_of_find?_eq_some found
      have holds := List.find?_some found
      cases last : items.reverse.find? p with
      | none =>
          exact absurd holds (List.find?_eq_none.mp last item (List.mem_reverse.mpr member))
      | some other =>
          have listed := List.mem_reverse.mp (List.mem_of_find?_eq_some last)
          rw [unique other listed item member (List.find?_some last) holds]

/-- Every option is a call or a put, and no strike has two of a type. -/
structure Distinct (options : List (OptionData α)) : Prop where
  types : ∀ opt ∈ options, opt.option_type = "CE" ∨ opt.option_type = "PE"
  keys : (options.map (fun opt => (opt.strike, opt.option_type))).Nodup

omit [Field α] [FloorRing α] in
/-- The option of a type that a strike's own options end with is the only one. -/
theorem find?_type (distinct : Distinct options) {type : String} {p : OptionData α → Bool}
    (typed : ∀ opt ∈ options, p opt = decide (opt.option_type = type)) :
    (options.filter (fun opt => opt.strike = strike)).reverse.find? p =
      options.find? (fun opt => opt.strike = strike && opt.option_type = type) := by
  have unique : ∀ one ∈ options.filter (fun opt => opt.strike = strike),
      ∀ other ∈ options.filter (fun opt => opt.strike = strike),
        p one = true → p other = true → one = other := by
    intro one one_mem other other_mem one_typed other_typed
    obtain ⟨one_listed, one_strike⟩ := List.mem_filter.mp one_mem
    obtain ⟨other_listed, other_strike⟩ := List.mem_filter.mp other_mem
    rw [typed one one_listed, decide_eq_true_eq] at one_typed
    rw [typed other other_listed, decide_eq_true_eq] at other_typed
    apply List.inj_on_of_nodup_map distinct.keys one_listed other_listed
    rw [of_decide_eq_true one_strike, of_decide_eq_true other_strike, one_typed, other_typed]
  rw [find?_reverse unique, ← List.head?_filter, ← List.head?_filter, List.filter_filter]
  congr 1
  apply List.filter_congr
  intro opt member
  rw [typed opt member, Bool.and_comm]

omit [FloorRing α] in
theorem strike_data_eq (distinct : Distinct options) :
    (options.filter (fun opt => opt.strike = strike)).foldl StrikeData.put .empty =
      { call_oi := (options.find? (fun opt => opt.strike = strike &&
          opt.option_type = "CE")).elim 0 OptionData.oi
        put_oi := (options.find? (fun opt => opt.strike = strike &&
          opt.option_type = "PE")).elim 0 OptionData.oi
        call_gamma := (options.find? (fun opt => opt.strike = strike &&
          opt.option_type = "CE")).elim 0 OptionData.gamma
        put_gamma := (options.find? (fun opt => opt.strike = strike &&
          opt.option_type = "PE")).elim 0 (|·.gamma|) } := by
  have calls : ∀ opt ∈ options,
      decide (opt.option_type = "CE") = decide (opt.option_type = "CE") := fun _ _ => rfl
  have puts : ∀ opt ∈ options,
      decide (opt.option_type ≠ "CE") = decide (opt.option_type = "PE") := by
    intro opt member
    rcases distinct.types opt member with type | type
    · rw [type]
      rfl
    · rw [type]
      rfl
  rw [foldl_put, find?_type distinct calls, find?_type distinct puts]

omit [LinearOrder α] [FloorRing α] in
theorem gex_zero (spot_price : α) : gex 0 0 spot_price = 0 := by
  simp [gex]

theorem mem_gamma_levels {level : Level α} :
    (strike, level) ∈ gamma_levels options spot_price ↔
      (∃ opt ∈ options, opt.strike = strike) ∧
        ((options.filter (fun opt => opt.strike = strike)).foldl StrikeData.put .empty).level
          spot_price strike = level := by
  rw [gamma_levels, List.mem_map]
  constructor
  · intro ⟨⟨other, data⟩, listed, same⟩
    obtain ⟨given, folded⟩ := ((Grouping.group_grouped options).mem_iff other data).mp listed
    cases same
    exact ⟨given, folded ▸ rfl⟩
  · intro ⟨given, leveled⟩
    exact ⟨(strike, _), ((Grouping.group_grouped options).mem_iff strike _).mpr ⟨given, rfl⟩,
      congrArg (Prod.mk strike) leveled⟩

omit [Field α] [FloorRing α] in
theorem exists_strike_iff (distinct : Distinct options) :
    (∃ opt ∈ options, opt.strike = strike) ↔
      ((options.find? (fun opt => opt.strike = strike && opt.option_type = "CE")).isNone &&
        (options.find? (fun opt =>
          opt.strike = strike && opt.option_type = "PE")).isNone) = false := by
  rw [← Bool.not_eq_true, Bool.and_eq_true, Option.isNone_iff_eq_none,
    Option.isNone_iff_eq_none, List.find?_eq_none, List.find?_eq_none]
  constructor
  · intro ⟨opt, member, same⟩ ⟨calls, puts⟩
    rcases distinct.types opt member with type | type
    · exact calls opt member (by simp [same, type])
    · exact puts opt member (by simp [same, type])
  · intro found
    by_contra missing
    apply found
    constructor
    all_goals
      intro opt member both
      exact missing ⟨opt, member, of_decide_eq_true (Bool.and_eq_true_iff.mp both).1⟩

/-- Where no strike has two options of a type, the levels of the analysis are those of the
details. -/
theorem mem_gamma_levels_iff (distinct : Distinct options) (level : Level α) :
    (strike, level) ∈ gamma_levels options spot_price ↔
      ∃ detail, get_strike_detail strike options spot_price = some detail ∧
        detail.level spot_price = level := by
  rw [mem_gamma_levels, exists_strike_iff distinct, strike_data_eq distinct,
    get_strike_detail]
  dsimp only
  generalize options.find? (fun opt => opt.strike = strike && opt.option_type = "CE") =
    call_opt
  generalize options.find? (fun opt => opt.strike = strike && opt.option_type = "PE") =
    put_opt
  cases call_opt with
  | none =>
      cases put_opt with
      | none => simp
      | some put_opt => simp [StrikeData.level, Detail.level, gex_zero]
  | some call_opt =>
      cases put_opt with
      | none => simp [StrikeData.level, Detail.level, gex_zero]
      | some put_opt => simp [StrikeData.level, Detail.level]

end Agreement

/-! ## A chain of two strikes -/

/-- Calls and puts at 100 and 110. -/
def two_strikes : List (OptionData ℚ) :=
  [⟨100, "CE", 400, 0.5⟩, ⟨100, "PE", 300, -0.5⟩, ⟨110, "CE", 200, 0.25⟩,
    ⟨110, "PE", 100, 0.25⟩]

theorem never_flips_two_strikes :
    (analyze two_strikes 105).zero_gamma_strike = none ∧
      (analyze two_strikes 105).market_regime ≠ "RANGE_BOUND" := by
  apply never_flips
  with_unfolding_all decide

theorem mem_gamma_levels_iff_two_strikes :
    (100, ⟨-22.05, -16.54, -38.59, 5, 100 / 21⟩) ∈ gamma_levels two_strikes 105 ↔
      ∃ detail, get_strike_detail 100 two_strikes 105 = some detail ∧
        detail.level 105 = ⟨-22.05, -16.54, -38.59, 5, 100 / 21⟩ :=
  mem_gamma_levels_iff ⟨by decide, by decide⟩ _

end HftEngine.GammaExposure
