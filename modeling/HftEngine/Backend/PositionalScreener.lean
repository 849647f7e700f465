import HftEngine.Backend.LiveData
import HftEngine.Lib.Python.Exact

/-!
# The positional screener

`ScreenerService.run_positional_screener` on what `get_live_data` returns.  It reads the
delta of a leg beside the price, where a leg of live data has it within `optgeeks`.
-/

namespace HftEngine.Backend.PositionalScreener

open Py

/-- `ScreenerResult`; the signal is always `BUY`. -/
structure ScreenerResult where
  symbol : String
  strike : Float
  option_type : String
  signal : String
  strength : Float
  reason : String
  entry_price : Value
  target_price : Value
  stop_loss : Value
  timestamp : String
  oi : Value
  oi_change : Value
  delta : Value
  theta : Value

/-- The clock, and the formats `:,` and `:.2f`. -/
structure Environment where
  now : String
  grouped : Value → Result String
  two_places : Value → Result String

/-- `min(100, (oi / 100000) * 10 + delta * 50)` with one place. -/
def strength (oi delta : Value) : Result Float := do
  let share ← LiveData.divide oi (.int 100000)
  let total ← (← (Value.float (share * 10)).add (← delta.mul (.int 50))).toFloat
  .ok (roundTo 1 (if total < 100 then total else 100))

section Screener

variable (environment : Environment) (symbol : String) (min_oi_buildup : ℤ)

/-- `opt.get(key, 0) or 0` -/
def number (opt : Value) (key : String) : Result Value := do
  let value ← opt.get key (.int 0)
  .ok (value.or (.int 0))

/-- The signal of one side of a strike, if it gives one. -/
def screen_leg (strike : Float) (side : String) (opt : Value) :
    Result (Option ScreenerResult) := do
  if !opt.truthy then .ok none
  else
    let oi := (← opt.get "OI" (← opt.get "oi" (.int 0))).or (.int 0)
    let oi_change ← number opt "oichng"
    let ltp ← number opt "ltp"
    let delta ← (← number opt "delta").abs
    let theta ← number opt "theta"
    if (← oi.lt (.int min_oi_buildup)) || ltp.isZero then .ok none
    else if !(← (Value.int 0).lt oi_change) then .ok none
    else if !(← (Value.float 0.25).lt delta) then .ok none
    else
      let strength ← strength oi delta
      let oi_text ← environment.grouped oi
      let delta_text ← environment.two_places delta
      .ok (some
        { symbol, strike
          option_type := side
          signal := "BUY"
          strength
          reason := "OI Buildup: " ++ oi_text ++ ", Delta: " ++ delta_text
          entry_price := ltp
          target_price := ← ltp.mul (.float 1.15)
          stop_loss := ← ltp.mul (.float 0.90)
          timestamp := environment.now
          oi, oi_change, delta, theta })

/-- One pass through the loop, which skips a key that is no number. -/
def screen_strike (entry : String × Value) : Result (List ScreenerResult) :=
  match (Value.str entry.1).toFloat with
  | .error _ => .ok []
  | .ok strike => do
      let ce ← entry.2.get "ce" (.dict [])
      let pe ← entry.2.get "pe" (.dict [])
      let call ← screen_leg environment symbol min_oi_buildup strike "CE" ce
      let put ← screen_leg environment symbol min_oi_buildup strike "PE" pe
      .ok (call.toList ++ put.toList)

/-- `results.sort(key=lambda x: x.strength, reverse=True)`, which is stable. -/
def by_strength (results : List ScreenerResult) : List ScreenerResult :=
  results.insertionSort (fun a b => ¬a.strength < b.strength)

def screen (live_data : Dict) : Result (List ScreenerResult) := do
  match Dict.get live_data "oc" (.dict []) with
  | .dict oc_data =>
      let results ← oc_data.mapM (screen_strike environment symbol min_oi_buildup)
      .ok ((by_strength results.flatten).take 10)
  | _ => .error .attributeError

/-- An exception leaves no result. -/
def run_positional_screener (live_data : Dict) : List ScreenerResult :=
  match screen environment symbol min_oi_buildup live_data with
  | .ok results => results
  | .error _ => []

end Screener

/-! ## The legs that should give a signal -/

structure Leg where
  strike : Float
  option_type : String
  opt : Value

/-- The legs of the strikes whose key is a number. -/
def legs (oc : Dict) : List Leg :=
  oc.flatMap (fun entry =>
    match (Value.str entry.1).toFloat with
    | .error _ => []
    | .ok strike =>
        [{ strike, option_type := "CE", opt := (entry.2.get "ce" .null).toOption.getD .null },
         { strike, option_type := "PE", opt := (entry.2.get "pe" .null).toOption.getD .null }])

namespace Leg

/-- The absolute delta, which is among the Greeks. -/
def delta (leg : Leg) : Result Value := do
  let optgeeks ← leg.opt.get "optgeeks" (.dict [])
  (← number optgeeks "delta").abs

/-- Enough open interest that grows, a delta above a quarter, and a price. -/
def meets (leg : Leg) (min_oi_buildup : ℤ) : Result Bool := do
  let enough ← (Value.int min_oi_buildup).le (← number leg.opt "OI")
  let grows ← (Value.int 0).lt (← number leg.opt "oichng")
  let sensitive ← (Value.float 0.25).lt (← leg.delta)
  let ltp ← number leg.opt "ltp"
  .ok (enough && grows && sensitive && !ltp.isZero)

def qualifies (min_oi_buildup : ℤ) (leg : Leg) : Bool :=
  match leg.meets min_oi_buildup with
  | .ok qualified => qualified
  | .error _ => false

/-- The strength that a signal of the leg has. -/
def rank (leg : Leg) : Result Float := do
  strength (← number leg.opt "OI") (← leg.delta)

end Leg

/-- The results are the ten highest ranked of the legs that qualify. -/
def Screens (min_oi_buildup : ℤ) (legs : List Leg) (results : List ScreenerResult) : Prop :=
  ∃ ranked : List Leg, ranked.Perm (legs.filter (Leg.qualifies min_oi_buildup)) ∧
    ranked.Pairwise (fun a b => ∃ high low, a.rank = .ok high ∧ b.rank = .ok low ∧ ¬high < low) ∧
    results.map (fun result => (result.strike, result.option_type)) =
      (ranked.take 10).map (fun leg => (leg.strike, leg.option_type))

theorem screens_nil_iff {min_oi_buildup : ℤ} {legs : List Leg} :
    Screens min_oi_buildup legs [] ↔ ∀ leg ∈ legs, leg.qualifies min_oi_buildup = false := by
  constructor
  · rintro ⟨ranked, same, -, none⟩
    have empty : ranked = [] := by
      cases ranked with
      | nil => rfl
      | cons leg ranked => simp at none
    subst empty
    have nothing := List.nil_perm.mp same
    intro leg member
    exact Bool.eq_false_iff.mpr (List.filter_eq_nil_iff.mp nothing leg member)
  · intro unqualified
    have nothing : legs.filter (Leg.qualifies min_oi_buildup) = [] :=
      List.filter_eq_nil_iff.mpr (fun leg member => Bool.eq_false_iff.mp (unqualified leg member))
    refine ⟨[], ?_, List.Pairwise.nil, rfl⟩
    rw [nothing]

/-! ## Live data gives no signal -/

section Silent

variable {environment : Environment} {symbol : String} {min_oi_buildup : ℤ}

/-- Without a delta of its own a leg counts as one with delta 0. -/
theorem screen_leg_nested {strike : Float} {side : String} {opt : Value}
    (nested : LiveData.GreeksNested opt) {result : Option ScreenerResult}
    (returned : screen_leg environment symbol min_oi_buildup strike side opt = .ok result) :
    result = none := by
  obtain ⟨fields, rfl, missing⟩ := nested
  have no_delta : number (.dict fields) "delta" = .ok (.int 0) :=
    bind_step (get_of_lookup_none (missing "delta" (by simp)) _) rfl
  have low : (Value.float 0.25).lt (.int 0) = .ok false := by with_unfolding_all decide
  rw [screen_leg] at returned
  split at returned
  · exact (Except.ok.inj returned).symm
  · simp only [bind_eq_ok] at returned
    obtain ⟨_, -, _, -, oi_change, -, ltp, -, delta, read, absolute, taken, theta, -,
      below, -, returned⟩ := returned
    obtain rfl := Except.ok.inj (no_delta.symm.trans read)
    obtain rfl : Value.int 0 = absolute := Except.ok.inj taken
    split at returned
    · exact (Except.ok.inj returned).symm
    · rw [bind_eq_ok] at returned
      obtain ⟨grows, -, returned⟩ := returned
      split at returned
      · exact (Except.ok.inj returned).symm
      · rw [low] at returned
        exact (Except.ok.inj returned).symm

theorem screen_strike_nested {entry : String × Value} {kept : Dict}
    (held : entry.2 = .dict kept)
    (nested : ∀ side ∈ ["ce", "pe"], ∃ leg, lookup? side kept = some leg ∧
      LiveData.GreeksNested leg)
    {results : List ScreenerResult}
    (returned : screen_strike environment symbol min_oi_buildup entry = .ok results) :
    results = [] := by
  obtain ⟨key, data⟩ := entry
  obtain rfl : data = .dict kept := held
  obtain ⟨ce, call_leg, call_nested⟩ := nested "ce" (by simp)
  obtain ⟨pe, put_leg, put_nested⟩ := nested "pe" (by simp)
  unfold screen_strike at returned
  split at returned
  · exact (Except.ok.inj returned).symm
  · simp only [bind_eq_ok] at returned
    obtain ⟨ce', read_call, pe', read_put, call, screened, put, screened_put, returned⟩ :=
      returned
    obtain rfl := Except.ok.inj ((get_of_lookup call_leg _).symm.trans read_call)
    obtain rfl := Except.ok.inj ((get_of_lookup put_leg _).symm.trans read_put)
    obtain rfl := screen_leg_nested call_nested screened
    obtain rfl := screen_leg_nested put_nested screened_put
    exact (Except.ok.inj returned).symm

variable {services : LiveData.Services} {request : LiveData.Request}
  {chain_data oc live_data : Dict}

theorem run_live_data
    (returned : get_live_data services request chain_data oc = .ok live_data) :
    run_positional_screener environment symbol min_oi_buildup live_data = [] := by
  obtain ⟨_, _, _, -, -, -, -, -, held, -⟩ := LiveData.get_live_data_ok returned
  have found : Dict.get live_data "oc" (.dict []) = .dict (LiveData.result_oc live_data) := by
    rw [Dict.get, held, Option.getD_some]
  cases screened : screen environment symbol min_oi_buildup live_data with
  | error => rw [run_positional_screener, screened]
  | ok results =>
      rw [run_positional_screener, screened]
      rw [screen, found, bind_eq_ok] at screened
      obtain ⟨each, mapped, screened⟩ := screened
      have none : each.flatten = [] := by
        rw [List.flatten_eq_nil_iff]
        intro part among
        obtain ⟨entry, member, parsed⟩ := (Traversal.mem_of_mapM_ok mapped _).mp among
        obtain ⟨kept, dict, nested⟩ := LiveData.legs_of_returned returned member
        exact screen_strike_nested dict nested parsed
      rw [none] at screened
      exact (Except.ok.inj screened).symm

/-- On live data the screener is right if and only if no leg qualifies. -/
theorem screens_live_data_iff
    (returned : get_live_data services request chain_data oc = .ok live_data) :
    Screens min_oi_buildup (legs (LiveData.result_oc live_data))
        (run_positional_screener environment symbol min_oi_buildup live_data) ↔
      ∀ leg ∈ legs (LiveData.result_oc live_data), leg.qualifies min_oi_buildup = false := by
  rw [run_live_data returned]
  exact screens_nil_iff

end Silent

/-- What the screener asks for. -/
def screener_request : LiveData.Request where
  symbol := "NIFTY"
  expiry := ""
  include_greeks := true
  include_reversal := false
  include_profiles := true

def plain_environment : Environment where
  now := ""
  grouped _ := .ok ""
  two_places _ := .ok ""

/-- A strike at the spot with so much open interest in its call. -/
def one_strike (call_oi : ℤ) : Dict :=
  [("24000", .dict
    [("ce", .dict
      [("OI", .int call_oi), ("oichng", .int 50000), ("ltp", .float 120), ("iv", .float 12),
       ("optgeeks", .dict [("delta", .float 0.5)])]),
     ("pe", .dict [])])]

def plain_live_data (call_oi : ℤ) : Result Dict :=
  get_live_data LiveData.plain_services screener_request
    [("spot", .dict [("ltp", .float 24000)])] (one_strike call_oi)

/-- Which legs of the live data qualify. -/
theorem plain_live_data_ok (call_oi : ℤ) (qualified : List Bool)
    (seen : (plain_live_data call_oi).toOption.map (fun live_data =>
      (legs (LiveData.result_oc live_data)).map (Leg.qualifies 100000)) = some qualified) :
    ∃ live_data, plain_live_data call_oi = .ok live_data ∧
      (legs (LiveData.result_oc live_data)).map (Leg.qualifies 100000) = qualified := by
  obtain ⟨live_data, returned, same⟩ := Option.map_eq_some_iff.mp seen
  exact ⟨live_data, toOption_eq_some.mp returned, same⟩

/-- Too little open interest: no leg qualifies. -/
theorem screens_live_data_iff_thin :
    ∃ live_data, plain_live_data 50000 = .ok live_data ∧
      (legs (LiveData.result_oc live_data)).map (Leg.qualifies 100000) = [false, false] ∧
      (Screens 100000 (legs (LiveData.result_oc live_data))
          (run_positional_screener plain_environment "NIFTY" 100000 live_data) ↔
        ∀ leg ∈ legs (LiveData.result_oc live_data), leg.qualifies 100000 = false) := by
  obtain ⟨live_data, returned, same⟩ :=
    plain_live_data_ok 50000 [false, false] (by decide)
  exact ⟨live_data, returned, same, screens_live_data_iff returned⟩

/-- A call with 200000 contracts and a delta of one half qualifies, and is not found. -/
theorem not_screens_nested_delta :
    ∃ live_data, plain_live_data 200000 = .ok live_data ∧
      ¬Screens 100000 (legs (LiveData.result_oc live_data))
        (run_positional_screener plain_environment "NIFTY" 100000 live_data) := by
  obtain ⟨live_data, returned, same⟩ :=
    plain_live_data_ok 200000 [true, false] (by with_unfolding_all decide)
  refine ⟨live_data, returned, ?_⟩
  rw [run_live_data returned, screens_nil_iff]
  intro unqualified
  have all_false : (legs (LiveData.result_oc live_data)).map (Leg.qualifies 100000) =
      (legs (LiveData.result_oc live_data)).map (fun _ => false) :=
    List.map_congr_left unqualified
  rw [same, List.map_const'] at all_false
  have found : true ∈ List.replicate (legs (LiveData.result_oc live_data)).length false := by
    rw [← all_false]
    exact List.mem_cons_self
  exact absurd (List.eq_of_mem_replicate found) (by decide)

end HftEngine.Backend.PositionalScreener
