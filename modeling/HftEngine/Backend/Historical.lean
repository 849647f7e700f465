import HftEngine.Lib.Grouping
import HftEngine.Lib.Python.Exact
import HftEngine.Lib.Selection
import Mathlib.Data.List.MinMax
import Mathlib.Data.Prod.Lex

/-!
# Historical snapshots

The option chain of a past time, as the service and the repository put it
together from the stored rows.  Instants are in microseconds.
-/

namespace HftEngine.Historical

open Py.Exact

structure MarketRow where
  symbol_id : ℤ
  timestamp : ℤ
  ltp : ℚ
  spot_change : Option ℚ
  pcr_ratio : Option ℚ
  max_pain_strike : Option ℚ
  atm_iv : Option ℚ
  total_call_oi : Option ℤ
  total_put_oi : Option ℤ
  deriving DecidableEq

structure Greeks where
  delta : Option ℚ
  gamma : Option ℚ
  theta : Option ℚ
  vega : Option ℚ
  deriving DecidableEq

structure ContractRow where
  symbol_id : ℤ
  expiry : ℤ
  timestamp : ℤ
  strike_price : ℚ
  option_type : String
  ltp : Option ℚ
  volume : Option ℤ
  oi : Option ℤ
  oi_change : Option ℤ
  iv : Option ℚ
  greeks : Greeks
  buildup_name : Option String
  buildup_type : Option String
  deriving DecidableEq

/-! ## Queries -/

def minutes (count : ℤ) : ℤ := count * 60000000

/-- `WHERE symbol_id = … AND timestamp >= … AND timestamp <= …
ORDER BY ABS(EXTRACT(EPOCH FROM timestamp - …))` -/
def nearest_snapshots (symbol_id start_time end_time target_time : ℤ) :
    Selection MarketRow ℤ where
  holds row := row.symbol_id = symbol_id ∧ start_time ≤ row.timestamp ∧
    row.timestamp ≤ end_time
  key row := |row.timestamp - target_time|

/-- `WHERE symbol_id = … AND expiry = … AND timestamp BETWEEN … AND …
ORDER BY strike_price, option_type` -/
def contracts_between (symbol_id expiry start_time end_time : ℤ) :
    Selection ContractRow (ℚ ×ₗ String) where
  holds row := row.symbol_id = symbol_id ∧ row.expiry = expiry ∧
    start_time ≤ row.timestamp ∧ row.timestamp ≤ end_time
  key row := toLex (row.strike_price, row.option_type)

/-- A database with these rows: each query has one of its answers. -/
structure Database (market_snapshots : List MarketRow)
    (option_contracts : List ContractRow) where
  snapshots : Selection MarketRow ℤ → List MarketRow
  contracts : Selection ContractRow (ℚ ×ₗ String) → List ContractRow
  snapshots_answer : ∀ query, Selection.Answers query market_snapshots (snapshots query)
  contracts_answer : ∀ query, Selection.Answers query option_contracts (contracts query)

def Database.stable (market_snapshots : List MarketRow)
    (option_contracts : List ContractRow) :
    Database market_snapshots option_contracts where
  snapshots query := query.stable market_snapshots
  contracts query := query.stable option_contracts
  snapshots_answer query := query.stable_answers market_snapshots
  contracts_answer query := query.stable_answers option_contracts

/-! ## Option chains

The key `str(int(strike))` is kept as the integer.
-/

structure Entry (Leg : Type) where
  strike : Option ℚ := none
  ce : Option Leg := none
  pe : Option Leg := none
  deriving DecidableEq

section Chain

variable {Leg : Type} (leg_of : ContractRow → Leg)

/-- The strike is that of the row which makes the entry. -/
def put (entry : Entry Leg) (row : ContractRow) : Entry Leg :=
  let entry := { entry with strike := entry.strike.or (some row.strike_price) }
  if row.option_type = "CE" then { entry with ce := some (leg_of row) }
  else { entry with pe := some (leg_of row) }

def option_chain (contracts : List ContractRow) : List (ℤ × Entry Leg) :=
  Grouping.group (fun row => trunc row.strike_price) {} (put leg_of) contracts

/-- The nearest strike, the lower one of two. -/
def atm_strike (spot : ℚ) (option_chain : List (ℤ × Entry Leg)) : ℚ :=
  let strikes := (option_chain.map (fun entry => (entry.1 : ℚ))).insertionSort (· ≤ ·)
  (strikes.argmin (fun strike => |strike - spot|)).getD spot

end Chain

/-- `text or default` -/
def or_text (text : Option String) (default : String) : String :=
  let given := text.getD ""
  if given = "" then default else given

/-! ## The service -/

namespace Service

structure Leg where
  ltp : ℚ
  volume : ℤ
  oi : ℤ
  OI : ℤ
  oi_change : ℤ
  oichng : ℤ
  iv : ℚ
  optgeeks : Greeks
  BuiltupName : String
  btyp : String
  deriving DecidableEq

def leg (row : ContractRow) : Leg where
  ltp := row.ltp.getD 0
  volume := row.volume.getD 0
  oi := row.oi.getD 0
  OI := row.oi.getD 0
  oi_change := row.oi_change.getD 0
  oichng := row.oi_change.getD 0
  iv := row.iv.getD 0
  optgeeks := row.greeks
  BuiltupName := or_text row.buildup_name "NEUTRAL"
  btyp := or_text row.buildup_type "NT"

structure HistoricalSnapshot where
  timestamp : ℤ
  spot : ℚ
  spot_change : ℚ
  atm_strike : ℚ
  atm_iv : ℚ
  pcr : ℚ
  max_pain : ℚ
  total_call_oi : ℤ
  total_put_oi : ℤ
  option_chain : List (ℤ × Entry Leg)
  deriving DecidableEq

/-- `target_time.replace(hour=0, minute=0, second=0, microsecond=0)` -/
def day_start (target_time : ℤ) : ℤ := target_time - target_time % 86400000000

def day_end (target_time : ℤ) : ℤ := day_start target_time + 86399000000

variable {market_snapshots : List MarketRow} {option_contracts : List ContractRow}

def snapshot_of (row : MarketRow) (option_chain : List (ℤ × Entry Leg)) :
    HistoricalSnapshot where
  timestamp := row.timestamp
  spot := row.ltp
  spot_change := row.spot_change.getD 0
  atm_strike := atm_strike row.ltp option_chain
  atm_iv := row.atm_iv.getD 0
  pcr := row.pcr_ratio.getD 0
  max_pain := row.max_pain_strike.getD 0
  total_call_oi := row.total_call_oi.getD 0
  total_put_oi := row.total_put_oi.getD 0
  option_chain := option_chain

def get_historical_snapshot (db : Database market_snapshots option_contracts)
    (symbol_id expiry target_time : ℤ) : Option HistoricalSnapshot := do
  let row ← (db.snapshots (nearest_snapshots symbol_id (day_start target_time)
    (day_end target_time) target_time)).head?
  some (snapshot_of row (option_chain leg (db.contracts (contracts_between symbol_id expiry
    (row.timestamp - minutes 5) (row.timestamp + minutes 5)))))

end Service

/-! ## The repository -/

namespace Repository

structure Leg where
  ltp : Option ℚ
  volume : Option ℤ
  oi : Option ℤ
  oi_change : ℤ
  iv : ℚ
  optgeeks : Greeks
  BuiltupName : String
  btyp : String
  deriving DecidableEq

def leg (row : ContractRow) : Leg where
  ltp := row.ltp
  volume := row.volume
  oi := row.oi
  oi_change := row.oi_change.getD 0
  iv := row.iv.getD 0
  optgeeks := row.greeks
  BuiltupName := or_text row.buildup_name "NEUTRAL"
  btyp := or_text row.buildup_type "NT"

structure Snapshot where
  symbol_id : ℤ
  timestamp : ℤ
  spot : ℚ
  spot_change : ℚ
  atm_strike : ℚ
  pcr : ℚ
  max_pain : ℚ
  atmiv : ℚ
  total_ce_oi : ℤ
  total_pe_oi : ℤ
  oc : List (ℤ × Entry Leg)
  deriving DecidableEq

variable {market_snapshots : List MarketRow} {option_contracts : List ContractRow}

def snapshot_of (symbol_id : ℤ) (row : MarketRow) (option_chain : List (ℤ × Entry Leg)) :
    Snapshot where
  symbol_id := symbol_id
  timestamp := row.timestamp
  spot := row.ltp
  spot_change := row.spot_change.getD 0
  atm_strike := atm_strike row.ltp option_chain
  pcr := row.pcr_ratio.getD 0
  max_pain := row.max_pain_strike.getD 0
  atmiv := row.atm_iv.getD 0
  total_ce_oi := row.total_call_oi.getD 0
  total_pe_oi := row.total_put_oi.getD 0
  oc := option_chain

def get_snapshot_at_time (db : Database market_snapshots option_contracts)
    (symbol_id target_time expiry tolerance_minutes : ℤ) : Option Snapshot := do
  let start_time := target_time - minutes tolerance_minutes
  let end_time := target_time + minutes tolerance_minutes
  let snapshot ←
    (db.snapshots (nearest_snapshots symbol_id start_time end_time target_time)).head?
  some (snapshot_of symbol_id snapshot (option_chain leg (db.contracts
    (contracts_between symbol_id expiry start_time end_time))))

end Repository

/-! ## What a chain holds -/

def is_call (row : ContractRow) : Bool := row.option_type = "CE"

def Entry.leg {Leg : Type} (entry : Entry Leg) (call : Bool) : Option Leg :=
  if call then entry.ce else entry.pe

/-- The selected rows of a whole strike and a leg. -/
def OfLeg (query : Selection ContractRow (ℚ ×ₗ String)) (rows : List ContractRow)
    (key : ℤ) (call : Bool) (row : ContractRow) : Prop :=
  row ∈ rows ∧ query.holds row ∧ trunc row.strike_price = key ∧ is_call row = call

/-- Each whole strike and each leg with a selected row is there, with the values
of one of its selected rows of the greatest strike. -/
structure Reconstructs {Leg : Type} (leg_of : ContractRow → Leg)
    (query : Selection ContractRow (ℚ ×ₗ String)) (rows : List ContractRow)
    (chain : List (ℤ × Entry Leg)) : Prop where
  distinct : (chain.map Prod.fst).Nodup
  keys : ∀ key, key ∈ chain.map Prod.fst ↔
    ∃ row ∈ rows, query.holds row ∧ trunc row.strike_price = key
  absent : ∀ entry ∈ chain, ∀ call, entry.2.leg call = none ↔
    ∀ row, ¬OfLeg query rows entry.1 call row
  strike : ∀ entry ∈ chain, ∃ row ∈ rows, query.holds row ∧
    trunc row.strike_price = entry.1 ∧ entry.2.strike = some row.strike_price
  present : ∀ entry ∈ chain, ∀ call leg, entry.2.leg call = some leg →
    ∃ row, OfLeg query rows entry.1 call row ∧ leg = leg_of row ∧
      ∀ other, OfLeg query rows entry.1 call other → query.key other ≤ query.key row

section Chain

variable {Leg : Type} {leg_of : ContractRow → Leg}

theorem leg_put (entry : Entry Leg) (row : ContractRow) (call : Bool) :
    (put leg_of entry row).leg call =
      if is_call row = call then some (leg_of row) else entry.leg call := by
  unfold put is_call Entry.leg
  by_cases ce : row.option_type = "CE"
  · cases call <;> simp [ce]
  · cases call <;> simp [ce]

/-- The last row of a leg is the one that stays. -/
theorem leg_foldl (rows : List ContractRow) (entry : Entry Leg) (call : Bool) :
    (rows.foldl (put leg_of) entry).leg call =
      ((rows.filter (is_call · = call)).getLast?.map leg_of).or (entry.leg call) := by
  induction rows using List.reverseRecOn with
  | nil => rfl
  | append_singleton rows row ih =>
      rw [List.foldl_append, List.foldl_cons, List.foldl_nil, leg_put, ih, List.filter_append]
      by_cases same : is_call row = call
      · simp [same]
      · simp [same]

theorem strike_foldl (rows : List ContractRow) (entry : Entry Leg) :
    (rows.foldl (put leg_of) entry).strike =
      entry.strike.or (rows.head?.map ContractRow.strike_price) := by
  induction rows generalizing entry with
  | nil => simp
  | cons row rows ih =>
      have made : (put leg_of entry row).strike = entry.strike.or (some row.strike_price) := by
        unfold put
        split <;> rfl
      rw [List.foldl_cons, ih, made]
      cases entry.strike <;> simp

theorem reconstructs {query : Selection ContractRow (ℚ ×ₗ String)}
    {rows answer : List ContractRow} (answers : query.Answers rows answer) :
    Reconstructs leg_of query rows (option_chain leg_of answer) := by
  have grouped : Grouping.Grouped (fun row => trunc row.strike_price) {} (put leg_of) answer
      (option_chain leg_of answer) := Grouping.group_grouped answer
  have leg_eq : ∀ entry ∈ option_chain leg_of answer, ∀ call, entry.2.leg call =
      (answer.filter (fun row => trunc row.strike_price = entry.1 ∧
        is_call row = call)).getLast?.map leg_of := by
    intro entry member call
    rw [((grouped.mem_iff _ _).mp member).2, leg_foldl, List.filter_filter]
    cases call <;> simp [Entry.leg, and_comm]
  have selected : ∀ key call row, row ∈ answer.filter (fun row =>
      trunc row.strike_price = key ∧ is_call row = call) ↔ OfLeg query rows key call row := by
    intro key call row
    simp [List.mem_filter, answers.mem_iff, OfLeg, and_assoc]
  constructor
  · exact grouped.distinct
  · intro key
    rw [grouped.mem_keys]
    simp only [answers.mem_iff, and_assoc]
  · intro entry member call
    rw [leg_eq entry member call, Option.map_eq_none_iff, List.getLast?_eq_none_iff,
      List.eq_nil_iff_forall_not_mem]
    simp only [selected]
  · intro entry member
    obtain ⟨⟨row, listed, keyed⟩, value⟩ := (grouped.mem_iff _ _).mp member
    have inside : row ∈ answer.filter (fun row => trunc row.strike_price = entry.1) :=
      List.mem_filter.mpr ⟨listed, by simpa using keyed⟩
    obtain ⟨first, rest, split⟩ := List.exists_cons_of_ne_nil (List.ne_nil_of_mem inside)
    have first_listed : first ∈ answer.filter (fun row => trunc row.strike_price = entry.1) := by
      simp [split]
    obtain ⟨first_member, first_key⟩ := List.mem_filter.mp first_listed
    obtain ⟨stored, holds⟩ := answers.mem_iff.mp first_member
    refine ⟨first, stored, holds, by simpa using first_key, ?_⟩
    rw [value, strike_foldl, split]
    rfl
  · intro entry member call leg found
    rw [leg_eq entry member call, Option.map_eq_some_iff] at found
    obtain ⟨row, last, rfl⟩ := found
    refine ⟨row, (selected _ _ _).mp (List.mem_of_getLast? last), rfl, ?_⟩
    rintro other ⟨stored, holds, key, called⟩
    exact answers.le_getLast last stored holds (by simp [key, called])

end Chain

/-! ## The chosen market snapshot -/

structure Nearest (query : Selection MarketRow ℤ) (rows : List MarketRow)
    (row : MarketRow) : Prop where
  stored : row ∈ rows
  holds : query.holds row
  le : ∀ other ∈ rows, query.holds other → query.key row ≤ query.key other

/-- There is a snapshot if a market snapshot was found; it is made of a nearest
one and of a chain. -/
structure Returns {Leg Snapshot : Type} (leg_of : ContractRow → Leg)
    (snapshot_of : MarketRow → List (ℤ × Entry Leg) → Snapshot)
    (nearest : Selection MarketRow ℤ)
    (contracts : MarketRow → Selection ContractRow (ℚ ×ₗ String))
    (market_snapshots : List MarketRow) (option_contracts : List ContractRow)
    (returned : Option Snapshot) : Prop where
  none_iff : returned = none ↔ ∀ row ∈ market_snapshots, nearest.holds row = false
  snapshot : ∀ snapshot, returned = some snapshot → ∃ row chain,
    Nearest nearest market_snapshots row ∧
    Reconstructs leg_of (contracts row) option_contracts chain ∧
    snapshot = snapshot_of row chain

section Returned

variable {market_snapshots : List MarketRow} {option_contracts : List ContractRow}

theorem head_nearest {db : Database market_snapshots option_contracts}
    {query : Selection MarketRow ℤ} {row : MarketRow}
    (head : (db.snapshots query).head? = some row) :
    Nearest query market_snapshots row := by
  have answers := db.snapshots_answer query
  obtain ⟨stored, holds⟩ := answers.mem_iff.mp (List.mem_of_head? head)
  exact ⟨stored, holds, fun other => answers.head_le head⟩

theorem returns {Leg Snapshot : Type} (leg_of : ContractRow → Leg)
    (snapshot_of : MarketRow → List (ℤ × Entry Leg) → Snapshot)
    (nearest : Selection MarketRow ℤ)
    (contracts : MarketRow → Selection ContractRow (ℚ ×ₗ String))
    (db : Database market_snapshots option_contracts) :
    Returns leg_of snapshot_of nearest contracts market_snapshots option_contracts
      ((db.snapshots nearest).head?.map (fun row =>
        snapshot_of row (option_chain leg_of (db.contracts (contracts row))))) := by
  constructor
  · rw [Option.map_eq_none_iff]
    exact (db.snapshots_answer nearest).head?_eq_none_iff
  · intro snapshot found
    obtain ⟨row, head, rfl⟩ := Option.map_eq_some_iff.mp found
    exact ⟨row, _, head_nearest head, reconstructs (db.contracts_answer (contracts row)), rfl⟩

theorem service_eq (db : Database market_snapshots option_contracts)
    (symbol_id expiry target_time : ℤ) :
    Service.get_historical_snapshot db symbol_id expiry target_time =
      (db.snapshots (nearest_snapshots symbol_id (Service.day_start target_time)
        (Service.day_end target_time) target_time)).head?.map (fun row =>
          Service.snapshot_of row (option_chain Service.leg (db.contracts
            (contracts_between symbol_id expiry (row.timestamp - minutes 5)
              (row.timestamp + minutes 5))))) := by
  rw [Option.map_eq_bind]
  rfl

theorem repository_eq (db : Database market_snapshots option_contracts)
    (symbol_id target_time expiry tolerance_minutes : ℤ) :
    Repository.get_snapshot_at_time db symbol_id target_time expiry tolerance_minutes =
      (db.snapshots (nearest_snapshots symbol_id (target_time - minutes tolerance_minutes)
        (target_time + minutes tolerance_minutes) target_time)).head?.map (fun row =>
          Repository.snapshot_of symbol_id row (option_chain Repository.leg (db.contracts
            (contracts_between symbol_id expiry (target_time - minutes tolerance_minutes)
              (target_time + minutes tolerance_minutes))))) := by
  rw [Option.map_eq_bind]
  rfl

end Returned

/-! ## Both implementations -/

/-- What a leg has in both. -/
structure CommonLeg where
  ltp : ℚ
  volume : ℤ
  oi : ℤ
  oi_change : ℤ
  iv : ℚ
  optgeeks : Greeks
  BuiltupName : String
  btyp : String
  deriving DecidableEq

def Service.Leg.common (leg : Service.Leg) : CommonLeg where
  ltp := leg.ltp
  volume := leg.volume
  oi := leg.oi
  oi_change := leg.oi_change
  iv := leg.iv
  optgeeks := leg.optgeeks
  BuiltupName := leg.BuiltupName
  btyp := leg.btyp

/-- A null counts as 0. -/
def Repository.Leg.common (leg : Repository.Leg) : CommonLeg where
  ltp := leg.ltp.getD 0
  volume := leg.volume.getD 0
  oi := leg.oi.getD 0
  oi_change := leg.oi_change
  iv := leg.iv
  optgeeks := leg.optgeeks
  BuiltupName := leg.BuiltupName
  btyp := leg.btyp

def Entry.map {Leg Other : Type} (f : Leg → Other) (entry : Entry Leg) : Entry Other where
  strike := entry.strike
  ce := entry.ce.map f
  pe := entry.pe.map f

structure Common where
  timestamp : ℤ
  spot : ℚ
  spot_change : ℚ
  atm_strike : ℚ
  pcr : ℚ
  max_pain : ℚ
  atm_iv : ℚ
  total_call_oi : ℤ
  total_put_oi : ℤ
  option_chain : List (ℤ × Entry CommonLeg)
  deriving DecidableEq

def Service.HistoricalSnapshot.common (snapshot : Service.HistoricalSnapshot) : Common where
  timestamp := snapshot.timestamp
  spot := snapshot.spot
  spot_change := snapshot.spot_change
  atm_strike := snapshot.atm_strike
  pcr := snapshot.pcr
  max_pain := snapshot.max_pain
  atm_iv := snapshot.atm_iv
  total_call_oi := snapshot.total_call_oi
  total_put_oi := snapshot.total_put_oi
  option_chain := snapshot.option_chain.map (Prod.map id (Entry.map Service.Leg.common))

def Repository.Snapshot.common (snapshot : Repository.Snapshot) : Common where
  timestamp := snapshot.timestamp
  spot := snapshot.spot
  spot_change := snapshot.spot_change
  atm_strike := snapshot.atm_strike
  pcr := snapshot.pcr
  max_pain := snapshot.max_pain
  atm_iv := snapshot.atmiv
  total_call_oi := snapshot.total_ce_oi
  total_put_oi := snapshot.total_pe_oi
  option_chain := snapshot.oc.map (Prod.map id (Entry.map Repository.Leg.common))

theorem common_leg (row : ContractRow) :
    (Repository.leg row).common = (Service.leg row).common := rfl

theorem map_option_chain {Leg Other : Type} {f : Leg → Other} {leg_of : ContractRow → Leg}
    {other_of : ContractRow → Other} (same : ∀ row, f (leg_of row) = other_of row)
    (contracts : List ContractRow) :
    (option_chain leg_of contracts).map (Prod.map id (Entry.map f)) =
      option_chain other_of contracts := by
  apply Grouping.map_group
  intro entry row
  unfold put Entry.map
  split
  · simp [same]
  · simp [same]

theorem atm_strike_map {Leg Other : Type} (f : Entry Leg → Entry Other) (spot : ℚ)
    (chain : List (ℤ × Entry Leg)) :
    atm_strike spot (chain.map (Prod.map id f)) = atm_strike spot chain := by
  simp [atm_strike, List.map_map, Function.comp_def]

theorem common_snapshot (symbol_id : ℤ) (row : MarketRow) (contracts : List ContractRow) :
    (Repository.snapshot_of symbol_id row (option_chain Repository.leg contracts)).common =
      (Service.snapshot_of row (option_chain Service.leg contracts)).common := by
  have chains : (option_chain Repository.leg contracts).map
        (Prod.map id (Entry.map Repository.Leg.common)) =
      (option_chain Service.leg contracts).map (Prod.map id (Entry.map Service.Leg.common)) := by
    rw [map_option_chain common_leg, map_option_chain (fun _ => rfl)]
  have strikes := congrArg (atm_strike row.ltp) chains
  rw [atm_strike_map, atm_strike_map] at strikes
  simp only [Repository.Snapshot.common, Service.HistoricalSnapshot.common,
    Repository.snapshot_of, Service.snapshot_of, chains, strikes]

/-- Of two selected rows with one strike and one type, both are the same. -/
def Distinct (query : Selection ContractRow (ℚ ×ₗ String)) (rows : List ContractRow) :
    Prop :=
  ∀ a ∈ rows, ∀ b ∈ rows, query.holds a → query.holds b → query.key a = query.key b → a = b

section Agreement

variable {market_snapshots : List MarketRow} {option_contracts : List ContractRow}
  {symbol_id expiry target_time : ℤ} {row : MarketRow}

/-- The only market snapshot at the requested time is the nearest one. -/
theorem head_at_target (db : Database market_snapshots option_contracts)
    {start_time end_time : ℤ} (started : start_time ≤ target_time)
    (ended : target_time ≤ end_time) (stored : row ∈ market_snapshots)
    (symbol : row.symbol_id = symbol_id) (at_target : row.timestamp = target_time)
    (single : ∀ other ∈ market_snapshots, other.symbol_id = symbol_id →
      other.timestamp = target_time → other = row) :
    (db.snapshots (nearest_snapshots symbol_id start_time end_time target_time)).head? =
      some row := by
  have inside :
      (nearest_snapshots symbol_id start_time end_time target_time).holds row = true := by
    simp [nearest_snapshots, symbol, at_target, started, ended]
  cases head : (db.snapshots
      (nearest_snapshots symbol_id start_time end_time target_time)).head? with
  | none =>
      have unselected := (db.snapshots_answer _).head?_eq_none_iff.mp head row stored
      rw [inside] at unselected
      contradiction
  | some first =>
      have near := head_nearest head
      have distance := near.le row stored inside
      have holds := near.holds
      simp only [nearest_snapshots, at_target, sub_self, abs_zero, abs_nonpos_iff, sub_eq_zero,
        decide_eq_true_eq] at distance holds
      rw [single first near.stored holds.1 distance]

theorem same_snapshot (service repository : Database market_snapshots option_contracts)
    (whole : 1000000 ∣ target_time) (stored : row ∈ market_snapshots)
    (symbol : row.symbol_id = symbol_id) (at_target : row.timestamp = target_time)
    (single : ∀ other ∈ market_snapshots, other.symbol_id = symbol_id →
      other.timestamp = target_time → other = row)
    (distinct : Distinct (contracts_between symbol_id expiry (target_time - minutes 5)
      (target_time + minutes 5)) option_contracts) :
    ∃ snapshot other,
      Service.get_historical_snapshot service symbol_id expiry target_time = some snapshot ∧
      Repository.get_snapshot_at_time repository symbol_id target_time expiry 5 = some other ∧
      other.common = snapshot.common := by
  have day : Service.day_start target_time ≤ target_time ∧
      target_time ≤ Service.day_end target_time := by
    unfold Service.day_end Service.day_start
    omega
  have around : target_time - minutes 5 ≤ target_time ∧
      target_time ≤ target_time + minutes 5 := by
    unfold minutes
    omega
  have first := head_at_target service day.1 day.2 stored symbol at_target single
  have second := head_at_target repository around.1 around.2 stored symbol at_target single
  have answers := (service.contracts_answer _).unique (repository.contracts_answer _) distinct
  rw [service_eq, repository_eq, first, second]
  simp only [Option.map_some, at_target, answers]
  exact ⟨_, _, rfl, rfl, common_snapshot symbol_id row _⟩

end Agreement

/-- Each implementation puts together the chain of its own window, and at the time
of a market snapshot they return the same. -/
theorem historical_snapshots {market_snapshots : List MarketRow}
    {option_contracts : List ContractRow}
    (service repository : Database market_snapshots option_contracts)
    (symbol_id expiry target_time tolerance_minutes : ℤ) :
    Returns Service.leg Service.snapshot_of
        (nearest_snapshots symbol_id (Service.day_start target_time)
          (Service.day_end target_time) target_time)
        (fun row => contracts_between symbol_id expiry (row.timestamp - minutes 5)
          (row.timestamp + minutes 5))
        market_snapshots option_contracts
        (Service.get_historical_snapshot service symbol_id expiry target_time) ∧
      Returns Repository.leg (Repository.snapshot_of symbol_id)
        (nearest_snapshots symbol_id (target_time - minutes tolerance_minutes)
          (target_time + minutes tolerance_minutes) target_time)
        (fun _ => contracts_between symbol_id expiry (target_time - minutes tolerance_minutes)
          (target_time + minutes tolerance_minutes))
        market_snapshots option_contracts
        (Repository.get_snapshot_at_time repository symbol_id target_time expiry
          tolerance_minutes) ∧
      ∀ row ∈ market_snapshots, 1000000 ∣ target_time → row.symbol_id = symbol_id →
        row.timestamp = target_time →
        (∀ other ∈ market_snapshots, other.symbol_id = symbol_id →
          other.timestamp = target_time → other = row) →
        Distinct (contracts_between symbol_id expiry (target_time - minutes 5)
          (target_time + minutes 5)) option_contracts →
        ∃ snapshot other,
          Service.get_historical_snapshot service symbol_id expiry target_time =
            some snapshot ∧
          Repository.get_snapshot_at_time repository symbol_id target_time expiry 5 =
            some other ∧
          other.common = snapshot.common := by
  refine ⟨?_, ?_, ?_⟩
  · rw [service_eq]
    exact returns Service.leg Service.snapshot_of _ _ service
  · rw [repository_eq]
    exact returns Repository.leg (Repository.snapshot_of symbol_id) _ (fun _ => _) repository
  · intro row stored whole symbol at_target single distinct
    exact same_snapshot service repository whole stored symbol at_target single distinct

/-- Each selected row's leg has the values of a row of its strike and leg that is
nearest to the target. -/
def ShowsNearest {Leg : Type} (leg_of : ContractRow → Leg)
    (query : Selection ContractRow (ℚ ×ₗ String)) (rows : List ContractRow)
    (target_time : ℤ) (chain : List (ℤ × Entry Leg)) : Prop :=
  ∀ row ∈ rows, query.holds row → ∃ entry ∈ chain,
    entry.1 = trunc row.strike_price ∧ ∃ near ∈ rows,
      query.holds near ∧ near.strike_price = row.strike_price ∧ is_call near = is_call row ∧
      entry.2.leg (is_call row) = some (leg_of near) ∧
      ∀ other ∈ rows, query.holds other → other.strike_price = row.strike_price →
        is_call other = is_call row →
        |near.timestamp - target_time| ≤ |other.timestamp - target_time|

instance {Leg : Type} [DecidableEq Leg] (leg_of : ContractRow → Leg)
    (query : Selection ContractRow (ℚ ×ₗ String)) (rows : List ContractRow)
    (target_time : ℤ) (chain : List (ℤ × Entry Leg)) :
    Decidable (ShowsNearest leg_of query rows target_time chain) := by
  delta ShowsNearest
  infer_instance

def market_row (timestamp : ℤ) : MarketRow :=
  ⟨1, timestamp, 100, none, none, none, none, none, none⟩

def call_row (timestamp : ℤ) (ltp : ℚ) : ContractRow :=
  ⟨1, 1, timestamp, 100, "CE", some ltp, none, none, none, none, ⟨none, none, none, none⟩,
    none, none⟩

/-- The call of four minutes later stays; a market snapshot of an hour later is
found by the service only. -/
theorem not_nearest_nor_same :
    (∃ snapshot ∈ Service.get_historical_snapshot
        (.stable [market_row 0] [call_row 0 5, call_row (minutes 4) 6]) 1 1 0,
      ¬ShowsNearest Service.leg (contracts_between 1 1 (-minutes 5) (minutes 5))
        [call_row 0 5, call_row (minutes 4) 6] 0 snapshot.option_chain) ∧
    (∃ snapshot ∈ Repository.get_snapshot_at_time
        (.stable [market_row 0] [call_row 0 5, call_row (minutes 4) 6]) 1 0 1 5,
      ¬ShowsNearest Repository.leg (contracts_between 1 1 (-minutes 5) (minutes 5))
        [call_row 0 5, call_row (minutes 4) 6] 0 snapshot.oc) ∧
    (Service.get_historical_snapshot (.stable [market_row (minutes 60)] []) 1 1 0).isSome ∧
    Repository.get_snapshot_at_time (.stable [market_row (minutes 60)] []) 1 0 1 5 = none := by
  decide

end HftEngine.Historical
