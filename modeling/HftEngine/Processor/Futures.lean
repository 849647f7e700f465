import HftEngine.Lib.Ranking
import HftEngine.Lib.Traversal
import HftEngine.Processor.Models
import Mathlib.Data.String.Basic

/-!
# The futures contract of a message

`DataCleaner._extract_futures_data` takes the contract whose symbol is the first in the
order of texts for the current one.
-/

namespace HftEngine.Processor

open Py

/-- `fut_data.get('sym', '')`.  What is no text raises, in the comparisons of the sort or
as a field of the model. -/
def contract_symbol (fut_data : Value) : Result String := do
  match ← fut_data.get "sym" (.str "") with
  | .str symbol => .ok symbol
  | _ => .error .typeError

/-- What is read of the contract that is taken. -/
def clean_futures (fut_data : Value) : Result CleanedFuturesData := do
  let ltp ← floatOf fut_data "ltp" (.int 0)
  let prev_close ← floatOf fut_data "pc" (.int 0)
  let price_change := if 0 < prev_close then ltp - prev_close else 0
  let price_change_pct := if 0 < prev_close then price_change / prev_close * 100 else 0
  let symbol ← contract_symbol fut_data
  let volume ← intOf fut_data "vol" (.int 0)
  let prev_volume ← intOf fut_data "pvol" (.int 0)
  let volume_change ← intOf fut_data "v_chng" (.int 0)
  let volume_change_pct ← floatOf fut_data "v_pchng" (.int 0)
  let oi ← intOf fut_data "oi" (.int 0)
  let oi_change ← intOf fut_data "oichng" (.int 0)
  let oi_change_pct ← floatOf fut_data "oipchng" (.int 0)
  let lot_size ← intOf fut_data "lot" (.int 75)
  let tick_size ← floatOf fut_data "ticksize" (.float 0.1)
  .ok
    { symbol, ltp, prev_close, price_change, price_change_pct, volume, prev_volume,
      volume_change, volume_change_pct, oi, oi_change, oi_change_pct, lot_size, tick_size }

/-- An entry with the symbol to sort by. -/
def keyed_entry (entry : String × Value) : Result (String × String × Value) := do
  .ok (← contract_symbol entry.2, entry)

def extract_futures_data (futures_dict : Dict) : Result (Option CleanedFuturesData) := do
  let sorted_futures := Ranking.ascending (·.1) (← futures_dict.mapM keyed_entry)
  match sorted_futures.head? with
  | none => .ok none
  | some (_, _, fut_data) => some <$> clean_futures fut_data

/-! ## The contract that expires first -/

/-- An entry whose key is a time stamp and whose data can be read. -/
structure ValidEntry (entry : String × Value) (expiry : ℤ) (data : CleanedFuturesData) :
    Prop where
  expires : int? entry.1 = some expiry
  read : clean_futures entry.2 = .ok data

/-- The data of an entry that expires first among the valid ones. -/
def NearestData (futures_dict : Dict) (data : CleanedFuturesData) : Prop :=
  ∃ entry ∈ futures_dict, ∃ expiry, ValidEntry entry expiry data ∧
    ∀ other ∈ futures_dict, ∀ later other_data, ValidEntry other later other_data →
      expiry ≤ later

def ReturnsNearest (futures_dict : Dict) : Prop :=
  ∃ data, extract_futures_data futures_dict = .ok (some data) ∧
    NearestData futures_dict data

/-- The symbol, where the entry has one. -/
def symbol_key (entry : String × Value) : String :=
  (contract_symbol entry.2).toOption.getD ""

/-- Every entry has a symbol, and the first entry with the least one reads as an entry does
that expires first among the valid ones. -/
def LeastSymbolNearest (futures_dict : Dict) : Prop :=
  (∀ entry ∈ futures_dict, (contract_symbol entry.2).isOk) ∧
  ∃ chosen ∈ futures_dict.argmin symbol_key, ∃ data,
    clean_futures chosen.2 = .ok data ∧ NearestData futures_dict data

theorem keyed_entry_eq_ok {entry : String × Value} {keyed : String × String × Value} :
    keyed_entry entry = .ok keyed ↔
      (contract_symbol entry.2).isOk ∧ (symbol_key entry, entry) = keyed := by
  unfold keyed_entry
  rw [bind_eq_ok, isOk_iff]
  constructor
  · rintro ⟨symbol, found, paired⟩
    have key : symbol_key entry = symbol := by rw [symbol_key, found]; rfl
    refine ⟨⟨symbol, found⟩, ?_⟩
    rw [key]
    exact Except.ok.inj paired
  · rintro ⟨⟨symbol, found⟩, rfl⟩
    have key : symbol_key entry = symbol := by rw [symbol_key, found]; rfl
    exact ⟨symbol, found, by rw [key]⟩

theorem mapM_keyed_entry {futures_dict : Dict} {keyed : List (String × String × Value)} :
    futures_dict.mapM keyed_entry = .ok keyed ↔
      (∀ entry ∈ futures_dict, (contract_symbol entry.2).isOk) ∧
        keyed = futures_dict.map (fun entry => (symbol_key entry, entry)) := by
  simp only [Traversal.mapM_ok_iff, keyed_entry_eq_ok]
  rw [List.forall₂_and_left, ← List.forall₂_map_left_iff, List.forall₂_eq_eq_eq]
  exact and_congr_right_iff.mpr (fun _ => eq_comm)

theorem head?_keyed (futures_dict : Dict) :
    (Ranking.ascending (·.1)
      (futures_dict.map (fun entry => (symbol_key entry, entry)))).head? =
      (futures_dict.argmin symbol_key).map (fun entry => (symbol_key entry, entry)) := by
  rw [Ranking.ascending_map, List.head?_map, Ranking.head?_ascending]

/-- The data of the first entry with the least symbol are returned. -/
theorem extract_futures_data_eq_some {futures_dict : Dict} {data : CleanedFuturesData} :
    extract_futures_data futures_dict = .ok (some data) ↔
      (∀ entry ∈ futures_dict, (contract_symbol entry.2).isOk) ∧
        ∃ chosen ∈ futures_dict.argmin symbol_key, clean_futures chosen.2 = .ok data := by
  unfold extract_futures_data
  rw [bind_eq_ok]
  constructor
  · rintro ⟨keyed, mapped, returned⟩
    obtain ⟨readable, rfl⟩ := mapM_keyed_entry.mp mapped
    dsimp only at returned
    rw [head?_keyed] at returned
    refine ⟨readable, ?_⟩
    cases chosen : futures_dict.argmin symbol_key with
    | none =>
        rw [chosen] at returned
        cases Except.ok.inj returned
    | some entry =>
        rw [chosen] at returned
        dsimp only [Option.map_some] at returned
        cases read : clean_futures entry.2 with
        | error raised =>
            rw [read] at returned
            cases returned
        | ok found =>
            rw [read] at returned
            obtain rfl := Option.some.inj (Except.ok.inj returned)
            exact ⟨entry, rfl, read⟩
  · rintro ⟨readable, entry, chosen, read⟩
    refine ⟨_, mapM_keyed_entry.mpr ⟨readable, rfl⟩, ?_⟩
    dsimp only
    rw [head?_keyed, Option.mem_def.mp chosen, Option.map_some]
    dsimp only
    rw [read]
    rfl

/-- The contract that expires first is returned exactly when the order of the symbols puts
it first too. -/
theorem returns_nearest_iff (futures_dict : Dict) :
    ReturnsNearest futures_dict ↔ LeastSymbolNearest futures_dict := by
  constructor
  · rintro ⟨data, returned, nearest⟩
    obtain ⟨readable, chosen, least, read⟩ := extract_futures_data_eq_some.mp returned
    exact ⟨readable, chosen, least, data, read, nearest⟩
  · rintro ⟨readable, chosen, least, data, read, nearest⟩
    exact ⟨data, extract_futures_data_eq_some.mpr ⟨readable, chosen, least, read⟩, nearest⟩

/-! ### The contracts of January and April -/

def contract (symbol : String) : Value :=
  .dict [("sym", .str symbol), ("ltp", .int 26000), ("pc", .int 25900), ("vol", .int 100)]

def january_april : Dict :=
  [("1453973400", contract "NIFTY JAN FUT"), ("1461835800", contract "NIFTY APR FUT")]

/-- April comes before January. -/
theorem not_returns_nearest : ¬ReturnsNearest january_april := by
  rintro ⟨data, returned, entry, member, expiry, valid, least⟩
  have april : ∃ found ∈ (extract_futures_data january_april).toOption,
      found.map (·.symbol) = some "NIFTY APR FUT" := by decide
  obtain ⟨found, extracted, symbol⟩ := april
  rw [returned] at extracted
  obtain rfl := Option.some.inj extracted
  have january : ∃ read ∈ (clean_futures (contract "NIFTY JAN FUT")).toOption,
      read.symbol = "NIFTY JAN FUT" := by decide
  obtain ⟨read, january, january_symbol⟩ := january
  rw [Option.mem_def, toOption_eq_some] at january
  have bound : expiry ≤ 1453973400 :=
    least ("1453973400", contract "NIFTY JAN FUT") List.mem_cons_self _ read
      ⟨by decide, january⟩
  rw [january_april, List.mem_pair] at member
  rcases member with rfl | rfl
  · obtain rfl := Except.ok.inj (january.symm.trans valid.read)
    rw [Option.map_some, january_symbol] at symbol
    exact absurd symbol (by decide)
  · have late : int? "1461835800" = some 1461835800 := by decide
    obtain rfl := Option.some.inj (late.symm.trans valid.expires)
    exact absurd bound (by decide)

end HftEngine.Processor
