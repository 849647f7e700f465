import HftEngine.Lib.Json.Read
import HftEngine.Lib.Python.Number
import Mathlib.Data.List.AList

/-!
# The configuration manager of a service

The values that a service holds in memory, how it types what it reads of the
table `system_config`, and what it does with a message on `config:updates`.
-/

namespace HftEngine.Config

open Py Json

/-- The columns that are read of a row of `system_config`, beside its key. -/
structure SystemConfig where
  value : String
  description : Option String
  category : String
  data_type : Option String
  requires_restart : Option Bool
  deriving DecidableEq

abbrev Table := AList (fun _ : String => SystemConfig)

/-- `_configs`. -/
abbrev Configs := AList (fun _ : String => Value)

/-- `json.loads(value)`, or the text itself where that raises.  A text with half
of a surrogate pair counts as one that raises. -/
def json_value (value : String) : Value :=
  match loads value with
  | .ok parsed => parsed
  | .error _ => .str value

/-- A value of a type that it cannot be read as stays a text. -/
def parse_value (value : String) (data_type : Option String) : Value :=
  match data_type with
  | some "int" =>
      match int? value with
      | some n => .int n
      | none => .str value
  | some "float" =>
      match float? value with
      | some x => .float x
      | none => .str value
  | some "bool" => .bool (["true", "1", "yes", "on"].contains value.toLower)
  | some "json" => json_value value
  | some "list" =>
      if value.toList.head? = some '[' then json_value value
      else .list ((value.toList.splitOn ',').map
        (fun part => .str (String.ofList part)))
  | _ => .str value

def SystemConfig.typed (config : SystemConfig) : Value :=
  parse_value config.value config.data_type

/-- The typed value of a key of the table. -/
def typed (table : Table) (key : String) : Option Value :=
  (table.lookup key).map SystemConfig.typed

/-! ## Reloads -/

def reload_from_db (table : Table) (configs : Configs) : Configs :=
  table.entries.foldl (fun configs config => configs.insert config.1 config.2.typed)
    configs

def reload_single_config (table : Table) (key : String) (configs : Configs) : Configs :=
  match table.lookup key with
  | some config => configs.insert key config.typed
  | none => configs.erase key

/-- A message without an action is an update. -/
structure Message where
  key : Option String
  action : String := "update"
  deriving DecidableEq

/-- What the listener does with a message, with the table as it reads it. -/
def handle (message : Message) (table : Table) (configs : Configs) : Configs :=
  if message.action = "update" then
    match message.key with
    | some key => if key = "" then configs else reload_single_config table key configs
    | none => configs
  else if message.action = "reload_all" then reload_from_db table configs
  else configs

theorem lookup_reload_single (table : Table) (key other : String) (configs : Configs) :
    (reload_single_config table key configs).lookup other =
      if other = key then typed table key else configs.lookup other := by
  unfold reload_single_config typed
  by_cases same : other = key
  · subst same
    cases table.lookup other with
    | none => simp
    | some config => simp
  · cases table.lookup key with
    | none => simp [AList.lookup_erase_ne same, same]
    | some config => simp [AList.lookup_insert_ne same, same]

theorem lookup_foldl_insert {entries : List (Sigma (fun _ : String => SystemConfig))}
    (distinct : entries.NodupKeys) (configs : Configs) (key : String) :
    (entries.foldl (fun configs config => configs.insert config.1 config.2.typed)
        configs).lookup key =
      ((entries.dlookup key).map SystemConfig.typed).or (configs.lookup key) := by
  induction entries generalizing configs with
  | nil => simp
  | cons entry entries ih =>
      rw [List.nodupKeys_cons] at distinct
      rw [List.foldl_cons, ih distinct.2]
      by_cases same : key = entry.1
      · subst same
        rw [List.dlookup_eq_none.mpr distinct.1, List.dlookup_cons_eq,
          AList.lookup_insert]
        rfl
      · rw [List.dlookup_cons_ne entries entry same, AList.lookup_insert_ne same]

/-- A reload keeps what the table has no row for. -/
theorem lookup_reload_from_db (table : Table) (configs : Configs) (key : String) :
    (reload_from_db table configs).lookup key =
      (typed table key).or (configs.lookup key) :=
  lookup_foldl_insert table.nodupKeys configs key

/-- What one message does to one key: it takes the value of the table, or keeps
its own. -/
theorem lookup_handle (message : Message) (table : Table) (configs : Configs)
    (key : String) :
    (handle message table configs).lookup key = typed table key ∨
      (handle message table configs).lookup key = configs.lookup key := by
  unfold handle
  split
  · split
    · split
      · exact .inr rfl
      · rw [lookup_reload_single]
        split
        case isTrue same => exact .inl (same ▸ rfl)
        case isFalse => exact .inr rfl
    · exact .inr rfl
  · split
    · rw [lookup_reload_from_db]
      cases typed table key with
      | none => exact .inr rfl
      | some value => exact .inl rfl
    · exact .inr rfl

example : parse_value "0.065" (some "float") = .float 0.065 := by decide
example : parse_value "a,b" (some "list") = .list [.str "a", .str "b"] := by
  decide
example : parse_value "ten" (some "int") = .str "ten" := by decide

end HftEngine.Config
