import HftEngine.Admin.SystemConfigs
import HftEngine.Core.ConfigManager
import HftEngine.Lib.Json.Write

/-!
# Configurations of the admin service

What each operation of the router does to the table `system_config`.  The
columns that record who changed a row and when are left out, and a column takes
a text of any length.
-/

namespace HftEngine.Admin

open Py Json Config

/-- The row of a default. -/
def Default.config (entry : Default) : SystemConfig where
  value := entry.value
  description := some entry.description
  category := entry.category
  data_type := some entry.data_type
  requires_restart := some entry.requires_restart

/-- The row that `update_config` adds. -/
def new_config (key value : String) : SystemConfig :=
  match system_configs.lookup key with
  | some entry => { entry.config with value }
  | none =>
      { value, description := some "Custom configuration", category := "custom"
        data_type := some "string", requires_restart := some false }

def update_config (key value : String) (table : Table) : Table :=
  match table.lookup key with
  | some config => table.insert key { config with value }
  | none => table.insert key (new_config key value)

/-- None where there is nothing to delete. -/
def delete_config (key : String) (table : Table) : Option Table :=
  if (table.lookup key).isSome then some (table.erase key) else none

def initialize_configs (table : Table) : Table :=
  system_configs.foldl (fun table entry =>
    if (table.lookup entry.1).isSome then table
    else table.insert entry.1 entry.2.config) table

/-! ## Export and import -/

/-- The entry of a row. -/
def exported (config : SystemConfig) : Value :=
  .dict
    [("value", .str config.value),
     ("description", orNull .str config.description),
     ("category", .str config.category),
     ("requires_restart", orNull .bool config.requires_restart)]

def export_configs (table : Table) : Value :=
  .dict (table.entries.map (fun entry => (entry.1, exported entry.2)))

/-- What the database takes of a value for a column of its type; none where it
raises. -/
structure Columns where
  text : Value → Option String
  boolean : Value → Option Bool

/-- What is documented of the values that have the type. -/
structure Columns.Documented (columns : Columns) : Prop where
  text_str : ∀ s, columns.text (.str s) = some s
  boolean_bool : ∀ b, columns.boolean (.bool b) = some b

/-- A column that may be null. -/
def nullable {α : Type} (column : Value → Option α) (value : Value) :
    Option (Option α) :=
  match value with
  | .null => some none
  | value => (column value).map some

def import_config (columns : Columns) (key : String) (data : Dict) (table : Table) :
    Option Table := do
  match table.lookup key with
  | some config =>
      let value ← columns.text (← lookup? "value" data)
      some (table.insert key { config with value })
  | none =>
      let value ← columns.text (← lookup? "value" data)
      let description ← nullable columns.text (Dict.get data "description" (.str ""))
      let category ← columns.text (Dict.get data "category" (.str "custom"))
      let data_type ← nullable columns.text (Dict.get data "data_type" (.str "string"))
      let requires_restart ←
        nullable columns.boolean (Dict.get data "requires_restart" (.bool false))
      some (table.insert key
        { value, description, category, data_type, requires_restart })

/-- None where the request is refused or the transaction is rolled back. -/
def import_configs (columns : Columns) (configs : Value) (table : Table) :
    Option Table :=
  match configs with
  | .dict entries => entries.foldlM (fun table entry =>
      match entry.2 with
      | .dict data => import_config columns entry.1 data table
      | _ => none) table
  | _ => none

/-- An export as a JSON text, imported into an empty table. -/
def moved_configs (columns : Columns) (table : Table) : Option Table :=
  match loads (dumps (export_configs table)) with
  | .ok configs => import_configs columns configs ∅
  | .error _ => none

/-! ## What becomes of an export -/

/-- What is imported of a row that was exported. -/
def reimported (config : SystemConfig) : SystemConfig :=
  { config with data_type := some "string" }

theorem nullable_orNull {α : Type} {column : Value → Option α} (value : α → Value)
    (notNull : ∀ a, value a ≠ .null) (documented : ∀ a, column (value a) = some a)
    (option : Option α) : nullable column (orNull value option) = some option := by
  cases option with
  | none => rfl
  | some a =>
      unfold nullable orNull
      split
      case h_1 null => exact absurd null (notNull a)
      case h_2 => rw [documented, Option.map_some]

/-- The entries of a row that was exported. -/
def exported_data (config : SystemConfig) : Dict :=
  [("value", .str config.value),
   ("description", orNull .str config.description),
   ("category", .str config.category),
   ("requires_restart", orNull .bool config.requires_restart)]

theorem import_exported {columns : Columns} (documented : columns.Documented)
    {key : String} {table : Table} (fresh : table.lookup key = none)
    (config : SystemConfig) :
    import_config columns key (exported_data config) table =
      some (table.insert key (reimported config)) := by
  have texts := nullable_orNull .str (by simp) documented.text_str
  have description : nullable columns.text
      (Dict.get (exported_data config) "description" (.str "")) =
        some config.description := texts config.description
  have data_type : nullable columns.text
      (Dict.get (exported_data config) "data_type" (.str "string")) =
        some (some "string") := texts (some "string")
  have requires_restart : nullable columns.boolean
      (Dict.get (exported_data config) "requires_restart" (.bool false)) =
        some config.requires_restart :=
    nullable_orNull .bool (by simp) documented.boolean_bool config.requires_restart
  have value : lookup? "value" (exported_data config) = some (.str config.value) := rfl
  have category : columns.text
      (Dict.get (exported_data config) "category" (.str "custom")) =
        some config.category := documented.text_str config.category
  simp [import_config, fresh, value, documented.text_str, description, category,
    data_type, requires_restart, reimported]

theorem distinctKeys_exported (config : SystemConfig) :
    DistinctKeys (exported config) := by
  have description : DistinctKeys (orNull .str config.description) := by
    cases config.description <;> trivial
  have requires_restart : DistinctKeys (orNull .bool config.requires_restart) := by
    cases config.requires_restart <;> trivial
  refine ⟨?_, trivial, description, trivial, requires_restart, trivial⟩
  simp

/-- Rows that an import adds, all under new keys. -/
theorem import_entries {columns : Columns} (documented : columns.Documented)
    {entries : List (Sigma (fun _ : String => SystemConfig))}
    (distinct : entries.NodupKeys) {table : Table}
    (fresh : ∀ entry ∈ entries, table.lookup entry.1 = none) :
    ∃ imported,
      import_configs columns (.dict (entries.map (fun entry =>
        (entry.1, exported entry.2)))) table = some imported ∧
      ∀ key, imported.lookup key =
        ((entries.dlookup key).map reimported).or (table.lookup key) := by
  induction entries generalizing table with
  | nil => exact ⟨table, rfl, fun key => by simp⟩
  | cons entry entries ih =>
      rw [List.nodupKeys_cons] at distinct
      obtain ⟨first, rest⟩ := List.forall_mem_cons.mp fresh
      have later : ∀ other ∈ entries,
          (table.insert entry.1 (reimported entry.2)).lookup other.1 = none := by
        intro other member
        have different : other.1 ≠ entry.1 := by
          intro same
          exact distinct.1 (same ▸ List.mem_keys_of_mem member)
        rw [AList.lookup_insert_ne different]
        exact rest other member
      obtain ⟨imported, made, found⟩ := ih distinct.2 later
      refine ⟨imported, ?_, ?_⟩
      · have step := import_exported documented first entry.2
        simp only [import_configs, List.map_cons, List.foldlM_cons] at made ⊢
        exact Option.bind_eq_some_iff.mpr ⟨_, step, made⟩
      · intro key
        rw [found]
        by_cases same : key = entry.1
        · subst same
          rw [List.dlookup_eq_none.mpr distinct.1, List.dlookup_cons_eq,
            AList.lookup_insert]
          rfl
        · rw [List.dlookup_cons_ne entries entry same, AList.lookup_insert_ne same]

theorem distinctKeys_export (table : Table) : DistinctKeys (export_configs table) := by
  obtain ⟨entries, distinct⟩ := table
  refine ⟨?_, ?_⟩
  · rw [List.map_map]
    exact distinct
  · change DistinctKeysEntries (entries.map (fun entry => (entry.1, exported entry.2)))
    clear distinct
    induction entries with
    | nil => trivial
    | cons entry entries ih => exact ⟨distinctKeys_exported entry.2, ih⟩

/-- An export brings every row back but for its type, which it does not hold. -/
theorem moved_configs_eq {columns : Columns} (documented : columns.Documented)
    (table : Table) :
    ∃ imported, moved_configs columns table = some imported ∧
      ∀ key, imported.lookup key = (table.lookup key).map reimported := by
  have fresh : ∀ entry ∈ table.entries, (∅ : Table).lookup entry.1 = none := by simp
  obtain ⟨imported, made, found⟩ := import_entries documented table.nodupKeys fresh
  refine ⟨imported, ?_, ?_⟩
  · rw [moved_configs, loads_dumps _ (distinctKeys_export table)]
    exact made
  · intro key
    rw [found, AList.lookup_empty, Option.or_none]
    rfl

/-- Every row is there again, and is served as the same typed value. -/
structure Recreated (table imported : Table) : Prop where
  rows : ∀ key, imported.lookup key = table.lookup key
  served : ∀ key, typed imported key = typed table key

/-- An export recreates the table exactly when all its rows are of type string. -/
theorem recreated_iff {columns : Columns} (documented : columns.Documented)
    (table : Table) :
    (∃ imported, moved_configs columns table = some imported ∧
        Recreated table imported) ↔
      ∀ key config, table.lookup key = some config →
        config.data_type = some "string" := by
  obtain ⟨imported, made, found⟩ := moved_configs_eq documented table
  constructor
  · rintro ⟨other, made_other, recreated⟩ key config row
    rw [made, Option.some.injEq] at made_other
    subst made_other
    have same := recreated.rows key
    rw [found, row, Option.map_some, Option.some.injEq] at same
    exact (congrArg SystemConfig.data_type same).symm
  · intro strings
    have rows : ∀ key, imported.lookup key = table.lookup key := by
      intro key
      rw [found]
      cases row : table.lookup key with
      | none => rfl
      | some config =>
          rw [Option.map_some, reimported, ← strings key config row]
    refine ⟨imported, made, rows, ?_⟩
    intro key
    rw [typed, typed, rows]

/-- The driver of the database on values that have the type of the column. -/
def exactColumns : Columns where
  text value := match value with
    | .str s => some s
    | _ => none
  boolean value := match value with
    | .bool b => some b
    | _ => none

theorem exactColumns_documented : exactColumns.Documented where
  text_str _ := rfl
  boolean_bool _ := rfl

/-- A table that holds this default alone. -/
def tableOf (key : String) : Table :=
  match system_configs.lookup key with
  | some entry => AList.singleton key entry.config
  | none => ∅

theorem recreated_iff_log_level :
    (∃ imported, moved_configs exactColumns (tableOf "log_level") = some imported ∧
        Recreated (tableOf "log_level") imported) ↔
      ∀ key config, (tableOf "log_level").lookup key = some config →
        config.data_type = some "string" :=
  recreated_iff exactColumns_documented (tableOf "log_level")

/-- The fetch interval comes back as a text and is served as one. -/
theorem recreated_fails :
    ¬∃ imported, moved_configs exactColumns (tableOf "fetch_interval") = some imported ∧
      Recreated (tableOf "fetch_interval") imported := by
  rintro ⟨other, made_other, recreated⟩
  obtain ⟨imported, made, found⟩ :=
    moved_configs_eq exactColumns_documented (tableOf "fetch_interval")
  rw [made, Option.some.injEq] at made_other
  subst made_other
  have same := recreated.rows "fetch_interval"
  rw [found] at same
  exact absurd (congrArg (Option.map SystemConfig.data_type) same) (by decide)

end HftEngine.Admin
