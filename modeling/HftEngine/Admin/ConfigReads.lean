import HftEngine.Admin.Config
import HftEngine.Lib.Caching
import HftEngine.Lib.Tasks
import HftEngine.Lib.Transition
import Mathlib.Data.List.Sort

/-!
# Cached reads of the configurations

The requests of the router that list, get, update and delete configurations,
taken apart at their awaits.  The poll of the WebSocket is a read without the
check of `ConfigItem`.  A write selects, changes and commits in one step: where
another commit comes between, the row that was selected is gone or has come, and
the transaction fails.
-/

namespace HftEngine.Admin

open Config Caching Transition

/-! ## What the requests compute -/

structure Item where
  key : String
  value : String
  description : String
  category : String
  data_type : String
  requires_restart : Option Bool
  deriving DecidableEq

/-- `text or default`. -/
def textOr (text default : String) : String :=
  if text = "" then default else text

def Item.of_config (key : String) (config : SystemConfig) : Item where
  key
  value := config.value
  description := textOr (config.description.getD "") ""
  category := textOr config.category "general"
  data_type := textOr (config.data_type.getD "") "string"
  requires_restart := config.requires_restart

def Item.of_default (key : String) (entry : Default) : Item where
  key
  value := entry.value
  description := entry.description
  category := entry.category
  data_type := entry.data_type
  requires_restart := some entry.requires_restart

/-- A category that is missing or empty selects everything. -/
def inCategory (category : Option String) (other : String) : Bool :=
  match category with
  | none => true
  | some category => category = "" || other = category

def config_items (category : Option String) (table : Table) : List Item :=
  let configs :=
    table.entries.filter (fun config => inCategory category config.2.category)
  let existing_keys := configs.map Sigma.fst
  configs.map (fun config => .of_config config.1 config.2) ++
    (system_configs.filter (fun entry =>
      entry.1 ∉ existing_keys ∧ inCategory category entry.2.category)).map
        (fun entry => .of_default entry.1 entry.2)

def config_item (key : String) (table : Table) : Option Item :=
  match table.lookup key with
  | some config => some (.of_config key config)
  | none => (system_configs.lookup key).map (.of_default key)

def categories (table : Table) : List String :=
  let stored := (table.entries.map (fun config => config.2.category)).filter (· ≠ "")
  let defaults := system_configs.map (fun entry => entry.2.category)
  (stored ++ defaults).dedup.insertionSort (· ≤ ·)

inductive Response where
  | items (items : List Item)
  | item (item : Item)
  | categories (categories : List String)
  deriving DecidableEq

/-- An empty list that was cached counts as nothing. -/
def Response.truthy : Response → Bool
  | .items found => !found.isEmpty
  | .item _ | .categories _ => true

/-! ## Requests -/

/-- `config:list:`, `config:detail:` and `config:categories`. -/
inductive Key where
  | list (category : String)
  | detail (key : String)
  | categories
  deriving DecidableEq

/-- Whether a key matches `config:list:*`. -/
def Key.isList : Key → Bool
  | .list _ => true
  | .detail _ | .categories => false

inductive Query where
  | list_configs (category : Option String)
  | websocket_config
  | get_config (key : String)
  | list_categories

namespace Query

def cache_key : Query → Key
  | .list_configs category => .list (category.getD "None")
  | .websocket_config => .list "None"
  | .get_config key => .detail key
  | .list_categories => .categories

/-- None where there is no such configuration. -/
def response (table : Table) : Query → Option Response
  | .list_configs category => some (.items (config_items category table))
  | .websocket_config => some (.items (config_items none table))
  | .get_config key => (config_item key table).map .item
  | .list_categories => some (.categories (Admin.categories table))

/-- `ConfigItem` takes no null for `requires_restart`. -/
def accepts : Query → Response → Bool
  | .list_configs _, .items items =>
      items.all (fun item => item.requires_restart.isSome)
  | .get_config _, .item item => item.requires_restart.isSome
  | _, _ => true

end Query

inductive ReadStage where
  | started
  | missed
  | fetched (response : Response)
  | answered (response : Response)

/-- A read that started when the writes up to a version had returned. -/
structure Read where
  query : Query
  since : ℕ
  stage : ReadStage

inductive WriteStage where
  | committed
  | detail_deleted
  /-- The keys that `invalidate_pattern` has found. -/
  | listed (keys : Key → Bool)
  | lists_deleted

structure Write where
  key : String
  stage : WriteStage

structure State where
  cache : Cache Key Response Table
  /-- The writes that have not returned, by the version that they committed. -/
  writes : ℕ → Option Write
  /-- The newest version of a write that has returned. -/
  returned : ℕ
  reads : ℕ → Option Read

/-- The errors of the cache are swallowed: `ok` says that there was none. -/
inductive Label where
  | update_config (key value : String)
  | delete_config (key : String)
  | delete_detail (version : ℕ) (ok : Bool)
  | list_keys (version : ℕ) (ok : Bool)
  | delete_keys (version : ℕ) (ok : Bool)
  | finish (version : ℕ)
  | start (id : ℕ) (query : Query)
  | cache_get (id : ℕ) (ok : Bool)
  | fetch (id : ℕ)
  | cache_set (id : ℕ) (ok : Bool)
  | expire (key : Key)

namespace State

def commit (key : String) (table : Table) (state : State) : State :=
  { state with
    cache := state.cache.commit table
    writes := Function.update state.writes (state.cache.version + 1)
      (some { key, stage := .committed }) }

def setWrite (version : ℕ) (write : Option Write) (cache : Cache Key Response Table)
    (state : State) : State :=
  { state with cache, writes := Function.update state.writes version write }

def setRead (id : ℕ) (read : Option Read) (state : State) : State :=
  { state with reads := Function.update state.reads id read }

end State

/-- What a read does with the result of `cache_service.get`; none where it raises. -/
def Read.cache_get (cached : Option Response) (read : Read) : Option Read :=
  match cached.filter Response.truthy with
  | some response =>
      if read.query.accepts response then
        some { read with stage := .answered response }
      else none
  | none => some { read with stage := .missed }

/-- What a read does with the rows; none where it raises. -/
def Read.fetch (table : Table) (read : Read) : Option Read :=
  ((read.query.response table).filter read.query.accepts).map (fun response =>
    { read with stage := .fetched response })

def step (state : State) : Label → Option State
  | .update_config key value =>
      some (state.commit key (update_config key value state.cache.current))
  | .delete_config key =>
      (delete_config key state.cache.current).map (fun table => state.commit key table)
  | .delete_detail version ok =>
      match state.writes version with
      | some { key, stage := .committed } =>
          some (state.setWrite version (some { key, stage := .detail_deleted })
            (if ok then state.cache.invalidate (· = .detail key) version
              else state.cache))
      | _ => none
  | .list_keys version ok =>
      match state.writes version with
      | some { key, stage := .detail_deleted } =>
          let keys : Key → Bool :=
            fun slot => slot.isList && (state.cache.entries slot).isSome
          if ok then
            -- the other lists are not in the cache
            some (state.setWrite version (some { key, stage := .listed keys })
              (state.cache.demand (fun slot => slot.isList && !keys slot) version))
          else
            some (state.setWrite version (some { key, stage := .lists_deleted })
              state.cache)
      | _ => none
  | .delete_keys version ok =>
      match state.writes version with
      | some { key, stage := .listed keys } =>
          some (state.setWrite version (some { key, stage := .lists_deleted })
            (if ok then state.cache.invalidate keys version else state.cache))
      | _ => none
  | .finish version =>
      match state.writes version with
      | some { key := _, stage := .lists_deleted } =>
          some { state.setWrite version none
            (state.cache.demand (fun _ => true) version) with
            returned := max state.returned version }
      | _ => none
  | .start id query =>
      match state.reads id with
      | none =>
          some (state.setRead id
            (some { query, since := state.returned, stage := .started }))
      | some _ => none
  | .cache_get id ok =>
      match state.reads id with
      | some { query, since, stage := .started } =>
          let cached := if ok then state.cache.entries query.cache_key else none
          some (state.setRead id
            (Read.cache_get cached { query, since, stage := .started }))
      | _ => none
  | .fetch id =>
      match state.reads id with
      | some { query, since, stage := .missed } =>
          some (state.setRead id
            (Read.fetch state.cache.current { query, since, stage := .missed }))
      | _ => none
  | .cache_set id ok =>
      match state.reads id with
      | some { query, since, stage := .fetched response } =>
          some
            { state.setRead id (some { query, since, stage := .answered response }) with
              cache :=
                if ok then state.cache.store query.cache_key response else state.cache }
      | _ => none
  | .expire key => some { state with cache := state.cache.evict (· = key) }

def system (initial : State) : System State Label where
  start := initial
  step := step

/-! ## Freshness -/

/-- Some request with the key computes the response. -/
def Computed (slot : Key) (table : Table) (response : Response) : Prop :=
  ∃ query : Query, query.cache_key = slot ∧ query.response table = some response

/-- A read answers with what a state of the table gives that has every write that
had returned when the read started. -/
def Fresh (state : State) : Prop :=
  ∀ id query since response,
    state.reads id = some { query, since, stage := .answered response } →
    state.cache.Since since (Computed query.cache_key · response)

/-- The entries that a write deletes. -/
def Invalidates (key : String) (slot : Key) : Prop :=
  slot = .detail key ∨ slot.isList

/-- Nothing is stored that is older than the newest write that has invalidated
its key, entries that a write does not invalidate have the write when it returns,
and the deletions do not fail. -/
def Timely (state : State) : Label → Prop
  | .delete_detail _ ok | .list_keys _ ok | .delete_keys _ ok => ok = true
  | .finish version =>
      ∀ write, state.writes version = some write →
        ∀ slot response, ¬Invalidates write.key slot →
          state.cache.entries slot = some response →
          state.cache.Since version (Computed slot · response)
  | .cache_set id ok =>
      ok = true → ∀ query since response,
        state.reads id = some { query, since, stage := .fetched response } →
        state.cache.Since (state.cache.floor query.cache_key)
          (Computed query.cache_key · response)
  | _ => True

/-- No request is under way, and the cache has what the table gives. -/
structure Quiet (state : State) : Prop where
  reads : ∀ id, state.reads id = none
  writes : ∀ version, state.writes version = none
  returned : state.returned = 0
  cache : state.cache.Sound Computed

/-! ## The invariant -/

/-- What a write has invalidated so far. -/
def Write.Cleared (write : Write) (slot : Key) : Prop :=
  match write.stage with
  | .committed => False
  | .detail_deleted => slot = .detail write.key
  | .listed keys =>
      slot = .detail write.key ∨ (slot.isList ∧ keys slot = false)
  | .lists_deleted => Invalidates write.key slot

/-- The response of a read, once it has one. -/
def ReadStage.response? : ReadStage → Option Response
  | .started | .missed => none
  | .fetched response | .answered response => some response

structure Write.Valid (cache : Cache Key Response Table) (version : ℕ) (write : Write) :
    Prop where
  past : version ≤ cache.version
  cleared : ∀ slot, write.Cleared slot → version ≤ cache.floor slot

structure Read.Valid (cache : Cache Key Response Table) (read : Read) : Prop where
  since : ∀ slot, read.since ≤ cache.floor slot
  response : ∀ response, read.stage.response? = some response →
    cache.Since read.since (Computed read.query.cache_key · response)

structure Valid (state : State) : Prop where
  cache : state.cache.Sound Computed
  returned : ∀ slot, state.returned ≤ state.cache.floor slot
  writes : ∀ version write, state.writes version = some write →
    write.Valid state.cache version
  reads : ∀ id read, state.reads id = some read → read.Valid state.cache

section Preserved

variable {state : State} {cache : Cache Key Response Table}

theorem Write.Valid.extend {version : ℕ} {write : Write}
    (valid : write.Valid cache version)
    {after : Cache Key Response Table} (grown : cache.Extends after) :
    write.Valid after version where
  past := valid.past.trans grown.version
  cleared := fun slot cleared => (valid.cleared slot cleared).trans (grown.floor slot)

theorem Read.Valid.extend {read : Read} (valid : read.Valid cache)
    {after : Cache Key Response Table} (grown : cache.Extends after) :
    read.Valid after where
  since := fun slot => (valid.since slot).trans (grown.floor slot)
  response := fun response found => (valid.response response found).extend grown

/-- Another cache under the same requests. -/
theorem Valid.withCache (valid : Valid state) (grown : state.cache.Extends cache)
    (sound : cache.Sound Computed) : Valid { state with cache } where
  cache := sound
  returned := fun slot => (valid.returned slot).trans (grown.floor slot)
  writes := fun version write found => (valid.writes version write found).extend grown
  reads := fun id read found => (valid.reads id read found).extend grown

theorem Valid.setWrite (valid : Valid state) {version : ℕ} {write : Option Write}
    (grown : state.cache.Extends cache) (sound : cache.Sound Computed)
    (own : ∀ found, write = some found → found.Valid cache version) :
    Valid (state.setWrite version write cache) where
  cache := sound
  returned := (valid.withCache grown sound).returned
  reads := (valid.withCache grown sound).reads
  writes := Tasks.all_update
    (fun other found _ => (valid.withCache grown sound).writes other found) own

theorem Valid.setRead (valid : Valid state) {id : ℕ} {read : Option Read}
    (own : ∀ found, read = some found → found.Valid state.cache) :
    Valid (state.setRead id read) where
  cache := valid.cache
  returned := valid.returned
  writes := valid.writes
  reads := Tasks.all_update (fun other found _ => valid.reads other found) own

theorem Valid.commit (valid : Valid state) (key : String) (table : Table) :
    Valid (state.commit key table) := by
  apply valid.setWrite (.commit table state.cache) (valid.cache.commit table)
  intro found added
  obtain rfl := Option.some.inj added
  exact ⟨le_rfl, fun _ impossible => impossible.elim⟩

/-! ### The stages of a write -/

theorem Valid.delete_detail (valid : Valid state) {version : ℕ} {key : String}
    (found : state.writes version = some { key, stage := .committed }) :
    Valid (state.setWrite version (some { key, stage := .detail_deleted })
      (state.cache.invalidate (· = .detail key) version)) := by
  have past := (valid.writes version _ found).past
  apply valid.setWrite (.invalidate _ version state.cache)
    (valid.cache.invalidate _ past)
  intro write changed
  obtain rfl := Option.some.inj changed
  refine ⟨past, ?_⟩
  intro slot own
  exact Cache.floor_invalidate (decide_eq_true own)

theorem Valid.list_keys (valid : Valid state) {version : ℕ} {key : String}
    (found : state.writes version = some { key, stage := .detail_deleted }) :
    Valid (state.setWrite version
      (some
        { key
          stage := .listed
            (fun slot => slot.isList && (state.cache.entries slot).isSome) })
      (state.cache.demand (fun slot =>
        slot.isList && !(slot.isList && (state.cache.entries slot).isSome))
            version)) := by
  have write := valid.writes version _ found
  have grown := Cache.Extends.demand (fun slot : Key =>
    slot.isList && !(slot.isList && (state.cache.entries slot).isSome)) version
      state.cache
  apply valid.setWrite grown
  · apply valid.cache.demand write.past
    intro slot response missing present
    simp [present] at missing
  · intro listed changed
    obtain rfl := Option.some.inj changed
    refine ⟨write.past, ?_⟩
    rintro slot (own | ⟨list, missing⟩)
    · exact (write.cleared slot own).trans (grown.floor slot)
    · apply Cache.floor_demand
      simpa [list] using missing

theorem Valid.delete_keys (valid : Valid state) {version : ℕ} {key : String}
    {keys : Key → Bool}
    (found : state.writes version = some { key, stage := .listed keys }) :
    Valid (state.setWrite version (some { key, stage := .lists_deleted })
      (state.cache.invalidate keys version)) := by
  have write := valid.writes version _ found
  have grown := Cache.Extends.invalidate keys version state.cache
  apply valid.setWrite grown (valid.cache.invalidate keys write.past)
  intro deleted changed
  obtain rfl := Option.some.inj changed
  refine ⟨write.past, ?_⟩
  rintro slot (own | list)
  · exact (write.cleared slot (.inl own)).trans (grown.floor slot)
  · cases listed : keys slot with
    | true => exact Cache.floor_invalidate listed
    | false =>
        exact (write.cleared slot (.inr ⟨list, listed⟩)).trans (grown.floor slot)

theorem Valid.finish (valid : Valid state) {version : ℕ} {key : String}
    (found : state.writes version = some { key, stage := .lists_deleted })
    (timely : Timely state (.finish version)) :
    Valid { state.setWrite version none
        (state.cache.demand (fun _ => true) version) with
      returned := max state.returned version } := by
  have write := valid.writes version _ found
  have grown := Cache.Extends.demand (fun _ : Key => true) version state.cache
  have sound : (state.cache.demand (fun _ => true) version).Sound Computed := by
    apply valid.cache.demand write.past
    intro slot response _ present
    by_cases invalidated : Invalidates key slot
    · exact (valid.cache.since_floor slot response present).mono
        (write.cleared slot invalidated)
    · exact timely _ found slot response invalidated present
  have without : Valid (state.setWrite version none
      (state.cache.demand (fun _ => true) version)) :=
    valid.setWrite grown sound (fun _ impossible => by cases impossible)
  constructor
  · exact sound
  · intro slot
    exact max_le (without.returned slot) (Cache.floor_demand rfl)
  · exact without.writes
  · exact without.reads

/-! ### The stages of a read -/

theorem Read.Valid.cache_get {read found : Read} (valid : read.Valid cache)
    (sound : cache.Sound Computed) {cached : Option Response}
    (entry : ∀ response, cached = some response →
      cache.entries read.query.cache_key = some response)
    (got : read.cache_get cached = some found) : found.Valid cache := by
  unfold Read.cache_get at got
  split at got
  case h_1 response hit =>
    split at got
    case isTrue =>
      obtain rfl := Option.some.inj got
      refine ⟨valid.since, ?_⟩
      intro answer given
      obtain rfl := Option.some.inj given
      have present := entry response (Option.filter_eq_some_iff.mp hit).1
      exact (sound.since_floor _ response present).mono (valid.since _)
    case isFalse => contradiction
  case h_2 =>
    obtain rfl := Option.some.inj got
    exact ⟨valid.since, fun _ impossible => by cases impossible⟩

theorem Read.Valid.fetch {read found : Read} (valid : read.Valid cache)
    (sound : cache.Sound Computed) (fetched : read.fetch cache.current = some found) :
    found.Valid cache := by
  obtain ⟨response, computed, rfl⟩ := Option.map_eq_some_iff.mp fetched
  refine ⟨valid.since, ?_⟩
  intro answer given
  obtain rfl := Option.some.inj given
  apply Cache.since_current
  · exact (valid.since read.query.cache_key).trans (sound.floor_le _)
  · exact ⟨read.query, rfl, (Option.filter_eq_some_iff.mp computed).1⟩

end Preserved

theorem valid_step {before after : State} {label : Label} (valid : Valid before)
    (timely : Timely before label) (taken : step before label = some after) :
    Valid after := by
  cases label with
  | update_config key value =>
      obtain rfl := Option.some.inj taken
      exact valid.commit key _
  | delete_config key =>
      obtain ⟨table, -, rfl⟩ := Option.map_eq_some_iff.mp taken
      exact valid.commit key table
  | delete_detail version ok =>
      obtain rfl : ok = true := timely
      simp only [step] at taken
      split at taken
      case h_1 key found =>
        obtain rfl := Option.some.inj taken
        exact valid.delete_detail found
      case h_2 => contradiction
  | list_keys version ok =>
      obtain rfl : ok = true := timely
      simp only [step] at taken
      split at taken
      case h_1 key found =>
        obtain rfl := Option.some.inj taken
        exact valid.list_keys found
      case h_2 => contradiction
  | delete_keys version ok =>
      obtain rfl : ok = true := timely
      simp only [step] at taken
      split at taken
      case h_1 key keys found =>
        obtain rfl := Option.some.inj taken
        exact valid.delete_keys found
      case h_2 => contradiction
  | finish version =>
      simp only [step] at taken
      split at taken
      case h_1 key found =>
        obtain rfl := Option.some.inj taken
        exact valid.finish found timely
      case h_2 => contradiction
  | start id query =>
      simp only [step] at taken
      split at taken
      case h_1 =>
        obtain rfl := Option.some.inj taken
        apply valid.setRead
        intro read started
        obtain rfl := Option.some.inj started
        exact ⟨valid.returned, fun _ impossible => by cases impossible⟩
      case h_2 => contradiction
  | cache_get id ok =>
      simp only [step] at taken
      split at taken
      case h_1 query since found =>
        obtain rfl := Option.some.inj taken
        apply valid.setRead
        intro read got
        apply (valid.reads id _ found).cache_get valid.cache ?_ got
        intro response entry
        cases ok with
        | true => exact entry
        | false => cases entry
      case h_2 => contradiction
  | fetch id =>
      simp only [step] at taken
      split at taken
      case h_1 query since found =>
        obtain rfl := Option.some.inj taken
        apply valid.setRead
        intro read fetched
        exact (valid.reads id _ found).fetch valid.cache fetched
      case h_2 => contradiction
  | cache_set id ok =>
      simp only [step] at taken
      split at taken
      case h_1 query since response found =>
        obtain rfl := Option.some.inj taken
        have read := valid.reads id _ found
        have answered : Valid (before.setRead id
            (some { query, since, stage := .answered response })) := by
          apply valid.setRead
          intro answer given
          obtain rfl := Option.some.inj given
          exact ⟨read.since, read.response⟩
        cases ok with
        | true =>
            have recent := timely rfl query since response found
            exact answered.withCache (.store _ response before.cache)
              (valid.cache.store recent)
        | false => exact answered
      case h_2 => contradiction
  | expire key =>
      obtain rfl := Option.some.inj taken
      exact valid.withCache (.evict _ before.cache) (valid.cache.evict _)

theorem Quiet.valid {state : State} (quiet : Quiet state) : Valid state where
  cache := quiet.cache
  returned := fun _ => quiet.returned ▸ Nat.zero_le _
  writes := by
    intro version write under_way
    rw [quiet.writes version] at under_way
    cases under_way
  reads := by
    intro id read under_way
    rw [quiet.reads id] at under_way
    cases under_way

theorem Valid.fresh {state : State} (valid : Valid state) : Fresh state := by
  intro id query since response answered
  exact (valid.reads id _ answered).response response rfl

/-- In every run with timely steps a request that starts after a write returned
answers with a state of the table that has the write. -/
theorem reads_fresh {initial state : State} (quiet : Quiet initial)
    (reached : ReachedBy (system initial) Timely state) : Fresh state := by
  have valid : Valid state := by
    apply reached.invariant quiet.valid
    intro before label after valid timely taken
    exact valid_step valid timely taken
  exact valid.fresh

/-- No row and nothing in the cache. -/
def emptyState : State where
  cache :=
    { version := 0, tables := fun _ => ∅, entries := fun _ => none,
      floor := fun _ => 0 }
  writes := fun _ => none
  returned := 0
  reads := fun _ => none

theorem emptyState_quiet : Quiet emptyState where
  reads := fun _ => rfl
  writes := fun _ => rfl
  returned := rfl
  cache := ⟨fun _ => le_rfl, fun _ _ impossible => by cases impossible⟩

/-- The steps of a write after its commit. -/
def invalidations (version : ℕ) : List Label :=
  [.delete_detail version true, .list_keys version true, .delete_keys version true,
   .finish version]

/-- The steps of a read that finds nothing in the cache, up to the last. -/
def load (id : ℕ) (query : Query) : List Label :=
  [.start id query, .cache_get id true, .fetch id]

/-- The steps of an update up to its return. -/
def update_level : List Label :=
  [.update_config "log_level" "DEBUG", .delete_detail 1 true, .list_keys 1 true,
   .delete_keys 1 true]

/-- The state after some steps. -/
def after (labels : List Label) : State :=
  (labels.foldlM step emptyState).getD emptyState

theorem entries_update_level (slot : Key) :
    (after update_level).cache.entries slot = none := by
  cases slot with
  | list category => rfl
  | detail key =>
      change (if decide (Key.detail key = .detail "log_level") = true then none
        else none) = none
      exact ite_self _
  | categories => rfl

/-- An update, which has returned, and a read of its key. -/
theorem reads_fresh_update :
    ∃ state, ReachedBy (system emptyState) Timely state ∧ Fresh state ∧
      ∃ response, state.reads 0 =
          some
            { query := .get_config "log_level", since := 1
              stage := .answered (.item response) } ∧
        response.value = "DEBUG" := by
  have deleted : ReachedBy (system emptyState) Timely (after update_level) :=
    ReachedBy.follow (by simp [Timely, update_level]) .start
      (rfl : update_level.foldlM step emptyState = some _)
  have timely : Timely (after update_level) (.finish 1) := by
    intro write _ slot response _ present
    rw [entries_update_level] at present
    cases present
  have returned : ReachedBy (system emptyState) Timely
      (after (update_level ++ [.finish 1])) := .step deleted timely rfl
  have loaded : ReachedBy (system emptyState) Timely
      (after (update_level ++ .finish 1 :: load 0 (.get_config "log_level"))) :=
    ReachedBy.follow (by simp [Timely, load]) returned
      (rfl : (load 0 (.get_config "log_level")).foldlM step _ = some _)
  have recent : Timely (after (update_level ++ .finish 1 ::
      load 0 (.get_config "log_level"))) (.cache_set 0 true) := by
    intro _ query since response found
    obtain ⟨rfl, -, same⟩ := Read.mk.inj (Option.some.inj found)
    obtain rfl := ReadStage.fetched.inj same
    exact Cache.since_current (by decide) ⟨_, rfl, by decide⟩
  have answered : ReachedBy (system emptyState) Timely
      (after (update_level ++ .finish 1 :: load 0 (.get_config "log_level") ++
        [.cache_set 0 true])) := .step loaded recent rfl
  exact ⟨_, answered, reads_fresh emptyState_quiet answered, _, rfl, rfl⟩

/-- For a key of one query. -/
theorem computed_iff {query : Query} (single : query.cache_key.isList = false)
    {table : Table} {response : Response} :
    Computed query.cache_key table response ↔ query.response table = some response := by
  constructor
  · rintro ⟨other, same, computed⟩
    cases query with
    | list_configs => cases single
    | websocket_config => cases single
    | get_config =>
        cases other <;> cases same
        exact computed
    | list_categories =>
        cases other <;> cases same
        exact computed
  · intro computed
    exact ⟨query, rfl, computed⟩

/-- An answer that is not what the table gives, although every write had returned. -/
theorem not_fresh {state : State} {id : ℕ} {query : Query} {response : Response}
    (answered : state.reads id =
      some { query, since := state.cache.version, stage := .answered response })
    (single : query.cache_key.isList = false)
    (old : query.response state.cache.current ≠ some response) : ¬Fresh state := by
  intro fresh
  apply old
  apply (computed_iff single).mp
  exact Cache.since_version_iff.mp (fresh id query _ response answered)

/-- A read that has found the old row stores it when the write has returned. -/
def overtaken : List Label :=
  load 0 (.get_config "log_level") ++ .update_config "log_level" "DEBUG" ::
    invalidations 1 ++
    [.cache_set 0 true, .start 1 (.get_config "log_level"), .cache_get 1 true]

/-- The categories are in the cache when a write adds one. -/
def uninvalidated : List Label :=
  load 0 .list_categories ++ [.cache_set 0 true, .update_config "spot_symbols" "[]"] ++
    invalidations 1 ++ [.start 1 .list_categories, .cache_get 1 true]

theorem reads_stale :
    (∃ state, Reachable (system emptyState) state ∧ ¬Fresh state) ∧
    ∃ state, Reachable (system emptyState) state ∧ ¬Fresh state := by
  constructor
  · have reached := ReachedBy.follow (fun _ _ _ => trivial)
      (.start : Reachable (system emptyState) _)
      (rfl : overtaken.foldlM step emptyState = some _)
    refine ⟨_, reached, @not_fresh _ 1 (.get_config "log_level") _ rfl rfl ?_⟩
    decide
  · have reached := ReachedBy.follow (fun _ _ _ => trivial)
      (.start : Reachable (system emptyState) _)
      (rfl : uninvalidated.foldlM step emptyState = some _)
    refine ⟨_, reached, @not_fresh _ 1 .list_categories _ rfl rfl ?_⟩
    with_unfolding_all decide

end HftEngine.Admin
