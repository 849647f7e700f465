import HftEngine.Lib.Caching
import HftEngine.Lib.Tasks
import HftEngine.Lib.Transition

/-!
# Changes of instruments and the cached list of the ingestion

An admin request commits a change, deletes the list from the second tier, which
all instances of the ingestion share, and then publishes an event.  An instance
that takes an event clears its own first tier.  A call of
`get_active_instruments_cached` goes from the first tier to the second and to the
table, and may be overtaken at each of its awaits.
-/

namespace HftEngine.Instruments

open Caching Transition

/-! ## The table -/

structure Instrument where
  id : ℤ
  symbol_id : ℤ
  symbol : String
  segment_id : ℤ
  is_active : Bool

abbrev Table := List Instrument

/-- An element of the cached list. -/
structure ActiveInstrument where
  symbol : String
  symbol_id : ℤ
  security_id : ℤ
  segment_id : ℤ
  deriving DecidableEq

def active_instruments (table : Table) : List ActiveInstrument :=
  (table.filter Instrument.is_active).map (fun i =>
    { symbol := i.symbol, symbol_id := i.symbol_id, security_id := i.symbol_id
      segment_id := i.segment_id })

structure InstrumentUpdate where
  symbol_id : Option ℤ
  symbol : Option String
  segment_id : Option ℤ
  is_active : Option Bool

def InstrumentUpdate.apply (update : InstrumentUpdate) (instrument : Instrument) :
    Instrument :=
  { instrument with
    symbol_id := update.symbol_id.getD instrument.symbol_id
    symbol := update.symbol.getD instrument.symbol
    segment_id := update.segment_id.getD instrument.segment_id
    is_active := update.is_active.getD instrument.is_active }

inductive Operation where
  /-- The id of the new row is chosen by the database. -/
  | create_instrument (instrument : Instrument)
  | update_instrument (instrument_id : ℤ) (instrument : InstrumentUpdate)
  | delete_instrument (instrument_id : ℤ)
  | activate_instrument (instrument_id : ℤ)
  | deactivate_instrument (instrument_id : ℤ)

/-- Change the row of an id, if there is one. -/
def change_row (instrument_id : ℤ) (change : Instrument → Instrument) (table : Table) :
    Table :=
  table.map (fun i => if i.id = instrument_id then change i else i)

/-- None where the request is refused, or the transaction fails because a
`symbol_id` is not unique. -/
def Operation.apply (table : Table) : Operation → Option Table
  | .create_instrument instrument =>
      if instrument.symbol_id ∉ table.map Instrument.symbol_id ∧
          instrument.id ∉ table.map Instrument.id then
        some (table ++ [instrument])
      else none
  | .update_instrument instrument_id instrument =>
      let updated := change_row instrument_id instrument.apply table
      if instrument_id ∈ table.map Instrument.id ∧
          (updated.map Instrument.symbol_id).Nodup then
        some updated
      else none
  | .delete_instrument instrument_id =>
      if instrument_id ∈ table.map Instrument.id then
        some (table.filter (fun i => i.id ≠ instrument_id))
      else none
  | .activate_instrument instrument_id =>
      some (change_row instrument_id (fun i => { i with is_active := true }) table)
  | .deactivate_instrument instrument_id =>
      some (change_row instrument_id (fun i => { i with is_active := false }) table)

/-! ## Calls, changes and events -/

/-- Where the list is kept under the key `active_list`. -/
inductive Tier (Id : Type) where
  | l1 (service : Id)
  | l2
  deriving DecidableEq

inductive CallStage where
  | l1_missed
  /-- The answer of Redis, which is not in the first tier yet. -/
  | l2_read (value : List ActiveInstrument)
  | missed
  | fetched (value : List ActiveInstrument)
  | l1_set (value : List ActiveInstrument)
  | returned (value : List ActiveInstrument)

/-- A call that started when its instance had processed the events of the changes
up to a version. -/
structure Call (Id : Type) where
  service : Id
  since : ℕ
  stage : CallStage

inductive ChangeStage where
  | committed
  | l2_deleted

structure State (Id : Type) where
  cache : Cache (Tier Id) (List ActiveInstrument) Table
  /-- The changes whose event is not published, by the version that they committed. -/
  changes : ℕ → Option ChangeStage
  /-- The events that an instance has not taken, with the versions of their changes. -/
  events : Id → List ℕ
  /-- The newest version whose event an instance has processed. -/
  processed : Id → ℕ
  calls : ℕ → Option (Call Id)

/-- The errors of Redis are swallowed in the tiers, but not in `publish`; `ok` says
that there was none. -/
inductive Label (Id : Type) where
  | change (operation : Operation)
  | delete_l2 (version : ℕ) (ok : Bool)
  | publish (version : ℕ) (ok : Bool)
  | process (service : Id)
  | call (id : ℕ) (service : Id)
  | l2_get (id : ℕ) (ok : Bool)
  | populate_l1 (id : ℕ)
  | fetch (id : ℕ)
  | set_l1 (id : ℕ)
  | set_l2 (id : ℕ) (ok : Bool)
  | expire (tier : Tier Id)

section Step

variable {Id : Type} [DecidableEq Id]

def State.setCall (id : ℕ) (call : Call Id)
    (cache : Cache (Tier Id) (List ActiveInstrument) Table) (state : State Id) :
    State Id :=
  { state with cache, calls := Function.update state.calls id (some call) }

def State.publish (version : ℕ) (ok : Bool) (state : State Id) : State Id :=
  { state with
    changes := Function.update state.changes version none
    events := if ok then fun id => state.events id ++ [version] else state.events }

def step (state : State Id) : Label Id → Option (State Id)
  | .change operation =>
      (operation.apply state.cache.current).map (fun table =>
        { state with
          cache := state.cache.commit table
          changes :=
            Function.update state.changes (state.cache.version + 1) (some .committed) })
  | .delete_l2 version ok =>
      match state.changes version with
      | some .committed =>
          some
            { state with
              cache :=
                if ok then state.cache.invalidate (· = .l2) version else state.cache
              changes := Function.update state.changes version (some .l2_deleted) }
      | _ => none
  | .publish version ok =>
      match state.changes version with
      | some .l2_deleted => some (state.publish version ok)
      | _ => none
  | .process service =>
      match state.events service with
      | version :: events =>
          some
            { state with
              cache := state.cache.invalidate (· = .l1 service) version
              events := Function.update state.events service events
              processed := Function.update state.processed service
                (max (state.processed service) version) }
      | [] => none
  | .call id service =>
      match state.calls id with
      | none =>
          let stage :=
            match state.cache.entries (.l1 service) with
            | some value => CallStage.returned value
            | none => .l1_missed
          some (state.setCall id { service, since := state.processed service, stage }
            state.cache)
      | some _ => none
  | .l2_get id ok =>
      match state.calls id with
      | some { service, since, stage := .l1_missed } =>
          let stage :=
            match if ok then state.cache.entries .l2 else none with
            | some value => CallStage.l2_read value
            | none => .missed
          some (state.setCall id { service, since, stage } state.cache)
      | _ => none
  | .populate_l1 id =>
      match state.calls id with
      | some { service, since, stage := .l2_read value } =>
          some (state.setCall id { service, since, stage := .returned value }
            (state.cache.store (.l1 service) value))
      | _ => none
  | .fetch id =>
      match state.calls id with
      | some { service, since, stage := .missed } =>
          let value := active_instruments state.cache.current
          some (state.setCall id { service, since, stage := .fetched value }
            state.cache)
      | _ => none
  | .set_l1 id =>
      match state.calls id with
      | some { service, since, stage := .fetched value } =>
          some (state.setCall id { service, since, stage := .l1_set value }
            (state.cache.store (.l1 service) value))
      | _ => none
  | .set_l2 id ok =>
      match state.calls id with
      | some { service, since, stage := .l1_set value } =>
          some (state.setCall id { service, since, stage := .returned value }
            (if ok then state.cache.store .l2 value else state.cache))
      | _ => none
  | .expire tier => some { state with cache := state.cache.evict (· = tier) }

def system (initial : State Id) : System (State Id) (Label Id) where
  start := initial
  step := step

end Step

/-! ## Freshness -/

section Fresh

variable {Id : Type}

/-- A tier holds the active instruments. -/
def Holds (_ : Tier Id) (table : Table) (value : List ActiveInstrument) : Prop :=
  active_instruments table = value

/-- A call returns the active instruments of a state of the table that has every
change whose event had been processed when the call started. -/
def Fresh (state : State Id) : Prop :=
  ∀ id service since value,
    state.calls id = some { service, since, stage := .returned value } →
    state.cache.Since since (active_instruments · = value)

/-- What a call is about to put into a tier has every change that the tier has been
cleared for, and the second tier is cleared without an error. -/
def Timely (state : State Id) : Label Id → Prop
  | .delete_l2 _ ok => ok = true
  | .populate_l1 id =>
      ∀ service since value,
        state.calls id = some { service, since, stage := .l2_read value } →
        state.cache.Since (state.cache.floor (.l1 service))
          (active_instruments · = value)
  | .set_l1 id =>
      ∀ service since value,
        state.calls id = some { service, since, stage := .fetched value } →
        state.cache.Since (state.cache.floor (.l1 service))
          (active_instruments · = value)
  | .set_l2 id ok =>
      ok = true → ∀ service since value,
        state.calls id = some { service, since, stage := .l1_set value } →
        state.cache.Since (state.cache.floor .l2) (active_instruments · = value)
  | _ => True

/-- Nothing is under way, and the tiers hold what the table gives. -/
structure Quiet (state : State Id) : Prop where
  calls : ∀ id, state.calls id = none
  changes : ∀ version, state.changes version = none
  events : ∀ service, state.events service = []
  processed : ∀ service, state.processed service = 0
  cache : state.cache.Sound Holds

/-! ## The invariant -/

/-- The list of a call, once it has one. -/
def CallStage.value? : CallStage → Option (List ActiveInstrument)
  | .l1_missed | .missed => none
  | .l2_read value | .fetched value | .l1_set value | .returned value => some value

structure ChangeStage.Valid (cache : Cache (Tier Id) (List ActiveInstrument) Table)
    (version : ℕ) (stage : ChangeStage) : Prop where
  past : version ≤ cache.version
  deleted : stage = .l2_deleted → version ≤ cache.floor .l2

structure Call.Valid (cache : Cache (Tier Id) (List ActiveInstrument) Table)
    (call : Call Id) : Prop where
  since : call.since ≤ cache.floor .l2
  value : ∀ value, call.stage.value? = some value →
    cache.Since call.since (active_instruments · = value)

structure Valid (state : State Id) : Prop where
  cache : state.cache.Sound Holds
  changes : ∀ version stage, state.changes version = some stage →
    stage.Valid state.cache version
  /-- An event is published after the second tier has been cleared. -/
  events : ∀ service, ∀ version ∈ state.events service,
    version ≤ state.cache.floor .l2
  processed : ∀ service tier, tier = .l2 ∨ tier = .l1 service →
    state.processed service ≤ state.cache.floor tier
  calls : ∀ id call, state.calls id = some call → call.Valid state.cache

theorem ChangeStage.Valid.extend
    {cache after : Cache (Tier Id) (List ActiveInstrument) Table}
    {version : ℕ} {stage : ChangeStage} (valid : stage.Valid cache version)
    (grown : cache.Extends after) : stage.Valid after version where
  past := valid.past.trans grown.version
  deleted := fun deleted => (valid.deleted deleted).trans (grown.floor _)

theorem Call.Valid.extend {cache after : Cache (Tier Id) (List ActiveInstrument) Table}
    {call : Call Id} (valid : call.Valid cache) (grown : cache.Extends after) :
    call.Valid after where
  since := valid.since.trans (grown.floor _)
  value := fun value found => (valid.value value found).extend grown

variable {state : State Id} {cache : Cache (Tier Id) (List ActiveInstrument) Table}

/-- Other tiers under the same calls. -/
theorem Valid.withCache (valid : Valid state) (grown : state.cache.Extends cache)
    (sound : cache.Sound Holds) : Valid { state with cache } where
  cache := sound
  changes := fun version stage found => (valid.changes version stage found).extend grown
  events := fun service version waiting =>
    (valid.events service version waiting).trans (grown.floor _)
  processed := fun service tier among =>
    (valid.processed service tier among).trans (grown.floor _)
  calls := fun id call found => (valid.calls id call found).extend grown

theorem Valid.setChange (valid : Valid state) {version : ℕ} {stage : Option ChangeStage}
    (own : ∀ found, stage = some found → found.Valid state.cache version) :
    Valid { state with changes := Function.update state.changes version stage } where
  cache := valid.cache
  events := valid.events
  processed := valid.processed
  calls := valid.calls
  changes := Tasks.all_update (fun other found _ => valid.changes other found) own

theorem Valid.setCall (valid : Valid state) {id : ℕ} {call : Call Id}
    (grown : state.cache.Extends cache) (sound : cache.Sound Holds)
    (own : call.Valid state.cache) : Valid (state.setCall id call cache) := by
  have others := valid.withCache grown sound
  exact { others with calls := Tasks.All.update others.calls (own.extend grown) }

/-! ### Changes and events -/

theorem Valid.change (valid : Valid state) (table : Table) :
    Valid
      { state with
        cache := state.cache.commit table
        changes :=
          Function.update state.changes (state.cache.version + 1)
            (some .committed) } := by
  have committed := valid.withCache (.commit table state.cache)
    (valid.cache.commit table)
  apply committed.setChange
  intro stage added
  obtain rfl := Option.some.inj added
  exact ⟨le_rfl, fun impossible => by cases impossible⟩

theorem Valid.publish (valid : Valid state) {version : ℕ} {ok : Bool}
    (found : state.changes version = some .l2_deleted) :
    Valid (state.publish version ok) := by
  have published : Valid
      { state with changes := Function.update state.changes version none } :=
    valid.setChange (fun _ impossible => by cases impossible)
  refine { published with events := ?_ }
  intro service waiting among
  cases ok with
  | true =>
      rcases List.mem_append.mp among with before | new
      · exact valid.events service waiting before
      · obtain rfl := List.mem_singleton.mp new
        exact (valid.changes waiting _ found).deleted rfl
  | false => exact valid.events service waiting among

/-! ### Calls -/

/-- A call that starts returns what the first tier of its instance holds. -/
theorem Valid.call (valid : Valid state) (id : ℕ) (service : Id) :
    Valid (state.setCall id
      { service, since := state.processed service
        stage :=
          match state.cache.entries (.l1 service) with
          | some value => .returned value
          | none => .l1_missed } state.cache) := by
  apply valid.setCall (.refl _) valid.cache
  refine ⟨valid.processed service .l2 (.inl rfl), ?_⟩
  intro value found
  have started := valid.processed service (.l1 service) (.inr rfl)
  cases hit : state.cache.entries (.l1 service) with
  | some cached =>
      simp only [hit] at found
      obtain rfl := Option.some.inj found
      exact (valid.cache.since_floor _ cached hit).mono started
  | none =>
      simp only [hit] at found
      cases found

theorem Valid.l2_get (valid : Valid state) {id since : ℕ} {service : Id}
    (under_way : state.calls id = some { service, since, stage := .l1_missed })
    (ok : Bool) :
    Valid (state.setCall id
      { service, since
        stage :=
          match if ok then state.cache.entries .l2 else none with
          | some value => .l2_read value
          | none => .missed } state.cache) := by
  have started := (valid.calls id _ under_way).since
  apply valid.setCall (.refl _) valid.cache
  refine ⟨started, ?_⟩
  intro value found
  cases ok with
  | true =>
      cases hit : state.cache.entries .l2 with
      | some cached =>
          simp only [hit, if_true] at found
          obtain rfl := Option.some.inj found
          exact (valid.cache.since_floor _ cached hit).mono started
      | none =>
          simp only [hit, if_true] at found
          cases found
  | false => cases found

theorem Valid.fetch (valid : Valid state) {id since : ℕ} {service : Id}
    (under_way : state.calls id = some { service, since, stage := .missed }) :
    Valid (state.setCall id
      { service, since
        stage := .fetched (active_instruments state.cache.current) } state.cache) := by
  have started := (valid.calls id _ under_way).since
  apply valid.setCall (.refl _) valid.cache
  refine ⟨started, ?_⟩
  intro value found
  obtain rfl := Option.some.inj found
  exact Cache.since_current (started.trans (valid.cache.floor_le .l2)) rfl

/-! ### Tiers -/

variable [DecidableEq Id]

theorem Valid.delete_l2 (valid : Valid state) {version : ℕ}
    (found : state.changes version = some .committed) :
    Valid
      { state with
        cache := state.cache.invalidate (· = .l2) version
        changes := Function.update state.changes version (some .l2_deleted) } := by
  have past := (valid.changes version _ found).past
  have deleted := valid.withCache (.invalidate _ version state.cache)
    (valid.cache.invalidate (· = Tier.l2) past)
  apply deleted.setChange
  intro stage added
  obtain rfl := Option.some.inj added
  exact ⟨past, fun _ => Cache.floor_invalidate (decide_eq_true rfl)⟩

theorem Valid.process (valid : Valid state) {service : Id} {version : ℕ}
    {events : List ℕ}
    (waiting : state.events service = version :: events) :
    Valid
      { state with
        cache := state.cache.invalidate (· = .l1 service) version
        events := Function.update state.events service events
        processed := Function.update state.processed service
          (max (state.processed service) version) } := by
  have deleted : version ≤ state.cache.floor .l2 := by
    apply valid.events service
    rw [waiting]
    exact List.mem_cons_self
  have grown := Cache.Extends.invalidate (· = Tier.l1 service) version state.cache
  have cleared := valid.withCache grown
    (valid.cache.invalidate (· = Tier.l1 service)
      (deleted.trans (valid.cache.floor_le .l2)))
  refine { cleared with events := ?_, processed := ?_ }
  · intro other later among
    by_cases same : other = service
    · subst same
      simp only [Function.update_self] at among
      apply cleared.events other
      rw [waiting]
      exact List.mem_cons_of_mem _ among
    · simp only [Function.update_of_ne same] at among
      exact cleared.events other later among
  · intro other tier among
    by_cases same : other = service
    · subst same
      simp only [Function.update_self]
      apply max_le (cleared.processed other tier among)
      rcases among with rfl | rfl
      · exact deleted.trans (grown.floor .l2)
      · exact Cache.floor_invalidate (decide_eq_true rfl)
    · simp only [Function.update_of_ne same]
      exact cleared.processed other tier among

/-- A call puts its list, which is recent enough, into a tier. -/
theorem Valid.store (valid : Valid state) {id since : ℕ} {service : Id}
    {stage : CallStage} {value : List ActiveInstrument}
    (under_way : state.calls id = some { service, since, stage }) (next : CallStage)
    (kept : next.value? = stage.value?) (tier : Tier Id)
    (recent : state.cache.Since (state.cache.floor tier)
      (active_instruments · = value)) :
    Valid (state.setCall id { service, since, stage := next }
      (state.cache.store tier value)) := by
  have call := valid.calls id _ under_way
  apply valid.setCall (.store tier value state.cache) (valid.cache.store recent)
  refine ⟨call.since, ?_⟩
  intro value found
  exact call.value value (kept ▸ found)

theorem valid_step {before after : State Id} {label : Label Id} (valid : Valid before)
    (timely : Timely before label) (taken : step before label = some after) :
    Valid after := by
  cases label with
  | change operation =>
      obtain ⟨table, -, rfl⟩ := Option.map_eq_some_iff.mp taken
      exact valid.change table
  | delete_l2 version ok =>
      obtain rfl : ok = true := timely
      simp only [step] at taken
      split at taken
      case h_1 found =>
        obtain rfl := Option.some.inj taken
        exact valid.delete_l2 found
      case h_2 => contradiction
  | publish version ok =>
      simp only [step] at taken
      split at taken
      case h_1 found =>
        obtain rfl := Option.some.inj taken
        exact valid.publish found
      case h_2 => contradiction
  | process service =>
      simp only [step] at taken
      split at taken
      case h_1 version events waiting =>
        obtain rfl := Option.some.inj taken
        exact valid.process waiting
      case h_2 => contradiction
  | call id service =>
      simp only [step] at taken
      split at taken
      case h_1 =>
        obtain rfl := Option.some.inj taken
        exact valid.call id service
      case h_2 => contradiction
  | l2_get id ok =>
      simp only [step] at taken
      split at taken
      case h_1 service since under_way =>
        obtain rfl := Option.some.inj taken
        exact valid.l2_get under_way ok
      case h_2 => contradiction
  | populate_l1 id =>
      simp only [step] at taken
      split at taken
      case h_1 service since value under_way =>
        obtain rfl := Option.some.inj taken
        have recent := timely service since value under_way
        exact valid.store under_way (.returned value) rfl _ recent
      case h_2 => contradiction
  | fetch id =>
      simp only [step] at taken
      split at taken
      case h_1 service since under_way =>
        obtain rfl := Option.some.inj taken
        exact valid.fetch under_way
      case h_2 => contradiction
  | set_l1 id =>
      simp only [step] at taken
      split at taken
      case h_1 service since value under_way =>
        obtain rfl := Option.some.inj taken
        have recent := timely service since value under_way
        exact valid.store under_way (.l1_set value) rfl _ recent
      case h_2 => contradiction
  | set_l2 id ok =>
      simp only [step] at taken
      split at taken
      case h_1 service since value under_way =>
        obtain rfl := Option.some.inj taken
        cases ok with
        | true =>
            have recent := timely rfl service since value under_way
            exact valid.store under_way (.returned value) rfl _ recent
        | false =>
            have call := valid.calls id _ under_way
            exact valid.setCall (.refl _) valid.cache ⟨call.since, call.value⟩
      case h_2 => contradiction
  | expire tier =>
      obtain rfl := Option.some.inj taken
      exact valid.withCache (.evict _ before.cache) (valid.cache.evict _)

omit [DecidableEq Id] in
theorem Quiet.valid (quiet : Quiet state) : Valid state where
  cache := quiet.cache
  changes := by
    intro version stage under_way
    rw [quiet.changes version] at under_way
    cases under_way
  events := by
    intro service version waiting
    rw [quiet.events service] at waiting
    cases waiting
  processed := fun service _ _ => quiet.processed service ▸ Nat.zero_le _
  calls := by
    intro id call under_way
    rw [quiet.calls id] at under_way
    cases under_way

end Fresh

/-- In every run with timely steps a call that starts after an event has been
processed returns a list of a state of the table that has the change. -/
theorem calls_fresh {Id : Type} [DecidableEq Id] {initial state : State Id}
    (quiet : Quiet initial) (reached : ReachedBy (system initial) Timely state) :
    Fresh state := by
  have valid : Valid state := by
    apply reached.invariant quiet.valid
    intro before label after valid timely taken
    exact valid_step valid timely taken
  intro id service since value returned
  exact (valid.calls id _ returned).value value rfl

/-- One instance, no instruments and nothing in the tiers. -/
def emptyState : State Unit where
  cache :=
    { version := 0, tables := fun _ => [], entries := fun _ => none,
      floor := fun _ => 0 }
  changes := fun _ => none
  events := fun _ => []
  processed := fun _ => 0
  calls := fun _ => none

theorem emptyState_quiet : Quiet emptyState where
  calls := fun _ => rfl
  changes := fun _ => rfl
  events := fun _ => rfl
  processed := fun _ => rfl
  cache := ⟨fun _ => le_rfl, fun _ _ impossible => by cases impossible⟩

def nifty : Instrument where
  id := 1
  symbol_id := 13
  symbol := "NIFTY"
  segment_id := 0
  is_active := true

/-- A change, up to the end of its event. -/
def announced (operation : Operation) (version : ℕ) : List (Label Unit) :=
  [.change operation, .delete_l2 version true, .publish version true, .process ()]

/-- A call that finds nothing in the tiers, before it fills them. -/
def load (id : ℕ) : List (Label Unit) :=
  [.call id (), .l2_get id true, .fetch id]

/-- The state after some steps. -/
def after (labels : List (Label Unit)) : State Unit :=
  (labels.foldlM step emptyState).getD emptyState

/-- A change whose event is processed, and a call. -/
def change_and_load : List (Label Unit) :=
  announced (.create_instrument nifty) 1 ++ load 0

theorem calls_fresh_create :
    ∃ state, ReachedBy (system emptyState) Timely state ∧ Fresh state ∧
      state.calls 0 =
        some
          { service := (), since := 1
            stage := .returned
              [{ symbol := "NIFTY", symbol_id := 13, security_id := 13
                 segment_id := 0 }] } := by
  have loaded : ReachedBy (system emptyState) Timely (after change_and_load) :=
    ReachedBy.follow (by simp [Timely, change_and_load, announced, load]) .start
      (rfl : change_and_load.foldlM step emptyState = some _)
  have first : Timely (after change_and_load) (.set_l1 0) := by
    intro service since value fetched
    obtain ⟨rfl, -, same⟩ := Call.mk.inj (Option.some.inj fetched)
    obtain rfl := CallStage.fetched.inj same
    exact Cache.since_current (by decide) rfl
  have kept : ReachedBy (system emptyState) Timely
      (after (change_and_load ++ [.set_l1 0])) := .step loaded first rfl
  have second : Timely (after (change_and_load ++ [.set_l1 0])) (.set_l2 0 true) := by
    intro _ service since value set
    obtain ⟨rfl, -, same⟩ := Call.mk.inj (Option.some.inj set)
    obtain rfl := CallStage.l1_set.inj same
    exact Cache.since_current (by decide) rfl
  have returned : ReachedBy (system emptyState) Timely
      (after (change_and_load ++ [.set_l1 0, .set_l2 0 true])) := .step kept second rfl
  exact ⟨_, returned, calls_fresh emptyState_quiet returned, rfl⟩

/-- A call whose list is not the one of the table, although every event has been
processed. -/
theorem not_fresh {state : State Unit} {id : ℕ} {value : List ActiveInstrument}
    (returned : state.calls id =
      some { service := (), since := state.cache.version, stage := .returned value })
    (old : active_instruments state.cache.current ≠ value) : ¬Fresh state := by
  intro fresh
  apply old
  exact Cache.since_version_iff.mp (fresh id () _ value returned)

/-- A call that has read the table before a change fills the tiers after the
event. -/
def refilled_l1 : List (Label Unit) :=
  load 0 ++ announced (.create_instrument nifty) 1 ++
    [.set_l1 0, .set_l2 0 true, .call 1 ()]

/-- A call fills the second tier after it has been cleared, and the first before. -/
def refilled_l2 : List (Label Unit) :=
  load 0 ++ .set_l1 0 :: announced (.create_instrument nifty) 1 ++
    [.set_l2 0 true, .call 1 (), .l2_get 1 true, .populate_l1 1]

theorem calls_stale :
    (∃ state, Reachable (system emptyState) state ∧ ¬Fresh state) ∧
    ∃ state, Reachable (system emptyState) state ∧ ¬Fresh state := by
  constructor
  · have reached := ReachedBy.follow (fun _ _ _ => trivial)
      (.start : Reachable (system emptyState) _)
      (rfl : refilled_l1.foldlM step emptyState = some _)
    refine ⟨_, reached, @not_fresh _ 1 _ rfl ?_⟩
    decide
  · have reached := ReachedBy.follow (fun _ _ _ => trivial)
      (.start : Reachable (system emptyState) _)
      (rfl : refilled_l2.foldlM step emptyState = some _)
    refine ⟨_, reached, @not_fresh _ 1 _ rfl ?_⟩
    decide

end HftEngine.Instruments
