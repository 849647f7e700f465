import HftEngine.Lib.Calendar
import HftEngine.Lib.Transition
import Mathlib.Logic.Function.Basic

/-!
# The chain in the store

`dataSlice` with its requests that are under way.  A timestamp is a whole number, and the
conversion of a text to one is a parameter.  Of a chain only what the reducers read is
kept: the legs, spot and futures that `normalizeBackendData` renames are left out.
-/

namespace HftEngine.Frontend.DataSlice

open Transition

/-- A timestamp, a text or nothing. -/
inductive Expiry where
  | null
  | number (seconds : ℤ)
  | text (written : String)
  deriving DecidableEq

def Expiry.truthy : Expiry → Bool
  | .null => false
  | .number seconds => seconds ≠ 0
  | .text written => written ≠ ""

/-- What an answer or a message has: the chain of a symbol and an expiry, and the expiry
that it carries, `raw.expiry || raw.context?.expiry`. -/
structure Raw where
  symbol : String
  expiry : Expiry
  carried : Expiry
  oc : Bool
  expiry_list : List ℤ
  deriving DecidableEq

/-! ## Comparing expiries -/

/-- The month and the day in UTC, padded.  The calendar repeats after 400 years. -/
def monthDay (seconds : ℤ) : String :=
  if 8640000000000 < seconds then "NaN-NaN"
  else
    match Calendar.DateTime.ofTimestamp? 0 (seconds % (146097 * 86400)) with
    | some moment =>
        Calendar.Date.padded 2 moment.date.month ++ "-" ++
          Calendar.Date.padded 2 moment.date.day
    | none => "NaN-NaN"

section Slice

variable (Number : String → Option ℤ)

/-- `Number(expiry)`, none for NaN. -/
def toNumber : Expiry → Option ℤ
  | .null => some 0
  | .number seconds => some seconds
  | .text written => Number written

/-- The month and the day of a text with dashes. -/
def dashed (written : String) : Option String :=
  match ((written.toList.splitOn 'T').headD []).splitOn '-' with
  | _ :: month :: day :: _ => some (String.ofList month ++ "-" ++ String.ofList day)
  | _ => none

def normalizeExpiryForComparison (expiry : Expiry) : Option String :=
  if !expiry.truthy then none
  else
    let stamp := ((toNumber Number expiry).filter (0 < ·)).map monthDay
    match expiry with
    | .text written => if '-' ∈ written.toList then dashed written else stamp
    | .number _ | .null => stamp

/-- The selected expiry; NaN counts as nothing. -/
def ofSelected : Option ℤ → Expiry
  | some seconds => .number seconds
  | none => .null

/-- `getLatestExpiry` where it is truthy. -/
def latestExpiry (expiryArray : List ℤ) : Option ℤ :=
  expiryArray.min?.filter (· ≠ 0)

/-! ## The slice -/

/-- The keys of `activeRequests`. -/
inductive Key where
  | fetchExpiryDate (sid symbol : Option String)
  | fetchLiveData (sid : String) (exp_sid : Option ℤ)
  deriving DecidableEq

structure State where
  data : Option Raw := none
  expDate : List ℤ := []
  exp_sid : Option ℤ := none
  ingestedExpiry : Expiry := .null
  isExpiryMatch : Bool := true
  sid : String := "NIFTY"
  activeRequests : List Key := []
  requests : ℕ → Option Key := fun _ => none
  sent : ℕ := 0

namespace State

def setExp_sid (state : State) (payload : Expiry) : State :=
  let newExpiry := toNumber Number payload
  let normalizedNew := normalizeExpiryForComparison Number (ofSelected newExpiry)
  let normalizedIngested := normalizeExpiryForComparison Number state.ingestedExpiry
  { state with
    exp_sid := newExpiry
    isExpiryMatch := normalizedIngested = none || normalizedNew = normalizedIngested }

def setIngestedExpiry (state : State) (payload : Expiry) : State :=
  let normalizedIngested := normalizeExpiryForComparison Number payload
  let normalizedExpSid := normalizeExpiryForComparison Number (ofSelected state.exp_sid)
  { state with
    ingestedExpiry := payload
    isExpiryMatch := normalizedExpSid = none || normalizedExpSid = normalizedIngested }

def setSid (state : State) (payload : String) : State :=
  { state with
    sid := payload
    exp_sid := none
    ingestedExpiry := .null
    isExpiryMatch := true
    data := none }

/-- The message has another expiry than the selected one. -/
def mismatch (state : State) (raw : Raw) : Bool :=
  (ofSelected state.exp_sid).truthy && raw.carried.truthy &&
    normalizeExpiryForComparison Number (ofSelected state.exp_sid) ≠
      normalizeExpiryForComparison Number raw.carried

/-- The list of expiries stays when the message has none. -/
def keepExpiryList (state : State) (raw : Raw) : Raw :=
  match state.data with
  | some old =>
      if raw.expiry_list = [] then { raw with expiry_list := old.expiry_list } else raw
  | none => raw

/-- A message is accepted unless its expiry is another one. -/
def updateLiveData (state : State) (payload : Option Raw) : State :=
  match payload with
  | some raw =>
      if raw.oc && !state.mismatch Number raw then
        { state with data := some (state.keepExpiryList raw) }
      else state
  | none => state

def clearData (state : State) : State :=
  { state with data := none }

def setLatestExpiry (state : State) : State :=
  match latestExpiry state.expDate with
  | some latest => { state with exp_sid := some latest }
  | none => state

def fetchLiveDataFulfilled (state : State) (payload : Option Raw) : State :=
  { state with data := payload }

def fetchExpiryDateFulfilled (state : State) (expiryDates : List ℤ) : State :=
  match latestExpiry expiryDates with
  | some latest =>
      { state with
        expDate := expiryDates
        exp_sid := some latest
        ingestedExpiry := .number latest
        isExpiryMatch := true }
  | none => { state with expDate := expiryDates }

/-! ## Requests -/

/-- A request whose key is active joins the one under way, and repeats its action. -/
def request (state : State) (key : Key) : State :=
  if key ∈ state.activeRequests then state
  else
    { state with
      activeRequests := key :: state.activeRequests
      requests := Function.update state.requests state.sent (some key)
      sent := state.sent + 1 }

def fetchLiveData (state : State) (sid : Option String) (exp_sid : Option ℤ) : State :=
  state.request (.fetchLiveData ((sid.filter (· ≠ "")).getD state.sid)
    ((exp_sid.filter (· ≠ 0)).or state.exp_sid))

/-- The request has ended. -/
def settle (state : State) (id : ℕ) (key : Key) : State :=
  { state with
    activeRequests := state.activeRequests.erase key
    requests := Function.update state.requests id none }

end State

inductive Label where
  | setExp_sid (payload : Expiry)
  | setIngestedExpiry (payload : Expiry)
  | setSid (payload : String)
  | updateLiveData (payload : Option Raw)
  | clearData
  | setLatestExpiry
  | fetchExpiryDate (sid symbol : Option String)
  | fetchLiveData (sid : Option String) (exp_sid : Option ℤ)
  | expiryDates (id : ℕ) (expiryDates : List ℤ)
  | liveData (id : ℕ) (payload : Option Raw)
  | rejected (id : ℕ)
  | clearActiveRequests

def SameExpiry (expiry : Expiry) (exp_sid : Option ℤ) : Prop :=
  (ofSelected exp_sid).truthy →
    normalizeExpiryForComparison Number (ofSelected exp_sid) =
      normalizeExpiryForComparison Number expiry

instance (expiry : Expiry) (exp_sid : Option ℤ) :
    Decidable (SameExpiry Number expiry exp_sid) :=
  inferInstanceAs (Decidable (_ → _))

/-- The backend answers with the chain that was asked for, its own choice of an expiry where
none was. -/
def Answers (sid : String) (exp_sid : Option ℤ) (raw : Raw) : Prop :=
  raw.symbol = sid ∧ SameExpiry Number raw.expiry exp_sid

instance (sid : String) (exp_sid : Option ℤ) (raw : Raw) :
    Decidable (Answers Number sid exp_sid raw) :=
  inferInstanceAs (Decidable (_ ∧ _))

/-- A message carries its own expiry or none. -/
def Carries (raw : Raw) : Prop :=
  raw.carried.truthy →
    normalizeExpiryForComparison Number raw.carried =
      normalizeExpiryForComparison Number raw.expiry

instance (raw : Raw) : Decidable (Carries Number raw) :=
  inferInstanceAs (Decidable (_ → _))

def step (state : State) : Label → Option State
  | .setExp_sid payload => some (state.setExp_sid Number payload)
  | .setIngestedExpiry payload => some (state.setIngestedExpiry Number payload)
  | .setSid payload => some (state.setSid payload)
  | .updateLiveData payload =>
      if ∀ raw ∈ payload, Carries Number raw then
        some (state.updateLiveData Number payload)
      else none
  | .clearData => some state.clearData
  | .setLatestExpiry => some state.setLatestExpiry
  | .fetchExpiryDate sid symbol => some (state.request (.fetchExpiryDate sid symbol))
  | .fetchLiveData sid exp_sid => some (state.fetchLiveData sid exp_sid)
  | .expiryDates id expiryDates =>
      match state.requests id with
      | some (.fetchExpiryDate sid symbol) =>
          some ((state.settle id (.fetchExpiryDate sid symbol)).fetchExpiryDateFulfilled
            expiryDates)
      | _ => none
  | .liveData id payload =>
      match state.requests id with
      | some (.fetchLiveData sid exp_sid) =>
          if ∀ raw ∈ payload, Answers Number sid exp_sid raw then
            some ((state.settle id (.fetchLiveData sid exp_sid)).fetchLiveDataFulfilled
              payload)
          else none
      | _ => none
  | .rejected id => (state.requests id).map (state.settle id)
  | .clearActiveRequests => some { state with activeRequests := [] }

def system : System State Label := ⟨{}, step Number⟩

/-! ## What is shown belongs to what is selected -/

/-- The chain is that of the selected symbol and, if an expiry is selected, of that. -/
def Belongs (state : State) (raw : Raw) : Prop :=
  Answers Number state.sid state.exp_sid raw

instance (state : State) (raw : Raw) : Decidable (Belongs Number state raw) :=
  inferInstanceAs (Decidable (Answers Number _ _ _))

def Owned (state : State) : Prop :=
  ∀ raw ∈ state.data, Belongs Number state raw

instance (state : State) : Decidable (Owned Number state) :=
  inferInstanceAs (Decidable (∀ raw ∈ state.data, _))

/-- The chain in the store, if there is one, is of this expiry too. -/
def Keeps (state : State) (exp_sid : Option ℤ) : Prop :=
  ∀ raw ∈ state.data, SameExpiry Number raw.expiry exp_sid

instance (state : State) (exp_sid : Option ℤ) : Decidable (Keeps Number state exp_sid) :=
  inferInstanceAs (Decidable (∀ raw ∈ state.data, _))

/-- Another expiry is selected only while no chain is shown, and chains arrive only for the
current selection. -/
def Timely (state : State) : Label → Prop
  | .setExp_sid payload => Keeps Number state (toNumber Number payload)
  | .setLatestExpiry =>
      ∀ latest ∈ latestExpiry state.expDate, Keeps Number state (some latest)
  | .expiryDates _ expiryDates =>
      ∀ latest ∈ latestExpiry expiryDates, Keeps Number state (some latest)
  | .liveData _ payload => ∀ raw ∈ payload, Belongs Number state raw
  | .updateLiveData payload =>
      ∀ raw ∈ payload, raw.oc → state.mismatch Number raw = false → Belongs Number state raw
  | _ => True

instance (state : State) (label : Label) : Decidable (Timely Number state label) := by
  unfold Timely
  cases label <;> infer_instance

variable {Number} {state after : State}

/-- A change of the expiry alone. -/
theorem owned_setExpiry_iff {exp_sid : Option ℤ} (owned : Owned Number state)
    (data : after.data = state.data) (sid : after.sid = state.sid)
    (expiry : after.exp_sid = exp_sid) :
    Owned Number after ↔ Keeps Number state exp_sid := by
  rw [Owned, data]
  constructor
  · intro still raw member
    have same := (still raw member).2
    rw [expiry] at same
    exact same
  · intro keeps raw member
    rw [Belongs, Answers, sid, expiry]
    exact ⟨(owned raw member).1, keeps raw member⟩

theorem Owned.congr (owned : Owned Number state) (data : after.data = state.data)
    (sid : after.sid = state.sid) (expiry : after.exp_sid = state.exp_sid) :
    Owned Number after := by
  rw [owned_setExpiry_iff owned data sid expiry]
  intro raw member
  exact (owned raw member).2

theorem Owned.request (owned : Owned Number state) (key : Key) :
    Owned Number (state.request key) := by
  unfold State.request
  split
  · exact owned
  · exact owned.congr rfl rfl rfl

theorem owned_setLatestExpiry_iff (owned : Owned Number state) :
    Owned Number state.setLatestExpiry ↔
      ∀ latest ∈ latestExpiry state.expDate, Keeps Number state (some latest) := by
  unfold State.setLatestExpiry
  cases latestExpiry state.expDate with
  | none => simpa using owned
  | some latest =>
      simp only [Option.mem_some_iff, forall_eq']
      exact owned_setExpiry_iff owned rfl rfl rfl

theorem owned_fetchExpiryDateFulfilled_iff {expiryDates : List ℤ}
    (owned : Owned Number state) :
    Owned Number (state.fetchExpiryDateFulfilled expiryDates) ↔
      ∀ latest ∈ latestExpiry expiryDates, Keeps Number state (some latest) := by
  unfold State.fetchExpiryDateFulfilled
  cases latestExpiry expiryDates with
  | none =>
      have still : Owned Number { state with expDate := expiryDates } :=
        owned.congr rfl rfl rfl
      simpa using still
  | some latest =>
      simp only [Option.mem_some_iff, forall_eq']
      exact owned_setExpiry_iff owned rfl rfl rfl

theorem keepExpiryList_chain (state : State) (raw : Raw) :
    (state.keepExpiryList raw).symbol = raw.symbol ∧
      (state.keepExpiryList raw).expiry = raw.expiry := by
  unfold State.keepExpiryList
  split
  · split <;> exact ⟨rfl, rfl⟩
  · exact ⟨rfl, rfl⟩

theorem owned_updateLiveData_iff {payload : Option Raw} (owned : Owned Number state) :
    Owned Number (state.updateLiveData Number payload) ↔
      Timely Number state (.updateLiveData payload) := by
  cases payload with
  | none => exact iff_of_true owned (by rintro raw ⟨⟩)
  | some raw =>
      obtain ⟨symbol, expiry⟩ := keepExpiryList_chain state raw
      have belongs : Belongs Number state (state.keepExpiryList raw) ↔
          Belongs Number state raw := by
        rw [Belongs, Belongs, Answers, Answers, symbol, expiry]
      unfold State.updateLiveData Timely
      dsimp only
      split
      · rename_i accepted
        rw [Bool.and_eq_true, Bool.not_eq_true'] at accepted
        have stored : Owned Number
            { state with data := some (state.keepExpiryList raw) } ↔
            Belongs Number state (state.keepExpiryList raw) := by
          simp [Owned, Belongs]
        rw [stored, belongs]
        simp [accepted.1, accepted.2]
      · rename_i refused
        rw [Bool.and_eq_true, Bool.not_eq_true', not_and] at refused
        constructor
        · intro _ other member oc same
          obtain rfl := Option.some.inj member
          exact absurd same (refused oc)
        · intro _
          exact owned

/-- A step keeps the chain with its owner just when it is timely. -/
theorem owned_step_iff {label : Label} (owned : Owned Number state)
    (taken : step Number state label = some after) :
    Owned Number after ↔ Timely Number state label := by
  unfold step at taken
  cases label with
  | setExp_sid payload =>
      obtain rfl := Option.some.inj taken
      exact owned_setExpiry_iff owned rfl rfl rfl
  | setIngestedExpiry payload =>
      obtain rfl := Option.some.inj taken
      exact iff_of_true (owned.congr rfl rfl rfl) trivial
  | setSid payload =>
      obtain rfl := Option.some.inj taken
      exact iff_of_true (by rintro raw ⟨⟩) trivial
  | updateLiveData payload =>
      obtain ⟨_, rfl⟩ := guarded_eq_some.mp taken
      exact owned_updateLiveData_iff owned
  | clearData =>
      obtain rfl := Option.some.inj taken
      exact iff_of_true (by rintro raw ⟨⟩) trivial
  | setLatestExpiry =>
      obtain rfl := Option.some.inj taken
      exact owned_setLatestExpiry_iff owned
  | fetchExpiryDate sid symbol =>
      obtain rfl := Option.some.inj taken
      exact iff_of_true (owned.request _) trivial
  | fetchLiveData sid exp_sid =>
      obtain rfl := Option.some.inj taken
      exact iff_of_true (owned.request _) trivial
  | expiryDates id expiryDates =>
      dsimp only at taken
      split at taken
      · obtain rfl := Option.some.inj taken
        apply owned_fetchExpiryDateFulfilled_iff
        exact owned.congr rfl rfl rfl
      · cases taken
  | liveData id payload =>
      dsimp only at taken
      split at taken
      · obtain ⟨_, rfl⟩ := guarded_eq_some.mp taken
        exact Iff.rfl
      · cases taken
  | rejected id =>
      obtain ⟨key, _, rfl⟩ := Option.map_eq_some_iff.mp taken
      exact iff_of_true (owned.congr rfl rfl rfl) trivial
  | clearActiveRequests =>
      obtain rfl := Option.some.inj taken
      exact iff_of_true (owned.congr rfl rfl rfl) trivial

theorem chain_owned (reached : ReachedBy (system Number) (Timely Number) state) :
    Owned Number state := by
  apply reached.invariant
  · intro raw none
    cases none
  · intro before label after owned timely taken
    exact (owned_step_iff owned taken).mpr timely

end Slice

/-! ### Two symbols -/

/-- 26 June 2025. -/
def june : ℤ := 1750896000

/-- 31 July 2025. -/
def july : ℤ := 1753920000

def chain (symbol : String) (expiry : ℤ) : Raw where
  symbol
  expiry := .number expiry
  carried := .number expiry
  oc := true
  expiry_list := []

/-- A symbol is selected, its expiries and its chain are loaded and a message updates it. -/
theorem chain_owned_loaded :
    ∃ state, (ReachedBy (system String.toInt?) (Timely String.toInt?) state ∧
      state.sid = "BANKNIFTY" ∧ state.data = some (chain "BANKNIFTY" june)) ∧
      Owned String.toInt? state := by
  obtain ⟨state, reached, loaded⟩ := ReachedBy.exists_of_run (system String.toInt?)
    (Timely String.toInt?)
    (fun state => state.sid = "BANKNIFTY" ∧ state.data = some (chain "BANKNIFTY" june))
    [.setSid "BANKNIFTY", .fetchExpiryDate (some "BANKNIFTY") none,
      .expiryDates 0 [july, june], .fetchLiveData none none,
      .liveData 1 (some (chain "BANKNIFTY" june)),
      .updateLiveData (some (chain "BANKNIFTY" june))] (by decide)
  exact ⟨state, ⟨reached, loaded⟩, chain_owned reached⟩

/-- The answer for a symbol arrives after another one was selected; another expiry is
selected while a chain is shown; and a message for the old symbol arrives before the
expiries of the new one. -/
theorem not_chain_owned :
    (∃ state, Reachable (system String.toInt?) state ∧ state.sid = "BANKNIFTY" ∧
      state.data = some (chain "NIFTY" june) ∧ ¬Owned String.toInt? state) ∧
    (∃ state, Reachable (system String.toInt?) state ∧ state.exp_sid = some july ∧
      state.data = some (chain "NIFTY" june) ∧ ¬Owned String.toInt? state) ∧
    ∃ state, Reachable (system String.toInt?) state ∧ state.sid = "BANKNIFTY" ∧
      state.data = some (chain "NIFTY" june) ∧ ¬Owned String.toInt? state := by
  refine ⟨?_, ?_, ?_⟩
  · exact ReachedBy.exists_of_run _ _ _ [.fetchLiveData none (some june),
      .setSid "BANKNIFTY", .liveData 0 (some (chain "NIFTY" june))] (by decide)
  · exact ReachedBy.exists_of_run _ _ _ [.fetchLiveData none (some june),
      .setExp_sid (.number june), .liveData 0 (some (chain "NIFTY" june)),
      .setExp_sid (.number july)] (by decide)
  · exact ReachedBy.exists_of_run _ _ _ [.setExp_sid (.number june),
      .setSid "BANKNIFTY", .updateLiveData (some (chain "NIFTY" june))] (by decide)

end HftEngine.Frontend.DataSlice
