import HftEngine.Lib.KeyedTable
import HftEngine.Lib.Python.Exact
import HftEngine.Lib.Transition
import Mathlib.Data.List.Chain

/-!
# Alerts on a change of the COA scenario

`check_and_alert` compares a new scenario to the one kept in Redis and adds a
notification for each subscription it concerns.  The new scenario is cached before the
notifications are committed, every exception ends the check with 0, and each check has
a session of its own, so what was not committed is lost.

`str.upper` is a parameter.
-/

namespace HftEngine.Backend.CoaAlerts

open Transition

/-- What the session and the Redis client do during a check.  The client hands out
bytes, or, with `decode_responses`, texts. -/
inductive Read where
  | bytes
  | text
  | raises
deriving DecidableEq, Repr

structure Outcomes where
  redis : Bool
  expired : Bool
  read : Read
  set_returns : Bool
  query_returns : Bool
  updates_return : Bool
  commit_returns : Bool
deriving DecidableEq, Repr

/-- The fields that a new scenario has. -/
structure Scenario where
  id : Option String
  name : Option String
  bias : Option String
deriving DecidableEq, Repr

/-- What is known to the check about the result. -/
structure Alert where
  symbol : String
  scenario_id : String
  scenario_name : String
  bias : String
  spot_price : ℚ
  eos : Option ℚ
  eor : Option ℚ
deriving DecidableEq, Repr

def Alert.of (symbol : String) (new_scenario : Scenario) (spot_price : ℚ)
    (eos eor : Option ℚ) : Alert where
  symbol
  scenario_id := new_scenario.id.getD "?"
  scenario_name := new_scenario.name.getD "Unknown"
  bias := new_scenario.bias.getD "unknown"
  spot_price
  eos
  eor

/-- A row of `coa_alert_subscriptions` for the symbol, which a user has once. -/
structure Subscription (User : Type) where
  user_id : User
  enabled : Bool
  alert_on_scenario_change : Bool
  alert_on_eos_eor_breach : Bool
  notify_in_app : Bool
deriving DecidableEq, Repr

/-- `extra_data` repeats the arguments of the alert. -/
structure Notification (User : Type) where
  user_id : User
  title : String
  message : String
  type : String
  purpose : String
  priority : String
  sound_enabled : Bool
  extra_data : Alert
deriving DecidableEq, Repr

abbrev Subscriptions (User : Type) := KeyedTable (fun sub : Subscription User => sub.user_id)

/-! ## The cached scenario -/

/-- `cached.decode() if cached else None`; a text has no `decode`. -/
def _get_cached_scenario (cached : Option String) (outcomes : Outcomes) : Option String :=
  if outcomes.redis then
    match outcomes.read with
    | .bytes => cached.filter (· ≠ "")
    | .text | .raises => none
  else none

def _cache_scenario (cached : Option String) (scenario_id : String) (outcomes : Outcomes) :
    Option String :=
  if outcomes.redis && outcomes.set_returns then some scenario_id else cached

/-! ## One check -/

variable {User : Type}

/-- A number that is there and not zero. -/
def level (value : Option ℚ) : Option ℚ :=
  value.filter (· ≠ 0)

def breach_reason (sub : Subscription User) (alert : Alert) : Option String :=
  if sub.alert_on_eos_eor_breach then
    match level alert.eos, level alert.eor with
    | some eos, some eor =>
        if alert.spot_price ≤ eos then
          some ("Spot " ++ Py.Exact.whole alert.spot_price ++ " breached EOS " ++
            Py.Exact.whole eos)
        else if eor ≤ alert.spot_price then
          some ("Spot " ++ Py.Exact.whole alert.spot_price ++ " breached EOR " ++
            Py.Exact.whole eor)
        else none
    | _, _ => none
  else none

def change_reason (sub : Subscription User) (last_scenario_id : Option String)
    (alert : Alert) : Option String :=
  match last_scenario_id with
  | some last =>
      if sub.alert_on_scenario_change ∧ last ≠ "" ∧ alert.scenario_id ≠ last then
        some ("Scenario changed: " ++ last ++ " → " ++ alert.scenario_id)
      else none
  | none => none

/-- `should_alert` and `alert_reason`; a breach overwrites the reason. -/
def alert_reason (last_scenario_id : Option String) (alert : Alert)
    (sub : Subscription User) : Option String :=
  (breach_reason sub alert).or (change_reason sub last_scenario_id alert)

def level_line (name : String) (value : Option ℚ) : String :=
  match level value with
  | some x => "\n" ++ name ++ ": " ++ Py.Exact.whole x
  | none => ""

def message (upper : String → String) (alert : Alert) (reason : String) : String :=
  reason ++ "\n\nScenario: " ++ alert.scenario_id ++ " - " ++ alert.scenario_name ++
    "\nBias: " ++ upper alert.bias ++ "\nSpot: " ++ Py.Exact.whole alert.spot_price ++
    level_line "EOS" alert.eos ++ level_line "EOR" alert.eor

/-- The notification that is added to the session. -/
def _send_alert (upper : String → String) (alert : Alert) (sub : Subscription User)
    (reason : String) : Option (Notification User) :=
  if sub.notify_in_app then
    some
      { user_id := sub.user_id
        title := "🎯 " ++ alert.symbol ++ " COA Alert"
        message := message upper alert reason
        type := "trade"
        purpose := "transactional"
        priority := "high"
        sound_enabled := true
        extra_data := alert }
  else none

/-- The cached scenario after the check, the committed notifications and the number that
is returned. -/
structure Checked (User : Type) where
  cached : Option String
  notifications : List (Notification User)
  alerts_sent : ℕ

def check_and_alert (upper : String → String) (cached : Option String) (alert : Alert)
    (table : Subscriptions User) (outcomes : Outcomes) : Checked User :=
  let last_scenario_id := _get_cached_scenario cached outcomes
  if !outcomes.query_returns then ⟨cached, [], 0⟩
  else
    let subscriptions := table.rows.filter (·.enabled)
    let after := _cache_scenario cached alert.scenario_id outcomes
    if subscriptions.isEmpty then ⟨after, [], 0⟩
    else
      let alerts := subscriptions.filterMap (fun sub =>
        (alert_reason last_scenario_id alert sub).map (fun reason => (sub, reason)))
      -- the first update that raises ends the loop
      if !alerts.isEmpty && !outcomes.updates_return then ⟨cached, [], 0⟩
      else if 0 < alerts.length then
        if outcomes.commit_returns then
          ⟨after, alerts.filterMap (fun sent => _send_alert upper alert sent.1 sent.2),
            alerts.length⟩
        else ⟨after, [], 0⟩
      else ⟨after, [], 0⟩

/-! ## Runs -/

/-- A check of the past: the scenario, the subscriptions at the time and what was
committed. -/
structure Check (User : Type) where
  scenario_id : String
  subscriptions : Subscriptions User
  notifications : List (Notification User)

/-- The key in Redis, and the checks so far, the last one first. -/
structure State (User : Type) where
  cached : Option String
  history : List (Check User)

/-- A result for the symbol. -/
structure Result (User : Type) where
  alert : Alert
  subscriptions : Subscriptions User
  outcomes : Outcomes

/-- What the key holds when the check reads it. -/
def State.held (state : State User) (outcomes : Outcomes) : Option String :=
  if outcomes.expired then none else state.cached

def step (upper : String → String) (state : State User) (result : Result User) :
    Option (State User) :=
  let checked := check_and_alert upper (state.held result.outcomes) result.alert
    result.subscriptions result.outcomes
  some
    { cached := checked.cached
      history :=
        ⟨result.alert.scenario_id, result.subscriptions, checked.notifications⟩ ::
          state.history }

def system (upper : String → String) : System (State User) (Result User) :=
  ⟨⟨none, []⟩, step upper⟩

/-! ## What a check commits -/

/-- The statements of the check and its commit return. -/
def Outcomes.returns (outcomes : Outcomes) : Bool :=
  outcomes.query_returns && outcomes.updates_return && outcomes.commit_returns

/-- The notification for a row of the table. -/
def notify (upper : String → String) (last_scenario_id : Option String) (alert : Alert)
    (sub : Subscription User) : Option (Notification User) :=
  if sub.enabled then
    (alert_reason last_scenario_id alert sub).bind (_send_alert upper alert sub)
  else none

variable {upper : String → String} {cached : Option String} {alert : Alert}
  {table : Subscriptions User} {outcomes : Outcomes}

theorem notifications_eq :
    (check_and_alert upper cached alert table outcomes).notifications =
      if outcomes.returns then
        table.rows.filterMap (notify upper (_get_cached_scenario cached outcomes) alert)
      else [] := by
  have sent : ((table.rows.filter (·.enabled)).filterMap (fun sub =>
      (alert_reason (_get_cached_scenario cached outcomes) alert sub).map
        (fun reason => (sub, reason)))).filterMap
        (fun sent => _send_alert upper alert sent.1 sent.2) =
      table.rows.filterMap (notify upper (_get_cached_scenario cached outcomes) alert) := by
    rw [List.filterMap_filterMap, List.filterMap_filter]
    apply List.filterMap_congr
    intro sub _
    rw [notify]
    cases sub.enabled with
    | false => rfl
    | true => cases alert_reason (_get_cached_scenario cached outcomes) alert sub <;> rfl
  rw [check_and_alert, ← sent, Outcomes.returns]
  dsimp only
  generalize table.rows.filter (·.enabled) = subscriptions
  cases outcomes.query_returns with
  | false => rfl
  | true =>
      cases subscriptions with
      | nil => simp
      | cons first rest =>
          generalize (first :: rest).filterMap _ = alerts
          cases alerts with
          | nil => simp
          | cons one others =>
              cases outcomes.updates_return <;> cases outcomes.commit_returns <;> simp

theorem cached_of_returns (returns : outcomes.returns = true) :
    (check_and_alert upper cached alert table outcomes).cached =
      _cache_scenario cached alert.scenario_id outcomes := by
  simp only [Outcomes.returns, Bool.and_eq_true] at returns
  obtain ⟨⟨queried, updated⟩, committed⟩ := returns
  simp only [check_and_alert, queried, updated, committed, Bool.not_true, Bool.and_false,
    Bool.false_eq_true, if_true, if_false]
  split
  · rfl
  · split <;> rfl

/-- Enabled, with alerts on a change of the scenario in the application, and none on a
breach. -/
def Listens (sub : Subscription User) : Prop :=
  sub.enabled ∧ sub.alert_on_scenario_change ∧ sub.notify_in_app ∧
    ¬sub.alert_on_eos_eor_breach

instance (sub : Subscription User) : Decidable (Listens sub) :=
  inferInstanceAs (Decidable (_ ∧ _))

/-- The check finds another scenario in Redis than the new one, and commits. -/
def Delivers (cached : Option String) (alert : Alert) (outcomes : Outcomes) : Prop :=
  outcomes.returns ∧
    ∃ last ∈ _get_cached_scenario cached outcomes, last ≠ alert.scenario_id

instance : Decidable (Delivers cached alert outcomes) :=
  inferInstanceAs (Decidable (_ ∧ _))

theorem get_cached_scenario_ne_empty {last : String}
    (found : last ∈ _get_cached_scenario cached outcomes) : last ≠ "" := by
  unfold _get_cached_scenario at found
  split at found
  · split at found
    · have kept := (Option.filter_eq_some_iff.mp found).2
      exact of_decide_eq_true kept
    · cases found
    · cases found
  · cases found

/-- Whoever listens is notified when another scenario was cached. -/
theorem notify_of_listens {last_scenario_id : Option String} {sub : Subscription User}
    (listens : Listens sub) (filled : ∀ last ∈ last_scenario_id, last ≠ "") :
    (notify upper last_scenario_id alert sub).isSome ↔
      ∃ last ∈ last_scenario_id, last ≠ alert.scenario_id := by
  obtain ⟨enabled, changes, in_app, no_breach⟩ := listens
  have no_breach_reason : breach_reason sub alert = none := by
    rw [breach_reason, if_neg no_breach]
  rw [notify, if_pos enabled, alert_reason, no_breach_reason, Option.none_or]
  cases last_scenario_id with
  | none => simp [change_reason]
  | some last =>
      by_cases differs : alert.scenario_id = last
      · simp [change_reason, differs]
      · have not_empty := filled last rfl
        simp [change_reason, _send_alert, changes, in_app, not_empty, differs, Ne.symm differs]

theorem user_id_of_notify {last_scenario_id : Option String} {sub : Subscription User}
    {notification : Notification User}
    (sent : notification ∈ notify upper last_scenario_id alert sub) :
    notification.user_id = sub.user_id := by
  rw [notify] at sent
  split at sent
  · obtain ⟨reason, _, sent⟩ := Option.bind_eq_some_iff.mp sent
    rw [_send_alert] at sent
    split at sent
    · obtain rfl := Option.some.inj sent
      rfl
    · cases sent
  · cases sent

variable [DecidableEq User]

def notified (user : User) (notifications : List (Notification User)) : ℕ :=
  notifications.countP (·.user_id = user)

/-- One notification for each subscriber that listens, if the check delivers. -/
theorem notified_eq {sub : Subscription User} (listed : sub ∈ table.rows)
    (listens : Listens sub) :
    notified sub.user_id (check_and_alert upper cached alert table outcomes).notifications =
      if Delivers cached alert outcomes then 1 else 0 := by
  have images : (notify upper (_get_cached_scenario cached outcomes) alert sub).any
      (fun notification => decide (notification.user_id = sub.user_id)) =
      (notify upper (_get_cached_scenario cached outcomes) alert sub).isSome := by
    cases sent : notify upper (_get_cached_scenario cached outcomes) alert sub with
    | none => rfl
    | some notification => simp [user_id_of_notify sent]
  rw [notified, notifications_eq]
  by_cases returns : outcomes.returns
  · rw [if_pos returns, KeyedTable.countP_filterMap listed]
    · have filled : ∀ last ∈ _get_cached_scenario cached outcomes, last ≠ "" := by
        intro last found
        exact get_cached_scenario_ne_empty found
      rw [images]
      simp only [notify_of_listens listens filled, Delivers, returns, true_and]
    · intro other _ apart notification sent
      rw [user_id_of_notify sent]
      exact decide_eq_false apart
  · rw [if_neg returns, if_neg (fun delivers => returns delivers.1)]
    rfl

/-! ## Every run -/

/-- The subscriber of a row that listens. -/
def Listening (table : Subscriptions User) (user : User) : Prop :=
  ∃ sub ∈ table.rows, Listens sub ∧ sub.user_id = user

instance (table : Subscriptions User) (user : User) : Decidable (Listening table user) :=
  inferInstanceAs (Decidable (∃ sub ∈ table.rows, _))

def Throughout (history : List (Check User)) (user : User) : Prop :=
  ∀ check ∈ history, Listening check.subscriptions user

instance (history : List (Check User)) (user : User) : Decidable (Throughout history user) :=
  inferInstanceAs (Decidable (∀ check ∈ history, _))

/-- One notification between two results with different scenarios, none between two with
the same one. -/
def AlertedTo (history : List (Check User)) (user : User) : Prop :=
  history.IsChain (fun later earlier =>
    notified user later.notifications =
      if later.scenario_id = earlier.scenario_id then 0 else 1)

instance (history : List (Check User)) (user : User) : Decidable (AlertedTo history user) :=
  inferInstanceAs (Decidable (history.IsChain _))

def Alerted (state : State User) : Prop :=
  ∀ user, Throughout state.history user → AlertedTo state.history user

/-- While someone listens, a check delivers if the scenario is not that of the result
before, and only then. -/
def Sound (state : State User) (result : Result User) : Prop :=
  (∃ sub ∈ result.subscriptions.rows, Listens sub) →
    ∀ earlier ∈ state.history.head?,
      if result.alert.scenario_id = earlier.scenario_id then
        ¬Delivers (state.held result.outcomes) result.alert result.outcomes
      else Delivers (state.held result.outcomes) result.alert result.outcomes

instance (state : State User) (result : Result User) : Decidable (Sound state result) :=
  inferInstanceAs (Decidable ((∃ sub ∈ result.subscriptions.rows, _) → _))

theorem Alerted.step {state after : State User} {result : Result User}
    (alerted : Alerted state) (sound : Sound state result)
    (taken : step upper state result = some after) : Alerted after := by
  obtain rfl := Option.some.inj taken
  intro user throughout
  obtain ⟨listening, before⟩ := List.forall_mem_cons.mp throughout
  have chain := alerted user before
  obtain ⟨sub, listed, listens, rfl⟩ := listening
  have delivered := sound ⟨sub, listed, listens⟩
  have count : notified sub.user_id (check_and_alert upper (state.held result.outcomes)
      result.alert result.subscriptions result.outcomes).notifications =
      if Delivers (state.held result.outcomes) result.alert result.outcomes then 1 else 0 :=
    notified_eq listed listens
  unfold AlertedTo at chain ⊢
  dsimp only
  cases past : state.history with
  | nil => exact List.isChain_singleton _
  | cons earlier rest =>
      rw [past] at chain delivered
      apply List.isChain_cons_cons.mpr
      refine ⟨?_, chain⟩
      have first := delivered earlier rfl
      dsimp only at count ⊢
      rw [count]
      split at first
      · rename_i same
        rw [if_neg first, if_pos same]
      · rename_i differs
        rw [if_pos first, if_neg differs]

theorem alerted {state : State User} (reached : ReachedBy (system upper) Sound state) :
    Alerted state := by
  apply reached.invariant
  · intro user _
    exact List.isChain_nil
  · intro before result after held sound taken
    exact held.step sound taken

/-! ### One listener -/

def listeners : Subscriptions ℕ where
  rows := [⟨7, true, true, false, true⟩]
  unique := by decide

def nothing_fails : Outcomes where
  redis := true
  expired := false
  read := .bytes
  set_returns := true
  query_returns := true
  updates_return := true
  commit_returns := true

def nifty_result (scenario_id : String) (outcomes : Outcomes) : Result ℕ where
  alert := .of "NIFTY" ⟨some scenario_id, none, none⟩ 26000 none none
  subscriptions := listeners
  outcomes

/-- Three results, of which the last repeats the scenario of the second. -/
theorem alerted_three :
    ∃ state : State ℕ, (ReachedBy (system String.toUpper) Sound state ∧
      state.history.map (fun check => notified 7 check.notifications) = [0, 1, 0]) ∧
      Alerted state := by
  obtain ⟨state, reached, counts⟩ := ReachedBy.exists_of_run
    (system String.toUpper : System (State ℕ) (Result ℕ)) Sound
    (fun state => state.history.map (fun check => notified 7 check.notifications) =
      [0, 1, 0])
    [nifty_result "1.0" nothing_fails, nifty_result "1.1" nothing_fails,
      nifty_result "1.1" nothing_fails] (by decide)
  exact ⟨state, ⟨reached, counts⟩, alerted reached⟩

/-- The state after a result whose scenario is not that of the first one. -/
def after_change (outcomes : Outcomes) : Option (State ℕ) :=
  (system String.toUpper).run (fun _ _ => True) (system String.toUpper).start
    [nifty_result "1.0" nothing_fails, nifty_result "1.1" outcomes]

def Misses (outcomes : Outcomes) : Prop :=
  (after_change outcomes).any (fun state =>
    decide (Throughout state.history 7 ∧ ¬AlertedTo state.history 7)) = true

instance (outcomes : Outcomes) : Decidable (Misses outcomes) :=
  inferInstanceAs (Decidable (_ = true))

theorem not_alerted_of_misses {outcomes : Outcomes} (misses : Misses outcomes) :
    ∃ state, after_change outcomes = some state ∧
      Reachable (system String.toUpper) state ∧ ¬Alerted state := by
  obtain ⟨state, finished, checked⟩ := (Option.any_eq_true _ _).mp misses
  obtain ⟨throughout, missed⟩ := of_decide_eq_true checked
  refine ⟨state, finished, ReachedBy.extend .start finished, ?_⟩
  intro alerted
  exact missed (alerted 7 throughout)

/-- A client that hands out texts, a commit that raises and a key that has expired: each
of them loses the notification. -/
theorem not_alerted :
    (∃ state, after_change { nothing_fails with read := .text } = some state ∧
      Reachable (system String.toUpper) state ∧ ¬Alerted state) ∧
    (∃ state, after_change { nothing_fails with commit_returns := false } = some state ∧
      Reachable (system String.toUpper) state ∧ ¬Alerted state) ∧
    ∃ state, after_change { nothing_fails with expired := true } = some state ∧
      Reachable (system String.toUpper) state ∧ ¬Alerted state :=
  ⟨not_alerted_of_misses (by decide), not_alerted_of_misses (by decide),
    not_alerted_of_misses (by decide)⟩

/-! ### Where nothing fails -/

/-- The key is read as bytes before it expires, everything is stored and committed, and
no scenario is empty. -/
def Dependable (result : Result User) : Prop :=
  result.outcomes =
    { redis := true, expired := false, read := .bytes, set_returns := true,
      query_returns := true, updates_return := true, commit_returns := true } ∧
    result.alert.scenario_id ≠ ""

/-- Redis has the scenario of the last result. -/
def CachesLast (state : State User) : Prop :=
  state.cached = state.history.head?.map (·.scenario_id) ∧ state.cached ≠ some ""

omit [DecidableEq User] in
theorem CachesLast.step {state after : State User} {result : Result User}
    (dependable : Dependable result) (taken : step upper state result = some after) :
    CachesLast after := by
  obtain rfl := Option.some.inj taken
  obtain ⟨outcomes, filled⟩ := dependable
  have cached : (check_and_alert upper (state.held result.outcomes) result.alert
      result.subscriptions result.outcomes).cached = some result.alert.scenario_id := by
    rw [cached_of_returns (by rw [outcomes]; rfl), outcomes]
    rfl
  constructor
  · exact cached
  · dsimp only
    rw [cached]
    simpa using filled

omit [DecidableEq User] in
theorem CachesLast.sound {state : State User} {result : Result User}
    (last : CachesLast state) (dependable : Dependable result) : Sound state result := by
  intro _ earlier first
  obtain ⟨outcomes, _⟩ := dependable
  obtain ⟨cached, filled⟩ := last
  rw [first, Option.map_some] at cached
  have seen : _get_cached_scenario (state.held result.outcomes) result.outcomes =
      some earlier.scenario_id := by
    rw [State.held, outcomes, cached, _get_cached_scenario]
    rw [cached] at filled
    simpa using filled
  have delivers : Delivers (state.held result.outcomes) result.alert result.outcomes ↔
      earlier.scenario_id ≠ result.alert.scenario_id := by
    rw [Delivers, seen, outcomes]
    simp [Outcomes.returns]
  split
  · rename_i same
    rw [delivers]
    exact fun differs => differs same.symm
  · rename_i differs
    exact delivers.mpr (Ne.symm differs)

omit [DecidableEq User] in
/-- A run in which nothing fails meets the condition. -/
theorem sound_of_dependable {state : State User}
    (reached : ReachedBy (system upper) (fun _ => Dependable) state) :
    ReachedBy (system upper) Sound state ∧ CachesLast state := by
  induction reached with
  | start => exact ⟨.start, rfl, by simp [system]⟩
  | step _ dependable taken ih =>
      exact ⟨.step ih.1 (ih.2.sound dependable) taken, .step dependable taken⟩

end HftEngine.Backend.CoaAlerts
