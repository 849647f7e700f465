import HftEngine.Backend.Positions

/-!
# The alerts of a position

An analysis stores an alert unless its message is that of an alert that is not
dismissed.  The messages contain the numbers of the moment.
-/

namespace HftEngine.Backend.Positions

open AdjustmentEngine
open Py (Dict Result)
open Transition

variable {Date : Type}

/-- No two alerts that are not dismissed are about the same condition. -/
def NoDuplicates (alerts : List StoredAlert) : Prop :=
  ((undismissed alerts).map (·.alert.condition)).Nodup

instance (alerts : List StoredAlert) : Decidable (NoDuplicates alerts) :=
  inferInstanceAs (Decidable (List.Nodup _))

/-- What is raised again is worded as an alert that is not dismissed. -/
def SameWording (existing : List StoredAlert) (raised : List PositionAlert) : Prop :=
  ∀ alert ∈ raised, is_persisted alert →
    alert.condition ∈ (undismissed existing).map (·.alert.condition) →
      alert.message ∈ (undismissed existing).map (·.alert.message)

instance (existing : List StoredAlert) (raised : List PositionAlert) :
    Decidable (SameWording existing raised) :=
  inferInstanceAs (Decidable (∀ alert ∈ raised, _ → _ ∈ _ → _))

/-! ## What an analysis stores -/

theorem mem_new_alerts {existing : List StoredAlert} {raised : List PositionAlert}
    {alert : PositionAlert} :
    alert ∈ new_alerts existing raised ↔
      alert ∈ raised ∧ is_persisted alert ∧
        alert.message ∉ (undismissed existing).map (·.alert.message) := by
  simp only [new_alerts, List.mem_filter, decide_eq_true_eq, and_assoc]

theorem undismissed_store_alerts (existing : List StoredAlert) (raised : List PositionAlert)
    (current_spot current_iv : ℚ) :
    (undismissed (store_alerts existing raised current_spot current_iv)).map
        (·.alert.condition) =
      (undismissed existing).map (·.alert.condition) ++
        (new_alerts existing raised).map (·.condition) := by
  have fresh : undismissed ((new_alerts existing raised).map (fun alert =>
      (⟨alert, current_spot, current_iv, false⟩ : StoredAlert))) =
      (new_alerts existing raised).map (fun alert =>
        ⟨alert, current_spot, current_iv, false⟩) := by
    rw [undismissed, List.filter_eq_self]
    intro stored member
    obtain ⟨alert, _, rfl⟩ := List.mem_map.mp member
    rfl
  rw [store_alerts, undismissed, List.filter_append, List.map_append]
  change _ ++ (undismissed _).map _ = _
  rw [fresh, List.map_map]
  rfl

/-- An analysis keeps the alerts free of duplicates just when what is raised again has its
old wording. -/
theorem noDuplicates_store_alerts_iff {existing : List StoredAlert}
    {raised : List PositionAlert} {current_spot current_iv : ℚ}
    (apart : NoDuplicates existing) (once : (raised.map (·.condition)).Nodup) :
    NoDuplicates (store_alerts existing raised current_spot current_iv) ↔
      SameWording existing raised := by
  have new_once : ((new_alerts existing raised).map (·.condition)).Nodup := by
    apply List.Nodup.sublist _ once
    apply List.Sublist.map
    exact List.filter_sublist.trans List.filter_sublist
  rw [NoDuplicates, undismissed_store_alerts, List.nodup_append]
  constructor
  · rintro ⟨_, _, disjoint⟩ alert listed persisted known
    by_contra fresh
    have new := mem_new_alerts.mpr ⟨listed, persisted, fresh⟩
    exact disjoint _ known _ (List.mem_map_of_mem new) rfl
  · intro same
    refine ⟨apart, new_once, ?_⟩
    intro condition known other new equal
    obtain ⟨alert, member, rfl⟩ := List.mem_map.mp new
    obtain ⟨listed, persisted, fresh⟩ := mem_new_alerts.mp member
    exact fresh (same alert listed persisted (equal ▸ known))

theorem undismissed_modify (alerts : List StoredAlert) (index : ℕ) :
    (undismissed (alerts.modify index (fun stored =>
      { stored with is_dismissed := true }))).Sublist (undismissed alerts) := by
  unfold undismissed
  induction alerts generalizing index with
  | nil => simp
  | cons first rest ih =>
      cases index with
      | zero =>
          rw [List.modify_zero_cons, List.filter_cons_of_neg (by simp)]
          exact (List.sublist_cons_self first rest).filter _
      | succ index =>
          rw [List.modify_succ_cons, List.filter_cons, List.filter_cons]
          split
          · exact (ih index).cons_cons first
          · exact ih index

theorem NoDuplicates.dismiss {alerts : List StoredAlert} (apart : NoDuplicates alerts)
    (index : ℕ) :
    NoDuplicates (alerts.modify index (fun stored => { stored with is_dismissed := true })) :=
  List.Nodup.sublist ((undismissed_modify alerts index).map _) apart

/-! ## Runs -/

section Runs

variable (engine : Engine Date)

/-- An analysis with an open market that returns raises no lasting condition under another
message. -/
def AnalysisRepeats (state : State Date) (live_data : Option LiveData) (now : Date) : Prop :=
  ∀ quote ∈ live_data.bind market,
    ∀ found ∈ (analyze_position engine state.position.given quote.1 quote.2 now).toOption,
      SameWording state.alerts found.alerts

instance (state : State Date) (live_data : Option LiveData) (now : Date) :
    Decidable (AnalysisRepeats engine state live_data now) :=
  inferInstanceAs (Decidable (∀ quote ∈ live_data.bind market,
    ∀ found ∈ (analyze_position engine state.position.given quote.1 quote.2 now).toOption,
      SameWording _ _))

def RepeatsWording (tracked : Option (State Date)) (request : Request Date) : Prop :=
  ∀ state ∈ tracked,
    match request with
    | .analyze live_data now returns => returns → AnalysisRepeats engine state live_data now
    | .create .. | .update .. | .dismiss _ => True

instance (tracked : Option (State Date)) (request : Request Date) :
    Decidable (RepeatsWording engine tracked request) :=
  match request with
  | .analyze live_data now returns =>
      inferInstanceAs (Decidable (∀ state ∈ tracked,
        returns → AnalysisRepeats engine state live_data now))
  | .create .. | .update .. | .dismiss _ =>
      inferInstanceAs (Decidable (∀ state ∈ tracked, True))

variable {engine}

theorem no_duplicates {tracked : Option (State Date)}
    (reached : ReachedBy (system engine) (RepeatsWording engine) tracked) :
    ∀ state ∈ tracked, NoDuplicates state.alerts := by
  refine invariant_of_effects engine (I := fun state => NoDuplicates state.alerts)
    ?_ ?_ reached
  · intro request live_data
    exact List.nodup_nil
  · intro state request after apart repeats effect
    cases effect with
    | kept => exact apart
    | updated => exact apart
    | analyzed opened found updated =>
        have once := analyze_position_conditions found
        apply (noDuplicates_store_alerts_iff apart once).mpr
        apply repeats state rfl rfl _ opened
        rw [found]
        rfl
    | dismissed index => exact apart.dismiss index

end Runs

/-- Two analyses on one day, and one on the next day, after the alert was dismissed. -/
theorem no_duplicates_dismissed :
    ∃ state, (ReachedBy (system february) (RepeatsWording february) (some state) ∧
      state.alerts.map (·.is_dismissed) = [true, false]) ∧ NoDuplicates state.alerts := by
  obtain ⟨state, reached, stored⟩ := exists_state_of_run february (RepeatsWording february)
    (fun state => state.alerts.map (·.is_dismissed) = [true, false])
    [.create (february_call "27-02-2025") none, .analyze (some ⟨102, 0, some 15⟩) 21 true,
      .analyze (some ⟨102, 0, some 15⟩) 21 true, .dismiss 0,
      .analyze (some ⟨102, 0, some 15⟩) 22 true] (by with_unfolding_all decide)
  exact ⟨state, ⟨reached, stored⟩, no_duplicates reached state rfl⟩

/-- The days to expiry are in the message of the warning, so that each day adds one. -/
theorem duplicates_next_day :
    ∃ state, Reachable (system february) (some state) ∧ ¬NoDuplicates state.alerts :=
  exists_state_of_run february _ _
    [.create (february_call "27-02-2025") none, .analyze (some ⟨102, 0, some 15⟩) 21 true,
      .analyze (some ⟨102, 0, some 15⟩) 22 true] (by with_unfolding_all decide)

end HftEngine.Backend.Positions
