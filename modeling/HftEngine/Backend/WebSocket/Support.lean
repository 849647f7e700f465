import HftEngine.Lib.LiveList
import HftEngine.Lib.Transition

/-!
# Broadcasts of the support system

A ticket has a list of websockets.  A broadcast goes through the list object and
awaits each send, while websockets are appended to the list and removed from it.
-/

namespace HftEngine.WebSocket.Support

open Transition LiveList

/-- A broadcast over a list object, with the connection that it is sending to; it is
over where there is none.  The loop counts what each connection has been sent. -/
structure Broadcast (Socket : Type) where
  ticket_id : String
  connections : ℕ
  loop : Loop Socket
  to_remove : List Socket
  connection : Option Socket

/-- The list objects are numbered.  A websocket can be accepted once. -/
structure State (Socket : Type) where
  lists : ℕ → List Socket := fun _ => []
  created : ℕ := 0
  active_connections : String → Option ℕ := fun _ => none
  accepted : Finset Socket := ∅
  broadcasts : ℕ → Option (Broadcast Socket) := fun _ => none

/-- A send succeeds, raises an exception or is cancelled. -/
inductive Label (Socket : Type) where
  | connect (websocket : Socket) (ticket_id : String)
  | disconnect (websocket : Socket) (ticket_id : String)
  | broadcast (id : ℕ) (ticket_id : String)
  | sent (id : ℕ) (ok : Bool)
  | cancelled (id : ℕ)

section Step

variable {Socket : Type} [DecidableEq Socket]

/-- A connection is removed from a list object. -/
def Broadcast.notice (connections : ℕ) (websocket : Socket)
    (broadcast : Broadcast Socket) : Broadcast Socket :=
  if broadcast.connections = connections ∧ broadcast.connection ≠ none then
    { broadcast with loop := broadcast.loop.remove websocket }
  else broadcast

namespace State

def connect (websocket : Socket) (ticket_id : String) (state : State Socket) :
    State Socket :=
  match state.active_connections ticket_id with
  | some connections =>
      { state with
        lists := Function.update state.lists connections
          (state.lists connections ++ [websocket])
        accepted := insert websocket state.accepted }
  | none =>
      { state with
        lists := Function.update state.lists state.created [websocket]
        created := state.created + 1
        active_connections := Function.update state.active_connections ticket_id
          (some state.created)
        accepted := insert websocket state.accepted }

def disconnect (websocket : Socket) (ticket_id : String) (state : State Socket) :
    State Socket :=
  match state.active_connections ticket_id with
  | some connections =>
      let rest := (state.lists connections).erase websocket
      { state with
        lists := Function.update state.lists connections rest
        active_connections :=
          if rest = [] then Function.update state.active_connections ticket_id none
          else state.active_connections
        broadcasts := fun id =>
          (state.broadcasts id).map (Broadcast.notice connections websocket) }
  | none => state

def put (id : ℕ) (broadcast : Broadcast Socket) (state : State Socket) : State Socket :=
  { state with broadcasts := Function.update state.broadcasts id (some broadcast) }

def cleanup (ticket_id : String) (to_remove : List Socket) (state : State Socket) :
    State Socket :=
  to_remove.foldl (fun state conn => state.disconnect conn ticket_id) state

/-- The loop comes to the next connection or to its end. -/
def next (id : ℕ) (broadcast : Broadcast Socket) (state : State Socket) :
    State Socket :=
  match (state.lists broadcast.connections)[broadcast.loop.index]? with
  | some connection =>
      state.put id
        { broadcast with
          loop := broadcast.loop.visit connection
          connection := some connection }
  | none =>
      (state.put id { broadcast with connection := none }).cleanup broadcast.ticket_id
        broadcast.to_remove

end State

def Broadcast.start (ticket_id : String) (connections : ℕ) (state : State Socket) :
    Broadcast Socket where
  ticket_id := ticket_id
  connections := connections
  loop := .start (state.lists connections)
  to_remove := []
  connection := none

/-- The connections to remove after a send. -/
def Broadcast.failed (ok : Bool) (broadcast : Broadcast Socket) : List Socket :=
  if ok then broadcast.to_remove
  else broadcast.to_remove ++ broadcast.connection.toList

def step (state : State Socket) : Label Socket → Option (State Socket)
  | .connect websocket ticket_id =>
      if websocket ∈ state.accepted then none
      else some (state.connect websocket ticket_id)
  | .disconnect websocket ticket_id => some (state.disconnect websocket ticket_id)
  | .broadcast id ticket_id =>
      match state.broadcasts id, state.active_connections ticket_id with
      | none, some connections =>
          some (state.next id (.start ticket_id connections state))
      | none, none => some state
      | some _, _ => none
  | .sent id ok =>
      match state.broadcasts id with
      | some broadcast =>
          if broadcast.connection = none then none
          else some (state.next id { broadcast with to_remove := broadcast.failed ok })
      | none => none
  | .cancelled id =>
      match state.broadcasts id with
      | some broadcast =>
          if broadcast.connection = none then none
          else some (state.put id { broadcast with connection := none })
      | none => none

def manager (Socket : Type) [DecidableEq Socket] :
    System (State Socket) (Label Socket) where
  start := {}
  step := step

end Step

/-! ## What the connections get -/

section SentOnce

variable {Socket : Type}

/-- A broadcast that is over has sent its message once to every connection that was in
the list from its start to its end. -/
def SentOnce (state : State Socket) : Prop :=
  ∀ id broadcast, state.broadcasts id = some broadcast → broadcast.connection = none →
    ∀ websocket ∈ broadcast.loop.kept, broadcast.loop.visits websocket = 1

/-- No broadcast over the connections of the ticket, `ended` apart, skips one of them
when those in `removed` are removed. -/
def Spares (ended : Option ℕ) (ticket_id : String) (removed : List Socket)
    (state : State Socket) : Prop :=
  ∀ id broadcast, some id ≠ ended → state.broadcasts id = some broadcast →
    broadcast.connection ≠ none →
    state.active_connections ticket_id = some broadcast.connections →
    broadcast.loop.Spared removed (state.lists broadcast.connections)

/-- A connection is removed when no broadcast that has gone past it is still to come to
another that was there at its start, and a broadcast is cancelled when it has come to
all of these. -/
def Timely (state : State Socket) : Label Socket → Prop
  | .connect _ _ => True
  | .disconnect websocket ticket_id => Spares none ticket_id [websocket] state
  | .broadcast _ _ => True
  | .sent id ok =>
      ∀ broadcast, state.broadcasts id = some broadcast →
        (state.lists broadcast.connections)[broadcast.loop.index]? = none →
        Spares (some id) broadcast.ticket_id (broadcast.failed ok) state
  | .cancelled id =>
      ∀ broadcast, state.broadcasts id = some broadcast →
        ∀ websocket ∈ broadcast.loop.kept,
          websocket ∉ (state.lists broadcast.connections).drop broadcast.loop.index

/-! ## The invariant -/

/-- What is about to be removed from a list object, where `removed` is about to be
removed from the connections of the ticket. -/
def due (ticket_id : String) (removed : List Socket) (state : State Socket)
    (connections : ℕ) : List Socket :=
  if state.active_connections ticket_id = some connections then removed else []

structure Valid (ticket_id : String) (removed : List Socket) (state : State Socket) :
    Prop where
  known : ∀ ticket connections,
    state.active_connections ticket = some connections → connections < state.created
  apart : ∀ ticket other connections,
    state.active_connections ticket = some connections →
    state.active_connections other = some connections → ticket = other
  unused : ∀ connections, state.created ≤ connections → state.lists connections = []
  nodup : ∀ connections, (state.lists connections).Nodup
  accepted : ∀ connections, ∀ websocket ∈ state.lists connections,
    websocket ∈ state.accepted
  follows : ∀ id broadcast, state.broadcasts id = some broadcast →
    broadcast.connection ≠ none →
    broadcast.loop.Follows (due ticket_id removed state broadcast.connections)
      (state.lists broadcast.connections)
  spared : ∀ id broadcast, state.broadcasts id = some broadcast →
    broadcast.connection ≠ none →
    broadcast.loop.Spared (due ticket_id removed state broadcast.connections)
      (state.lists broadcast.connections)
  sent_once : SentOnce state

variable {ticket_id : String} {removed : List Socket} {state : State Socket}
  {websocket : Socket}

@[simp]
theorem due_nil (connections : ℕ) : due ticket_id [] state connections = [] := by
  unfold due
  split <;> rfl

/-- Where nothing is about to be removed, the ticket does not matter. -/
theorem Valid.settled (valid : Valid ticket_id [] state) (other : String) :
    Valid other [] state :=
  { valid with
    follows := by simpa only [due_nil] using valid.follows
    spared := by simpa only [due_nil] using valid.spared }

/-- Connections that no broadcast skips another for are about to be removed. -/
theorem Valid.announce (valid : Valid ticket_id [] state)
    (spares : Spares none ticket_id removed state) : Valid ticket_id removed state :=
  { valid with
    follows := by
      intro id broadcast found going
      have follows := valid.follows id broadcast found going
      rw [due_nil] at follows
      refine ⟨follows.listed, ?_⟩
      intro socket member _
      exact follows.once socket member List.not_mem_nil
    spared := by
      intro id broadcast found going
      unfold due
      split
      case isTrue active => exact spares id broadcast nofun found going active
      case isFalse => exact Loop.spared_nil }

variable [DecidableEq Socket]

/-- A new websocket is appended to a list object. -/
theorem Valid.append (valid : Valid ticket_id [] state)
    (fresh : websocket ∉ state.accepted) {connections created : ℕ}
    {active_connections : String → Option ℕ}
    (known : ∀ ticket list, active_connections ticket = some list → list < created)
    (apart : ∀ ticket other list, active_connections ticket = some list →
      active_connections other = some list → ticket = other)
    (grown : state.created ≤ created) (within : connections < created) :
    Valid ticket_id []
      { state with
        lists := Function.update state.lists connections
          (state.lists connections ++ [websocket])
        created, active_connections
        accepted := insert websocket state.accepted } where
  known := known
  apart := apart
  unused := by
    intro list above
    have different : list ≠ connections := (within.trans_le above).ne'
    simp only [Function.update_of_ne different]
    exact valid.unused list (grown.trans above)
  nodup := by
    intro list
    by_cases same : list = connections
    · subst same
      simp only [Function.update_self]
      apply List.Nodup.append (valid.nodup list) (List.nodup_singleton websocket)
      intro socket member is_new
      obtain rfl := List.mem_singleton.mp is_new
      exact fresh (valid.accepted list socket member)
    · simp only [Function.update_of_ne same]
      exact valid.nodup list
  accepted := by
    intro list socket member
    apply Finset.mem_insert.mpr
    by_cases same : list = connections
    · subst same
      simp only [Function.update_self] at member
      rcases List.mem_append.mp member with before | is_new
      · exact .inr (valid.accepted list socket before)
      · exact .inl (List.mem_singleton.mp is_new)
    · simp only [Function.update_of_ne same] at member
      exact .inr (valid.accepted list socket member)
  follows := by
    intro id broadcast found going
    have follows := valid.follows id broadcast found going
    rw [due_nil] at follows ⊢
    by_cases same : broadcast.connections = connections
    · subst same
      simp only [Function.update_self]
      exact follows.append websocket
    · simp only [Function.update_of_ne same]
      exact follows
  spared := by
    intro id broadcast _ _
    rw [due_nil]
    exact Loop.spared_nil
  sent_once := valid.sent_once

theorem Valid.connect (valid : Valid ticket_id [] state)
    (fresh : websocket ∉ state.accepted) (ticket : String) :
    Valid ticket_id [] (state.connect websocket ticket) := by
  unfold State.connect
  split
  case h_1 connections active =>
      exact valid.append fresh valid.known valid.apart le_rfl
        (valid.known ticket connections active)
  case h_2 nothing =>
      have appended : [websocket] = state.lists state.created ++ [websocket] := by
        rw [valid.unused state.created le_rfl, List.nil_append]
      rw [appended]
      apply valid.append fresh _ _ (Nat.le_succ _) (Nat.lt_succ_self _)
      · intro other list active
        by_cases same : other = ticket
        · rw [same, Function.update_self] at active
          exact Option.some.inj active ▸ Nat.lt_succ_self _
        · rw [Function.update_of_ne same] at active
          exact (valid.known other list active).trans (Nat.lt_succ_self _)
      · have old : ∀ other list, state.active_connections other = some list →
            list ≠ state.created := by
          intro other list active
          exact (valid.known other list active).ne
        intro other another list active also
        by_cases same : other = ticket
        · by_cases same' : another = ticket
          · rw [same, same']
          · rw [same, Function.update_self] at active
            rw [Function.update_of_ne same'] at also
            exact absurd (Option.some.inj active).symm (old another list also)
        · rw [Function.update_of_ne same] at active
          by_cases same' : another = ticket
          · rw [same', Function.update_self] at also
            exact absurd (Option.some.inj also).symm (old other list active)
          · rw [Function.update_of_ne same'] at also
            exact valid.apart other another list active also

theorem Broadcast.notice_cases (connections : ℕ) (websocket : Socket)
    (broadcast : Broadcast Socket) :
    (broadcast.connections = connections ∧ broadcast.connection ≠ none ∧
      broadcast.notice connections websocket =
        { broadcast with loop := broadcast.loop.remove websocket }) ∨
    ((broadcast.connections = connections → broadcast.connection = none) ∧
      broadcast.notice connections websocket = broadcast) := by
  unfold Broadcast.notice
  by_cases own : broadcast.connections = connections ∧ broadcast.connection ≠ none
  · exact .inl ⟨own.1, own.2, if_pos own⟩
  · right
    refine ⟨?_, if_neg own⟩
    intro same
    by_contra going
    exact own ⟨same, going⟩

/-- A broadcast after a removal, from the one before it. -/
theorem broadcasts_disconnect {connections : ℕ}
    (active : state.active_connections ticket_id = some connections) {id : ℕ}
    {broadcast : Broadcast Socket}
    (found : (state.disconnect websocket ticket_id).broadcasts id = some broadcast) :
    ∃ before, state.broadcasts id = some before ∧
      before.notice connections websocket = broadcast := by
  simp only [State.disconnect, active] at found
  exact Option.map_eq_some_iff.mp found

theorem lists_disconnect {connections : ℕ}
    (active : state.active_connections ticket_id = some connections) :
    (state.disconnect websocket ticket_id).lists =
      Function.update state.lists connections
        ((state.lists connections).erase websocket) := by
  simp only [State.disconnect, active]

/-- Only the entry of the ticket may go, when its list is empty. -/
theorem active_disconnect {connections : ℕ}
    (active : state.active_connections ticket_id = some connections) :
    (state.disconnect websocket ticket_id).active_connections =
      if (state.lists connections).erase websocket = [] then
        Function.update state.active_connections ticket_id none
      else state.active_connections := by
  simp only [State.disconnect, active]

theorem active_of_disconnect {ticket : String} {connections : ℕ}
    (active :
      (state.disconnect websocket ticket_id).active_connections ticket =
        some connections) :
    state.active_connections ticket = some connections := by
  cases own : state.active_connections ticket_id with
  | none => simpa only [State.disconnect, own] using active
  | some list =>
      rw [active_disconnect own] at active
      split at active
      case isFalse => exact active
      case isTrue =>
          by_cases same : ticket = ticket_id
          · rw [same, Function.update_self] at active
            contradiction
          · rw [Function.update_of_ne same] at active
            exact active

/-- A broadcast over a list after its connection has been removed, which is one of
those about to be removed. -/
theorem Valid.remaining (valid : Valid ticket_id (websocket :: removed) state)
    {connections id : ℕ} {broadcast : Broadcast Socket}
    (active : state.active_connections ticket_id = some connections)
    (found : (state.disconnect websocket ticket_id).broadcasts id = some broadcast)
    (going : broadcast.connection ≠ none) :
    broadcast.loop.Follows
        (due ticket_id removed (state.disconnect websocket ticket_id)
          broadcast.connections)
        ((state.disconnect websocket ticket_id).lists broadcast.connections) ∧
      broadcast.loop.Spared
        (due ticket_id removed (state.disconnect websocket ticket_id)
          broadcast.connections)
        ((state.disconnect websocket ticket_id).lists broadcast.connections) := by
  obtain ⟨before, was, noticed⟩ := broadcasts_disconnect active found
  rw [lists_disconnect active]
  rcases before.notice_cases connections websocket with
    ⟨rfl, still, changed⟩ | ⟨other, same⟩
  · obtain rfl := changed.symm.trans noticed
    have follows := valid.follows id before was still
    have spared := valid.spared id before was still
    rw [due, if_pos active] at follows spared
    have follows := follows.remove spared
    have spared := spared.remove
    rw [due, active_disconnect active, Function.update_self]
    by_cases empty : (state.lists before.connections).erase websocket = []
    · rw [if_pos empty, Function.update_self, if_neg nofun, empty]
      rw [empty] at follows
      exact ⟨follows.of_empty, Loop.spared_nil⟩
    · rw [if_neg empty, if_pos active]
      exact ⟨follows, spared⟩
  · obtain rfl := same.symm.trans noticed
    have different : before.connections ≠ connections := by
      intro own
      exact going (other own)
    have nothing : due ticket_id removed (state.disconnect websocket ticket_id)
        before.connections = [] := by
      apply if_neg
      intro still
      rw [active_of_disconnect still] at active
      exact different (Option.some.inj active)
    have none_before : due ticket_id (websocket :: removed) state
        before.connections = [] := by
      apply if_neg
      intro own
      exact different (Option.some.inj (own.symm.trans active))
    rw [nothing, Function.update_of_ne different]
    have follows := valid.follows id before was going
    rw [none_before] at follows
    exact ⟨follows, Loop.spared_nil⟩

theorem Valid.disconnect (valid : Valid ticket_id (websocket :: removed) state) :
    Valid ticket_id removed (state.disconnect websocket ticket_id) := by
  cases active : state.active_connections ticket_id with
  | none =>
      have same : state.disconnect websocket ticket_id = state := by
        simp only [State.disconnect, active]
      have nothing : ∀ removed connections,
          due ticket_id removed state connections = [] := by
        intro removed connections
        rw [due, active, if_neg nofun]
      rw [same]
      exact
        { valid with
          follows := by simpa only [nothing] using valid.follows
          spared := by simpa only [nothing] using valid.spared }
  | some connections =>
      have lists : (state.disconnect websocket ticket_id).lists = _ :=
        lists_disconnect active
      refine
        { known := ?_
          apart := ?_
          unused := ?_
          nodup := ?_
          accepted := ?_
          follows := ?_
          spared := ?_
          sent_once := ?_ }
      · intro ticket list own
        have within := valid.known ticket list (active_of_disconnect own)
        simpa only [State.disconnect, active] using within
      · intro ticket other list own also
        exact valid.apart ticket other list (active_of_disconnect own)
          (active_of_disconnect also)
      · intro list above
        simp only [State.disconnect, active] at above
        have different : list ≠ connections :=
          ((valid.known ticket_id connections active).trans_le above).ne'
        rw [lists, Function.update_of_ne different]
        exact valid.unused list above
      · intro list
        rw [lists]
        by_cases same : list = connections
        · subst same
          rw [Function.update_self]
          exact (valid.nodup list).erase websocket
        · rw [Function.update_of_ne same]
          exact valid.nodup list
      · intro list socket member
        have before : socket ∈ state.lists list := by
          rw [lists] at member
          by_cases same : list = connections
          · subst same
            rw [Function.update_self] at member
            exact List.mem_of_mem_erase member
          · rw [Function.update_of_ne same] at member
            exact member
        simpa only [State.disconnect, active] using valid.accepted list socket before
      · intro id broadcast found going
        exact (valid.remaining active found going).1
      · intro id broadcast found going
        exact (valid.remaining active found going).2
      · intro id broadcast found done socket kept
        obtain ⟨before, was, noticed⟩ := broadcasts_disconnect active found
        rcases before.notice_cases connections websocket with
          ⟨_, still, changed⟩ | ⟨_, same⟩
        · obtain rfl := changed.symm.trans noticed
          exact absurd done still
        · obtain rfl := same.symm.trans noticed
          exact valid.sent_once id before was done socket kept

theorem Valid.cleanup {to_remove : List Socket}
    (valid : Valid ticket_id to_remove state) :
    Valid ticket_id [] (state.cleanup ticket_id to_remove) := by
  induction to_remove generalizing state with
  | nil => exact valid
  | cons conn to_remove ih => exact ih valid.disconnect

omit [DecidableEq Socket] in
theorem broadcasts_put {id other : ℕ} {broadcast current : Broadcast Socket}
    (found : (state.put id broadcast).broadcasts other = some current) :
    (other = id ∧ broadcast = current) ∨
      (other ≠ id ∧ state.broadcasts other = some current) := by
  simp only [State.put] at found
  by_cases same : other = id
  · rw [same, Function.update_self] at found
    exact .inl ⟨same, Option.some.inj found⟩
  · rw [Function.update_of_ne same] at found
    exact .inr ⟨same, found⟩

omit [DecidableEq Socket] in
theorem Valid.put {id : ℕ} {broadcast : Broadcast Socket}
    (valid : Valid ticket_id [] state)
    (going : broadcast.connection ≠ none →
      broadcast.loop.Follows [] (state.lists broadcast.connections))
    (done : broadcast.connection = none →
      ∀ websocket ∈ broadcast.loop.kept, broadcast.loop.visits websocket = 1) :
    Valid ticket_id [] (state.put id broadcast) :=
  { valid with
    follows := by
      intro other current found still
      rw [due_nil]
      rcases broadcasts_put found with ⟨_, rfl⟩ | ⟨_, found⟩
      · exact going still
      · have follows := valid.follows other current found still
        rw [due_nil] at follows
        exact follows
    spared := by
      intro other current found still
      rw [due_nil]
      exact Loop.spared_nil
    sent_once := by
      intro other current found
      rcases broadcasts_put found with ⟨_, rfl⟩ | ⟨_, found⟩
      · exact done
      · exact valid.sent_once other current found }

theorem Valid.next {id : ℕ} {broadcast : Broadcast Socket}
    (valid : Valid ticket_id [] state)
    (follows : broadcast.loop.Follows [] (state.lists broadcast.connections))
    (spares :
      (state.lists broadcast.connections)[broadcast.loop.index]? = none →
        Spares (some id) broadcast.ticket_id broadcast.to_remove state) :
    Valid ticket_id [] (state.next id broadcast) := by
  unfold State.next
  split
  case h_1 connection found =>
      apply valid.put
      · intro _
        exact follows.visit (valid.nodup broadcast.connections) found
      · nofun
  case h_2 ended =>
      have stopped : Valid broadcast.ticket_id []
          (state.put id { broadcast with connection := none }) := by
        apply (valid.settled broadcast.ticket_id).put
        · intro going
          contradiction
        · intro _ websocket kept
          exact follows.finished ended kept
      have announced : Valid broadcast.ticket_id broadcast.to_remove
          (state.put id { broadcast with connection := none }) := by
        apply stopped.announce
        intro other current _ found going active
        rcases broadcasts_put found with ⟨_, rfl⟩ | ⟨different, found⟩
        · contradiction
        · have not_ended : some other ≠ some id := by
            intro same
            exact different (Option.some.inj same)
          exact spares ended other current not_ended found going active
      exact announced.cleanup.settled ticket_id

theorem Valid.step {label : Label Socket} {after : State Socket}
    (valid : Valid ticket_id [] state) (timely : Timely state label)
    (taken : step state label = some after) : Valid ticket_id [] after := by
  cases label with
  | connect websocket ticket =>
      obtain ⟨fresh, taken⟩ := Option.ite_none_left_eq_some.mp taken
      exact Option.some.inj taken ▸ valid.connect fresh ticket
  | disconnect websocket ticket =>
      rw [← Option.some.inj taken]
      have announced : Valid ticket [websocket] state :=
        (valid.settled ticket).announce timely
      exact announced.disconnect.settled ticket_id
  | broadcast id ticket =>
      simp only [Support.step] at taken
      split at taken
      case h_1 connections fresh active =>
          rw [← Option.some.inj taken]
          apply valid.next (Loop.follows_start _)
          intro _ other current _ _ _ _
          exact Loop.spared_nil
      case h_2 => exact Option.some.inj taken ▸ valid
      case h_3 => contradiction
  | sent id ok =>
      simp only [Support.step] at taken
      split at taken
      case h_1 broadcast found =>
          obtain ⟨going, taken⟩ := Option.ite_none_left_eq_some.mp taken
          rw [← Option.some.inj taken]
          have follows := valid.follows id broadcast found going
          rw [due_nil] at follows
          exact valid.next follows (timely broadcast found)
      case h_2 => contradiction
  | cancelled id =>
      simp only [Support.step] at taken
      split at taken
      case h_1 broadcast found =>
          obtain ⟨going, taken⟩ := Option.ite_none_left_eq_some.mp taken
          rw [← Option.some.inj taken]
          have follows := valid.follows id broadcast found going
          rw [due_nil] at follows
          apply valid.put
          · intro impossible
            contradiction
          · intro _ websocket kept
            rcases follows.once websocket kept List.not_mem_nil with
              ⟨_, visited⟩ | ⟨dropped, _⟩
            · exact visited
            · exact absurd dropped (timely broadcast found websocket kept)
      case h_2 => contradiction

end SentOnce

/-- In every run in which connections are removed, and broadcasts cancelled, in time,
each broadcast that is over has sent its message once to every connection that was
there for the whole of it. -/
theorem sent_once {Socket : Type} [DecidableEq Socket] {state : State Socket}
    (reached : ReachedBy (manager Socket) Timely state) : SentOnce state := by
  have valid : Valid "" [] state := by
    apply reached.invariant
    · exact
        { known := fun _ _ found => nomatch found
          apart := fun _ _ _ found => nomatch found
          unused := fun _ _ => rfl
          nodup := fun _ => List.nodup_nil
          accepted := fun _ _ absent => absurd absent List.not_mem_nil
          follows := fun _ _ found => nomatch found
          spared := fun _ _ found => nomatch found
          sent_once := fun _ _ found => nomatch found }
    · intro before label after valid timely taken
      exact valid.step timely taken
  exact valid.sent_once

def after (labels : List (Label ℕ)) : State ℕ :=
  (labels.foldlM (manager ℕ).step (manager ℕ).start).getD {}

/-- A message for two connections, of which the first leaves at the end. -/
def in_time : List (Label ℕ) :=
  [.connect 1 "t", .connect 2 "t", .broadcast 0 "t", .sent 0 true, .sent 0 false]

theorem in_time_sent_once : SentOnce (after in_time) := by
  have started : ReachedBy (manager ℕ) Timely
      (after [.connect 1 "t", .connect 2 "t", .broadcast 0 "t"]) :=
    .step (.step (.step .start (show Timely _ (.connect 1 "t") from trivial) rfl)
      (show Timely _ (.connect 2 "t") from trivial) rfl)
      (show Timely _ (.broadcast 0 "t") from trivial) rfl
  have only : ∀ labels : List (Label ℕ),
      (∀ other, other ≠ 0 → (after labels).broadcasts other = none) → ∀ ok,
      Timely (after labels) (.sent 0 ok) := by
    intro labels nothing ok broadcast _ _ other current different found
    have same : other ≠ 0 := by
      intro zero
      exact different (congrArg some zero)
    rw [nothing other same] at found
    contradiction
  have first : Timely
      (after [.connect 1 "t", .connect 2 "t", .broadcast 0 "t"]) (.sent 0 true) := by
    apply only
    intro other different
    exact Function.update_of_ne different _ _
  have second : Timely
      (after [.connect 1 "t", .connect 2 "t", .broadcast 0 "t", .sent 0 true])
      (.sent 0 false) := by
    apply only
    intro other different
    have unchanged := Function.update_of_ne different
      ((after [.connect 1 "t", .connect 2 "t", .broadcast 0 "t", .sent 0 true]).broadcasts
        0)
      (after [.connect 1 "t", .connect 2 "t", .broadcast 0 "t"]).broadcasts
    exact unchanged.trans (Function.update_of_ne different _ _)
  exact sent_once (.step (.step started first rfl) second rfl)

/-- The first connection leaves while the message is being sent to it. -/
def left_early : List (Label ℕ) :=
  [.connect 1 "t", .connect 2 "t", .broadcast 0 "t", .disconnect 1 "t", .sent 0 true]

theorem left_early_not_sent_once :
    ∃ state, Reachable (manager ℕ) state ∧ ¬SentOnce state := by
  refine ⟨after left_early, ?_, ?_⟩
  · exact .follow (fun _ _ _ => trivial) .start
      (rfl : left_early.foldlM (manager ℕ).step _ = some _)
  · intro once
    have visited := once 0 _ rfl rfl 2 (by decide)
    contradiction

end HftEngine.WebSocket.Support
