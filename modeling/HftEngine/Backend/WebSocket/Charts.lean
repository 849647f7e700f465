import HftEngine.Backend.WebSocket.Registry
import HftEngine.Lib.Transition
import Mathlib.Data.Finset.Card

/-!
# Chart subscriptions

Every endpoint has a client of its own.  An endpoint suspends while it waits
for a message and while a subscription is being confirmed, and then makes sure
that the stream of the group runs.  The lock is never held at an await, so
that nothing waits for it.  A stream looks for members of its group, fetches a
candle and sends it to the members that the group has then.
-/

namespace HftEngine.WebSocket

open Transition

variable {casing : Casing} {Client : Type}

inductive Endpoint where
  | receiving
  /-- The confirmation of a subscription is being sent. -/
  | confirming (group_key : String)
  | closed
  deriving DecidableEq

/-- While a stream is sending to a client, it has those that are still to come and
those whose sends have failed. -/
inductive ChartStream (Client : Type) where
  | sleeping
  | fetching
  | sending (client : Client) (rest disconnected : List Client)
  | finished

namespace ChartStream

def done : ChartStream Client → Bool
  | .finished => true
  | .sleeping | .fetching | .sending _ _ _ => false

/-- The clients that a broadcast is still to send to. -/
def rest : ChartStream Client → List Client
  | .sending _ rest _ => rest
  | .sleeping | .fetching | .finished => []

end ChartStream

theorem group_key_subscription (symbol interval : String) :
    (casing.subscription symbol interval).group_key =
      casing.upper symbol ++ ":" ++ interval := rfl

/-- A subscription to a chart has the interval where one to live data has the
expiry. -/
structure Charts (casing : Casing) (Client : Type) where
  registry : Registry casing Client := {}
  endpoints : Client → Option Endpoint := fun _ => none
  streaming_tasks : AList (fun _ : String => ChartStream Client) := ∅
  /-- The clients whose last message about a subscription was an unsubscribe. -/
  unsubscribed : Finset Client := ∅
  /-- The clients that have been sent a tick since that message. -/
  ticked : Finset Client := ∅

namespace Charts

/-- A stream that has fetched a candle goes through a copy of its group, in some
order; without a candle it goes on to its next round. -/
inductive Label (Client : Type) where
  | connect (client : Client)
  | subscribe (client : Client) (symbol interval : Option String)
  | confirmed (client : Client)
  | unsubscribe (client : Client)
  | leave (client : Client)
  | poll (group_key : String)
  | fetched (group_key : String) (candle : Option (List Client))
  | sent (group_key : String) (ok : Bool)

section Step

variable [DecidableEq Client]

def setEndpoint (client : Client) (endpoint : Endpoint) (state : Charts casing Client) :
    Charts casing Client :=
  { state with endpoints := Function.update state.endpoints client (some endpoint) }

omit [DecidableEq Client] in
def setStream (key : String) (stream : ChartStream Client)
    (state : Charts casing Client) : Charts casing Client :=
  { state with streaming_tasks := state.streaming_tasks.insert key stream }

/-- The task of the group is known and not done. -/
def running (key : String) (state : Charts casing Client) : Bool :=
  (state.streaming_tasks.lookup key).any (fun stream => !stream.done)

def start_stream (key : String) (state : Charts casing Client) : Charts casing Client :=
  if state.running key then state else state.setStream key .sleeping

/-- A client that is not connected is not subscribed, nor sent a confirmation. -/
def subscribe (client : Client) (symbol interval : Option String)
    (state : Charts casing Client) : Charts casing Client :=
  let symbol := casing.upper (symbol.getD "NIFTY")
  let interval := interval.getD "1"
  let key := symbol ++ ":" ++ interval
  let told :=
    { state with
      unsubscribed := state.unsubscribed.erase client
      ticked := state.ticked.erase client }
  match state.registry.subscribe client symbol interval with
  | some (_, registry) => { told with registry }.setEndpoint client (.confirming key)
  | none => told.start_stream key

def handle_charts_unsubscribe (client : Client) (state : Charts casing Client) :
    Charts casing Client :=
  match state.registry.subscriptions client with
  | some subscription =>
      match state.registry.subscription_groups.lookup subscription.group_key with
      | some clients =>
          if clients.card ≤ 1 then
            { state with
              streaming_tasks := state.streaming_tasks.erase subscription.group_key }
          else state
      | none => state
  | none => state

/-- Send to the next of the clients that has a websocket; at the end of a broadcast
the clients whose sends have failed are disconnected. -/
def broadcast_to_group (key : String) (clients disconnected : List Client)
    (state : Charts casing Client) : Charts casing Client :=
  match clients.dropWhile (· ∉ state.registry.active_connections) with
  | client :: rest =>
      { state with ticked := insert client state.ticked }.setStream key
        (.sending client rest disconnected)
  | [] =>
      { state with
        registry := disconnected.foldl (fun registry client =>
          (registry.disconnect client).2) state.registry }.setStream key .sleeping

def step (state : Charts casing Client) :
    Label Client → Option (Charts casing Client)
  | .connect client =>
      match state.endpoints client with
      | none =>
          some ({ state with
            registry := state.registry.connect client
            unsubscribed := state.unsubscribed.erase client }.setEndpoint client
              .receiving)
      | some _ => none
  | .subscribe client symbol interval =>
      match state.endpoints client with
      | some .receiving => some (state.subscribe client symbol interval)
      | _ => none
  | .confirmed client =>
      match state.endpoints client with
      | some (.confirming key) =>
          some ((state.start_stream key).setEndpoint client .receiving)
      | _ => none
  | .unsubscribe client =>
      match state.endpoints client with
      | some .receiving =>
          some
            { state.handle_charts_unsubscribe client with
              unsubscribed := insert client state.unsubscribed
              ticked := state.ticked.erase client }
      | _ => none
  | .leave client =>
      match state.endpoints client with
      | some .receiving | some (.confirming _) =>
          some ({ state.handle_charts_unsubscribe client with
            registry := (state.registry.disconnect client).2 }.setEndpoint client .closed)
      | _ => none
  | .poll key =>
      match state.streaming_tasks.lookup key with
      | some .sleeping =>
          some (state.setStream key
            (if state.registry.members key = ∅ then .finished else .fetching))
      | _ => none
  | .fetched key candle =>
      match state.streaming_tasks.lookup key with
      | some .fetching =>
          match candle with
          | none => some (state.setStream key .sleeping)
          | some order =>
              if order.Nodup ∧ order.toFinset = state.registry.members key then
                some (state.broadcast_to_group key order [])
              else none
      | _ => none
  | .sent key ok =>
      match state.streaming_tasks.lookup key with
      | some (.sending client rest disconnected) =>
          some (state.broadcast_to_group key rest
            (if ok then disconnected else disconnected ++ [client]))
      | _ => none

def system (casing : Casing) (Client : Type) [DecidableEq Client] :
    System (Charts casing Client) (Label Client) where
  start := {}
  step := step

end Step

/-! ## Ticks and streams -/

/-- A client that has unsubscribed has not been sent a tick since, and the group of
a client whose subscription is confirmed has a stream that runs. -/
structure Served (state : Charts casing Client) : Prop where
  quiet : ∀ client ∈ state.unsubscribed, client ∉ state.ticked
  streamed : ∀ key, ∀ client ∈ state.registry.members key,
    client ∉ state.unsubscribed →
    (∀ other, state.endpoints client ≠ some (.confirming other)) →
    state.running key = true

/-- No member of the group has unsubscribed. -/
def Wanted (key : String) (state : Charts casing Client) : Prop :=
  ∀ client ∈ state.registry.members key, client ∉ state.unsubscribed

/-- The clients that the stream of a group is still to send to. -/
def awaited (key : String) (state : Charts casing Client) : List Client :=
  ((state.streaming_tasks.lookup key).map ChartStream.rest).getD []

/-- The client is alone in its group, if it has one, and no broadcast of another
group is still to send to it. -/
structure Alone (client : Client) (state : Charts casing Client) : Prop where
  only_member : ∀ subscription,
    state.registry.subscriptions client = some subscription →
      state.registry.members subscription.group_key = {client}
  not_awaited : ∀ key, client ∈ state.awaited key →
    client ∈ state.registry.active_connections →
      (state.registry.subscriptions client).map Subscription.group_key = some key

/-- A client that unsubscribes is alone, and streams are started for groups without
members that have unsubscribed. -/
def Timely (state : Charts casing Client) : Label Client → Prop
  | .unsubscribe client => state.Alone client
  | .confirmed client =>
      ∀ key, state.endpoints client = some (.confirming key) → state.Wanted key
  | .subscribe client symbol interval =>
      client ∉ state.registry.active_connections →
        state.Wanted (casing.upper (symbol.getD "NIFTY") ++ ":" ++ interval.getD "1")
  | _ => True

/-! ## The invariant -/

structure Covered (state : Charts casing Client) : Prop where
  consistent : state.registry.Consistent
  known : ∀ client ∈ state.registry.active_connections, state.endpoints client ≠ none
  quiet : ∀ client ∈ state.unsubscribed, client ∉ state.ticked
  /-- The stream of a group runs, or a member that is not confirmed yet starts it. -/
  streamed : ∀ key, ∀ client ∈ state.registry.members key,
    client ∉ state.unsubscribed →
      state.running key = true ∨ state.endpoints client = some (.confirming key)
  wanted : ∀ key, state.running key = true → state.Wanted key
  awaited : ∀ key, ∀ client ∈ state.awaited key,
    client ∈ state.registry.active_connections → client ∉ state.unsubscribed

section Streams

variable {state : Charts casing Client} {key other : String}
  {stream : ChartStream Client}

theorem running_setStream : (state.setStream key stream).running other = true ↔
    if other = key then stream.done = false else state.running other = true := by
  simp only [running, setStream]
  by_cases same : other = key
  · subst same
    simp
  · simp [same]

theorem awaited_setStream : (state.setStream key stream).awaited other =
    if other = key then stream.rest else state.awaited other := by
  simp only [awaited, setStream]
  by_cases same : other = key
  · subst same
    simp
  · simp [same]

theorem running_start_stream : (state.start_stream key).running other = true ↔
    other = key ∨ state.running other = true := by
  unfold start_stream
  split
  case isTrue runs =>
      constructor
      · exact .inr
      · rintro (rfl | already)
        · exact runs
        · exact already
  case isFalse stopped =>
      rw [running_setStream]
      by_cases same : other = key
      · simp [same, ChartStream.done]
      · simp [same]

@[simp] theorem registry_start_stream :
    (state.start_stream key).registry = state.registry := by
  unfold start_stream
  split <;> rfl

@[simp] theorem unsubscribed_start_stream :
    (state.start_stream key).unsubscribed = state.unsubscribed := by
  unfold start_stream
  split <;> rfl

end Streams

namespace Covered

variable {state : Charts casing Client} {key : String} {stream : ChartStream Client}
  {client : Client}

theorem start : ({} : Charts casing Client).Covered where
  consistent := .start
  known := by simp
  quiet := by simp
  streamed := by simp [Registry.members]
  wanted := by simp [running]
  awaited := by simp [Charts.awaited]

/-- A stream starts or goes on; it stops only when its group is empty. -/
theorem setStream (covered : state.Covered)
    (alive : state.registry.members key ≠ ∅ → stream.done = false)
    (wanted : state.Wanted key)
    (rest : ∀ client ∈ stream.rest, client ∈ state.registry.active_connections →
      client ∉ state.unsubscribed) :
    (state.setStream key stream).Covered where
  consistent := covered.consistent
  known := covered.known
  quiet := covered.quiet
  streamed := by
    intro other client member subscribed
    rw [running_setStream]
    split
    case isTrue same =>
        left
        apply alive
        intro empty
        subst same
        exact absurd (empty ▸ member) (Finset.notMem_empty client)
    case isFalse => exact covered.streamed other client member subscribed
  wanted := by
    intro other running
    rw [running_setStream] at running
    split at running
    case isTrue same => exact same ▸ wanted
    case isFalse => exact covered.wanted other running
  awaited := by
    intro other client member active
    rw [awaited_setStream] at member
    split at member
    case isTrue => exact rest client member active
    case isFalse => exact covered.awaited other client member active

/-- Clients leave the maps. -/
theorem shrink (covered : state.Covered) {registry : Registry casing Client}
    (consistent : registry.Consistent)
    (members : ∀ key, registry.members key ⊆ state.registry.members key)
    (active : registry.active_connections ⊆ state.registry.active_connections) :
    ({ state with registry } : Charts casing Client).Covered where
  consistent := consistent
  known := fun client present => covered.known client (active present)
  quiet := covered.quiet
  streamed := by
    intro key client member
    exact covered.streamed key client (members key member)
  wanted := by
    intro key runs client member
    exact covered.wanted key runs client (members key member)
  awaited := by
    intro key client member present
    exact covered.awaited key client member (active present)

/-- The stream of a group is cancelled that has no subscribed members. -/
theorem erase (covered : state.Covered)
    (deserted : ∀ client ∈ state.registry.members key, client ∈ state.unsubscribed) :
    ({ state with streaming_tasks := state.streaming_tasks.erase key } :
      Charts casing Client).Covered where
  consistent := covered.consistent
  known := covered.known
  quiet := covered.quiet
  streamed := by
    intro other client member subscribed
    have different : other ≠ key := by
      intro same
      subst same
      exact subscribed (deserted client member)
    simp only [running, AList.lookup_erase_ne different]
    exact covered.streamed other client member subscribed
  wanted := by
    intro other runs
    by_cases same : other = key
    · subst same
      simp [running] at runs
    · simp only [running, AList.lookup_erase_ne same] at runs
      exact covered.wanted other runs
  awaited := by
    intro other client member
    by_cases same : other = key
    · subst same
      simp [Charts.awaited] at member
    · simp only [Charts.awaited, AList.lookup_erase_ne same] at member
      exact covered.awaited other client member

theorem start_stream (covered : state.Covered) (wanted : state.Wanted key) :
    (state.start_stream key).Covered := by
  unfold Charts.start_stream
  split
  case isTrue => exact covered
  case isFalse =>
      apply covered.setStream
      · intro _
        rfl
      · exact wanted
      · intro client impossible
        cases impossible

section Endpoints

variable [DecidableEq Client]

/-- An endpoint goes on whose client, if it is subscribed, has a stream that runs. -/
theorem setEndpoint (covered : state.Covered) {endpoint : Endpoint}
    (served : ∀ key, client ∈ state.registry.members key →
      client ∉ state.unsubscribed →
        state.running key = true ∨ endpoint = .confirming key) :
    (state.setEndpoint client endpoint).Covered where
  consistent := covered.consistent
  known := by
    intro other active
    by_cases same : other = client
    · simp [Charts.setEndpoint, same]
    · simpa [Charts.setEndpoint, same] using covered.known other active
  quiet := covered.quiet
  streamed := by
    intro key other member subscribed
    by_cases same : other = client
    · subst same
      apply (served key member subscribed).imp_right
      intro confirming
      exact (Function.update_self _ _ _).trans (congrArg some confirming)
    · apply (covered.streamed key other member subscribed).imp_right
      intro confirming
      exact (Function.update_of_ne same _ _).trans confirming
  wanted := covered.wanted
  awaited := covered.awaited

theorem connect (covered : state.Covered) (fresh : state.endpoints client = none) :
    ({ state with
      registry := state.registry.connect client
      unsubscribed := state.unsubscribed.erase client }.setEndpoint client
        .receiving).Covered where
  consistent := covered.consistent.connect client
  known := by
    intro other active
    by_cases same : other = client
    · simp [Charts.setEndpoint, same]
    · have before := (Finset.mem_insert.mp active).resolve_left same
      simpa [Charts.setEndpoint, same] using covered.known other before
  quiet := by
    intro other told
    exact covered.quiet other (Finset.mem_of_mem_erase told)
  streamed := by
    intro key other member subscribed
    have different : other ≠ client := by
      intro same
      subst same
      exact covered.known other (covered.consistent.active_of_mem member) fresh
    have still : other ∉ state.unsubscribed := by
      intro told
      exact subscribed (Finset.mem_erase.mpr ⟨different, told⟩)
    apply (covered.streamed key other member still).imp_right
    intro confirming
    exact (Function.update_of_ne different _ _).trans confirming
  wanted := by
    intro key runs other member told
    exact covered.wanted key runs other member (Finset.mem_of_mem_erase told)
  awaited := by
    intro key other member active told
    obtain ⟨different, told⟩ := Finset.mem_erase.mp told
    have before := (Finset.mem_insert.mp active).resolve_left different
    exact covered.awaited key other member before told

/-- The message of a client that is not connected subscribes it to nothing. -/
theorem forget (covered : state.Covered)
    (gone : client ∉ state.registry.active_connections) :
    ({ state with
      unsubscribed := state.unsubscribed.erase client
      ticked := state.ticked.erase client } : Charts casing Client).Covered where
  consistent := covered.consistent
  known := covered.known
  quiet := by
    intro other told ticked
    exact covered.quiet other (Finset.mem_of_mem_erase told)
      (Finset.mem_of_mem_erase ticked)
  streamed := by
    intro key other member subscribed
    apply covered.streamed key other member
    intro told
    refine subscribed (Finset.mem_erase.mpr ⟨?_, told⟩)
    intro same
    subst same
    exact gone (covered.consistent.active_of_mem member)
  wanted := by
    intro key runs other member told
    exact covered.wanted key runs other member (Finset.mem_of_mem_erase told)
  awaited := by
    intro key other member active told
    exact covered.awaited key other member active (Finset.mem_of_mem_erase told)

/-- A client moves to a group, whose stream its endpoint is about to start. -/
theorem move (covered : state.Covered) {registry : Registry casing Client}
    (consistent : registry.Consistent)
    (active : registry.active_connections = state.registry.active_connections)
    (member_iff : ∀ other wanted, other ∈ registry.members wanted ↔
      if other = client then wanted = key else other ∈ state.registry.members wanted) :
    ({ state with
      registry
      unsubscribed := state.unsubscribed.erase client
      ticked := state.ticked.erase client }.setEndpoint client
        (.confirming key)).Covered where
  consistent := consistent
  known := by
    intro other present
    by_cases same : other = client
    · simp [Charts.setEndpoint, same]
    · have before := covered.known other (active ▸ present)
      simpa [Charts.setEndpoint, same] using before
  quiet := by
    intro other told ticked
    exact covered.quiet other (Finset.mem_of_mem_erase told)
      (Finset.mem_of_mem_erase ticked)
  streamed := by
    intro wanted other member subscribed
    have moved := (member_iff other wanted).mp member
    by_cases same : other = client
    · rw [if_pos same] at moved
      right
      rw [same, moved]
      exact Function.update_self _ _ _
    · rw [if_neg same] at moved
      have still : other ∉ state.unsubscribed := by
        intro told
        exact subscribed (Finset.mem_erase.mpr ⟨same, told⟩)
      apply (covered.streamed wanted other moved still).imp_right
      intro confirming
      exact (Function.update_of_ne same _ _).trans confirming
  wanted := by
    intro wanted runs other member told
    obtain ⟨different, told⟩ := Finset.mem_erase.mp told
    have before := (member_iff other wanted).mp member
    rw [if_neg different] at before
    exact covered.wanted wanted runs other before told
  awaited := by
    intro wanted other member present told
    exact covered.awaited wanted other member (active ▸ present)
      (Finset.mem_of_mem_erase told)

theorem subscribe (covered : state.Covered) {symbol interval : Option String}
    (wanted : client ∉ state.registry.active_connections →
      state.Wanted (casing.upper (symbol.getD "NIFTY") ++ ":" ++ interval.getD "1")) :
    (state.subscribe client symbol interval).Covered := by
  unfold Charts.subscribe
  dsimp only
  split
  case h_1 is_new registry subscribed =>
      apply covered.move
      · exact covered.consistent.subscribe subscribed
      · exact Registry.active_connections_subscribe subscribed
      · intro other group
        rw [covered.consistent.mem_subscribe subscribed, group_key_subscription,
          casing.upper_upper]
  case h_2 rejected =>
      have gone : client ∉ state.registry.active_connections := by
        intro active
        rw [Registry.subscribe, if_pos active] at rejected
        contradiction
      apply (covered.forget gone).start_stream
      intro other member told
      exact wanted gone other member (Finset.mem_of_mem_erase told)

/-! ### Clients that unsubscribe or leave -/

omit [DecidableEq Client] in
/-- The stream of a group is cancelled when the client is its only member. -/
theorem handle_charts_unsubscribe_cases (covered : state.Covered) (client : Client) :
    (state.handle_charts_unsubscribe client = state ∧
      ∀ key, state.registry.members key ≠ {client}) ∨
    ∃ key, state.registry.members key = {client} ∧
      state.handle_charts_unsubscribe client =
        { state with streaming_tasks := state.streaming_tasks.erase key } := by
  have member_iff := covered.consistent.member_iff client
  cases found : state.registry.subscriptions client with
  | none =>
      left
      constructor
      · simp [Charts.handle_charts_unsubscribe, found]
      · intro key alone
        have member := (member_iff key).mp (alone ▸ Finset.mem_singleton_self client)
        rw [found] at member
        cases member
  | some subscription =>
      have own : client ∈ state.registry.members subscription.group_key := by
        rw [member_iff, found]
        rfl
      have members_eq : ∀ clients, state.registry.subscription_groups.lookup
          subscription.group_key = some clients →
            state.registry.members subscription.group_key = clients := by
        intro clients listed
        rw [Registry.members, listed, Option.getD_some]
      cases listed : state.registry.subscription_groups.lookup
          subscription.group_key with
      | none =>
          rw [Registry.members, listed] at own
          exact absurd own (Finset.notMem_empty client)
      | some clients =>
          rw [members_eq clients listed] at own
          by_cases alone : clients.card ≤ 1
          · right
            refine ⟨subscription.group_key, ?_, ?_⟩
            · rw [members_eq clients listed]
              apply Finset.eq_singleton_iff_unique_mem.mpr
              refine ⟨own, ?_⟩
              intro other member
              exact Finset.card_le_one.mp alone other member client own
            · simp [Charts.handle_charts_unsubscribe, found, listed, alone]
          · left
            constructor
            · simp [Charts.handle_charts_unsubscribe, found, listed, alone]
            · intro key only_member
              have same : subscription.group_key = key := by
                have member := (member_iff key).mp
                  (only_member ▸ Finset.mem_singleton_self client)
                rw [found] at member
                exact Option.some.inj member
              subst same
              rw [members_eq clients listed] at only_member
              rw [only_member, Finset.card_singleton] at alone
              exact alone le_rfl

theorem disconnect (covered : state.Covered) (client : Client) :
    ({ state with registry := (state.registry.disconnect client).2 } :
      Charts casing Client).Covered := by
  apply covered.shrink
  · exact covered.consistent.disconnect client
  · intro key other member
    exact ((covered.consistent.mem_disconnect client other key).mp member).2
  · rw [Registry.active_connections_disconnect]
    exact Finset.erase_subset _ _

theorem leave (covered : state.Covered) (client : Client) :
    ({ state.handle_charts_unsubscribe client with
      registry := (state.registry.disconnect client).2 }.setEndpoint client
        .closed).Covered := by
  have gone : ∀ key, client ∉ (state.registry.disconnect client).2.members key :=
    covered.consistent.notMem_disconnect client
  have left := covered.disconnect client
  rcases covered.handle_charts_unsubscribe_cases client with ⟨same, _⟩ |
    ⟨key, alone, same⟩
  · rw [same]
    apply left.setEndpoint
    intro key member
    exact absurd member (gone key)
  · rw [same]
    have deserted : ∀ other ∈ (state.registry.disconnect client).2.members key,
        other ∈ state.unsubscribed := by
      intro other member
      obtain ⟨different, before⟩ :=
        (covered.consistent.mem_disconnect client other key).mp member
      rw [alone] at before
      exact absurd (Finset.mem_singleton.mp before) different
    apply (left.erase deserted).setEndpoint
    intro key member
    exact absurd member (gone key)

/-- A client unsubscribes, where the stream of its group, if it has one, is gone and the
client was the only member. -/
theorem depart (covered : state.Covered) (alone : state.Alone client)
    {streams : AList (fun _ : String => ChartStream Client)}
    (others : ∀ key, client ∉ state.registry.members key →
      streams.lookup key = state.streaming_tasks.lookup key)
    (own : ∀ key, client ∈ state.registry.members key →
      streams.lookup key = none ∧ state.registry.members key = {client}) :
    ({ state with
      streaming_tasks := streams
      unsubscribed := insert client state.unsubscribed
      ticked := state.ticked.erase client } : Charts casing Client).Covered where
  consistent := covered.consistent
  known := covered.known
  quiet := by
    intro other told ticked
    obtain ⟨different, ticked⟩ := Finset.mem_erase.mp ticked
    have before := (Finset.mem_insert.mp told).resolve_left different
    exact covered.quiet other before ticked
  streamed := by
    intro key other member subscribed
    by_cases member_key : client ∈ state.registry.members key
    · rw [(own key member_key).2] at member
      exact absurd (Finset.mem_insert.mpr (.inl (Finset.mem_singleton.mp member)))
        subscribed
    · simp only [running, others key member_key]
      apply covered.streamed key other member
      intro told
      exact subscribed (Finset.mem_insert_of_mem told)
  wanted := by
    intro key runs other member told
    by_cases member_key : client ∈ state.registry.members key
    · simp only [running, (own key member_key).1] at runs
      contradiction
    · simp only [running, others key member_key] at runs
      rcases Finset.mem_insert.mp told with same | before
      · exact member_key (same ▸ member)
      · exact covered.wanted key runs other member before
  awaited := by
    intro key other member active told
    by_cases member_key : client ∈ state.registry.members key
    · simp only [Charts.awaited, (own key member_key).1] at member
      contradiction
    · simp only [Charts.awaited, others key member_key] at member
      rcases Finset.mem_insert.mp told with same | before
      · subst same
        have own_key := alone.not_awaited key member active
        exact member_key ((covered.consistent.member_iff other key).mpr own_key)
      · exact covered.awaited key other member active before

/-- A client that unsubscribes alone takes the stream of its group with it. -/
theorem unsubscribe (covered : state.Covered) (alone : state.Alone client) :
    ({ state.handle_charts_unsubscribe client with
      unsubscribed := insert client state.unsubscribed
      ticked := state.ticked.erase client } : Charts casing Client).Covered := by
  rcases covered.handle_charts_unsubscribe_cases client with ⟨same, not_alone⟩ |
    ⟨key, only_member, same⟩
  · rw [same]
    apply covered.depart alone
    · intro key _
      rfl
    · intro key member
      obtain ⟨subscription, found, same⟩ := Option.map_eq_some_iff.mp
        ((covered.consistent.member_iff client key).mp member)
      exact absurd (same ▸ alone.only_member subscription found) (not_alone key)
  · rw [same]
    have member_key : client ∈ state.registry.members key :=
      only_member ▸ Finset.mem_singleton_self client
    apply covered.depart alone
    · intro other not_member
      apply AList.lookup_erase_ne
      intro is_key
      exact not_member (is_key ▸ member_key)
    · intro other member
      obtain rfl := covered.consistent.eq_of_mem member member_key
      exact ⟨AList.lookup_erase _ _, only_member⟩

/-! ### Broadcasts -/

theorem disconnect_all (covered : state.Covered) (clients : List Client) :
    ({ state with
      registry := clients.foldl (fun registry client =>
        (registry.disconnect client).2) state.registry } :
      Charts casing Client).Covered := by
  induction clients generalizing state with
  | nil => exact covered
  | cons client clients ih => exact ih (covered.disconnect client)

theorem broadcast_to_group (covered : state.Covered) (runs : state.running key = true)
    {clients : List Client}
    (subscribed : ∀ client ∈ clients, client ∈ state.registry.active_connections →
      client ∉ state.unsubscribed) (disconnected : List Client) :
    (state.broadcast_to_group key clients disconnected).Covered := by
  have wanted := covered.wanted key runs
  unfold Charts.broadcast_to_group
  split
  case h_1 client rest found =>
      have suffix : client :: rest <:+ clients := found ▸ List.dropWhile_suffix _
      have active : client ∈ state.registry.active_connections := by
        have stopped := List.head?_dropWhile_not
          (fun client => decide (client ∉ state.registry.active_connections)) clients
        rw [found] at stopped
        simpa using stopped
      have told : client ∉ state.unsubscribed :=
        subscribed client (suffix.mem List.mem_cons_self) active
      have ticked : ({ state with ticked := insert client state.ticked } :
          Charts casing Client).Covered := by
        refine { covered with quiet := ?_ }
        intro other unsubscribed sent
        rcases Finset.mem_insert.mp sent with same | before
        · exact told (same ▸ unsubscribed)
        · exact covered.quiet other unsubscribed before
      apply ticked.setStream
      · intro _
        rfl
      · exact wanted
      · intro other member
        exact subscribed other (suffix.mem (List.mem_cons_of_mem _ member))
  case h_2 =>
      have gone := covered.disconnect_all disconnected
      apply gone.setStream
      · intro _
        rfl
      · exact gone.wanted key runs
      · intro other impossible
        cases impossible

omit [DecidableEq Client] in
theorem running_of_lookup (found : state.streaming_tasks.lookup key = some stream)
    (alive : stream.done = false) : state.running key = true := by
  simp [running, found, alive]

theorem step {label : Label Client} {after : Charts casing Client}
    (covered : state.Covered) (timely : state.Timely label)
    (taken : state.step label = some after) : after.Covered := by
  cases label with
  | connect client =>
      simp only [Charts.step] at taken
      split at taken
      case h_1 fresh => exact Option.some.inj taken ▸ covered.connect fresh
      case h_2 => contradiction
  | subscribe client symbol interval =>
      simp only [Charts.step] at taken
      split at taken
      case h_1 => exact Option.some.inj taken ▸ covered.subscribe timely
      case h_2 => contradiction
  | confirmed client =>
      simp only [Charts.step] at taken
      split at taken
      case h_1 key confirming =>
          rw [← Option.some.inj taken]
          have started := covered.start_stream (timely key confirming)
          apply started.setEndpoint
          intro other member subscribed
          left
          rw [running_start_stream]
          rw [registry_start_stream] at member
          rw [unsubscribed_start_stream] at subscribed
          rcases covered.streamed other client member subscribed with runs | same
          · exact .inr runs
          · rw [confirming, Option.some.injEq, Endpoint.confirming.injEq] at same
            exact .inl same.symm
      case h_2 => contradiction
  | unsubscribe client =>
      simp only [Charts.step] at taken
      split at taken
      case h_1 => exact Option.some.inj taken ▸ covered.unsubscribe timely
      case h_2 => contradiction
  | leave client =>
      simp only [Charts.step] at taken
      split at taken
      case h_1 => exact Option.some.inj taken ▸ covered.leave client
      case h_2 => exact Option.some.inj taken ▸ covered.leave client
      case h_3 => contradiction
  | poll key =>
      simp only [Charts.step] at taken
      split at taken
      case h_1 found =>
          rw [← Option.some.inj taken]
          apply covered.setStream
          · intro members
            rw [if_neg members]
            rfl
          · exact covered.wanted key (running_of_lookup found rfl)
          · intro client member
            split at member <;> cases member
      case h_2 => contradiction
  | fetched key candle =>
      simp only [Charts.step] at taken
      split at taken
      case h_1 found =>
          have runs := running_of_lookup found rfl
          have wanted := covered.wanted key runs
          cases candle with
          | none =>
              rw [← Option.some.inj taken]
              apply covered.setStream
              · intro _
                rfl
              · exact wanted
              · intro client impossible
                cases impossible
          | some order =>
              obtain ⟨⟨_, same⟩, rfl⟩ := guarded_eq_some.mp taken
              apply covered.broadcast_to_group runs
              intro client member _
              apply wanted
              rw [← same]
              exact List.mem_toFinset.mpr member
      case h_2 => contradiction
  | sent key ok =>
      simp only [Charts.step] at taken
      split at taken
      case h_1 client rest disconnected found =>
          rw [← Option.some.inj taken]
          apply covered.broadcast_to_group (running_of_lookup found rfl)
          intro other member
          apply covered.awaited key
          simpa [Charts.awaited, found, ChartStream.rest] using member
      case h_2 => contradiction

end Endpoints

end Covered

/-- In every run with timely steps a client that has unsubscribed is sent no tick
before it subscribes again, and the groups of subscribed clients have streams. -/
theorem charts_served [DecidableEq Client] {state : Charts casing Client}
    (reached : ReachedBy (system casing Client) Timely state) : state.Served := by
  have covered : state.Covered := by
    apply reached.invariant .start
    intro before label after covered timely taken
    exact covered.step timely taken
  constructor
  · exact covered.quiet
  · intro key client member subscribed confirmed
    exact (covered.streamed key client member subscribed).resolve_right (confirmed key)

def after (labels : List (Label ℕ)) : Charts capitals ℕ :=
  (labels.foldlM step {}).getD {}

/-- A client subscribes and is sent a tick. -/
def charted : List (Label ℕ) :=
  [.connect 7, .subscribe 7 none none, .confirmed 7, .poll "NIFTY:1",
    .fetched "NIFTY:1" (some [7]), .sent "NIFTY:1" true]

theorem reached_charted :
    ReachedBy (system capitals ℕ) Timely (after charted) := by
  have connected : ReachedBy (system capitals ℕ) Timely (after [.connect 7]) :=
    .follow (by simp [Timely]) .start (rfl : [.connect 7].foldlM step {} = some _)
  have active : (after [.connect 7]).Timely (.subscribe 7 none none) := by
    intro gone
    exact absurd (Finset.mem_insert_self 7 ∅) gone
  have subscribed : ReachedBy (system capitals ℕ) Timely
      (after [.connect 7, .subscribe 7 none none]) := .step connected active rfl
  have wanted : (after [.connect 7, .subscribe 7 none none]).Timely
      (.confirmed 7) := by
    intro key _ client _ told
    exact absurd told (Finset.notMem_empty client)
  have confirmed : ReachedBy (system capitals ℕ) Timely
      (after [.connect 7, .subscribe 7 none none, .confirmed 7]) :=
    .step subscribed wanted rfl
  exact .follow (by simp [Timely]) confirmed
    (rfl : [.poll "NIFTY:1", .fetched "NIFTY:1" (some [7]),
      .sent "NIFTY:1" true].foldlM step _ = some _)

/-- The client, which is alone in its group, unsubscribes. -/
def stopped : List (Label ℕ) :=
  charted ++ [.unsubscribe 7]

theorem alone_charted : (after charted).Alone 7 where
  only_member := by
    intro subscription found
    obtain rfl : capitals.subscription "NIFTY" "1" = subscription := Option.some.inj found
    rfl
  not_awaited := by
    intro key member _
    have only_stream : key = "NIFTY:1" := by
      by_contra different
      have absent : key ∉ (after charted).streaming_tasks := by
        intro present
        exact different (List.mem_singleton.mp (AList.mem_keys.mp present))
      rw [awaited, AList.lookup_eq_none.mpr absent] at member
      cases member
    subst only_stream
    cases member

theorem served_stopped : (after stopped).Served ∧
    7 ∈ (after stopped).unsubscribed := by
  have stopped : ReachedBy (system capitals ℕ) Timely (after stopped) :=
    .step reached_charted (show Timely _ (.unsubscribe 7) from alone_charted) rfl
  exact ⟨charts_served stopped, Finset.mem_insert_self 7 _⟩

/-- One of two subscribed clients unsubscribes, and the stream of their group goes on. -/
def still_sent : List (Label ℕ) :=
  [.connect 7, .connect 8, .subscribe 7 none none, .confirmed 7,
    .subscribe 8 none none, .confirmed 8, .unsubscribe 7, .poll "NIFTY:1",
    .fetched "NIFTY:1" (some [7, 8])]

theorem still_sent_not_served : ∃ state : Charts capitals ℕ,
    Reachable (system capitals ℕ) state ∧ ¬state.Served := by
  refine ⟨after still_sent, ?_, ?_⟩
  · exact .follow (fun _ _ _ => trivial) .start
      (rfl : still_sent.foldlM step {} = some _)
  · intro served
    exact served.quiet 7 (by decide) (by decide)

end Charts

end HftEngine.WebSocket
