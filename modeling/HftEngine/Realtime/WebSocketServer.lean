import HftEngine.Lib.Json.Read
import HftEngine.Lib.Transition
import Mathlib.Data.Finset.Card
import Mathlib.Logic.Function.Basic

/-!
# The WebSocket relay

Every channel has a set of clients and a task that passes on the messages of a
Redis pattern.  The task awaits each send in the middle of an iteration over the
set, while endpoints add clients to it and discard them.
-/

namespace HftEngine.Relay

open Transition

inductive Channel where
  | option_chain
  | pcr
  | market_mood
  | overall_metrics
  | sr_levels
  deriving DecidableEq

/-- A message of a pattern, with the symbol whose channel it has come by. -/
structure Message where
  symbol_id : ℤ
  data : String

/-- The size of the set is the one that the iteration began with; `present` holds the
clients that were in the set then and have stayed, and `sent` what each client has
been sent. -/
structure Broadcast (Client Data : Type) where
  message : Message
  data : Data
  size : ℕ
  unchanged : Bool
  disconnected : Finset Client
  present : Finset Client
  sent : Client → List Data

inductive Subscriber (Client Data : Type) where
  | listening
  | sending (broadcast : Broadcast Client Data) (websocket : Client)
  | stopped

/-- A message that has been handled. -/
structure Delivery (Client Data : Type) where
  message : Message
  present : Finset Client
  sent : Client → List Data

/-- A channel; the symbol of a client is that of its endpoint. -/
structure State (Client Data : Type) where
  connections : Finset Client := ∅
  symbol_ids : Client → Option ℤ := fun _ => none
  subscriber : Subscriber Client Data := .listening
  delivered : List (Delivery Client Data) := []

/-- The websocket that an iteration comes to, or none at its end. -/
inductive Label (Client : Type) where
  | connect (websocket : Client) (symbol_id : ℤ)
  | disconnect (websocket : Client)
  | message (message : Message) (next : Option Client)
  | sent (ok : Bool) (next : Option Client)

section Step

variable {Client Data : Type} [DecidableEq Client]

/-- The clients change during a broadcast. -/
def Subscriber.notice (present : Finset Client) :
    Subscriber Client Data → Subscriber Client Data
  | .sending broadcast websocket =>
      .sending
        { broadcast with unchanged := false, present := broadcast.present ∩ present }
        websocket
  | .listening => .listening
  | .stopped => .stopped

def State.connect (websocket : Client) (symbol_id : ℤ) (state : State Client Data) :
    State Client Data :=
  { state with
    connections := insert websocket state.connections
    symbol_ids := Function.update state.symbol_ids websocket (some symbol_id)
    subscriber := state.subscriber.notice (insert websocket state.connections) }

def State.disconnect (websocket : Client) (state : State Client Data) :
    State Client Data :=
  if websocket ∈ state.connections then
    { state with
      connections := state.connections.erase websocket
      subscriber := state.subscriber.notice (state.connections.erase websocket) }
  else state

/-- The iteration raises an exception where the size of the set has changed.  It comes
to every client once where the set has not changed; after changes that have kept the
size it may come to any. -/
def State.next (broadcast : Broadcast Client Data) (next : Option Client)
    (state : State Client Data) : Option (State Client Data) :=
  if state.connections.card ≠ broadcast.size then
    some { state with subscriber := .stopped }
  else
    match next with
    | some websocket =>
        if websocket ∈ state.connections ∧
            (broadcast.unchanged → (broadcast.sent websocket).isEmpty) then
          let sent := broadcast.sent websocket ++ [broadcast.data]
          some
            { state with
              subscriber := .sending
                { broadcast with
                  sent := Function.update broadcast.sent websocket sent } websocket }
        else none
    | none =>
        if broadcast.unchanged →
            ∀ websocket ∈ state.connections, (broadcast.sent websocket).isEmpty = false then
          some
            { state with
              connections := state.connections \ broadcast.disconnected
              subscriber := .listening
              delivered := state.delivered ++
                [{ message := broadcast.message
                   present := broadcast.present
                   sent := broadcast.sent }] }
        else none

/-- `loads` is `json.loads`, with none where it raises. -/
def step (loads : String → Option Data) (state : State Client Data) :
    Label Client → Option (State Client Data)
  | .connect websocket symbol_id =>
      match state.symbol_ids websocket with
      | none => some (state.connect websocket symbol_id)
      | some _ => none
  | .disconnect websocket => some (state.disconnect websocket)
  | .message message next =>
      match state.subscriber with
      | .listening =>
          match loads message.data with
          | some data =>
              state.next
                { message, data
                  size := state.connections.card
                  unchanged := true
                  disconnected := ∅
                  present := state.connections
                  sent := fun _ => [] } next
          | none => some { state with subscriber := .stopped }
      | _ => none
  | .sent ok next =>
      match state.subscriber with
      | .sending broadcast websocket =>
          let disconnected :=
            if ok then broadcast.disconnected else insert websocket broadcast.disconnected
          state.next { broadcast with disconnected } next
      | _ => none

end Step

abbrev Server (Client Data : Type) := Channel → State Client Data

/-- The channels share nothing: a step of the server is one of a channel. -/
def server (Client : Type) [DecidableEq Client] {Data : Type}
    (loads : String → Option Data) :
    System (Server Client Data) (Channel × Label Client) where
  start := fun _ => {}
  step := fun state (channel, label) =>
    (step loads (state channel) label).map (Function.update state channel)

/-! ## What the clients get -/

section Faithful

variable {Client Data : Type} {loads : String → Option Data}

/-- The task of the channel runs, and a client that was connected while a message was
handled has been sent it once if it is of its symbol, and otherwise not at all. -/
structure Faithful (loads : String → Option Data) (state : State Client Data) :
    Prop where
  alive : state.subscriber ≠ .stopped
  delivered : ∀ delivery ∈ state.delivered, ∀ websocket ∈ delivery.present,
    ∀ data, loads delivery.message.data = some data →
      delivery.sent websocket =
        if state.symbol_ids websocket = some delivery.message.symbol_id then [data]
        else []

/-- Messages are JSON and come while all clients of the channel are connected for
their symbol, and clients come and go only between two messages. -/
def Timely (loads : String → Option Data) (state : State Client Data) :
    Label Client → Prop
  | .connect _ _ => ∀ broadcast websocket, state.subscriber ≠ .sending broadcast websocket
  | .disconnect websocket =>
      websocket ∈ state.connections →
        ∀ broadcast other, state.subscriber ≠ .sending broadcast other
  | .message message _ =>
      loads message.data ≠ none ∧
        ∀ websocket ∈ state.connections,
          state.symbol_ids websocket = some message.symbol_id
  | .sent _ _ => True

/-- A step of the server is timely on its channel. -/
def InTime (loads : String → Option Data) (state : Server Client Data)
    (label : Channel × Label Client) : Prop :=
  Timely loads (state label.1) label.2

/-! ## The invariant -/

/-- A broadcast over a set that has not changed, all of whose clients are connected
for the symbol of the message. -/
structure Broadcast.Valid (loads : String → Option Data) (connections : Finset Client)
    (symbol_ids : Client → Option ℤ) (broadcast : Broadcast Client Data) : Prop where
  data : loads broadcast.message.data = some broadcast.data
  size : broadcast.size = connections.card
  unchanged : broadcast.unchanged = true
  present : broadcast.present = connections
  own : ∀ websocket ∈ connections,
    symbol_ids websocket = some broadcast.message.symbol_id
  sent : ∀ websocket, broadcast.sent websocket = [] ∨
    broadcast.sent websocket = [broadcast.data]

structure Valid (loads : String → Option Data) (state : State Client Data) : Prop where
  alive : state.subscriber ≠ .stopped
  sending : ∀ broadcast websocket, state.subscriber = .sending broadcast websocket →
    broadcast.Valid loads state.connections state.symbol_ids
  delivered : ∀ delivery ∈ state.delivered, ∀ websocket ∈ delivery.present,
    state.symbol_ids websocket = some delivery.message.symbol_id ∧
      ∀ data, loads delivery.message.data = some data → delivery.sent websocket = [data]

variable {state after : State Client Data} {broadcast : Broadcast Client Data}

theorem Valid.faithful (valid : Valid loads state) : Faithful loads state where
  alive := valid.alive
  delivered := by
    intro delivery member websocket present data read
    obtain ⟨own, sent⟩ := valid.delivered delivery member websocket present
    rw [if_pos own]
    exact sent data read

variable [DecidableEq Client]

theorem Valid.next (valid : Valid loads state)
    (going : broadcast.Valid loads state.connections state.symbol_ids)
    {next : Option Client} (taken : state.next broadcast next = some after) :
    Valid loads after := by
  unfold State.next at taken
  rw [if_neg (not_not.mpr going.size.symm)] at taken
  cases next with
  | some websocket =>
      obtain ⟨⟨_, fresh⟩, rfl⟩ := guarded_eq_some.mp taken
      have nothing := List.isEmpty_iff.mp (fresh going.unchanged)
      refine ⟨nofun, ?_, valid.delivered⟩
      intro other current same
      obtain ⟨rfl, rfl⟩ := Subscriber.sending.inj same
      refine { going with sent := ?_ }
      intro client
      by_cases is_next : client = websocket
      · right
        simp [is_next, nothing]
      · simp only [Function.update_of_ne is_next]
        exact going.sent client
  | none =>
      obtain ⟨finished, rfl⟩ := guarded_eq_some.mp taken
      refine ⟨nofun, fun _ _ => nofun, ?_⟩
      intro delivery member websocket present
      rcases List.mem_append.mp member with before | new
      · exact valid.delivered delivery before websocket present
      · obtain rfl := List.mem_singleton.mp new
        rw [going.present] at present
        refine ⟨going.own websocket present, ?_⟩
        intro data read
        obtain rfl := Option.some.inj (going.data.symm.trans read)
        apply (going.sent websocket).resolve_left
        intro nothing
        have sent := finished going.unchanged websocket present
        rw [nothing] at sent
        contradiction

/-- While no broadcast is under way, the clients may change. -/
theorem Valid.change (valid : Valid loads state)
    (idle : ∀ broadcast websocket, state.subscriber ≠ .sending broadcast websocket)
    {connections : Finset Client} {symbol_ids : Client → Option ℤ}
    (kept : ∀ websocket symbol_id, state.symbol_ids websocket = some symbol_id →
      symbol_ids websocket = some symbol_id) (present : Finset Client) :
    Valid loads
      { state with
        connections, symbol_ids
        subscriber := state.subscriber.notice present } := by
  have same : state.subscriber.notice present = state.subscriber := by
    cases subscriber : state.subscriber with
    | listening => rfl
    | sending broadcast websocket => exact absurd subscriber (idle broadcast websocket)
    | stopped => rfl
  rw [same]
  refine ⟨valid.alive, ?_, ?_⟩
  · intro broadcast websocket sending
    exact absurd sending (idle broadcast websocket)
  · intro delivery member websocket there
    obtain ⟨own, sent⟩ := valid.delivered delivery member websocket there
    exact ⟨kept websocket _ own, sent⟩

theorem Valid.step {label : Label Client} (valid : Valid loads state)
    (timely : Timely loads state label)
    (taken : step loads state label = some after) : Valid loads after := by
  cases label with
  | connect websocket symbol_id =>
      simp only [Relay.step] at taken
      split at taken
      case h_1 fresh =>
          rw [← Option.some.inj taken]
          apply valid.change timely
          intro other own found
          have different : other ≠ websocket := by
            intro same
            rw [same, fresh] at found
            contradiction
          rw [Function.update_of_ne different]
          exact found
      case h_2 => contradiction
  | disconnect websocket =>
      rw [← Option.some.inj taken, State.disconnect]
      split
      case isTrue member => exact valid.change (timely member) (fun _ _ found => found) _
      case isFalse => exact valid
  | message message next =>
      obtain ⟨readable, own⟩ := timely
      simp only [Relay.step] at taken
      split at taken
      case h_1 =>
          split at taken
          case h_1 data read =>
              exact valid.next ⟨read, rfl, rfl, rfl, own, fun _ => .inl rfl⟩ taken
          case h_2 malformed => exact absurd malformed readable
      case h_2 => contradiction
  | sent ok next =>
      simp only [Relay.step] at taken
      split at taken
      case h_1 broadcast websocket sending =>
          have going := valid.sending broadcast websocket sending
          apply valid.next _ taken
          exact { going with }
      case h_2 => contradiction

end Faithful

/-- In every run with timely steps the task of every channel stays alive, and every
client gets the messages of its symbol. -/
theorem relay_faithful {Client : Type} [DecidableEq Client] {Data : Type}
    {loads : String → Option Data} {state : Server Client Data}
    (reached : ReachedBy (server Client loads) (InTime loads) state)
    (channel : Channel) : Faithful loads (state channel) := by
  have valid : ∀ channel, Valid loads (state channel) := by
    apply reached.invariant
    · intro channel
      exact ⟨nofun, fun _ _ => nofun, fun _ absent => absurd absent List.not_mem_nil⟩
    · intro before ⟨changed, label⟩ after valid timely taken
      obtain ⟨next, stepped, rfl⟩ := Option.map_eq_some_iff.mp taken
      intro channel
      by_cases same : channel = changed
      · subst same
        rw [Function.update_self]
        exact (valid channel).step timely stepped
      · rw [Function.update_of_ne same]
        exact valid channel
  exact (valid channel).faithful

/-- `json.loads` as the relay uses it. -/
def loads (text : String) : Option Py.Value :=
  (Json.loads text).toOption

def after (labels : List (Channel × Label ℕ)) : Server ℕ Py.Value :=
  (labels.foldlM (server ℕ loads).step (server ℕ loads).start).getD (fun _ => {})

/-- A client connects for a symbol and is sent a message. -/
def relayed : List (Channel × Label ℕ) :=
  [(.pcr, .connect 7 13), (.pcr, .message ⟨13, "null"⟩ (some 7)), (.pcr, .sent true none)]

theorem faithful_relayed : Faithful loads (after relayed .pcr) := by
  have idle : InTime loads (server ℕ loads).start (.pcr, .connect 7 13) := by
    intro broadcast websocket impossible
    contradiction
  have connected : ReachedBy (server ℕ loads) (InTime loads)
      (after [(.pcr, .connect 7 13)]) := .step .start idle rfl
  have own : InTime loads (after [(.pcr, .connect 7 13)])
      (.pcr, .message ⟨13, "null"⟩ (some 7)) := by
    constructor
    · decide
    · intro websocket member
      obtain rfl := Finset.mem_singleton.mp member
      rfl
  have sending : ReachedBy (server ℕ loads) (InTime loads)
      (after [(.pcr, .connect 7 13), (.pcr, .message ⟨13, "null"⟩ (some 7))]) :=
    .step connected own rfl
  exact relay_faithful (.step sending
    (show InTime loads _ (.pcr, .sent true none) from trivial) rfl) .pcr

/-- A client connects while a message is being sent, and the iteration fails. -/
def joined_late : List (Channel × Label ℕ) :=
  [(.pcr, .connect 7 13), (.pcr, .message ⟨13, "null"⟩ (some 7)), (.pcr, .connect 8 13),
    (.pcr, .sent true none)]

/-- A client that is connected for another symbol is sent the message too. -/
def other_symbol : List (Channel × Label ℕ) :=
  [(.pcr, .connect 8 26), (.pcr, .message ⟨13, "null"⟩ (some 8)), (.pcr, .sent true none)]

theorem joined_late_and_other_symbol_not_faithful :
    (∃ state, Reachable (server ℕ loads) state ∧ (state .pcr).subscriber = .stopped ∧
      ¬Faithful loads (state .pcr)) ∧
    ∃ state, Reachable (server ℕ loads) state ∧ (state .pcr).subscriber = .listening ∧
      ¬Faithful loads (state .pcr) := by
  constructor
  · refine ⟨after joined_late, ?_, rfl, ?_⟩
    · exact .follow (fun _ _ _ => trivial) .start
        (rfl : joined_late.foldlM (server ℕ loads).step _ = some _)
    · intro faithful
      exact faithful.alive rfl
  · refine ⟨after other_symbol, ?_, rfl, ?_⟩
    · exact .follow (fun _ _ _ => trivial) .start
        (rfl : other_symbol.foldlM (server ℕ loads).step _ = some _)
    · intro faithful
      have sent := faithful.delivered _ List.mem_cons_self 8 (Finset.mem_singleton_self 8)
        .null (by decide)
      contradiction

end HftEngine.Relay
