import HftEngine.Backend.WebSocket.Registry
import HftEngine.Lib.Transition

/-!
# Streams of live data

A client that subscribes makes sure that the stream of its symbol runs.  The
stream stops when it finds no subscribers, and is cancelled by a client that
unsubscribes and finds none.  Groups are found by the start of their key.
-/

namespace HftEngine.WebSocket

open Transition

def startswith (text start : String) : Bool :=
  start.toList <+: text.toList

theorem startswith_append (start rest : String) : startswith (start ++ rest) start := by
  simp [startswith]

variable {casing : Casing} {Client : Type} [DecidableEq Client]

theorem startswith_group_key (subscription : Subscription casing) :
    startswith subscription.group_key subscription.symbol := by
  rw [Subscription.group_key, String.append_assoc]
  exact startswith_append _ _

namespace Registry

/-- The clients that `broadcast_to_symbol` sends to. -/
def broadcast_to_symbol (symbol : String) (registry : Registry casing Client) :
    Finset Client :=
  (registry.subscription_groups.entries.foldr
    (fun (group : Sigma fun _ : String => Finset Client) clients =>
      if startswith group.1 symbol || group.1 = symbol then group.2 ∪ clients
      else clients) ∅).filter (· ∈ registry.active_connections)

/-- The check that is made before a stream is cancelled, and by the stream itself. -/
def has_subscribers (symbol : String) (registry : Registry casing Client) : Bool :=
  registry.subscription_groups.entries.any fun group =>
    startswith group.1 symbol && decide (group.2 ≠ ∅)

def symbol_of (client : Client) (registry : Registry casing Client) : Option String :=
  (registry.subscriptions client).map Subscription.symbol

end Registry

/-! ## Handlers and streams -/

/-- A message of type subscribe. -/
structure SubscribeMessage where
  sid : Option String := none
  symbol : Option String := none
  exp_sid : Option String := none
  expiry : Option String := none

inductive Handler (Client : Type) where
  | starting (symbol : String)
  | leaving (client : Client) (symbol : String)
  | checking (symbol : String)
  | done

/-- A stream looks its symbol up, and then polls for subscribers, fetches the data and
broadcasts it. -/
inductive Stream where
  | opening
  | polling
  | fetching
  | finished
  deriving DecidableEq

structure Streaming (casing : Casing) (Client : Type) where
  registry : Registry casing Client := {}
  handlers : ℕ → Option (Handler Client) := fun _ => none
  streaming_tasks : AList (fun _ : String => Stream) := ∅

namespace Streaming

/-- `known` tells whether the symbol is found in the table of symbols then. -/
inductive Label (Client : Type) where
  | connect (client : Client)
  | disconnect (client : Client)
  | handle_subscribe (id : ℕ) (client : Client) (data : SubscribeMessage) (known : Bool)
  | start_stream (id : ℕ)
  | handle_unsubscribe (id : ℕ) (client : Client)
  | unsubscribe (id : ℕ)
  | check_stream (id : ℕ)
  | opened (symbol : String) (known : Bool)
  | poll (symbol : String)
  | broadcast (symbol : String)

def setHandler (id : ℕ) (handler : Handler Client) (state : Streaming casing Client) :
    Streaming casing Client :=
  { state with handlers := Function.update state.handlers id (some handler) }

def setStream (symbol : String) (stream : Stream) (state : Streaming casing Client) :
    Streaming casing Client :=
  { state with streaming_tasks := state.streaming_tasks.insert symbol stream }

/-- The task of the symbol is known and not done. -/
def running (symbol : String) (state : Streaming casing Client) : Bool :=
  (state.streaming_tasks.lookup symbol).any (· ≠ .finished)

/-- Subscribe a client, whose symbol is known. -/
def subscribe (id : ℕ) (client : Client) (data : SubscribeMessage)
    (state : Streaming casing Client) : Streaming casing Client :=
  let symbol := casing.upper (data.sid.getD (data.symbol.getD "NIFTY"))
  let expiry := data.exp_sid.getD (data.expiry.getD "")
  match state.registry.subscribe client symbol (if expiry = "" then "latest" else expiry) with
  | some (_, registry) => { state with registry }.setHandler id (.starting symbol)
  | none => state.setHandler id (.starting symbol)

def step (state : Streaming casing Client) :
    Label Client → Option (Streaming casing Client)
  | .connect client => some { state with registry := state.registry.connect client }
  | .disconnect client =>
      some { state with registry := (state.registry.disconnect client).2 }
  | .handle_subscribe id client data known =>
      match state.handlers id with
      | none =>
          some (if known then state.subscribe id client data else state.setHandler id .done)
      | some _ => none
  | .start_stream id =>
      match state.handlers id with
      | some (.starting symbol) =>
          some ((if state.running symbol then state
            else state.setStream symbol .opening).setHandler id .done)
      | _ => none
  | .handle_unsubscribe id client =>
      match state.handlers id with
      | none =>
          some (state.setHandler id
            (match state.registry.symbol_of client with
            | some symbol => .leaving client symbol
            | none => .done))
      | some _ => none
  | .unsubscribe id =>
      match state.handlers id with
      | some (.leaving client symbol) =>
          some ({ state with registry := (state.registry.unsubscribe client).2 }.setHandler
            id (.checking symbol))
      | _ => none
  | .check_stream id =>
      match state.handlers id with
      | some (.checking symbol) =>
          some ((if state.registry.has_subscribers symbol then state
            else { state with
              streaming_tasks := state.streaming_tasks.erase symbol }).setHandler id .done)
      | _ => none
  | .opened symbol known =>
      match state.streaming_tasks.lookup symbol with
      | some .opening =>
          some (state.setStream symbol (if known then .polling else .finished))
      | _ => none
  | .poll symbol =>
      match state.streaming_tasks.lookup symbol with
      | some .polling =>
          some (state.setStream symbol
            (if state.registry.has_subscribers symbol then .fetching else .finished))
      | _ => none
  | .broadcast symbol =>
      match state.streaming_tasks.lookup symbol with
      | some .fetching => some (state.setStream symbol .polling)
      | _ => none

def system (casing : Casing) (Client : Type) [DecidableEq Client] :
    System (Streaming casing Client) (Label Client) where
  start := {}
  step := step

/-- A stream that opens finds its symbol, as the client that started it has. -/
def Known : Streaming casing Client → Label Client → Prop
  | _, .opened _ known => known = true
  | _, _ => True

end Streaming

/-! ## Who is found by the start of a key -/

namespace Registry

variable {registry : Registry casing Client} {client : Client} {symbol : String}

theorem mem_union_of_groups (wanted : String → Bool)
    {groups : List (Sigma fun _ : String => Finset Client)} :
    client ∈ groups.foldr (fun group clients =>
      if wanted group.1 then group.2 ∪ clients else clients) ∅ ↔
        ∃ group ∈ groups, wanted group.1 = true ∧ client ∈ group.2 := by
  induction groups with
  | nil => simp
  | cons group groups ih =>
      rw [List.foldr_cons]
      by_cases is_wanted : wanted group.1 = true
      · rw [if_pos is_wanted, Finset.mem_union, ih]
        simp [is_wanted]
      · rw [if_neg is_wanted, ih]
        simp [is_wanted]

omit [DecidableEq Client] in
theorem mem_members_iff {key : String} : client ∈ registry.members key ↔
    ∃ clients, ⟨key, clients⟩ ∈ registry.subscription_groups.entries ∧
      client ∈ clients := by
  simp only [← AList.mem_lookup_iff, members]
  cases registry.subscription_groups.lookup key with
  | none => simp
  | some clients => simp

/-- A group is found by the symbol. -/
def Found (symbol : String) (client : Client) (registry : Registry casing Client) : Prop :=
  ∃ subscription, registry.subscriptions client = some subscription ∧
    startswith subscription.group_key symbol = true

omit [DecidableEq Client] in
theorem Consistent.found_iff (consistent : registry.Consistent) :
    registry.Found symbol client ↔
      ∃ key, startswith key symbol = true ∧ client ∈ registry.members key := by
  constructor
  · rintro ⟨subscription, found, starts⟩
    refine ⟨subscription.group_key, starts, ?_⟩
    rw [consistent.member_iff, found, Option.map_some]
  · rintro ⟨key, starts, member⟩
    rw [consistent.member_iff] at member
    obtain ⟨subscription, found, rfl⟩ := Option.map_eq_some_iff.mp member
    exact ⟨subscription, found, starts⟩

theorem mem_broadcast_to_symbol (consistent : registry.Consistent) :
    client ∈ registry.broadcast_to_symbol symbol ↔ registry.Found symbol client := by
  have starts_iff : ∀ key, (startswith key symbol || decide (key = symbol)) = true ↔
      startswith key symbol = true := by
    intro key
    rw [Bool.or_eq_true, decide_eq_true_eq, or_iff_left_iff_imp]
    rintro rfl
    simp [startswith]
  rw [broadcast_to_symbol, Finset.mem_filter,
    mem_union_of_groups (fun key => startswith key symbol || key = symbol),
    consistent.found_iff]
  simp only [starts_iff]
  constructor
  · rintro ⟨⟨group, kept, starts, member⟩, _⟩
    exact ⟨group.1, starts, mem_members_iff.mpr ⟨group.2, kept, member⟩⟩
  · rintro ⟨key, starts, member⟩
    obtain ⟨clients, kept, listed⟩ := mem_members_iff.mp member
    exact ⟨⟨⟨key, clients⟩, kept, starts, listed⟩, consistent.active_of_mem member⟩

theorem has_subscribers_iff (consistent : registry.Consistent) :
    registry.has_subscribers symbol = true ↔ ∃ client, registry.Found symbol client := by
  simp only [has_subscribers, List.any_eq_true, Bool.and_eq_true, decide_eq_true_eq,
    consistent.found_iff]
  constructor
  · rintro ⟨group, kept, starts, not_empty⟩
    obtain ⟨client, listed⟩ := Finset.nonempty_iff_ne_empty.mpr not_empty
    exact ⟨client, group.1, starts, mem_members_iff.mpr ⟨group.2, kept, listed⟩⟩
  · rintro ⟨client, key, starts, member⟩
    obtain ⟨clients, kept, listed⟩ := mem_members_iff.mp member
    exact ⟨⟨key, clients⟩, kept, starts, Finset.ne_empty_of_mem listed⟩

omit [DecidableEq Client] in
theorem found_of_symbol (own : registry.symbol_of client = some symbol) :
    registry.Found symbol client := by
  obtain ⟨subscription, found, rfl⟩ := Option.map_eq_some_iff.mp own
  exact ⟨subscription, found, startswith_group_key subscription⟩

end Registry

/-! ## Isolation -/

namespace Streaming

/-- A handler is about to make sure that the stream of the symbol runs. -/
def Starting (symbol : String) (state : Streaming casing Client) : Prop :=
  ∃ id, state.handlers id = some (.starting symbol)

/-- A broadcast for the symbol of a stream reaches the clients of that symbol; the
symbol of a client has a stream that runs or is about to be started; and a stream
continues, when it polls or is checked, while it has a client. -/
structure Isolated (state : Streaming casing Client) : Prop where
  delivered_iff : ∀ symbol, state.running symbol = true → ∀ client,
    client ∈ state.registry.broadcast_to_symbol symbol ↔
      state.registry.symbol_of client = some symbol
  streamed : ∀ client symbol, state.registry.symbol_of client = some symbol →
    state.running symbol = true ∨ state.Starting symbol
  polled : ∀ symbol after, state.step (.poll symbol) = some after →
    (after.running symbol = true ↔
      ∃ client, state.registry.symbol_of client = some symbol)
  checked : ∀ id symbol after, state.handlers id = some (.checking symbol) →
    state.running symbol = true → state.step (.check_stream id) = some after →
      (after.running symbol = true ↔
        ∃ client, state.registry.symbol_of client = some symbol)

/-- No client is in a group whose key starts with the symbol of a stream that is not
its own. -/
def Apart (state : Streaming casing Client) : Prop :=
  ∀ symbol, state.running symbol = true → ∀ client subscription,
    state.registry.subscriptions client = some subscription →
      startswith subscription.group_key symbol = true → subscription.symbol = symbol

structure Covered (state : Streaming casing Client) : Prop where
  consistent : state.registry.Consistent
  streamed : ∀ client symbol, state.registry.symbol_of client = some symbol →
    state.running symbol = true ∨ state.Starting symbol

section Steps

variable {state after : Streaming casing Client} {id : ℕ} {symbol other : String}
  {handler : Handler Client} {stream : Stream}

omit [DecidableEq Client] in
theorem running_setStream : (state.setStream symbol stream).running other = true ↔
    if other = symbol then stream ≠ .finished else state.running other = true := by
  simp only [running, setStream]
  by_cases same : other = symbol
  · subst same
    simp
  · simp [same]

omit [DecidableEq Client] in
theorem Starting.setHandler (starting : state.Starting symbol)
    (idle : state.handlers id ≠ some (.starting symbol)) :
    (state.setHandler id handler).Starting symbol := by
  obtain ⟨other, found⟩ := starting
  refine ⟨other, ?_⟩
  rw [← found]
  apply Function.update_of_ne
  rintro rfl
  exact idle found

omit [DecidableEq Client] in
/-- A client that has left has no symbol, and the others keep theirs. -/
theorem symbol_of_leave [DecidableEq Client] {registry left : Registry casing Client}
    {client one : Client}
    (leaves : left.subscriptions = Function.update registry.subscriptions client none)
    (own : left.symbol_of one = some symbol) : registry.symbol_of one = some symbol := by
  rw [Registry.symbol_of, leaves] at own
  by_cases same : one = client
  · rw [same, Function.update_self] at own
    contradiction
  · rwa [Function.update_of_ne same] at own

namespace Covered

omit [DecidableEq Client] in
theorem setStream (covered : state.Covered)
    (alive : ∀ client, state.registry.symbol_of client = some symbol → stream ≠ .finished) :
    (state.setStream symbol stream).Covered where
  consistent := covered.consistent
  streamed := by
    intro client wanted own
    rw [running_setStream]
    split
    case isTrue same => exact .inl (alive client (same ▸ own))
    case isFalse => exact covered.streamed client wanted own

omit [DecidableEq Client] in
/-- A step of a handler that is not about to start a stream, in which no client gets a
symbol. -/
theorem setHandler (covered : state.Covered) {registry : Registry casing Client}
    (consistent : registry.Consistent)
    (fewer : ∀ client symbol, registry.symbol_of client = some symbol →
      state.registry.symbol_of client = some symbol)
    (idle : ∀ symbol, state.handlers id ≠ some (.starting symbol)) :
    ({ state with registry }.setHandler id handler).Covered where
  consistent := consistent
  streamed := by
    intro client symbol own
    rcases covered.streamed client symbol (fewer client symbol own) with runs | starting
    · exact .inl runs
    · exact .inr (starting.setHandler (idle symbol))

theorem subscribe (covered : state.Covered) (fresh : state.handlers id = none)
    (client : Client) (data : SubscribeMessage) :
    (state.subscribe id client data).Covered := by
  have idle : ∀ symbol, state.handlers id ≠ some (.starting symbol) := by simp [fresh]
  unfold Streaming.subscribe
  dsimp only
  split
  case h_2 => exact covered.setHandler covered.consistent (fun _ _ own => own) idle
  case h_1 is_new registry subscribed =>
      obtain ⟨_, same⟩ := Registry.subscribe_eq_some subscribed
      refine ⟨covered.consistent.subscribe subscribed, ?_⟩
      intro one symbol own
      change Option.map _ (registry.subscriptions one) = _ at own
      rw [same, Registry.subscriptions_add] at own
      by_cases is_client : one = client
      · rw [is_client, Function.update_self, Option.map_some, Option.some.injEq] at own
        right
        refine ⟨id, (Function.update_self _ _ _).trans ?_⟩
        rw [← own]
        simp [Casing.subscription, casing.upper_upper]
      · rw [Function.update_of_ne is_client] at own
        have before := symbol_of_leave Registry.subscriptions_leave own
        exact (covered.streamed one symbol before).imp_right (·.setHandler (idle symbol))

omit [DecidableEq Client] in
theorem start_stream (covered : state.Covered)
    (starting : state.handlers id = some (.starting symbol)) :
    ((if state.running symbol then state
      else state.setStream symbol .opening).setHandler id .done).Covered := by
  have runs : ∀ wanted, state.running wanted = true ∨ wanted = symbol →
      (if state.running symbol then state
        else state.setStream symbol .opening).running wanted = true := by
    intro wanted before
    split
    case isTrue already =>
        rcases before with runs | rfl
        · exact runs
        · exact already
    case isFalse =>
        rw [running_setStream]
        split
        case isTrue => exact nofun
        case isFalse different => exact before.resolve_right different
  have kept : (if state.running symbol then state
      else state.setStream symbol .opening).registry = state.registry := by
    split <;> rfl
  have handlers : (if state.running symbol then state
      else state.setStream symbol .opening).handlers = state.handlers := by
    split <;> rfl
  constructor
  case consistent => exact kept ▸ covered.consistent
  case streamed =>
      intro client wanted own
      rcases covered.streamed client wanted (kept ▸ own) with before | ⟨other, found⟩
      · exact .inl (runs wanted (.inl before))
      · by_cases same : other = id
        · rw [same, starting, Option.some.injEq, Handler.starting.injEq] at found
          exact .inl (runs wanted (.inr found.symm))
        · refine .inr ⟨other, ?_⟩
          rw [← found, ← handlers]
          exact Function.update_of_ne same _ _

/-- A stream is deleted that has no subscribers. -/
theorem cancel (covered : state.Covered)
    (deserted : state.registry.has_subscribers symbol = false) :
    ({ state with streaming_tasks := state.streaming_tasks.erase symbol } :
      Streaming casing Client).Covered where
  consistent := covered.consistent
  streamed := by
    intro client wanted own
    have different : wanted ≠ symbol := by
      rintro rfl
      have subscribers := (Registry.has_subscribers_iff covered.consistent).mpr
        ⟨client, Registry.found_of_symbol own⟩
      rw [deserted] at subscribers
      contradiction
    simp only [running, AList.lookup_erase_ne different]
    exact covered.streamed client wanted own

/-- What a step does to the streams. -/
theorem step {label : Label Client} (covered : state.Covered) (known : Known state label)
    (taken : state.step label = some after) : after.Covered := by
  cases label with
  | connect client =>
      rw [← Option.some.inj taken]
      exact ⟨covered.consistent.connect client, covered.streamed⟩
  | disconnect client =>
      rw [← Option.some.inj taken]
      exact ⟨covered.consistent.disconnect client, fun one symbol own =>
        covered.streamed one symbol (symbol_of_leave Registry.subscriptions_disconnect own)⟩
  | handle_subscribe id client data found =>
      simp only [Streaming.step] at taken
      split at taken
      case h_2 => contradiction
      case h_1 fresh =>
          rw [← Option.some.inj taken]
          split
          case isTrue => exact covered.subscribe fresh client data
          case isFalse =>
              exact covered.setHandler covered.consistent (fun _ _ own => own)
                (by simp [fresh])
  | start_stream id =>
      simp only [Streaming.step] at taken
      split at taken
      case h_2 => contradiction
      case h_1 symbol starting =>
          rw [← Option.some.inj taken]
          exact covered.start_stream starting
  | handle_unsubscribe id client =>
      simp only [Streaming.step] at taken
      split at taken
      case h_2 => contradiction
      case h_1 fresh =>
          rw [← Option.some.inj taken]
          exact covered.setHandler covered.consistent (fun _ _ own => own) (by simp [fresh])
  | unsubscribe id =>
      simp only [Streaming.step] at taken
      split at taken
      case h_2 => contradiction
      case h_1 client symbol leaving =>
          rw [← Option.some.inj taken]
          exact covered.setHandler (covered.consistent.leave client)
            (fun _ _ own => symbol_of_leave Registry.subscriptions_leave own)
            (by simp [leaving])
  | check_stream id =>
      simp only [Streaming.step] at taken
      split at taken
      case h_2 => contradiction
      case h_1 symbol checking =>
          rw [← Option.some.inj taken]
          split
          case isTrue =>
              exact covered.setHandler covered.consistent (fun _ _ own => own)
                (by simp [checking])
          case isFalse deserted =>
              have cancelled := covered.cancel (Bool.eq_false_iff.mpr deserted)
              exact cancelled.setHandler covered.consistent (fun _ _ own => own)
                (by simp [checking])
  | opened symbol found =>
      have found : found = true := known
      simp only [Streaming.step] at taken
      split at taken
      case h_2 => contradiction
      case h_1 =>
          rw [← Option.some.inj taken, if_pos found]
          exact covered.setStream (fun _ _ => nofun)
  | poll symbol =>
      simp only [Streaming.step] at taken
      split at taken
      case h_2 => contradiction
      case h_1 =>
          rw [← Option.some.inj taken]
          apply covered.setStream
          intro client own
          rw [(Registry.has_subscribers_iff covered.consistent).mpr
            ⟨client, Registry.found_of_symbol own⟩]
          exact nofun
  | broadcast symbol =>
      simp only [Streaming.step] at taken
      split at taken
      case h_2 => contradiction
      case h_1 =>
          rw [← Option.some.inj taken]
          exact covered.setStream (fun _ _ => nofun)

end Covered

omit [DecidableEq Client] in
/-- While the groups are apart, those found by the symbol of a stream are its own. -/
theorem Apart.found_iff (apart : state.Apart) (runs : state.running symbol = true)
    {client : Client} :
    state.registry.Found symbol client ↔
      state.registry.symbol_of client = some symbol := by
  constructor
  · rintro ⟨subscription, found, starts⟩
    have own := apart symbol runs client subscription found starts
    rw [Registry.symbol_of, found, Option.map_some, own]
  · exact Registry.found_of_symbol

theorem Covered.subscribers_iff (covered : state.Covered) (apart : state.Apart)
    (runs : state.running symbol = true) :
    state.registry.has_subscribers symbol = true ↔
      ∃ client, state.registry.symbol_of client = some symbol := by
  rw [Registry.has_subscribers_iff covered.consistent]
  exact exists_congr fun client => apart.found_iff runs

theorem step_check_stream {id : ℕ} : state.step (.check_stream id) =
    match state.handlers id with
    | some (.checking symbol) =>
        some ((if state.registry.has_subscribers symbol then state
          else { state with
            streaming_tasks := state.streaming_tasks.erase symbol }).setHandler id .done)
    | _ => none := rfl

theorem step_poll : state.step (.poll symbol) =
    match state.streaming_tasks.lookup symbol with
    | some .polling =>
        some (state.setStream symbol
          (if state.registry.has_subscribers symbol then .fetching else .finished))
    | _ => none := rfl

theorem Covered.isolated (covered : state.Covered) (apart : state.Apart) :
    state.Isolated where
  delivered_iff := by
    intro symbol runs client
    rw [Registry.mem_broadcast_to_symbol covered.consistent, apart.found_iff runs]
  streamed := covered.streamed
  polled := by
    intro symbol after taken
    rw [step_poll] at taken
    split at taken
    case h_2 => contradiction
    case h_1 polling =>
        have runs : state.running symbol = true := by simp [running, polling]
        rw [← Option.some.inj taken, running_setStream, if_pos rfl,
          ← covered.subscribers_iff apart runs]
        split
        case isTrue subscribers => simp [subscribers]
        case isFalse deserted => simp [deserted]
  checked := by
    intro id symbol after checking runs taken
    simp only [step_check_stream, checking] at taken
    rw [← Option.some.inj taken, ← covered.subscribers_iff apart runs]
    split
    case isTrue subscribers => exact iff_of_true runs subscribers
    case isFalse deserted =>
        refine iff_of_false ?_ deserted
        change ¬((state.streaming_tasks.erase symbol).lookup symbol).any _ = true
        simp

theorem Covered.apart (covered : state.Covered) (isolated : state.Isolated) :
    state.Apart := by
  intro symbol runs client subscription found starts
  have delivered : client ∈ state.registry.broadcast_to_symbol symbol :=
    (Registry.mem_broadcast_to_symbol covered.consistent).mpr ⟨subscription, found, starts⟩
  have own := (isolated.delivered_iff symbol runs client).mp delivered
  rw [Registry.symbol_of, found] at own
  exact Option.some.inj own

theorem covered_of_reached (reached : ReachedBy (system casing Client) Known state) :
    state.Covered := by
  apply reached.invariant (I := Covered)
  · refine ⟨.start, ?_⟩
    intro client symbol own
    cases own
  · intro before label after covered known taken
    exact covered.step known taken

end Steps

def after (labels : List (Label ℕ)) : Streaming capitals ℕ :=
  (labels.foldlM step {}).getD {}

/-- A client subscribes, and the stream of its symbol opens. -/
def opened : List (Label ℕ) :=
  [.connect 7, .handle_subscribe 0 7 { sid := some "NIFTY" } true, .start_stream 0,
    .opened "NIFTY" true]

theorem apart_opened : (after opened).Apart := by
  intro symbol runs client subscription found _
  have only_stream : symbol = "NIFTY" := by
    by_contra different
    rw [running, show (after opened).streaming_tasks = AList.insert "NIFTY" Stream.polling
      (AList.insert "NIFTY" Stream.opening ∅) from rfl, AList.lookup_insert_ne different,
      AList.lookup_insert_ne different] at runs
    contradiction
  have only_client : client = 7 := by
    by_contra different
    rw [show (after opened).registry.subscriptions = Function.update (fun _ => none) 7
      (some (capitals.subscription "NIFTY" "latest")) from rfl,
      Function.update_of_ne different] at found
    contradiction
  subst only_client
  have same : capitals.subscription "NIFTY" "latest" = subscription :=
    Option.some.inj found
  rw [only_stream, ← same]
  rfl

/-- Another client subscribes to a symbol that starts with that of the stream. -/
def overheard : List (Label ℕ) :=
  opened ++ [.connect 8, .handle_subscribe 1 8 { sid := some "NIFTYNXT50" } true]

end Streaming

end HftEngine.WebSocket
