import HftEngine.Lib.Tasks
import HftEngine.Lib.Transition
import Mathlib.Data.List.Basic

/-!
# The chart socket

`useChartSocket` with the sockets it has created.  The handlers of a socket share the
refs and the state of the hook, whichever socket is current.  A socket that its peer
closes, or that fails, is closed with its close event.
-/

namespace HftEngine.Frontend.ChartSocket

open Transition

inductive ReadyState where
  | CONNECTING
  | OPEN
  | CLOSING
  | CLOSED
  deriving DecidableEq

/-- Open or connecting. -/
def ReadyState.live : ReadyState → Bool
  | .CONNECTING | .OPEN => true
  | .CLOSING | .CLOSED => false

inductive ConnectionQuality where
  | unknown
  | good
  | fair
  | poor
  | disconnected
  deriving DecidableEq

/-- A message that is decoded; pongs only set a time. -/
inductive Message where
  | connected
  | subscribed (symbol interval : String)
  | pong
  | tick
  | error (message : String)

/-- The sockets under their numbers, the refs, the timers that are pending and the state. -/
structure Hook where
  sockets : ℕ → Option ReadyState := fun _ => none
  created : ℕ := 0
  socketRef : Option ℕ := none
  reconnectTimeoutRef : Option ℕ := none
  heartbeatIntervalRef : Bool := false
  reconnectAttemptsRef : ℕ := 0
  isDisconnectingRef : Bool := false
  timeouts : List ℕ := []
  timeoutsSet : ℕ := 0
  isConnected : Bool := false
  error : Option String := none
  subscription : Option (String × String) := none
  connectionQuality : ConnectionQuality := .unknown

namespace Hook

/-- `socketRef.current?.readyState`. -/
def readyState (hook : Hook) : Option ReadyState :=
  hook.socketRef.bind hook.sockets

def setSocket (hook : Hook) (id : ℕ) (state : ReadyState) : Hook :=
  { hook with sockets := Function.update hook.sockets id (some state) }

/-! ## The functions of the hook -/

/-- The constructor of the socket may throw. -/
def connect (hook : Hook) (thrown : Option String) : Hook :=
  if hook.readyState = some .OPEN then hook
  else
    match thrown with
    | some message => { hook with isDisconnectingRef := false, error := some message }
    | none =>
        { hook.setSocket hook.created .CONNECTING with
          isDisconnectingRef := false
          socketRef := some hook.created
          created := hook.created + 1 }

/-- `close` on a socket that is not closing yet. -/
def closeSocket (hook : Hook) (id : ℕ) : Hook :=
  if (hook.sockets id).any (·.live) then hook.setSocket id .CLOSING else hook

def clearTimeout (hook : Hook) : Hook :=
  match hook.reconnectTimeoutRef with
  | some id =>
      { hook with timeouts := hook.timeouts.erase id, reconnectTimeoutRef := none }
  | none => hook

def disconnect (maxReconnectAttempts : ℕ) (hook : Hook) : Hook :=
  let closed :=
    match hook.clearTimeout.socketRef with
    | some id => { hook.clearTimeout.closeSocket id with socketRef := none }
    | none => hook.clearTimeout
  { closed with
    isDisconnectingRef := true
    heartbeatIntervalRef := false
    isConnected := false
    subscription := none
    reconnectAttemptsRef := maxReconnectAttempts }

def unsubscribe (hook : Hook) : Hook :=
  if hook.readyState = some .OPEN then { hook with subscription := none } else hook

/-- One turn of the interval, so many milliseconds after the last pong. -/
def heartbeat (hook : Hook) (timeSinceLastPong : ℕ) : Hook :=
  if hook.readyState = some .OPEN then
    { hook with
      connectionQuality :=
        if 30000 < timeSinceLastPong then .poor
        else if 15000 < timeSinceLastPong then .fair
        else .good }
  else hook

/-! ## The handlers of a socket -/

def onopen (hook : Hook) : Hook :=
  { hook with
    isConnected := true
    error := none
    connectionQuality := .good
    reconnectAttemptsRef := 0
    heartbeatIntervalRef := true }

def onmessage (hook : Hook) : Message → Hook
  | .subscribed symbol interval => { hook with subscription := some (symbol, interval) }
  | .error message => { hook with error := some message }
  | .connected | .pong | .tick => hook

def onclose (maxReconnectAttempts : ℕ) (hook : Hook) : Hook :=
  let closed :=
    { hook with isConnected := false, subscription := none, heartbeatIntervalRef := false }
  if hook.isDisconnectingRef then closed
  else if hook.reconnectAttemptsRef < maxReconnectAttempts then
    { closed with
      timeouts := hook.timeoutsSet :: hook.timeouts
      timeoutsSet := hook.timeoutsSet + 1
      reconnectTimeoutRef := some hook.timeoutsSet }
  else
    { closed with
      error := some "Max reconnection attempts reached"
      connectionQuality := .disconnected }

def onerror (hook : Hook) : Hook :=
  if hook.isDisconnectingRef then hook
  else { hook with error := some "WebSocket connection error" }

end Hook

/-! ## Steps -/

inductive Label where
  | connect (thrown : Option String)
  | disconnect
  | unsubscribe
  | heartbeat (timeSinceLastPong : ℕ)
  | timeout (id : ℕ) (thrown : Option String)
  | opened (id : ℕ)
  | message (id : ℕ) (message : Message)
  | failed (id : ℕ)
  | closed (id : ℕ)

def step (maxReconnectAttempts : ℕ) (hook : Hook) : Label → Option Hook
  | .connect thrown => some (hook.connect thrown)
  | .disconnect => some (hook.disconnect maxReconnectAttempts)
  | .unsubscribe => some hook.unsubscribe
  | .heartbeat timeSinceLastPong =>
      if hook.heartbeatIntervalRef then some (hook.heartbeat timeSinceLastPong) else none
  | .timeout id thrown =>
      if id ∈ hook.timeouts then
        some (Hook.connect
          { hook with
            timeouts := hook.timeouts.erase id
            reconnectAttemptsRef := hook.reconnectAttemptsRef + 1 } thrown)
      else none
  | .opened id =>
      if hook.sockets id = some .CONNECTING then some (hook.setSocket id .OPEN).onopen
      else none
  -- decoding is awaited, so that the socket may be in any state by then
  | .message id message =>
      if (hook.sockets id).isSome then some (hook.onmessage message) else none
  | .failed id =>
      if (hook.sockets id).any (· ≠ .CLOSED) then some hook.onerror else none
  | .closed id =>
      if (hook.sockets id).any (· ≠ .CLOSED) then
        some ((hook.setSocket id .CLOSED).onclose maxReconnectAttempts)
      else none

def system (maxReconnectAttempts : ℕ) : System Hook Label :=
  ⟨{}, step maxReconnectAttempts⟩

/-! ## The sockets and the state -/

/-- No two sockets are open or connecting. -/
def OneLive (hook : Hook) : Prop :=
  ∀ first second state other, hook.sockets first = some state → state.live →
    hook.sockets second = some other → other.live → first = second

def ConnectedWhenOpen (hook : Hook) : Prop :=
  hook.isConnected ↔ hook.readyState = some .OPEN

/-- The heartbeat and the state of the hook. -/
def SameState (hook after : Hook) : Prop :=
  after.heartbeatIntervalRef = hook.heartbeatIntervalRef ∧
    after.isConnected = hook.isConnected ∧ after.error = hook.error ∧
    after.subscription = hook.subscription ∧
    after.connectionQuality = hook.connectionQuality

/-- There is a current socket, and this is another one. -/
def Old (hook : Hook) (id : ℕ) : Prop :=
  ∃ current ∈ hook.socketRef, current ≠ id

instance (hook : Hook) (id : ℕ) : Decidable (Old hook id) :=
  inferInstanceAs (Decidable (∃ current ∈ hook.socketRef, _))

/-- The close event of an old socket leaves the state as it is. -/
def KeepsCurrent (hook : Hook) (label : Label) (after : Hook) : Prop :=
  ∀ id, label = .closed id → Old hook id → SameState hook after

section Runs

variable (maxReconnectAttempts : ℕ)

/-- No socket is created while the current one is connecting, and the close event of an old
one comes only where it changes nothing. -/
def Orderly (hook : Hook) : Label → Prop
  | .connect none | .timeout _ none => hook.readyState ≠ some .CONNECTING
  | .closed id =>
      Old hook id →
        hook.readyState ≠ some .OPEN ∧ hook.subscription = none ∧
          hook.reconnectAttemptsRef < maxReconnectAttempts
  | _ => True

instance (hook : Hook) (label : Label) :
    Decidable (Orderly maxReconnectAttempts hook label) := by
  unfold Orderly
  split <;> infer_instance

variable {maxReconnectAttempts}

/-- Only the current socket is live, and the state and the heartbeat follow it. -/
structure Valid (hook : Hook) : Prop where
  current : Tasks.All (fun id state => state.live → hook.socketRef = some id) hook.sockets
  connected : ConnectedWhenOpen hook
  beats : hook.heartbeatIntervalRef = hook.isConnected

variable {hook after : Hook}

theorem Valid.congr (valid : Valid hook) (sockets : after.sockets = hook.sockets)
    (socketRef : after.socketRef = hook.socketRef)
    (isConnected : after.isConnected = hook.isConnected)
    (beats : after.heartbeatIntervalRef = hook.heartbeatIntervalRef) : Valid after where
  current := by
    rw [sockets, socketRef]
    exact valid.current
  connected := by
    rw [ConnectedWhenOpen, Hook.readyState, sockets, socketRef, isConnected]
    exact valid.connected
  beats := by
    rw [beats, isConnected]
    exact valid.beats

theorem Valid.oneLive (valid : Valid hook) : OneLive hook := by
  intro first second state other found live found_other live_other
  have current := valid.current first state found live
  rw [valid.current second other found_other live_other] at current
  exact (Option.some.inj current).symm

/-- Without a current socket that is live, no socket is. -/
theorem Valid.dead (valid : Valid hook) (open_ : hook.readyState ≠ some .OPEN)
    (connecting : hook.readyState ≠ some .CONNECTING) :
    Tasks.All (fun _ state => state.live = false) hook.sockets := by
  intro id state found
  by_contra live
  rw [Bool.not_eq_false] at live
  have current := valid.current id state found live
  have ready : hook.readyState = some state := by
    rw [Hook.readyState, current]
    exact found
  cases state with
  | CONNECTING => exact connecting ready
  | OPEN => exact open_ ready
  | CLOSING => cases live
  | CLOSED => cases live

theorem Valid.connect (valid : Valid hook) (thrown : Option String)
    (idle : thrown = none → hook.readyState ≠ some .CONNECTING) :
    Valid (hook.connect thrown) := by
  unfold Hook.connect
  split
  · exact valid
  · rename_i not_open
    cases thrown with
    | some message => exact valid.congr rfl rfl rfl rfl
    | none =>
        have dead := valid.dead not_open (idle rfl)
        constructor
        · apply Tasks.All.update
          · intro id state found live
            rw [dead id state found] at live
            cases live
          · intro live
            rfl
        · have closed : hook.isConnected = false := by
            rw [← Bool.not_eq_true]
            intro connected
            exact not_open (valid.connected.mp connected)
          simp [ConnectedWhenOpen, Hook.readyState, Hook.setSocket, closed]
        · exact valid.beats

theorem clearTimeout_sockets (hook : Hook) : hook.clearTimeout.sockets = hook.sockets := by
  unfold Hook.clearTimeout
  split <;> rfl

theorem clearTimeout_socketRef (hook : Hook) :
    hook.clearTimeout.socketRef = hook.socketRef := by
  unfold Hook.clearTimeout
  split <;> rfl

theorem sockets_closeSocket_of_ne {id other : ℕ} (different : other ≠ id) :
    (hook.closeSocket id).sockets other = hook.sockets other := by
  unfold Hook.closeSocket
  split
  · exact Function.update_of_ne different _ _
  · rfl

theorem sockets_closeSocket_dead {id : ℕ} {state : ReadyState}
    (found : (hook.closeSocket id).sockets id = some state) : state.live = false := by
  unfold Hook.closeSocket at found
  split at found
  · have closing := (Function.update_self id (some ReadyState.CLOSING) hook.sockets).symm
    obtain rfl := Option.some.inj (closing.trans found)
    rfl
  · rename_i dead
    rw [found] at dead
    exact Bool.not_eq_true _ ▸ dead

theorem disconnect_socketRef (hook : Hook) :
    (hook.disconnect maxReconnectAttempts).socketRef = none := by
  unfold Hook.disconnect
  dsimp only
  cases current : hook.clearTimeout.socketRef with
  | none => exact current
  | some id => rfl

theorem Valid.disconnect_dead (valid : Valid hook) :
    Tasks.All (fun _ state => state.live = false)
      (hook.disconnect maxReconnectAttempts).sockets := by
  intro id state found
  by_contra live
  rw [Bool.not_eq_false] at live
  unfold Hook.disconnect at found
  dsimp only at found
  cases current : hook.clearTimeout.socketRef with
  | none =>
      rw [current] at found
      dsimp only at found
      rw [clearTimeout_sockets] at found
      have same := valid.current id state found live
      rw [← clearTimeout_socketRef, current] at same
      cases same
  | some ref =>
      rw [current] at found
      dsimp only at found
      by_cases same : id = ref
      · subst same
        rw [sockets_closeSocket_dead found] at live
        cases live
      · rw [sockets_closeSocket_of_ne same, clearTimeout_sockets] at found
        have known := valid.current id state found live
        rw [← clearTimeout_socketRef, current] at known
        exact same (Option.some.inj known).symm

theorem Valid.disconnect (valid : Valid hook) :
    Valid (hook.disconnect maxReconnectAttempts) where
  current := by
    intro id state found live
    rw [valid.disconnect_dead id state found] at live
    cases live
  connected := by
    rw [ConnectedWhenOpen, Hook.readyState, disconnect_socketRef]
    simp [Hook.disconnect]
  beats := rfl

variable (maxReconnectAttempts) in
theorem onclose_fields (hook : Hook) :
    (hook.onclose maxReconnectAttempts).sockets = hook.sockets ∧
      (hook.onclose maxReconnectAttempts).socketRef = hook.socketRef ∧
      (hook.onclose maxReconnectAttempts).isConnected = false ∧
      (hook.onclose maxReconnectAttempts).heartbeatIntervalRef = false ∧
      (hook.onclose maxReconnectAttempts).subscription = none := by
  unfold Hook.onclose
  dsimp only
  split
  · exact ⟨rfl, rfl, rfl, rfl, rfl⟩
  · split <;> exact ⟨rfl, rfl, rfl, rfl, rfl⟩

/-- With attempts left a close event sets no error. -/
theorem onclose_error (hook : Hook)
    (left : hook.reconnectAttemptsRef < maxReconnectAttempts) :
    (hook.onclose maxReconnectAttempts).error = hook.error ∧
      (hook.onclose maxReconnectAttempts).connectionQuality = hook.connectionQuality := by
  unfold Hook.onclose
  dsimp only
  rw [if_pos left]
  split <;> exact ⟨rfl, rfl⟩

theorem Valid.closed (valid : Valid hook) {id : ℕ}
    (quiet : Old hook id → hook.readyState ≠ some .OPEN) :
    Valid ((hook.setSocket id .CLOSED).onclose maxReconnectAttempts) := by
  obtain ⟨sockets, socketRef, isConnected, heartbeat, _⟩ :=
    onclose_fields maxReconnectAttempts (hook.setSocket id .CLOSED)
  constructor
  · rw [sockets, socketRef]
    apply Tasks.All.update
    · exact valid.current
    · intro live
      cases live
  · rw [ConnectedWhenOpen, Hook.readyState, sockets, socketRef, isConnected]
    cases current : hook.socketRef with
    | none => simp [Hook.setSocket, current]
    | some ref =>
        by_cases same : ref = id
        · simp [Hook.setSocket, current, same]
        · have not_open := quiet ⟨ref, current, same⟩
          rw [Hook.readyState, current] at not_open
          simpa [Hook.setSocket, current, same] using not_open
  · rw [heartbeat, isConnected]

theorem Valid.keepsCurrent (valid : Valid hook) {id : ℕ}
    (orderly : Orderly maxReconnectAttempts hook (.closed id)) (old : Old hook id) :
    SameState hook ((hook.setSocket id .CLOSED).onclose maxReconnectAttempts) := by
  obtain ⟨not_open, subscription, left⟩ := orderly old
  obtain ⟨_, _, closed, stopped, unsubscribed⟩ :=
    onclose_fields maxReconnectAttempts (hook.setSocket id .CLOSED)
  obtain ⟨error, quality⟩ := onclose_error (hook.setSocket id .CLOSED) left
  have disconnected : hook.isConnected = false := by
    rw [← Bool.not_eq_true]
    intro connected
    exact not_open (valid.connected.mp connected)
  refine ⟨?_, ?_, error, ?_, quality⟩
  · rw [stopped, valid.beats, disconnected]
  · rw [closed, disconnected]
  · rw [unsubscribed, subscription]

theorem Valid.opened (valid : Valid hook) {id : ℕ}
    (connecting : hook.sockets id = some .CONNECTING) :
    Valid (hook.setSocket id .OPEN).onopen := by
  have current := valid.current id _ connecting rfl
  constructor
  · apply Tasks.All.update
    · exact valid.current
    · intro _
      exact current
  · simp [ConnectedWhenOpen, Hook.readyState, Hook.onopen, Hook.setSocket, current]
  · rfl

theorem Valid.step {label : Label} (valid : Valid hook)
    (orderly : Orderly maxReconnectAttempts hook label)
    (taken : step maxReconnectAttempts hook label = some after) : Valid after := by
  cases label with
  | connect thrown =>
      obtain rfl := Option.some.inj taken
      apply valid.connect
      rintro rfl
      exact orderly
  | disconnect =>
      obtain rfl := Option.some.inj taken
      exact valid.disconnect
  | unsubscribe =>
      obtain rfl := Option.some.inj taken
      unfold Hook.unsubscribe
      split
      · exact valid.congr rfl rfl rfl rfl
      · exact valid
  | heartbeat timeSinceLastPong =>
      obtain ⟨_, rfl⟩ := guarded_eq_some.mp taken
      unfold Hook.heartbeat
      split
      · exact valid.congr rfl rfl rfl rfl
      · exact valid
  | timeout id thrown =>
      obtain ⟨_, rfl⟩ := guarded_eq_some.mp taken
      have fired : Valid
          { hook with
            timeouts := hook.timeouts.erase id
            reconnectAttemptsRef := hook.reconnectAttemptsRef + 1 } :=
        valid.congr rfl rfl rfl rfl
      apply fired.connect
      rintro rfl
      exact orderly
  | opened id =>
      obtain ⟨connecting, rfl⟩ := guarded_eq_some.mp taken
      exact valid.opened connecting
  | message id message =>
      obtain ⟨_, rfl⟩ := guarded_eq_some.mp taken
      cases message <;> exact valid.congr rfl rfl rfl rfl
  | failed id =>
      obtain ⟨_, rfl⟩ := guarded_eq_some.mp taken
      unfold Hook.onerror
      split
      · exact valid
      · exact valid.congr rfl rfl rfl rfl
  | closed id =>
      obtain ⟨_, rfl⟩ := guarded_eq_some.mp taken
      apply valid.closed
      intro old
      exact (orderly old).1

theorem valid_of_reached
    (reached : ReachedBy (system maxReconnectAttempts) (Orderly maxReconnectAttempts) hook) :
    Valid hook := by
  apply reached.invariant
  · constructor
    · exact Tasks.All.start _
    · exact ⟨nofun, nofun⟩
    · rfl
  · intro before label after valid orderly taken
    exact valid.step orderly taken

end Runs

end HftEngine.Frontend.ChartSocket
