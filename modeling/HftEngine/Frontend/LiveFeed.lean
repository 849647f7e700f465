import HftEngine.Frontend.ChartSocket

/-!
# The live feed of the page

`AppProvider` with its `useSocket`, and the server's end of each connection.  A render
takes the state as it is at that moment; its effects run before the next render, and
events may come in between.
-/

namespace HftEngine.Frontend.LiveFeed

open Transition
open ChartSocket (ReadyState)

/-- The case mapping of the page and that of the server. -/
structure Settings where
  toUpperCase : String → String
  upper : String → String

/-! ## The server -/

inductive Request where
  | subscribe (sid exp_sid : String)
  | unsubscribe
  deriving DecidableEq

/-- A frame that the hook acts on.  Live data goes on to the store: the `error` that its
handler looks at is the one of the first render, which is null. -/
inductive Frame where
  | connected
  | subscribed (symbol expiry : String)
  | unsubscribed
  | error (message : String)
  deriving DecidableEq

/-- A socket with what is on its way to the server and to the page, and what the manager
holds of the client. -/
structure Connection where
  readyState : ReadyState := .CONNECTING
  active : Bool := false
  received : List Request := []
  subscription : Option (String × String) := none
  frames : List Frame := []
  deriving DecidableEq

namespace Connection

variable (settings : Settings) (connection : Connection)

def send_personal_message (message : Frame) : Connection :=
  if connection.active then { connection with frames := connection.frames ++ [message] }
  else connection

/-- `manager.subscribe`. -/
def subscribe (symbol expiry : String) : Connection :=
  if connection.active then
    send_personal_message
      { connection with subscription := some (settings.upper symbol, expiry) }
      (.subscribed (settings.upper symbol) expiry)
  else connection

/-- `manager.unsubscribe`. -/
def unsubscribe : Connection :=
  if connection.subscription.isSome then
    send_personal_message { connection with subscription := none } .unsubscribed
  else connection

def handle_subscribe (sid exp_sid : String) (known : Bool) : Connection :=
  let symbol := settings.upper sid
  let expiry := if exp_sid = "" then "latest" else exp_sid
  if known then
    (connection.subscribe settings symbol expiry).send_personal_message
      (.subscribed symbol expiry)
  else connection.send_personal_message (.error ("Unknown symbol: " ++ symbol))

/-- `known` is whether the adapter has an id for the symbol. -/
def handle (known : Bool) : Request → Connection
  | .subscribe sid exp_sid => connection.handle_subscribe settings sid exp_sid known
  | .unsubscribe => connection.unsubscribe

/-- The endpoint ends, or a send to the client fails.  An endpoint that fails may still
tell the client that it has no subscription any more. -/
def disconnect (told : Bool) : Connection :=
  { (if told then connection.send_personal_message .unsubscribed else connection) with
    active := false
    subscription := none }

end Connection

/-! ## The state of the page -/

/-- What the provider selects.  An expiry that is not a number is none. -/
structure Store where
  isAuthenticated : Bool := false
  isOc : Bool := true
  sid : String := "NIFTY"
  exp_sid : Option ℕ := none
  isExpiryMatch : Bool := true
  deriving DecidableEq

namespace Store

variable (store : Store)

def selectSelectedSymbol : String :=
  if store.sid = "" then "NIFTY" else store.sid

/-- The selected expiry, when it is valid. -/
def validExpiry : Option ℕ :=
  store.exp_sid.filter (0 < ·)

def enabled : Bool :=
  store.isAuthenticated && store.isOc

end Store

/-- What a render sees: the store and the state of the hook. -/
structure View where
  store : Store := {}
  isConnected : Bool := false
  error : Option String := none
  subscription : Option (String × String) := none
  deriving DecidableEq

namespace View

variable (view : View)

def subscriptionDeps : Bool × String × Option ℕ × Bool × Bool :=
  (view.isConnected, view.store.selectSelectedSymbol, view.store.exp_sid,
    view.store.isAuthenticated, view.store.isOc)

def pollingDeps :
    (Bool × String × Option ℕ × Bool × Bool) × Option (String × String) × Option String ×
      Bool :=
  (view.subscriptionDeps, view.subscription, view.error, view.store.isExpiryMatch)

/-- The symbol and the expiry that the interval fetches, if there is to be one. -/
def polls : Option (String × Option ℕ) :=
  if view.store.enabled = false then none
  else if view.store.isExpiryMatch && view.isConnected && view.subscription.isSome &&
      !view.error.any (· ≠ "") then none
  else some (view.store.selectSelectedSymbol, view.store.validExpiry)

end View

/-- `view` is the state to render next, `rendered` a render whose effects have not run and
`effected` the one whose effects ran last. -/
structure Page where
  view : View := {}
  rendered : Option View := none
  effected : Option View := none
  connections : ℕ → Option Connection := fun _ => none
  created : ℕ := 0
  socketRef : Option ℕ := none
  reconnectTimeoutRef : Option ℕ := none
  reconnectAttemptsRef : ℕ := 0
  isDisconnectingRef : Bool := false
  timeouts : List ℕ := []
  timeoutsSet : ℕ := 0
  currentSubscriptionRef : Option String := none
  pollTimerRef : Option (String × Option ℕ) := none

def maxReconnectAttempts : ℕ := 10

namespace Page

variable (settings : Settings) (page : Page)

def setConnection (id : ℕ) (connection : Connection) : Page :=
  { page with connections := Function.update page.connections id (some connection) }

/-- A change of the current socket, if its state allows it. -/
def onCurrent (allowed : ReadyState → Bool) (change : Connection → Connection) : Page :=
  match page.socketRef with
  | none => page
  | some id =>
      match page.connections id with
      | none => page
      | some connection =>
          if allowed connection.readyState then page.setConnection id (change connection)
          else page

/-! ## The hook -/

def close : Page :=
  page.onCurrent ReadyState.live (fun connection => { connection with readyState := .CLOSING })

/-- The constructor of the socket may throw. -/
def connect (thrown : Option String) : Page :=
  match thrown with
  | some message =>
      { page.close with
        isDisconnectingRef := false
        view := { page.close.view with error := some message } }
  | none =>
      { page.close.setConnection page.close.created {} with
        isDisconnectingRef := false
        socketRef := some page.close.created
        created := page.close.created + 1 }

def clearTimeout : Page :=
  { page with
    timeouts := page.reconnectTimeoutRef.elim page.timeouts (page.timeouts.erase ·) }

def disconnect : Page :=
  { page.clearTimeout.close with
    isDisconnectingRef := true
    socketRef := none
    view := { page.clearTimeout.close.view with isConnected := false, subscription := none } }

def sendMessage (message : Request) : Page :=
  page.onCurrent (· = .OPEN)
    (fun connection => { connection with received := connection.received ++ [message] })

/-- The callback of a render in which the hook was connected, or not. -/
def subscribe (isConnected : Bool) (symbol expiry : String) : Page :=
  if isConnected then
    page.sendMessage (.subscribe (settings.toUpperCase symbol) expiry)
  else page

def unsubscribe : Page :=
  page.sendMessage .unsubscribe

def onopen : Page :=
  { page with
    view := { page.view with isConnected := true, error := none }
    reconnectAttemptsRef := 0 }

/-- These frames are text, and are decoded before any other event. -/
def onmessage : Frame → Page
  | .connected => { page with view := { page.view with error := none } }
  | .subscribed symbol expiry =>
      { page with
        view := { page.view with subscription := some (symbol, expiry), error := none } }
  | .unsubscribed => { page with view := { page.view with subscription := none } }
  | .error message => { page with view := { page.view with error := some message } }

def onerror : Page :=
  if page.isDisconnectingRef then page
  else
    { page with
      view := { page.view with isConnected := false, error := some "WebSocket connection error" } }

def onclose (wasClean : Bool) : Page :=
  let closed :=
    { page with view := { page.view with isConnected := false, subscription := none } }
  if page.reconnectAttemptsRef < maxReconnectAttempts ∧ wasClean = false ∧
      page.isDisconnectingRef = false then
    { closed with
      reconnectAttemptsRef := page.reconnectAttemptsRef + 1
      reconnectTimeoutRef := some page.timeoutsSet
      timeouts := page.timeoutsSet :: page.timeouts
      timeoutsSet := page.timeoutsSet + 1 }
  else if maxReconnectAttempts ≤ page.reconnectAttemptsRef ∧
      page.isDisconnectingRef = false then
    { closed with
      view := { closed.view with error := some "WebSocket unavailable - using polling" } }
  else closed

/-! ## The effects -/

/-- The effect of the hook, after the cleanup of the previous one. -/
def socket_effect (rendered : View) (thrown : Option String) : Page :=
  if page.effected.any (·.store.enabled = rendered.store.enabled) then page
  else
    let cleaned := if page.effected.isSome then page.disconnect else page
    if rendered.store.enabled then cleaned.connect thrown else cleaned.disconnect

def subscription_effect (rendered : View) : Page :=
  if page.effected.any (·.subscriptionDeps = rendered.subscriptionDeps) then page
  else if rendered.isConnected && rendered.store.enabled then
    let newKey := rendered.store.selectSelectedSymbol
    let expiryToUse := rendered.store.validExpiry.elim "" toString
    if page.currentSubscriptionRef = some newKey then page
    else
      let left := if page.currentSubscriptionRef.isSome then page.unsubscribe else page
      { left.subscribe settings rendered.isConnected newKey expiryToUse with
        currentSubscriptionRef := some newKey }
  else page

def polling_effect (rendered : View) : Page :=
  if page.effected.any (·.pollingDeps = rendered.pollingDeps) then page
  else { page with pollTimerRef := rendered.polls }

def effects (thrown : Option String) (rendered : View) : Page :=
  { ((page.socket_effect rendered thrown).subscription_effect settings rendered).polling_effect
      rendered with
    rendered := none
    effected := some rendered }

end Page

/-! ## Steps -/

inductive Label where
  | dispatch (store : Store)
  | render
  | effects (thrown : Option String)
  | opened (id : ℕ)
  | message (id : ℕ)
  | closing (id : ℕ)
  | closed (id : ℕ) (failed wasClean : Bool)
  | timeout (id : ℕ) (thrown : Option String)
  | handle (id : ℕ) (known : Bool)
  | stream_error (id : ℕ) (message : String)
  | disconnect (id : ℕ) (told : Bool)

section Steps

variable (settings : Settings)

def step (page : Page) : Label → Option Page
  | .dispatch store => some { page with view := { page.view with store } }
  | .render =>
      if page.rendered = none ∧ page.effected ≠ some page.view then
        some { page with rendered := some page.view }
      else none
  | .effects thrown => page.rendered.map (page.effects settings thrown)
  -- the server has accepted the client and registered it
  | .opened id =>
      (page.connections id).bind fun connection =>
        if connection.readyState = .CONNECTING then
          some (page.setConnection id
            { connection with readyState := .OPEN, active := true, frames := [.connected] }).onopen
        else none
  | .message id =>
      (page.connections id).bind fun connection =>
        match connection.frames with
        | frame :: frames =>
            if connection.readyState = .OPEN then
              some ((page.setConnection id { connection with frames }).onmessage frame)
            else none
        | [] => none
  | .closing id =>
      (page.connections id).bind fun connection =>
        if connection.readyState = .OPEN then
          some (page.setConnection id { connection with readyState := .CLOSING })
        else none
  | .closed id failed wasClean =>
      (page.connections id).bind fun connection =>
        if connection.readyState ≠ .CLOSED then
          let closed := page.setConnection id { connection with readyState := .CLOSED }
          some ((if failed then closed.onerror else closed).onclose wasClean)
        else none
  | .timeout id thrown =>
      if id ∈ page.timeouts then
        some (Page.connect { page with timeouts := page.timeouts.erase id } thrown)
      else none
  | .handle id known =>
      (page.connections id).bind fun connection =>
        match connection.received with
        | request :: received =>
            some (page.setConnection id
              (Connection.handle settings { connection with received } known request))
        | [] => none
  | .stream_error id message =>
      (page.connections id).bind fun connection =>
        if connection.subscription.isSome then
          some (page.setConnection id (connection.send_personal_message (.error message)))
        else none
  | .disconnect id told =>
      (page.connections id).map fun connection =>
        page.setConnection id (connection.disconnect told)

def system : System Page Label :=
  ⟨{}, step settings⟩

end Steps

/-- Nothing is on the way in a connection, and nothing is about to happen to it. -/
def Connection.atRest (connection : Connection) : Bool :=
  match connection.readyState with
  | .CONNECTING | .CLOSED => true
  | .CLOSING => false
  | .OPEN => connection.active && connection.received.isEmpty && connection.frames.isEmpty

/-- The page has rendered its state, and its connections are at rest. -/
structure Page.AtRest (page : Page) : Prop where
  rendered : page.rendered = none
  effected : page.effected = some page.view
  connections : ∀ id connection, page.connections id = some connection → connection.atRest

end HftEngine.Frontend.LiveFeed
