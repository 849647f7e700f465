import HftEngine.Frontend.LiveFeed

/-!
# The connections of the page

What the requests on their way to the server will subscribe the page to, and what the
frames on their way back will make it show.  All but the effects of a render leaves a
property of the connections that concerns each of them alone.
-/

namespace HftEngine.Frontend.LiveFeed

open Transition Tasks
open ChartSocket (ReadyState)

variable {settings : Settings}

/-- A step that neither changes the store nor renders. -/
def Label.isEvent : Label → Bool
  | .dispatch _ | .render | .effects _ => false
  | _ => true

/-- Whether the page shows a subscription after a frame. -/
def Frame.shows (shown : Bool) : Frame → Bool
  | .subscribed _ _ => true
  | .unsubscribed => false
  | .connected | .error _ => shown

def Frame.showsAll (shown : Bool) (frames : List Frame) : Bool :=
  frames.foldl Frame.shows shown

/-- The symbol under which the server keeps a subscription of the page. -/
def Settings.symbol (settings : Settings) (sid : String) : String :=
  settings.upper (settings.upper (settings.toUpperCase sid))

/-- Whichever symbols the server knows, it comes to a subscription to `sid` or to none. -/
def Request.Lead (settings : Settings) (sid : String) :
    Option (String × String) → List Request → Prop
  | subscription, [] => ∀ symbol ∈ subscription.map Prod.fst, symbol = settings.symbol sid
  | subscription, .subscribe requested exp_sid :: rest =>
      Lead settings sid
          (some (settings.upper (settings.upper requested),
            if exp_sid = "" then "latest" else exp_sid)) rest ∧
        Lead settings sid subscription rest
  | _, .unsubscribe :: rest => Lead settings sid none rest

theorem Request.lead_single (sid exp_sid : String) :
    Request.Lead settings sid none [.subscribe (settings.toUpperCase sid) exp_sid] := by
  constructor
  · intro symbol found
    exact (Option.some.inj found).symm
  · intro symbol impossible
    cases impossible

theorem Request.lead_append (sid exp_sid : String) {requests : List Request} :
    ∀ subscription, Request.Lead settings sid subscription
      (requests ++ [.unsubscribe, .subscribe (settings.toUpperCase sid) exp_sid]) := by
  induction requests with
  | nil =>
      intro subscription
      exact Request.lead_single sid exp_sid
  | cons request requests ih =>
      intro subscription
      cases request with
      | subscribe requested exp_sid => exact ⟨ih _, ih _⟩
      | unsubscribe => exact ih _

theorem Frame.showsAll_mono {first second : Bool} {frames : List Frame}
    (implied : first = true → second = true) (shown : Frame.showsAll first frames = true) :
    Frame.showsAll second frames = true := by
  induction frames generalizing first second with
  | nil => exact implied shown
  | cons frame frames ih =>
      apply ih _ shown
      cases frame with
      | subscribed => exact fun _ => rfl
      | unsubscribed => exact fun impossible => impossible
      | connected => exact implied
      | error => exact implied

theorem Frame.showsAll_append (shown : Bool) (frames : List Frame) (frame : Frame) :
    Frame.showsAll shown (frames ++ [frame]) = frame.shows (Frame.showsAll shown frames) := by
  rw [Frame.showsAll, List.foldl_append]
  rfl

namespace Connection

variable {connection : Connection} {shown : Bool}

/-- A page that reads all the frames shows a subscription only where there is one. -/
def Shows (shown : Bool) (connection : Connection) : Prop :=
  connection.active = true → Frame.showsAll shown connection.frames = true →
    connection.subscription.isSome = true

/-- The requests of a page that last subscribed to this symbol, if to any. -/
def Follows (settings : Settings) (ref : Option String) (connection : Connection) : Prop :=
  connection.active = true →
    match ref with
    | none => connection.received = [] ∧ connection.subscription = none
    | some sid => Request.Lead settings sid connection.subscription connection.received

structure Sound (connection : Connection) : Prop where
  connecting : connection.readyState = .CONNECTING →
    connection.active = false ∧ connection.received = []
  inactive : connection.active = false → connection.subscription = none
  shows : connection.Shows false

theorem Shows.mono {more : Bool} (shows : connection.Shows more)
    (implied : shown = true → more = true) : connection.Shows shown := by
  intro active all
  exact shows active (Frame.showsAll_mono implied all)

/-! ## What the server does -/

/-- The server changes neither the state of the socket nor what the page has sent. -/
structure Serves (connection served : Connection) : Prop where
  readyState : served.readyState = connection.readyState
  received : served.received = connection.received
  active : served.active = true → connection.active = true
  inactive : (connection.active = false → connection.subscription = none) →
    served.active = false → served.subscription = none
  shows : ∀ shown, connection.Shows shown → served.Shows shown

theorem Serves.refl (connection : Connection) : Serves connection connection :=
  ⟨rfl, rfl, fun active => active, fun inactive => inactive, fun _ shows => shows⟩

theorem Serves.trans {first second third : Connection} (start : Serves first second)
    (rest : Serves second third) : Serves first third where
  readyState := rest.readyState.trans start.readyState
  received := rest.received.trans start.received
  active := fun active => start.active (rest.active active)
  inactive := fun inactive => rest.inactive (start.inactive inactive)
  shows := fun shown shows => rest.shows shown (start.shows shown shows)

@[simp]
theorem send_readyState (message : Frame) :
    (connection.send_personal_message message).readyState = connection.readyState := by
  unfold send_personal_message
  split <;> rfl

@[simp]
theorem send_active (message : Frame) :
    (connection.send_personal_message message).active = connection.active := by
  unfold send_personal_message
  split <;> rfl

@[simp]
theorem send_received (message : Frame) :
    (connection.send_personal_message message).received = connection.received := by
  unfold send_personal_message
  split <;> rfl

@[simp]
theorem send_subscription (message : Frame) :
    (connection.send_personal_message message).subscription = connection.subscription := by
  unfold send_personal_message
  split <;> rfl

theorem send_frames (active : connection.active = true) (message : Frame) :
    (connection.send_personal_message message).frames = connection.frames ++ [message] := by
  rw [send_personal_message, if_pos active]

/-- A frame after which the page shows a subscription only if it did before, or there is
one. -/
theorem Serves.send {message : Frame}
    (told : connection.active = true → ∀ shown, message.shows shown = true →
      shown = true ∨ connection.subscription.isSome = true) :
    Serves connection (connection.send_personal_message message) := by
  constructor
  · exact send_readyState message
  · exact send_received message
  · intro active
    rwa [send_active] at active
  · intro inactive
    rwa [send_active, send_subscription]
  · intro shown shows active all
    rw [send_active] at active
    rw [send_frames active, Frame.showsAll_append] at all
    rw [send_subscription]
    rcases told active _ all with before | subscribed
    · exact shows active before
    · exact subscribed

theorem Serves.unsubscribe : Serves connection connection.unsubscribe := by
  unfold Connection.unsubscribe
  split
  · constructor
    · exact send_readyState _
    · exact send_received _
    · intro active
      rwa [send_active] at active
    · intro _ _
      exact send_subscription _
    · intro shown _ active all
      rw [send_active] at active
      rw [send_frames active, Frame.showsAll_append] at all
      cases all
  · exact Serves.refl connection

theorem Serves.subscribe (symbol expiry : String) :
    Serves connection (connection.subscribe settings symbol expiry) := by
  unfold Connection.subscribe
  split
  · rename_i active
    have kept : Serves connection
        { connection with subscription := some (settings.upper symbol, expiry) } := by
      constructor
      · rfl
      · rfl
      · exact fun active => active
      · intro _ inactive
        rw [active] at inactive
        cases inactive
      · intro _ _ _ _
        rfl
    exact kept.trans (Serves.send (fun _ _ _ => Or.inr rfl))
  · exact Serves.refl connection

theorem subscribe_subscription (active : connection.active = true) (symbol expiry : String) :
    (connection.subscribe settings symbol expiry).subscription =
      some (settings.upper symbol, expiry) := by
  rw [Connection.subscribe, if_pos active]
  exact send_subscription _

theorem unsubscribe_subscription : connection.unsubscribe.subscription = none := by
  unfold Connection.unsubscribe
  split
  · exact send_subscription _
  · rename_i absent
    rwa [Bool.not_eq_true, Option.isSome_eq_false_iff, Option.isNone_iff_eq_none] at absent

theorem Serves.error (message : String) :
    Serves connection (connection.send_personal_message (.error message)) :=
  Serves.send (fun _ _ => Or.inl)

theorem Serves.handle (known : Bool) (request : Request) :
    Serves connection (connection.handle settings known request) := by
  cases request with
  | unsubscribe => exact Serves.unsubscribe
  | subscribe sid exp_sid =>
      cases known with
      | false => exact Serves.error _
      | true =>
          have subscribed : Serves connection
              (connection.subscribe settings (settings.upper sid)
                (if exp_sid = "" then "latest" else exp_sid)) :=
            Serves.subscribe _ _
          apply subscribed.trans
          apply Serves.send
          intro active _ _
          rw [subscribe_subscription (subscribed.active active)]
          exact Or.inr rfl

theorem Serves.disconnect (told : Bool) : Serves connection (connection.disconnect told) where
  readyState := by cases told <;> simp [Connection.disconnect]
  received := by cases told <;> simp [Connection.disconnect]
  active := fun impossible => Bool.noConfusion impossible
  inactive := fun _ _ => rfl
  shows := fun _ _ impossible => Bool.noConfusion impossible

theorem lead_handle {sid : String} {request : Request} {received : List Request}
    (active : connection.active = true)
    (lead : Request.Lead settings sid connection.subscription (request :: received))
    (known : Bool) :
    Request.Lead settings sid (connection.handle settings known request).subscription
      received := by
  cases request with
  | unsubscribe =>
      have gone : (connection.handle settings known .unsubscribe).subscription = none :=
        unsubscribe_subscription
      rw [gone]
      exact lead
  | subscribe requested exp_sid =>
      cases known with
      | false =>
          have same : (connection.handle settings false
              (.subscribe requested exp_sid)).subscription = connection.subscription :=
            send_subscription _
          rw [same]
          exact lead.2
      | true =>
          have subscribed : (connection.handle settings true
              (.subscribe requested exp_sid)).subscription =
                some (settings.upper (settings.upper requested),
                  if exp_sid = "" then "latest" else exp_sid) :=
            (send_subscription _).trans (subscribe_subscription active _ _)
          rw [subscribed]
          exact lead.1

/-- The next request is handled. -/
theorem Follows.handle {ref : Option String} {request : Request} {received : List Request}
    (follows : connection.Follows settings ref)
    (next : connection.received = request :: received) (known : Bool) :
    (Connection.handle settings { connection with received } known request).Follows
      settings ref := by
  have served : Serves { connection with received }
      (Connection.handle settings { connection with received } known request) :=
    Serves.handle known request
  intro active
  have followed := follows (served.active active)
  rw [next] at followed
  rw [served.received]
  cases ref with
  | none => cases followed.1
  | some sid =>
      exact lead_handle (served.active active) followed known

theorem Sound.serves {served : Connection} (sound : connection.Sound)
    (serves : Serves connection served) : served.Sound where
  connecting := by
    intro connecting
    rw [serves.readyState] at connecting
    obtain ⟨inactive, received⟩ := sound.connecting connecting
    refine ⟨?_, serves.received.trans received⟩
    rw [← Bool.not_eq_true]
    intro active
    rw [serves.active active] at inactive
    cases inactive
  inactive := serves.inactive sound.inactive
  shows := serves.shows false sound.shows

/-- A connection that has something to handle is not connecting. -/
theorem Sound.take (sound : connection.Sound) {request : Request} {received : List Request}
    (next : connection.received = request :: received) :
    Sound { connection with received } where
  connecting := by
    intro connecting
    rw [(sound.connecting connecting).2] at next
    cases next
  inactive := sound.inactive
  shows := sound.shows

theorem Shows.read {frame : Frame} {frames : List Frame} (shows : connection.Shows shown)
    (next : connection.frames = frame :: frames) :
    Shows (frame.shows shown) { connection with frames } := by
  intro active all
  apply shows active
  rw [next]
  exact all

/-- The page can subscribe to any symbol next. -/
def Free (settings : Settings) (connection : Connection) : Prop :=
  connection.active = true → ∀ sid exp_sid, Request.Lead settings sid connection.subscription
    (connection.received ++ [.subscribe (settings.toUpperCase sid) exp_sid])

/-- What holds of every connection; `F` of one that is open or connecting. -/
structure Fits (F : ℕ → Connection → Prop) (created : ℕ) (socketRef : Option ℕ) (id : ℕ)
    (connection : Connection) : Prop where
  created : id < created
  sound : connection.Sound
  current : connection.readyState.live = true → socketRef = some id
  follows : connection.readyState.live = true → F id connection

/-- A connection that is closing or closed, whatever becomes of the page. -/
theorem Fits.dead {F G : ℕ → Connection → Prop} {created after id : ℕ}
    {socketRef current : Option ℕ} (fits : connection.Fits F created socketRef id)
    (dead : connection.readyState.live = false) (grown : created ≤ after) :
    connection.Fits G after current id where
  created := Nat.lt_of_lt_of_le fits.created grown
  sound := fits.sound
  current := fun live => absurd (live.symm.trans dead) Bool.noConfusion
  follows := fun live => absurd (live.symm.trans dead) Bool.noConfusion

end Connection

open Connection

/-- What the page shows comes from its current connection, unless the close event of one
is still to come. -/
inductive Backed (connections : ℕ → Option Connection) (socketRef : Option ℕ)
    (isConnected shown : Bool) : Prop where
  | closing {id : ℕ} {connection : Connection} (found : connections id = some connection)
      (closing : connection.readyState = .CLOSING)
  | current {id : ℕ} {connection : Connection} (found : connections id = some connection)
      (current : socketRef = some id) (isOpen : connection.readyState = .OPEN)
      (shows : connection.Shows shown)
  | gone (disconnected : isConnected = false) (absent : shown = false)

theorem Backed.update {connections : ℕ → Option Connection} {socketRef : Option ℕ}
    {isConnected shown : Bool} {id : ℕ} {connection changed : Connection}
    (backed : Backed connections socketRef isConnected shown)
    (found : connections id = some connection)
    (readyState : changed.readyState = connection.readyState)
    (shows : connection.Shows shown → changed.Shows shown) :
    Backed (Function.update connections id (some changed)) socketRef isConnected shown := by
  cases backed with
  | @closing other _ known closing =>
      by_cases same : other = id
      · subst same
        obtain rfl := Option.some.inj (found.symm.trans known)
        exact .closing (Function.update_self ..) (readyState.trans closing)
      · exact .closing ((Function.update_of_ne same ..).trans known) closing
  | @current other _ known current isOpen shown =>
      by_cases same : other = id
      · subst same
        obtain rfl := Option.some.inj (found.symm.trans known)
        exact .current (Function.update_self ..) current (readyState.trans isOpen) (shows shown)
      · exact .current ((Function.update_of_ne same ..).trans known) current isOpen shown
  | gone disconnected absent => exact .gone disconnected absent

namespace Page

variable {F G : ℕ → Connection → Prop} {page : Page}

/-! ## The socket of the hook -/

/-- The page rendered, its subscription and its interval stay. -/
structure Keeps (page after : Page) : Prop where
  store : after.view.store = page.view.store
  rendered : after.rendered = page.rendered
  effected : after.effected = page.effected
  currentSubscriptionRef : after.currentSubscriptionRef = page.currentSubscriptionRef
  pollTimerRef : after.pollTimerRef = page.pollTimerRef

theorem Keeps.trans {first second third : Page} (start : Keeps first second)
    (rest : Keeps second third) : Keeps first third where
  store := rest.store.trans start.store
  rendered := rest.rendered.trans start.rendered
  effected := rest.effected.trans start.effected
  currentSubscriptionRef := rest.currentSubscriptionRef.trans start.currentSubscriptionRef
  pollTimerRef := rest.pollTimerRef.trans start.pollTimerRef

theorem onCurrent_eq (page : Page) (allowed : ReadyState → Bool) (change : Connection → Connection) :
    page.onCurrent allowed change =
      { page with connections := (page.onCurrent allowed change).connections } := by
  unfold onCurrent
  split
  · rfl
  · split
    · rfl
    · split <;> rfl

theorem onCurrent_cases (page : Page) (allowed : ReadyState → Bool) (change : Connection → Connection) :
    (∃ id connection, page.socketRef = some id ∧ page.connections id = some connection ∧
        allowed connection.readyState = true ∧
        page.onCurrent allowed change = page.setConnection id (change connection)) ∨
      (page.onCurrent allowed change = page ∧ ∀ id connection, page.socketRef = some id →
        page.connections id = some connection → allowed connection.readyState = false) := by
  unfold onCurrent
  split
  · rename_i absent
    refine Or.inr ⟨rfl, ?_⟩
    intro id _ current
    rw [absent] at current
    cases current
  · rename_i id current
    split
    · rename_i absent
      refine Or.inr ⟨rfl, ?_⟩
      intro other connection same found
      rw [current] at same
      cases same
      rw [absent] at found
      cases found
    · rename_i connection found
      split
      · rename_i allows
        exact Or.inl ⟨id, connection, current, found, allows, rfl⟩
      · rename_i refused
        refine Or.inr ⟨rfl, ?_⟩
        intro other known same held
        rw [current] at same
        cases same
        rw [found] at held
        cases held
        exact Bool.not_eq_true _ ▸ refused

/-- What the page has heard of its connections is true of them. -/
structure Linked (F : ℕ → Connection → Prop) (page : Page) : Prop where
  connections : All (Fits F page.created page.socketRef) page.connections
  backed : Backed page.connections page.socketRef page.view.isConnected
    page.view.subscription.isSome

/-- One connection changes, and keeps its ready state. -/
theorem Linked.setConnection (linked : page.Linked F) {id : ℕ}
    {connection changed : Connection} (found : page.connections id = some connection)
    (readyState : changed.readyState = connection.readyState) (sound : changed.Sound)
    (follows : F id connection → F id changed)
    (shows : ∀ shown, connection.Shows shown → changed.Shows shown) :
    (page.setConnection id changed).Linked F where
  connections := by
    have fits := linked.connections id connection found
    apply linked.connections.update
    constructor
    · exact fits.created
    · exact sound
    · rw [readyState]
      exact fits.current
    · rw [readyState]
      exact fun live => follows (fits.follows live)
  backed := linked.backed.update found readyState (shows _)

theorem Linked.sendMessage (linked : page.Linked F) (message : Request)
    (sent : ∀ id connection, F id connection →
      G id { connection with received := connection.received ++ [message] })
    (idle : ∀ id connection, connection.active = false → G id connection) :
    (page.sendMessage message).Linked G := by
  unfold Page.sendMessage
  rcases page.onCurrent_cases (fun state => decide (state = .OPEN))
      (fun connection => { connection with received := connection.received ++ [message] }) with
    ⟨id, connection, current, found, isOpen, same⟩ | ⟨same, closed⟩
  · rw [same]
    have opened := of_decide_eq_true isOpen
    have fits := linked.connections id connection found
    constructor
    · apply all_update
      · intro other known different held
        have fits := linked.connections other known held
        refine ⟨fits.created, fits.sound, fits.current, ?_⟩
        intro live
        have same := fits.current live
        rw [current] at same
        exact absurd (Option.some.inj same).symm different
      · intro changed equal
        cases equal
        refine ⟨fits.created, ?_, fits.current, fun live => sent _ _ (fits.follows live)⟩
        refine ⟨?_, fits.sound.inactive, fits.sound.shows⟩
        intro connecting
        rw [show connection.readyState = .CONNECTING from connecting] at opened
        cases opened
    · exact linked.backed.update found rfl (fun shows => shows)
  · rw [same]
    refine ⟨?_, linked.backed⟩
    intro id connection found
    have fits := linked.connections id connection found
    refine ⟨fits.created, fits.sound, fits.current, ?_⟩
    intro live
    apply idle
    have notOpen := of_decide_eq_false (closed id connection (fits.current live) found)
    cases state : connection.readyState with
    | CONNECTING => exact (fits.sound.connecting state).1
    | OPEN => exact absurd state notOpen
    | CLOSING =>
        rw [state] at live
        cases live
    | CLOSED =>
        rw [state] at live
        cases live

/-- A connection that is closing now, or closed. -/
theorem Linked.dies (linked : page.Linked F) {id : ℕ} {connection : Connection}
    (found : page.connections id = some connection) {state : ReadyState}
    (dead : state.live = false) :
    All (Fits F page.created page.socketRef)
      (page.setConnection id { connection with readyState := state }).connections := by
  have fits := linked.connections id connection found
  apply linked.connections.update
  refine ⟨fits.created, ⟨?_, fits.sound.inactive, fits.sound.shows⟩, ?_, ?_⟩
  · intro connecting
    have live := congrArg ReadyState.live connecting
    rw [dead] at live
    cases live
  · exact fun live => absurd (live.symm.trans dead) Bool.noConfusion
  · exact fun live => absurd (live.symm.trans dead) Bool.noConfusion

theorem Linked.close (linked : page.Linked F) : page.close.Linked F := by
  unfold Page.close
  rcases page.onCurrent_cases ReadyState.live
      (fun connection => { connection with readyState := .CLOSING }) with
    ⟨id, connection, current, found, live, same⟩ | ⟨same, _⟩
  · rw [same]
    exact ⟨linked.dies found rfl, .closing (Function.update_self ..) rfl⟩
  · rw [same]
    exact linked

theorem Linked.close_dead (linked : page.Linked F) :
    All (fun _ connection => connection.readyState.live = false) page.close.connections := by
  unfold Page.close
  rcases page.onCurrent_cases ReadyState.live
      (fun connection => { connection with readyState := .CLOSING }) with
    ⟨id, connection, current, found, live, same⟩ | ⟨same, dead⟩
  · rw [same]
    apply all_update
    · intro other known different held
      rw [← Bool.not_eq_true]
      intro live
      have same := (linked.connections other known held).current live
      rw [current] at same
      exact different (Option.some.inj same).symm
    · intro changed equal
      cases equal
      rfl
  · rw [same]
    intro id connection found
    rw [← Bool.not_eq_true]
    intro live
    have refused := dead id connection ((linked.connections id connection found).current live) found
    rw [live] at refused
    cases refused

theorem Linked.connect (linked : page.Linked F) (thrown : Option String)
    (fresh : ∀ id, F id {}) :
    (page.connect thrown).Linked F := by
  have closed := linked.close
  have dead := linked.close_dead
  cases thrown with
  | some message => exact ⟨closed.connections, closed.backed⟩
  | none =>
      have unused : page.close.connections page.close.created = none := by
        cases taken : page.close.connections page.close.created with
        | none => rfl
        | some connection => exact absurd (closed.connections _ _ taken).created (Nat.lt_irrefl _)
      constructor
      · apply all_update
        · intro id connection _ found
          exact (closed.connections id connection found).dead (dead id connection found)
            (Nat.le_succ _)
        · intro connection equal
          cases equal
          refine ⟨Nat.lt_succ_self _, ?_, fun _ => rfl, fun _ => fresh _⟩
          exact ⟨fun _ => ⟨rfl, rfl⟩, fun _ => rfl, fun impossible => Bool.noConfusion impossible⟩
      · cases closed.backed with
        | @closing id connection found closing =>
            have different : id ≠ page.close.created := by
              rintro rfl
              rw [unused] at found
              cases found
            exact .closing ((Function.update_of_ne different ..).trans found) closing
        | current found _ isOpen _ =>
            have live := congrArg ReadyState.live isOpen
            rw [dead _ _ found] at live
            cases live
        | gone disconnected absent => exact .gone disconnected absent

theorem Linked.disconnect (linked : page.Linked F) : page.disconnect.Linked G := by
  have cleared : page.clearTimeout.Linked F := ⟨linked.connections, linked.backed⟩
  constructor
  · intro id connection found
    exact (cleared.close.connections id connection found).dead
      (cleared.close_dead id connection found) (Nat.le_refl _)
  · exact .gone rfl rfl

theorem keeps_close : page.Keeps page.close := by
  unfold Page.close
  rw [onCurrent_eq]
  exact ⟨rfl, rfl, rfl, rfl, rfl⟩

theorem keeps_sendMessage (message : Request) : page.Keeps (page.sendMessage message) := by
  unfold Page.sendMessage
  rw [onCurrent_eq]
  exact ⟨rfl, rfl, rfl, rfl, rfl⟩

theorem keeps_connect (thrown : Option String) : page.Keeps (page.connect thrown) := by
  apply keeps_close.trans
  cases thrown <;> exact ⟨rfl, rfl, rfl, rfl, rfl⟩

theorem keeps_disconnect : page.Keeps page.disconnect := by
  have cleared : page.Keeps page.clearTimeout := ⟨rfl, rfl, rfl, rfl, rfl⟩
  exact (cleared.trans keeps_close).trans ⟨rfl, rfl, rfl, rfl, rfl⟩

/-! ## The events of a socket -/

theorem onmessage_shows (frame : Frame) :
    (page.onmessage frame).view.subscription.isSome =
      frame.shows page.view.subscription.isSome := by
  cases frame <;> rfl

theorem onmessage_eq (frame : Frame) :
    page.onmessage frame = { page with view := (page.onmessage frame).view } := by
  cases frame <;> rfl

theorem keeps_onmessage (frame : Frame) : page.Keeps (page.onmessage frame) := by
  cases frame <;> exact ⟨rfl, rfl, rfl, rfl, rfl⟩

theorem onclose_gone (wasClean : Bool) :
    (page.onclose wasClean).view.isConnected = false ∧
      (page.onclose wasClean).view.subscription = none := by
  unfold onclose
  dsimp only
  split
  · exact ⟨rfl, rfl⟩
  · split <;> exact ⟨rfl, rfl⟩

theorem onclose_eq (wasClean : Bool) :
    (page.onclose wasClean).connections = page.connections ∧
      (page.onclose wasClean).created = page.created ∧
      (page.onclose wasClean).socketRef = page.socketRef := by
  unfold onclose
  dsimp only
  split
  · exact ⟨rfl, rfl, rfl⟩
  · split <;> exact ⟨rfl, rfl, rfl⟩

theorem keeps_onclose (wasClean : Bool) : page.Keeps (page.onclose wasClean) := by
  unfold onclose
  dsimp only
  split
  · exact ⟨rfl, rfl, rfl, rfl, rfl⟩
  · split <;> exact ⟨rfl, rfl, rfl, rfl, rfl⟩

theorem onerror_eq : page.onerror = { page with view := page.onerror.view } := by
  unfold onerror
  split <;> rfl

theorem keeps_onerror : page.Keeps page.onerror := by
  unfold onerror
  split <;> exact ⟨rfl, rfl, rfl, rfl, rfl⟩

theorem ne_of_readyState {id other : ℕ} {connection known : Connection}
    (found : page.connections id = some connection)
    (held : page.connections other = some known)
    (different : known.readyState ≠ connection.readyState) : other ≠ id := by
  rintro rfl
  rw [found] at held
  cases held
  exact different rfl

theorem Linked.opened (linked : page.Linked F) {id : ℕ} {connection : Connection}
    (found : page.connections id = some connection)
    (connecting : connection.readyState = .CONNECTING)
    (fresh : ∀ id connection, connection.received = [] → connection.subscription = none →
      F id connection) :
    (page.setConnection id
      { connection with readyState := .OPEN, active := true, frames := [.connected] }).onopen.Linked
        F := by
  have fits := linked.connections id connection found
  have current := fits.current (by rw [connecting]; rfl)
  obtain ⟨inactive, received⟩ := fits.sound.connecting connecting
  have silent : Connection.Shows false
      { connection with readyState := .OPEN, active := true, frames := [.connected] } :=
    fun _ impossible => Bool.noConfusion impossible
  constructor
  · apply linked.connections.update
    refine ⟨fits.created, ⟨?_, ?_, silent⟩, fun _ => current, fun _ => ?_⟩
    · exact fun impossible => ReadyState.noConfusion impossible
    · exact fun impossible => Bool.noConfusion impossible
    · exact fresh _ _ received (fits.sound.inactive inactive)
  · cases linked.backed with
    | @closing other known held closing =>
        have different : other ≠ id := by
          apply ne_of_readyState found held
          rw [closing, connecting]
          decide
        exact .closing ((Function.update_of_ne different ..).trans held) closing
    | @current other known held same isOpen shows =>
        rw [current] at same
        cases same
        rw [found] at held
        cases held
        rw [connecting] at isOpen
        cases isOpen
    | gone disconnected absent =>
        refine .current (Function.update_self ..) current rfl ?_
        rw [show (page.setConnection id _).onopen.view.subscription.isSome = false from absent]
        exact silent

theorem Linked.message (linked : page.Linked F) {id : ℕ} {connection : Connection}
    {frame : Frame} {frames : List Frame} (found : page.connections id = some connection)
    (isOpen : connection.readyState = .OPEN) (next : connection.frames = frame :: frames)
    (read : F id connection → F id { connection with frames }) :
    ((page.setConnection id { connection with frames }).onmessage frame).Linked F := by
  have fits := linked.connections id connection found
  have current := fits.current (by rw [isOpen]; rfl)
  -- what the page shows now is what the frames yet to be read started from
  have backs : connection.Shows page.view.subscription.isSome →
      Backed (page.setConnection id { connection with frames }).connections page.socketRef
        ((page.setConnection id { connection with frames }).onmessage frame).view.isConnected
        ((page.setConnection id { connection with frames }).onmessage
          frame).view.subscription.isSome := by
    intro shows
    refine .current (Function.update_self ..) current isOpen ?_
    rw [onmessage_shows]
    exact shows.read next
  rw [onmessage_eq]
  constructor
  · apply linked.connections.update
    refine ⟨fits.created, ⟨fits.sound.connecting, fits.sound.inactive, ?_⟩, fits.current, ?_⟩
    · exact (fits.sound.shows.read next).mono (fun impossible => Bool.noConfusion impossible)
    · exact fun live => read (fits.follows live)
  · cases linked.backed with
    | @closing other known held closing =>
        have different : other ≠ id := by
          apply ne_of_readyState found held
          rw [closing, isOpen]
          decide
        exact .closing ((Function.update_of_ne different ..).trans held) closing
    | @current other known held same _ shows =>
        rw [current] at same
        cases same
        rw [found] at held
        cases held
        exact backs shows
    | gone disconnected absent =>
        apply backs
        rw [absent]
        exact fits.sound.shows

theorem Linked.onclose {wasClean : Bool}
    (connections : All (Fits F page.created page.socketRef) page.connections) :
    (page.onclose wasClean).Linked F := by
  obtain ⟨same, created, socketRef⟩ := page.onclose_eq wasClean
  obtain ⟨disconnected, absent⟩ := page.onclose_gone wasClean
  constructor
  · rw [same, created, socketRef]
    exact connections
  · refine .gone disconnected ?_
    rw [absent]
    rfl

/-- A property of the live connections that whatever the server does leaves. -/
structure Local (settings : Settings) (F : ℕ → Connection → Prop) : Prop where
  fresh : ∀ id connection, connection.received = [] → connection.subscription = none →
    F id connection
  read : ∀ id connection frames, F id connection → F id { connection with frames }
  handle : ∀ id connection request received known, F id connection →
    connection.received = request :: received →
    F id (Connection.handle settings { connection with received } known request)
  error : ∀ id connection message, F id connection →
    F id (connection.send_personal_message (.error message))
  disconnect : ∀ id connection told, F id connection → F id (connection.disconnect told)

/-- Every step but the effects. -/
theorem Linked.step (linked : page.Linked F) (kept : Local settings F) {label : Label}
    {after : Page} (event : ∀ thrown, label ≠ .effects thrown)
    (taken : LiveFeed.step settings page label = some after) : after.Linked F := by
  cases label with
  | effects thrown => exact absurd rfl (event thrown)
  | dispatch store =>
      cases taken
      exact ⟨linked.connections, linked.backed⟩
  | render =>
      obtain ⟨_, rfl⟩ := guarded_eq_some.mp taken
      exact ⟨linked.connections, linked.backed⟩
  | opened id =>
      obtain ⟨connection, found, taken⟩ := Option.bind_eq_some_iff.mp taken
      obtain ⟨connecting, rfl⟩ := guarded_eq_some.mp taken
      exact linked.opened found connecting kept.fresh
  | message id =>
      obtain ⟨connection, found, taken⟩ := Option.bind_eq_some_iff.mp taken
      split at taken
      · rename_i frame frames next
        obtain ⟨isOpen, rfl⟩ := guarded_eq_some.mp taken
        exact linked.message found isOpen next (kept.read id connection frames)
      · cases taken
  | closing id =>
      obtain ⟨connection, found, taken⟩ := Option.bind_eq_some_iff.mp taken
      obtain ⟨_, rfl⟩ := guarded_eq_some.mp taken
      exact ⟨linked.dies found rfl, .closing (Function.update_self ..) rfl⟩
  | closed id failed wasClean =>
      obtain ⟨connection, found, taken⟩ := Option.bind_eq_some_iff.mp taken
      obtain ⟨_, rfl⟩ := guarded_eq_some.mp taken
      have dead := linked.dies found (show ReadyState.CLOSED.live = false from rfl)
      cases failed with
      | false => exact Linked.onclose dead
      | true =>
          apply Linked.onclose
          rw [if_pos rfl, onerror_eq]
          exact dead
  | timeout id thrown =>
      obtain ⟨_, rfl⟩ := guarded_eq_some.mp taken
      have waiting : Linked F { page with timeouts := page.timeouts.erase id } :=
        ⟨linked.connections, linked.backed⟩
      exact waiting.connect thrown (fun id => kept.fresh id _ rfl rfl)
  | handle id known =>
      obtain ⟨connection, found, taken⟩ := Option.bind_eq_some_iff.mp taken
      split at taken
      · rename_i request received next
        cases taken
        have served : Serves { connection with received }
            (Connection.handle settings { connection with received } known request) :=
          Serves.handle known request
        have sound := (linked.connections id connection found).sound
        exact linked.setConnection found served.readyState ((sound.take next).serves served)
          (fun holds => kept.handle id connection request received known holds next)
          (fun shown => served.shows shown)
      · cases taken
  | stream_error id message =>
      obtain ⟨connection, found, taken⟩ := Option.bind_eq_some_iff.mp taken
      obtain ⟨_, rfl⟩ := guarded_eq_some.mp taken
      have served : Serves connection
          (connection.send_personal_message (.error message)) := Serves.error message
      exact linked.setConnection found served.readyState
        ((linked.connections id connection found).sound.serves served)
        (kept.error id connection message) served.shows
  | disconnect id told =>
      obtain ⟨connection, found, rfl⟩ := Option.map_eq_some_iff.mp taken
      have served : Serves connection (connection.disconnect told) := Serves.disconnect told
      exact linked.setConnection found served.readyState
        ((linked.connections id connection found).sound.serves served)
        (kept.disconnect id connection told) served.shows

theorem keeps_step {label : Label} {after : Page} (event : label.isEvent = true)
    (taken : LiveFeed.step settings page label = some after) : page.Keeps after := by
  cases label with
  | dispatch store => cases event
  | render => cases event
  | effects thrown => cases event
  | opened id =>
      obtain ⟨connection, _, taken⟩ := Option.bind_eq_some_iff.mp taken
      obtain ⟨_, rfl⟩ := guarded_eq_some.mp taken
      exact ⟨rfl, rfl, rfl, rfl, rfl⟩
  | message id =>
      obtain ⟨connection, _, taken⟩ := Option.bind_eq_some_iff.mp taken
      split at taken
      · rename_i frame frames _
        obtain ⟨_, rfl⟩ := guarded_eq_some.mp taken
        refine Keeps.trans ?_ (keeps_onmessage frame)
        exact ⟨rfl, rfl, rfl, rfl, rfl⟩
      · cases taken
  | closing id =>
      obtain ⟨connection, _, taken⟩ := Option.bind_eq_some_iff.mp taken
      obtain ⟨_, rfl⟩ := guarded_eq_some.mp taken
      exact ⟨rfl, rfl, rfl, rfl, rfl⟩
  | closed id failed wasClean =>
      obtain ⟨connection, _, taken⟩ := Option.bind_eq_some_iff.mp taken
      obtain ⟨_, rfl⟩ := guarded_eq_some.mp taken
      refine Keeps.trans ?_ (keeps_onclose wasClean)
      cases failed with
      | false => exact ⟨rfl, rfl, rfl, rfl, rfl⟩
      | true =>
          rw [if_pos rfl]
          refine Keeps.trans ?_ keeps_onerror
          exact ⟨rfl, rfl, rfl, rfl, rfl⟩
  | timeout id thrown =>
      obtain ⟨_, rfl⟩ := guarded_eq_some.mp taken
      refine Keeps.trans ?_ (keeps_connect thrown)
      exact ⟨rfl, rfl, rfl, rfl, rfl⟩
  | handle id known =>
      obtain ⟨connection, _, taken⟩ := Option.bind_eq_some_iff.mp taken
      split at taken
      · cases taken
        exact ⟨rfl, rfl, rfl, rfl, rfl⟩
      · cases taken
  | stream_error id message =>
      obtain ⟨connection, _, taken⟩ := Option.bind_eq_some_iff.mp taken
      obtain ⟨_, rfl⟩ := guarded_eq_some.mp taken
      exact ⟨rfl, rfl, rfl, rfl, rfl⟩
  | disconnect id told =>
      obtain ⟨connection, _, rfl⟩ := Option.map_eq_some_iff.mp taken
      exact ⟨rfl, rfl, rfl, rfl, rfl⟩

end Page

end HftEngine.Frontend.LiveFeed
