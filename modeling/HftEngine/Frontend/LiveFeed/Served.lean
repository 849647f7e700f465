import HftEngine.Frontend.LiveFeed.Connections

/-!
# The page is served

A page at rest polls, or its current connection has a subscription to the symbol that is
selected.  The subscription does not outlive its connection.
-/

namespace HftEngine.Frontend.LiveFeed

open Transition Tasks Connection

variable {settings : Settings}

namespace Page

variable {F : ℕ → Connection → Prop} {page : Page}

/-! ## The effects -/

theorem Linked.socket_effect (linked : page.Linked F) (rendered : View)
    (thrown : Option String) (fresh : ∀ id, F id {}) :
    (page.socket_effect rendered thrown).Linked F := by
  unfold Page.socket_effect
  dsimp only
  split
  · exact linked
  · have cleaned : (if page.effected.isSome then page.disconnect else page).Linked F := by
      split
      · exact linked.disconnect
      · exact linked
    split
    · exact cleaned.connect thrown fresh
    · exact cleaned.disconnect

theorem keeps_socket_effect (page : Page) (rendered : View) (thrown : Option String) :
    page.Keeps (page.socket_effect rendered thrown) := by
  unfold Page.socket_effect
  dsimp only
  split
  · exact ⟨rfl, rfl, rfl, rfl, rfl⟩
  · have cleaned : page.Keeps (if page.effected.isSome then page.disconnect else page) := by
      split
      · exact keeps_disconnect
      · exact ⟨rfl, rfl, rfl, rfl, rfl⟩
    split
    · exact cleaned.trans (keeps_connect thrown)
    · exact cleaned.trans keeps_disconnect

/-- The page has subscribed for what it rendered, if it was connected. -/
def Subscribed (rendered : View) (page : Page) : Prop :=
  rendered.isConnected = true → rendered.store.enabled = true →
    page.currentSubscriptionRef = some rendered.store.selectSelectedSymbol

theorem Linked.resubscribe {ref : Option String}
    (linked : page.Linked (fun _ => Follows settings ref)) (sid exp_sid : String) :
    ((if ref.isSome then page.unsubscribe else page).subscribe settings true sid
      exp_sid).Linked (fun _ => Follows settings (some sid)) := by
  have free : (if ref.isSome then page.unsubscribe else page).Linked
      (fun _ => Connection.Free settings) := by
    cases ref with
    | none =>
        refine ⟨?_, linked.backed⟩
        intro id connection found
        have fits := linked.connections id connection found
        refine ⟨fits.created, fits.sound, fits.current, ?_⟩
        intro live active sid exp_sid
        obtain ⟨received, subscription⟩ := fits.follows live active
        rw [received, subscription]
        exact Request.lead_single sid exp_sid
    | some old =>
        apply linked.sendMessage
        · intro id connection _ _ sid exp_sid
          rw [List.append_assoc]
          exact Request.lead_append sid exp_sid _
        · intro id connection inactive active
          rw [inactive] at active
          cases active
  apply free.sendMessage
  · intro id connection free active
    exact free active sid exp_sid
  · intro id connection inactive active
    rw [inactive] at active
    cases active

theorem local_follows (ref : Option String) :
    Local settings (fun _ => Follows settings ref) where
  fresh := by
    intro _ connection received subscription _
    rw [received, subscription]
    cases ref with
    | none => exact ⟨rfl, rfl⟩
    | some sid =>
        intro symbol impossible
        cases impossible
  read := fun _ _ _ follows => follows
  handle := fun _ _ _ _ known follows next => follows.handle next known
  error := by
    intro _ connection message follows active
    rw [send_active] at active
    rw [send_received, send_subscription]
    exact follows active
  disconnect := fun _ _ _ _ impossible => Bool.noConfusion impossible

/-- The connections follow the subscription of the page, which follows what it rendered
last, and so does its interval. -/
structure Sound (settings : Settings) (page : Page) : Prop where
  linked : page.Linked (fun _ => Follows settings page.currentSubscriptionRef)
  subscribed : ∀ effected ∈ page.effected, page.Subscribed effected
  polls : page.pollTimerRef = page.effected.bind View.polls

theorem polls_congr {first second : View} (same : first.pollingDeps = second.pollingDeps) :
    first.polls = second.polls := by
  simp only [View.pollingDeps, View.subscriptionDeps, Prod.mk.injEq] at same
  obtain ⟨⟨connected, symbol, expiry, authenticated, oc⟩, subscription, error, isMatch⟩ := same
  simp only [View.polls, Store.enabled, Store.validExpiry, connected, symbol, expiry,
    authenticated, oc, subscription, error, isMatch]
  rfl

theorem subscribed_congr {first second : View}
    (same : first.subscriptionDeps = second.subscriptionDeps)
    (subscribed : page.Subscribed first) : page.Subscribed second := by
  simp only [View.subscriptionDeps, Prod.mk.injEq] at same
  obtain ⟨connected, symbol, _, authenticated, oc⟩ := same
  intro isConnected enabled
  rw [← symbol]
  apply subscribed
  · rw [connected, isConnected]
  · rwa [Store.enabled, authenticated, oc]

/-- The effect does nothing, and need not, or the page subscribes. -/
theorem subscription_effect_cases (settings : Settings) (rendered : View)
    (sound : ∀ effected ∈ page.effected, page.Subscribed effected) :
    (page.subscription_effect settings rendered = page ∧ page.Subscribed rendered) ∨
      page.currentSubscriptionRef ≠ some rendered.store.selectSelectedSymbol ∧
        page.subscription_effect settings rendered =
          { (if page.currentSubscriptionRef.isSome then page.unsubscribe else page).subscribe
              settings true rendered.store.selectSelectedSymbol
              (rendered.store.validExpiry.elim "" toString) with
            currentSubscriptionRef := some rendered.store.selectSelectedSymbol } := by
  unfold Page.subscription_effect
  dsimp only
  split
  · rename_i unchanged
    obtain ⟨effected, found, same⟩ := (Option.any_eq_true ..).mp unchanged
    exact Or.inl ⟨rfl, subscribed_congr (of_decide_eq_true same) (sound effected found)⟩
  · split
    · rename_i ready
      obtain ⟨isConnected, _⟩ := Bool.and_eq_true_iff.mp ready
      split
      · rename_i current
        exact Or.inl ⟨rfl, fun _ _ => current⟩
      · rename_i other
        rw [isConnected]
        exact Or.inr ⟨other, rfl⟩
    · rename_i idle
      refine Or.inl ⟨rfl, ?_⟩
      intro isConnected enabled
      exact absurd (Bool.and_eq_true_iff.mpr ⟨isConnected, enabled⟩) idle

theorem Sound.subscription_effect (sound : page.Sound settings) (rendered : View) :
    (page.subscription_effect settings rendered).Linked
        (fun _ => Follows settings
          (page.subscription_effect settings rendered).currentSubscriptionRef) ∧
      (page.subscription_effect settings rendered).Subscribed rendered ∧
      (page.subscription_effect settings rendered).effected = page.effected ∧
      (page.subscription_effect settings rendered).pollTimerRef = page.pollTimerRef := by
  rcases subscription_effect_cases settings rendered sound.subscribed with
    ⟨same, subscribed⟩ | ⟨_, same⟩
  · rw [same]
    exact ⟨sound.linked, subscribed, rfl, rfl⟩
  · have linked := sound.linked.resubscribe rendered.store.selectSelectedSymbol
      (rendered.store.validExpiry.elim "" toString)
    have kept : page.Keeps
        ((if page.currentSubscriptionRef.isSome then page.unsubscribe else page).subscribe
          settings true rendered.store.selectSelectedSymbol
          (rendered.store.validExpiry.elim "" toString)) := by
      refine Keeps.trans ?_ (keeps_sendMessage _)
      split
      · exact keeps_sendMessage _
      · exact ⟨rfl, rfl, rfl, rfl, rfl⟩
    rw [same]
    exact ⟨⟨linked.connections, linked.backed⟩, fun _ _ => rfl, kept.effected,
      kept.pollTimerRef⟩

theorem polling_effect_eq (rendered : View)
    (sound : page.pollTimerRef = page.effected.bind View.polls) :
    page.polling_effect rendered = { page with pollTimerRef := rendered.polls } := by
  unfold Page.polling_effect
  split
  · rename_i unchanged
    obtain ⟨effected, found, same⟩ := (Option.any_eq_true ..).mp unchanged
    rw [found, Option.bind_some, polls_congr (of_decide_eq_true same)] at sound
    rw [← sound]
  · rfl

theorem Sound.socket_effect (sound : page.Sound settings) (rendered : View)
    (thrown : Option String) : (page.socket_effect rendered thrown).Sound settings := by
  have kept := page.keeps_socket_effect rendered thrown
  constructor
  · rw [kept.currentSubscriptionRef]
    exact sound.linked.socket_effect rendered thrown
      (fun id => (local_follows _).fresh id _ rfl rfl)
  · rw [kept.effected]
    intro effected found isConnected enabled
    rw [kept.currentSubscriptionRef]
    exact sound.subscribed effected found isConnected enabled
  · rw [kept.pollTimerRef, kept.effected]
    exact sound.polls

theorem Sound.effects (sound : page.Sound settings) (thrown : Option String)
    (rendered : View) : (page.effects settings thrown rendered).Sound settings := by
  have started := sound.socket_effect rendered thrown
  obtain ⟨linked, subscribed, effected, pollTimerRef⟩ := started.subscription_effect rendered
  have polling := started.polls
  rw [← pollTimerRef, ← effected] at polling
  rw [Page.effects, polling_effect_eq rendered polling]
  constructor
  · exact ⟨linked.connections, linked.backed⟩
  · intro view same
    cases same
    exact subscribed
  · rfl

theorem Sound.step (sound : page.Sound settings) {label : Label} {after : Page}
    (taken : LiveFeed.step settings page label = some after) : after.Sound settings := by
  by_cases effects : ∃ thrown, label = .effects thrown
  · obtain ⟨thrown, rfl⟩ := effects
    obtain ⟨rendered, _, rfl⟩ := Option.map_eq_some_iff.mp taken
    exact sound.effects thrown rendered
  · have linked := sound.linked.step (local_follows _) (fun thrown same =>
      effects ⟨thrown, same⟩) taken
    have kept : after.effected = page.effected ∧
        after.currentSubscriptionRef = page.currentSubscriptionRef ∧
        after.pollTimerRef = page.pollTimerRef := by
      cases event : label.isEvent with
      | true =>
          have kept := keeps_step event taken
          exact ⟨kept.effected, kept.currentSubscriptionRef, kept.pollTimerRef⟩
      | false =>
          cases label with
          | effects thrown => exact absurd ⟨thrown, rfl⟩ effects
          | dispatch store =>
              cases taken
              exact ⟨rfl, rfl, rfl⟩
          | render =>
              obtain ⟨_, rfl⟩ := guarded_eq_some.mp taken
              exact ⟨rfl, rfl, rfl⟩
          | _ => cases event
    obtain ⟨effected, currentSubscriptionRef, pollTimerRef⟩ := kept
    constructor
    · rw [currentSubscriptionRef]
      exact linked
    · rw [effected]
      intro view found isConnected enabled
      rw [currentSubscriptionRef]
      exact sound.subscribed view found isConnected enabled
    · rw [pollTimerRef, effected]
      exact sound.polls

theorem sound_of_reachable (reached : Reachable (system settings) page) :
    page.Sound settings := by
  refine reached.invariant ?_ (fun _ _ _ sound _ taken => sound.step taken)
  constructor
  · exact ⟨All.start _, .gone rfl rfl⟩
  · intro view impossible
    cases impossible
  · rfl

/-- The current connection of the page, with its subscription. -/
structure Streams (settings : Settings) (page : Page) (id : ℕ) (connection : Connection) :
    Prop where
  found : page.connections id = some connection
  current : page.socketRef = some id
  isOpen : connection.readyState = .OPEN
  active : connection.active = true
  subscription : connection.subscription.map Prod.fst =
    some (settings.symbol page.view.store.selectSelectedSymbol)

theorem connected_of_polls_eq_none {view : View} (enabled : view.store.enabled = true)
    (idle : view.polls = none) :
    view.isConnected = true ∧ view.subscription.isSome = true := by
  rw [View.polls, if_neg (by rw [enabled]; decide)] at idle
  split at idle
  · rename_i streaming
    simp only [Bool.and_eq_true] at streaming
    obtain ⟨⟨⟨_, isConnected⟩, subscribed⟩, _⟩ := streaming
    exact ⟨isConnected, subscribed⟩
  · cases idle

theorem atRest_of_open {connection : Connection} (resting : connection.atRest = true)
    (isOpen : connection.readyState = .OPEN) :
    connection.active = true ∧ connection.received = [] ∧ connection.frames = [] := by
  rw [Connection.atRest, isOpen] at resting
  simpa only [Bool.and_eq_true, List.isEmpty_iff, and_assoc] using resting

theorem Sound.streams (sound : page.Sound settings) (resting : page.AtRest)
    (enabled : page.view.store.enabled = true) (idle : page.pollTimerRef = none) :
    ∃ id connection, page.Streams settings id connection := by
  have polls := sound.polls
  rw [resting.effected, Option.bind_some, idle] at polls
  obtain ⟨isConnected, subscribed⟩ := connected_of_polls_eq_none enabled polls.symm
  cases sound.linked.backed with
  | closing found closing =>
      have quiet := resting.connections _ _ found
      rw [Connection.atRest, closing] at quiet
      cases quiet
  | gone disconnected _ =>
      rw [isConnected] at disconnected
      cases disconnected
  | @current id connection found current isOpen shows =>
      obtain ⟨active, received, frames⟩ := atRest_of_open (resting.connections id _ found) isOpen
      have isSome := shows active (by rw [frames]; exact subscribed)
      obtain ⟨subscription, held⟩ := Option.isSome_iff_exists.mp isSome
      have follows := (sound.linked.connections id connection found).follows
        (by rw [isOpen]; rfl) active
      rw [sound.subscribed _ resting.effected isConnected enabled, received, held] at follows
      refine ⟨id, connection, found, current, isOpen, active, ?_⟩
      rw [held, Option.map_some, follows _ rfl]

/-! ## Connections that are lost -/

/-- No other symbol is selected. -/
def KeepsSymbol (sid : String) (_ : Page) : Label → Prop
  | .dispatch store => store.selectSelectedSymbol = sid
  | _ => True

instance (sid : String) (page : Page) (label : Label) :
    Decidable (KeepsSymbol sid page label) := by
  unfold KeepsSymbol
  split <;> infer_instance

/-- A connection with another number has no subscription, and is asked for none. -/
def Silent (streaming id : ℕ) (connection : Connection) : Prop :=
  id ≠ streaming → connection.received = [] ∧ connection.subscription = none

theorem local_silent (settings : Settings) (streaming : ℕ) : Local settings (Silent streaming) where
  fresh := fun _ _ received subscription _ => ⟨received, subscription⟩
  read := fun _ _ _ silent => silent
  handle := by
    intro id connection request received known silent next different
    rw [(silent different).1] at next
    cases next
  error := by
    intro id connection message silent different
    rw [send_received, send_subscription]
    exact silent different
  disconnect := by
    intro id connection told silent different
    refine ⟨?_, rfl⟩
    rw [(Serves.disconnect told).received]
    exact (silent different).1

/-- The page has subscribed to the symbol, and knows of no other. -/
structure Settled (sid : String) (streaming : ℕ) (page : Page) : Prop where
  linked : page.Linked (Silent streaming)
  subscribed : page.currentSubscriptionRef = some sid
  selected : page.view.store.selectSelectedSymbol = sid
  rendered : ∀ rendered ∈ page.rendered, rendered.store.selectSelectedSymbol = sid

variable {sid : String} {streaming : ℕ}

theorem Settled.effects (settled : page.Settled sid streaming) (sound : page.Sound settings)
    (thrown : Option String) {rendered : View} (found : page.rendered = some rendered) :
    (page.effects settings thrown rendered).Settled sid streaming := by
  have linked := settled.linked.socket_effect rendered thrown
    (fun id => (local_silent settings streaming).fresh id _ rfl rfl)
  have kept := page.keeps_socket_effect rendered thrown
  have started := sound.socket_effect rendered thrown
  have current : (page.socket_effect rendered thrown).currentSubscriptionRef = some sid :=
    kept.currentSubscriptionRef.trans settled.subscribed
  rcases subscription_effect_cases settings rendered started.subscribed with
    ⟨same, _⟩ | ⟨other, _⟩
  · rw [Page.effects, same, polling_effect_eq rendered started.polls]
    refine ⟨⟨linked.connections, linked.backed⟩, current, ?_, ?_⟩
    · exact (congrArg Store.selectSelectedSymbol kept.store).trans settled.selected
    · intro view impossible
      cases impossible
  · rw [current, settled.rendered rendered found] at other
    exact absurd rfl other

theorem Settled.step (settled : page.Settled sid streaming) (sound : page.Sound settings)
    {label : Label} {after : Page} (keeps : KeepsSymbol sid page label)
    (taken : LiveFeed.step settings page label = some after) :
    after.Settled sid streaming := by
  by_cases effects : ∃ thrown, label = .effects thrown
  · obtain ⟨thrown, rfl⟩ := effects
    obtain ⟨rendered, found, rfl⟩ := Option.map_eq_some_iff.mp taken
    exact settled.effects sound thrown found
  · have linked := settled.linked.step (local_silent settings streaming) (fun thrown same =>
      effects ⟨thrown, same⟩) taken
    cases event : label.isEvent with
    | true =>
        have kept := keeps_step event taken
        refine ⟨linked, ?_, ?_, ?_⟩
        · rw [kept.currentSubscriptionRef, settled.subscribed]
        · rw [kept.store, settled.selected]
        · rw [kept.rendered]
          exact settled.rendered
    | false =>
        cases label with
        | effects thrown => exact absurd ⟨thrown, rfl⟩ effects
        | dispatch store =>
            cases taken
            exact ⟨linked, settled.subscribed, keeps, settled.rendered⟩
        | render =>
            obtain ⟨_, rfl⟩ := guarded_eq_some.mp taken
            refine ⟨linked, settled.subscribed, settled.selected, ?_⟩
            intro rendered same
            cases same
            exact settled.selected
        | _ => cases event

/-- A page at rest that streams is settled. -/
theorem Sound.settled (sound : page.Sound settings) (resting : page.AtRest)
    (enabled : page.view.store.enabled = true) (idle : page.pollTimerRef = none)
    (current : page.socketRef = some streaming) :
    page.Settled page.view.store.selectSelectedSymbol streaming := by
  have polls := sound.polls
  rw [resting.effected, Option.bind_some, idle] at polls
  obtain ⟨isConnected, _⟩ := connected_of_polls_eq_none enabled polls.symm
  refine ⟨⟨?_, sound.linked.backed⟩, ?_, rfl, ?_⟩
  · intro id connection found
    have fits := sound.linked.connections id connection found
    refine ⟨fits.created, fits.sound, fits.current, ?_⟩
    intro live different
    have same := fits.current live
    rw [current] at same
    exact absurd (Option.some.inj same).symm different
  · exact sound.subscribed _ resting.effected isConnected enabled
  · intro rendered found
    rw [resting.rendered] at found
    cases found

/-- Of a settled page only the first connection streams. -/
theorem Settled.streams (settled : page.Settled sid streaming) {id : ℕ}
    {connection : Connection} (streams : page.Streams settings id connection) :
    id = streaming := by
  by_contra different
  have live : connection.readyState.live = true := by rw [streams.isOpen]; rfl
  have silent := (settled.linked.connections id connection streams.found).follows live different
  have subscription := streams.subscription
  rw [silent.2] at subscription
  cases subscription

end Page

open Page

/-- At rest, the page of a user polls the symbol that is selected, or its current
connection has a subscription to it. -/
theorem polls_or_streams {page : Page} (reached : Reachable (system settings) page)
    (resting : page.AtRest) (enabled : page.view.store.enabled = true) :
    page.pollTimerRef =
        some (page.view.store.selectSelectedSymbol, page.view.store.validExpiry) ∨
      page.pollTimerRef = none ∧ ∃ id connection, page.Streams settings id connection := by
  have sound := sound_of_reachable reached
  cases polled : page.pollTimerRef with
  | none => exact Or.inr ⟨rfl, sound.streams resting enabled polled⟩
  | some polls =>
      refine Or.inl ?_
      rw [← polled, sound.polls, resting.effected, Option.bind_some, View.polls,
        if_neg (by rw [enabled]; decide), if_neg]
      intro streaming
      rw [sound.polls, resting.effected, Option.bind_some, View.polls,
        if_neg (by rw [enabled]; decide), if_pos streaming] at polled
      cases polled

/-- The page of a user, at rest, that does not poll. -/
def Page.streaming (page : Page) : Bool :=
  page.rendered.isNone && decide (page.effected = some page.view) &&
    (List.range page.created).all (fun id => (page.connections id).all Connection.atRest) &&
    page.view.store.enabled && page.pollTimerRef.isNone

theorem Page.Sound.of_streaming {page : Page} (sound : page.Sound settings)
    (streaming : page.streaming = true) :
    page.AtRest ∧ page.view.store.enabled = true ∧ page.pollTimerRef = none := by
  simp only [Page.streaming, Bool.and_eq_true, decide_eq_true_eq, Option.isNone_iff_eq_none,
    List.all_eq_true, List.mem_range] at streaming
  obtain ⟨⟨⟨⟨rendered, effected⟩, connections⟩, enabled⟩, idle⟩ := streaming
  refine ⟨⟨rendered, effected, ?_⟩, enabled, idle⟩
  intro id connection found
  have quiet := connections id (sound.linked.connections id connection found).created
  rwa [found, Option.all_some] at quiet

/-- The case mappings on a text in capitals. -/
def capitals : Settings :=
  ⟨fun text => text, fun text => text⟩

/-- A user signs in, and the server confirms the subscription twice. -/
def signIn : List Label :=
  [.dispatch { isAuthenticated := true }, .render, .effects none, .opened 0, .message 0,
    .render, .effects none, .handle 0 true, .message 0, .message 0, .render, .effects none]

theorem streams_signIn :
    ∃ (page : Page) (id : ℕ) (connection : Connection),
      page.pollTimerRef = none ∧ page.Streams capitals id connection := by
  obtain ⟨page, reached, streaming⟩ := ReachedBy.exists_of_run (system capitals)
    (fun _ _ => True) (fun page => page.streaming = true) signIn (by decide)
  obtain ⟨resting, enabled, idle⟩ := (sound_of_reachable reached).of_streaming streaming
  rcases polls_or_streams reached resting enabled with polls | ⟨_, id, connection, streams⟩
  · rw [idle] at polls
    cases polls
  · exact ⟨page, id, connection, idle, streams⟩

/-- A page that streams at rest, and later streams at rest with the same symbol, has not
lost its connection. -/
theorem streams_once {page later : Page} (reached : Reachable (system settings) page)
    (resting : page.AtRest) (enabled : page.view.store.enabled = true)
    (streaming : page.pollTimerRef = none)
    (continued : ReachedBy ⟨page, step settings⟩
      (KeepsSymbol page.view.store.selectSelectedSymbol) later)
    (at_rest : later.AtRest) (still : later.view.store.enabled = true)
    (idle : later.pollTimerRef = none) : later.socketRef = page.socketRef := by
  have sound := sound_of_reachable reached
  obtain ⟨id, connection, streams⟩ := sound.streams resting enabled streaming
  have kept : later.Sound settings ∧
      later.Settled page.view.store.selectSelectedSymbol id := by
    apply continued.invariant ⟨sound, sound.settled resting enabled streaming streams.current⟩
    intro before label after ⟨held, settled⟩ keeps taken
    exact ⟨held.step taken, settled.step held keeps taken⟩
  obtain ⟨other, known, streams_later⟩ := kept.1.streams at_rest still idle
  rw [streams_later.current, streams.current, kept.2.streams streams_later]

/-- The user selects an expiry, and the page renders. -/
def selectExpiry : List Label :=
  [.dispatch { isAuthenticated := true, exp_sid := some 1766000000 }, .render, .effects none]

/-- The page keeps streaming on the connection that it has. -/
theorem streams_selectExpiry :
    ∃ page later : Page, page.pollTimerRef = none ∧ later.pollTimerRef = none ∧
      page.view ≠ later.view ∧ later.socketRef = page.socketRef := by
  obtain ⟨page, reached, streaming, continues⟩ := ReachedBy.exists_of_run (system capitals)
    (fun _ _ => True)
    (fun page => page.streaming = true ∧
      (System.run ⟨page, step capitals⟩ (KeepsSymbol page.view.store.selectSelectedSymbol)
        page selectExpiry).any (fun later => later.streaming && decide (page.view ≠ later.view)))
    signIn (by decide)
  obtain ⟨later, finished, streaming_later⟩ := (Option.any_eq_true ..).mp continues
  obtain ⟨streaming_later, different⟩ := Bool.and_eq_true_iff.mp streaming_later
  have sound := sound_of_reachable reached
  obtain ⟨resting, enabled, idle⟩ := sound.of_streaming streaming
  have continued : ReachedBy ⟨page, step capitals⟩
      (KeepsSymbol page.view.store.selectSelectedSymbol) later :=
    ReachedBy.extend .start finished
  have kept : later.Sound capitals :=
    continued.invariant sound (fun _ _ _ sound _ taken => sound.step taken)
  obtain ⟨resting_later, enabled_later, idle_later⟩ := kept.of_streaming streaming_later
  exact ⟨page, later, idle, idle_later, of_decide_eq_true different,
    streams_once reached resting enabled idle continued resting_later enabled_later idle_later⟩

end HftEngine.Frontend.LiveFeed
