import HftEngine.Backend.Support
import Mathlib.Data.List.Perm.Basic
import Mathlib.Order.Bounds.Basic

/-!
# Closed tickets

A closed ticket refuses the messages of its user.  What can still happen to it, until an
administrator sets its status, is decided by the requests that had read it before.
-/

namespace HftEngine.Backend.Support

open Transition Accounts

variable {ticket_id : ℕ} {state after : State} {transaction : Transaction}

def Request.is_send_message : Request → Bool
  | .send_message _ => true
  | _ => false

def Request.is_update_ticket : Request → Bool
  | .update_ticket _ => true
  | _ => false

namespace Transaction

/-- A message of the user of the ticket. -/
def sends (ticket_id : ℕ) (transaction : Transaction) : Bool :=
  transaction.ticket_id = ticket_id && transaction.request.is_send_message

/-- A message that comes with a new status. -/
def reopens (ticket_id : ℕ) (transaction : Transaction) : Bool :=
  transaction.ticket_id = ticket_id && !transaction.request.is_update_ticket &&
    transaction.changes.status.isSome

/-- The status that an administrator sets. -/
def decides (ticket_id : ℕ) (transaction : Transaction) : Bool :=
  transaction.ticket_id = ticket_id && transaction.request.is_update_ticket &&
    transaction.changes.status.isSome

def Writes (transaction : Transaction) : Prop :=
  match transaction.request with
  | .send_message _ => ∃ message, transaction.changes.message = some message ∧
      message.ticket_id = transaction.ticket_id ∧ message.is_admin = false
  | .admin_reply _ => ∃ message, transaction.changes.message = some message ∧
      message.is_admin = true
  | .update_ticket _ => transaction.changes.message = none

/-- A message is one of its sender, and sets no status but this one. -/
structure Sound (transaction : Transaction) : Prop where
  message : transaction.Writes
  status : transaction.request.is_update_ticket = false →
    ∀ status ∈ transaction.changes.status, status = .IN_PROGRESS

end Transaction

def State.status (state : State) (ticket_id : ℕ) : Option TicketStatus :=
  (state.tickets.get? ticket_id).map SupportTicket.status

def State.user_messages (state : State) (ticket_id : ℕ) : ℕ :=
  state.messages.countP (fun message => message.ticket_id = ticket_id && !message.is_admin)

def State.sends (state : State) (ticket_id : ℕ) : ℕ :=
  state.pending.countP (Transaction.sends ticket_id)

/-- No administrator sets the status of the ticket. -/
def Undecided (ticket_id : ℕ) (state : State) : Label → Prop
  | .commit index => ∀ transaction ∈ state.pending[index]?,
      transaction.decides ticket_id = false
  | _ => True

def Continues (ticket_id : ℕ) (state : State) : State → Prop :=
  ReachedBy ⟨state, step⟩ (Undecided ticket_id)

/-! ## Steps -/

theorem ok_of_bind {α β : Type} {first : Except HTTPException α}
    {next : α → Except HTTPException β} {b : β} (returned : (first >>= next) = .ok b) :
    ∃ a, first = .ok a ∧ next a = .ok b := by
  cases first with
  | error exception => cases returned
  | ok a => exact ⟨a, rfl, returned⟩

/-- A request writes its message, and reopens no ticket that it has read as closed. -/
theorem handle_spec {current_user : User} {now : ℕ} {ticket : Option SupportTicket}
    {request : Request} {changes : Changes}
    (returned : handle current_user now ticket request = .ok changes) :
    ∃ row, ticket = some row ∧ (⟨row.id, request, changes⟩ : Transaction).Sound ∧
      (row.status = .CLOSED → request.is_send_message = false ∧
        (request.is_update_ticket = false → changes.status = none)) := by
  cases request with
  | send_message message_data =>
      rw [handle, send_message] at returned
      split at returned
      · cases returned
      · rename_i row read
        obtain ⟨found, _⟩ := Option.filter_eq_some_iff.mp read
        split at returned
        · cases returned
        · rename_i not_closed
          cases returned
          refine ⟨row, found, ⟨⟨_, rfl, rfl, rfl⟩, ?_⟩, fun closed => absurd closed not_closed⟩
          intro _ status wrote
          exact (Option.some.inj (Option.ite_none_right_eq_some.mp wrote).2).symm
  | admin_reply reply_data =>
      obtain ⟨_, _, answered⟩ := ok_of_bind returned
      cases ticket with
      | none => cases answered
      | some row =>
          cases answered
          refine ⟨row, rfl, ⟨⟨_, rfl, rfl⟩, ?_⟩, ?_⟩
          · intro _ status wrote
            exact (Option.some.inj (Option.ite_none_right_eq_some.mp wrote).2).symm
          intro closed
          refine ⟨rfl, ?_⟩
          intro _
          simp [closed]
  | update_ticket update_data =>
      obtain ⟨_, _, answered⟩ := ok_of_bind returned
      cases ticket with
      | none => cases answered
      | some row =>
          obtain ⟨status, _, answered⟩ := ok_of_bind answered
          obtain ⟨priority, _, answered⟩ := ok_of_bind answered
          cases answered
          refine ⟨row, rfl, ⟨rfl, fun other => by cases other⟩, ?_⟩
          intro _
          exact ⟨rfl, fun other => by cases other⟩

/-! ## The tickets and the messages after a step -/

theorem status_commit (transaction : Transaction) (ticket_id : ℕ) :
    (state.commit transaction).status ticket_id =
      if transaction.ticket_id = ticket_id then
        (state.status ticket_id).map transaction.changes.status.getD
      else state.status ticket_id := by
  rw [State.commit]
  cases found : state.tickets.get? transaction.ticket_id with
  | none =>
      dsimp only
      split
      · rename_i same
        rw [← same, State.status, found]
        rfl
      · rfl
  | some ticket =>
      have numbered : ticket.id = transaction.ticket_id :=
        (KeyedTable.get?_eq_some_iff.mp found).2
      have keyed : (transaction.changes.apply ticket).id = transaction.ticket_id := numbered
      dsimp only [State.status]
      rw [KeyedTable.get?_replace, keyed]
      split
      · rename_i same
        rw [← same, found]
        rfl
      · rfl

theorem status_create_ticket (id : ℕ) (suffix : String) (current_user : User)
    (ticket_data : TicketCreate) {status : TicketStatus}
    (present : state.status ticket_id = some status) :
    (state.create_ticket id suffix current_user ticket_data).status ticket_id = some status ∧
      (state.create_ticket id suffix current_user ticket_data).user_messages ticket_id =
        state.user_messages ticket_id := by
  rw [State.create_ticket]
  dsimp only
  split
  · exact ⟨present, rfl⟩
  · split
    · exact ⟨present, rfl⟩
    · rename_i tickets inserted
      have other : id ≠ ticket_id := by
        intro same
        have absent := (KeyedTable.insert_eq_some inserted).1
        rw [State.status, ← same, absent] at present
        cases present
      constructor
      · rw [State.status, KeyedTable.get?_insert inserted, if_neg other]
        exact present
      · simp [State.user_messages, other]

theorem pending_create_ticket (id : ℕ) (suffix : String) (current_user : User)
    (ticket_data : TicketCreate) :
    (state.create_ticket id suffix current_user ticket_data).pending = state.pending := by
  rw [State.create_ticket]
  dsimp only
  split
  · rfl
  · split <;> rfl

theorem user_messages_commit {status : TicketStatus} (sound : transaction.Sound)
    (present : state.status ticket_id = some status) :
    (state.commit transaction).user_messages ticket_id =
      state.user_messages ticket_id + (transaction.sends ticket_id).toNat := by
  rw [State.commit]
  cases found : state.tickets.get? transaction.ticket_id with
  | none =>
      have other : transaction.ticket_id ≠ ticket_id := by
        intro same
        rw [State.status, ← same, found] at present
        cases present
      simp [Transaction.sends, other]
  | some ticket =>
      dsimp only [State.user_messages]
      rw [List.countP_append]
      congr 1
      have message := sound.message
      rw [Transaction.Writes] at message
      rw [Transaction.sends]
      split at message
      · rename_i request
        obtain ⟨message, wrote, numbered, user⟩ := message
        by_cases same : transaction.ticket_id = ticket_id
        · simp [wrote, numbered, user, request, Request.is_send_message, same]
        · simp [wrote, numbered, same]
      · rename_i request
        obtain ⟨message, wrote, admin⟩ := message
        simp [wrote, admin, request, Request.is_send_message]
      · rename_i request
        simp [message, request, Request.is_send_message]

theorem sends_eraseIdx {index : ℕ} (ticket_id : ℕ) (listed : state.pending[index]? = some transaction) :
    state.sends ticket_id =
      (state.pending.eraseIdx index).countP (Transaction.sends ticket_id) +
        (transaction.sends ticket_id).toNat := by
  obtain ⟨bound, same⟩ := List.getElem?_eq_some_iff.mp listed
  have perm := List.getElem_cons_eraseIdx_perm bound
  rw [same] at perm
  rw [State.sends, ← perm.countP_eq, List.countP_cons]
  cases transaction.sends ticket_id <;> rfl

/-- A request that begins adds itself, as its endpoint answers. -/
theorem begin_cases (state : State) (current_user : User) (ticket_id : ℕ) (request : Request) :
    state.begin current_user ticket_id request = state ∨
      ∃ row changes, state.tickets.get? ticket_id = some row ∧
        (⟨ticket_id, request, changes⟩ : Transaction).Sound ∧
        (row.status = .CLOSED → request.is_send_message = false ∧
          (request.is_update_ticket = false → changes.status = none)) ∧
        state.begin current_user ticket_id request =
          { state with pending := ⟨ticket_id, request, changes⟩ :: state.pending } := by
  rw [State.begin]
  cases answered : handle current_user state.now (state.tickets.get? ticket_id) request with
  | error exception => exact .inl rfl
  | ok changes =>
      obtain ⟨row, found, sound, when_closed⟩ := handle_spec answered
      have numbered : row.id = ticket_id := (KeyedTable.get?_eq_some_iff.mp found).2
      exact .inr ⟨row, changes, found, numbered ▸ sound, when_closed, rfl⟩

/-! ## A closed ticket that nothing in flight reopens -/

structure Quiet (ticket_id : ℕ) (state : State) : Prop where
  closed : state.status ticket_id = some .CLOSED
  pending : ∀ transaction ∈ state.pending, transaction.reopens ticket_id = false
  sound : ∀ transaction ∈ state.pending, transaction.Sound

/-- The messages of the user, written or in flight. -/
def State.balance (state : State) (ticket_id : ℕ) : ℕ :=
  state.user_messages ticket_id + state.sends ticket_id

namespace Quiet

theorem keeps_status (still : transaction.reopens ticket_id = false)
    (undecided : transaction.decides ticket_id = false)
    (same : transaction.ticket_id = ticket_id) : transaction.changes.status = none := by
  rw [Transaction.reopens] at still
  rw [Transaction.decides] at undecided
  cases update : transaction.request.is_update_ticket with
  | false => simpa [same, update] using still
  | true => simpa [same, update] using undecided

/-- A commit writes a message that was in flight, and the ticket stays closed. -/
theorem commit {index : ℕ} (quiet : Quiet ticket_id state)
    (listed : state.pending[index]? = some transaction)
    (undecided : transaction.decides ticket_id = false) :
    Quiet ticket_id
        { state.commit transaction with pending := state.pending.eraseIdx index } ∧
      State.balance
        { state.commit transaction with pending := state.pending.eraseIdx index } ticket_id =
        state.balance ticket_id := by
  have member := List.mem_of_getElem? listed
  refine ⟨⟨?_, ?_, ?_⟩, ?_⟩
  · show (state.commit transaction).status ticket_id = some .CLOSED
    rw [status_commit, quiet.closed]
    split
    · rename_i same
      rw [keeps_status (quiet.pending transaction member) undecided same]
      rfl
    · rfl
  · exact fun other kept => quiet.pending other (List.mem_of_mem_eraseIdx kept)
  · exact fun other kept => quiet.sound other (List.mem_of_mem_eraseIdx kept)
  · have written := user_messages_commit (quiet.sound transaction member) quiet.closed
    have erased := sends_eraseIdx ticket_id listed
    show (state.commit transaction).user_messages ticket_id +
      (state.pending.eraseIdx index).countP (Transaction.sends ticket_id) = _
    rw [State.balance]
    omega

theorem begin (current_user : User) (id : ℕ) (request : Request)
    (quiet : Quiet ticket_id state) :
    Quiet ticket_id (state.begin current_user id request) ∧
      (state.begin current_user id request).balance ticket_id = state.balance ticket_id := by
  obtain same | ⟨row, changes, found, sound, when_closed, same⟩ :=
    begin_cases state current_user id request
  · rw [same]
    exact ⟨quiet, rfl⟩
  · have refused : id = ticket_id → request.is_send_message = false ∧
        (request.is_update_ticket = false → changes.status = none) := by
      intro same
      have status := quiet.closed
      rw [State.status, ← same, found] at status
      exact when_closed (Option.some.inj status)
    rw [same]
    refine ⟨⟨quiet.closed, ?_, ?_⟩, ?_⟩
    · refine List.forall_mem_cons.mpr ⟨?_, quiet.pending⟩
      by_cases same : id = ticket_id
      · cases update : request.is_update_ticket with
        | false => simp [Transaction.reopens, (refused same).2 update]
        | true => simp [Transaction.reopens, update]
      · simp [Transaction.reopens, same]
    · exact List.forall_mem_cons.mpr ⟨sound, quiet.sound⟩
    · have unsent : (⟨id, request, changes⟩ : Transaction).sends ticket_id = false := by
        by_cases same : id = ticket_id
        · simp [Transaction.sends, (refused same).1]
        · simp [Transaction.sends, same]
      rw [State.balance, State.balance, State.sends, List.countP_cons, unsent]
      rfl

theorem step {next : State} {label : Label} (quiet : Quiet ticket_id state)
    (undecided : Undecided ticket_id state label)
    (taken : Support.step state label = some next) :
    Quiet ticket_id next ∧ next.balance ticket_id ≤ state.balance ticket_id := by
  cases label with
  | create_ticket id suffix current_user ticket_data =>
      cases taken
      obtain ⟨closed, messages⟩ :=
        status_create_ticket id suffix current_user ticket_data quiet.closed
      have pending := @pending_create_ticket state id suffix current_user ticket_data
      refine ⟨⟨closed, ?_, ?_⟩, ?_⟩
      · rw [pending]
        exact quiet.pending
      · rw [pending]
        exact quiet.sound
      · rw [State.balance, State.balance, State.sends, State.sends, messages, pending]
  | begin current_user id request =>
      cases taken
      obtain ⟨after, same⟩ := quiet.begin current_user id request
      exact ⟨after, same.le⟩
  | commit index =>
      obtain ⟨transaction, listed, taken⟩ := Option.bind_eq_some_iff.mp taken
      cases taken
      obtain ⟨after, same⟩ := quiet.commit listed (undecided transaction listed)
      exact ⟨after, same.le⟩
  | rollback index =>
      cases taken
      refine ⟨⟨quiet.closed, ?_, ?_⟩, ?_⟩
      · exact fun other kept => quiet.pending other (List.mem_of_mem_eraseIdx kept)
      · exact fun other kept => quiet.sound other (List.mem_of_mem_eraseIdx kept)
      · exact Nat.add_le_add_left ((List.eraseIdx_sublist _ _).countP_le) _
  | tick seconds =>
      cases taken
      exact ⟨⟨quiet.closed, quiet.pending, quiet.sound⟩, le_rfl⟩

/-- A continuation keeps the ticket closed and writes what was in flight, at most. -/
theorem continues (quiet : Quiet ticket_id state) (reached : Continues ticket_id state after) :
    Quiet ticket_id after ∧ after.balance ticket_id ≤ state.balance ticket_id := by
  refine ReachedBy.invariant (I := fun after => Quiet ticket_id after ∧
    after.balance ticket_id ≤ state.balance ticket_id) ⟨quiet, le_rfl⟩ ?_ reached
  intro before label next held undecided taken
  obtain ⟨after, le⟩ := held.1.step undecided taken
  exact ⟨after, le.trans held.2⟩

end Quiet

/-! ## What continuations reach -/

theorem sound_step {next : State} {label : Label}
    (sound : ∀ transaction ∈ state.pending, transaction.Sound)
    (taken : step state label = some next) :
    ∀ transaction ∈ next.pending, transaction.Sound := by
  cases label with
  | create_ticket id suffix current_user ticket_data =>
      cases taken
      rw [pending_create_ticket]
      exact sound
  | begin current_user id request =>
      cases taken
      obtain same | ⟨row, changes, _, begun, _, same⟩ :=
        begin_cases state current_user id request
      · rw [same]
        exact sound
      · rw [same]
        exact List.forall_mem_cons.mpr ⟨begun, sound⟩
  | commit index =>
      obtain ⟨transaction, listed, taken⟩ := Option.bind_eq_some_iff.mp taken
      cases taken
      exact fun other kept => sound other (List.mem_of_mem_eraseIdx kept)
  | rollback index =>
      cases taken
      exact fun other kept => sound other (List.mem_of_mem_eraseIdx kept)
  | tick seconds =>
      cases taken
      exact sound

theorem sound_of_reachable (reached : Reachable system state) :
    ∀ transaction ∈ state.pending, transaction.Sound := by
  refine reached.invariant (I := fun state => ∀ transaction ∈ state.pending,
    transaction.Sound) ?_ ?_
  · intro transaction listed
    cases listed
  · intro before label after held _ taken
    exact sound_step held taken

theorem step_commit {index : ℕ} (listed : state.pending[index]? = some transaction) :
    step state (.commit index) = some { state.commit transaction with
      pending := state.pending.eraseIdx index } :=
  Option.bind_eq_some_iff.mpr ⟨transaction, listed, rfl⟩

theorem undecided_commit {index : ℕ} (listed : state.pending[index]? = some transaction)
    (undecided : transaction.decides ticket_id = false) :
    Undecided ticket_id state (.commit index) := by
  intro other found
  rw [listed] at found
  exact Option.some.inj found ▸ undecided

/-- All messages in flight can be committed. -/
theorem exists_balance {start : State} (count : ℕ) (quiet : Quiet ticket_id state)
    (reached : Continues ticket_id start state) (flying : state.sends ticket_id = count) :
    ∃ after, Continues ticket_id start after ∧
      after.user_messages ticket_id = state.balance ticket_id := by
  induction count generalizing state with
  | zero => exact ⟨state, reached, by rw [State.balance, flying, Nat.add_zero]⟩
  | succ count ih =>
      obtain ⟨transaction, member, sends⟩ := List.countP_pos_iff.mp
        (by rw [← State.sends, flying]; exact Nat.succ_pos count)
      obtain ⟨index, listed⟩ := List.getElem?_of_mem member
      have undecided : transaction.decides ticket_id = false := by
        rw [Transaction.sends, Bool.and_eq_true] at sends
        rw [Transaction.decides]
        cases request : transaction.request with
        | send_message => simp [Request.is_update_ticket]
        | admin_reply => simp [Request.is_update_ticket]
        | update_ticket =>
            rw [request] at sends
            cases sends.2
      obtain ⟨next, same⟩ := quiet.commit listed undecided
      have erased := sends_eraseIdx ticket_id listed
      rw [flying, sends] at erased
      have left : State.sends { state.commit transaction with
          pending := state.pending.eraseIdx index } ticket_id = count :=
        (Nat.succ.inj erased).symm
      obtain ⟨after, goes_on, written⟩ :=
        ih next (.step reached (undecided_commit listed undecided) (step_commit listed)) left
      exact ⟨after, goes_on, written.trans same⟩

/-- A message with a new status is committed. -/
theorem exists_reopened (closed : state.status ticket_id = some .CLOSED)
    (sound : transaction.Sound) (member : transaction ∈ state.pending)
    (reopens : transaction.reopens ticket_id = true) :
    ∃ after, Continues ticket_id state after ∧ after.status ticket_id ≠ some .CLOSED := by
  obtain ⟨index, listed⟩ := List.getElem?_of_mem member
  rw [Transaction.reopens, Bool.and_eq_true, Bool.and_eq_true, Bool.not_eq_true',
    decide_eq_true_eq] at reopens
  obtain ⟨⟨same, message⟩, sets⟩ := reopens
  obtain ⟨status, wrote⟩ := Option.isSome_iff_exists.mp sets
  have undecided : transaction.decides ticket_id = false := by
    simp [Transaction.decides, message]
  refine ⟨_, .step .start (undecided_commit listed undecided) (step_commit listed), ?_⟩
  show (state.commit transaction).status ticket_id ≠ some .CLOSED
  rw [status_commit, if_pos same, closed, wrote, sound.status message status wrote]
  decide

/-- From a closed ticket: it stays closed, until an administrator sets its status, exactly
if no message in flight comes with a new status; it can then gain all messages of its user
that are in flight, and no others. -/
theorem closed_ticket (reached : Reachable system state)
    (closed : state.status ticket_id = some .CLOSED) :
    ((∀ after, Continues ticket_id state after → after.status ticket_id = some .CLOSED) ↔
      ∀ transaction ∈ state.pending, transaction.reopens ticket_id = false) ∧
    ((∀ transaction ∈ state.pending, transaction.reopens ticket_id = false) →
      IsGreatest {count | ∃ after, Continues ticket_id state after ∧
        after.user_messages ticket_id = count}
        (state.user_messages ticket_id + state.sends ticket_id)) := by
  have sound := sound_of_reachable reached
  refine ⟨⟨?_, ?_⟩, ?_⟩
  · intro stays transaction member
    by_contra reopens
    obtain ⟨after, continues, opened⟩ := exists_reopened closed (sound _ member) member
      (eq_true_of_ne_false reopens)
    exact opened (stays after continues)
  · intro still after continues
    have quiet : Quiet ticket_id state := ⟨closed, still, sound⟩
    exact (quiet.continues continues).1.closed
  · intro still
    have quiet : Quiet ticket_id state := ⟨closed, still, sound⟩
    constructor
    · exact exists_balance _ quiet .start rfl
    · rintro count ⟨after, continues, rfl⟩
      exact (Nat.le_add_right _ _).trans (quiet.continues continues).2

/-- An administrator closes a ticket while its user is writing. -/
theorem closed_ticket_late_message :
    ∃ state : State, (Reachable system state ∧ state.status 1 = some .CLOSED) ∧
      IsGreatest {count | ∃ after, Continues 1 state after ∧ after.user_messages 1 = count} 2 := by
  let ann : User := { id := 7, firebase_uid := "ann", email := "ann@x.in", username := "ann" }
  let agent : User :=
    { id := 8, firebase_uid := "agent", email := "agent@x.in", username := "agent",
      role := .ADMIN }
  let ticket : TicketCreate := ⟨"No ticks", "market_data", "No ticks since nine", "high", [],
    by decide, by decide, by decide⟩
  let message : MessageCreate := ⟨"Still none", [], by decide⟩
  obtain ⟨state, reached, closed, flying, written, still⟩ := ReachedBy.exists_of_run system
    (fun _ _ => True)
    (fun state => state.status 1 = some .CLOSED ∧ state.sends 1 = 1 ∧
      state.user_messages 1 = 1 ∧
      ∀ transaction ∈ state.pending, transaction.reopens 1 = false)
    [.create_ticket 1 "204816" ann ticket, .begin ann 1 (.send_message message),
      .begin agent 1 (.update_ticket { status := some "closed" }), .commit 0]
    (by decide)
  have greatest := (closed_ticket reached closed).2 still
  rw [flying, written] at greatest
  exact ⟨state, ⟨reached, closed⟩, greatest⟩

end HftEngine.Backend.Support
