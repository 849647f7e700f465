import HftEngine.Backend.Accounts
import HftEngine.Lib.KeyedTable
import Mathlib.Data.List.Sort

/-!
# Support tickets

A request reads a ticket and decides by the row that it has read; what it writes comes with
its commit.  Requests on one ticket overlap.
-/

namespace HftEngine.Backend.Support

open Transition Accounts

inductive TicketStatus
  | OPEN
  | IN_PROGRESS
  | RESOLVED
  | CLOSED
  deriving DecidableEq

inductive TicketCategory
  | ISSUE
  | MARKET_DATA
  | FEATURE_REQUEST
  | BILLING
  | OTHER
  deriving DecidableEq

inductive NotificationPriority
  | LOW
  | NORMAL
  | HIGH
  | URGENT
  deriving DecidableEq

/-- `TicketStatus(value)`, none for the `ValueError`. -/
def TicketStatus.of_value : String → Option TicketStatus
  | "open" => some .OPEN
  | "in_progress" => some .IN_PROGRESS
  | "resolved" => some .RESOLVED
  | "closed" => some .CLOSED
  | _ => none

def TicketCategory.of_value : String → Option TicketCategory
  | "issue" => some .ISSUE
  | "market_data" => some .MARKET_DATA
  | "feature_request" => some .FEATURE_REQUEST
  | "billing" => some .BILLING
  | "other" => some .OTHER
  | _ => none

def NotificationPriority.of_value : String → Option NotificationPriority
  | "low" => some .LOW
  | "normal" => some .NORMAL
  | "high" => some .HIGH
  | "urgent" => some .URGENT
  | _ => none

structure SupportTicket where
  id : ℕ
  user_id : ℕ
  ticket_id : String
  subject : String
  category : TicketCategory
  status : TicketStatus
  priority : NotificationPriority
  created_at : ℕ
  updated_at : ℕ
  deriving DecidableEq

structure TicketMessage where
  ticket_id : ℕ
  sender_id : ℕ
  is_admin : Bool
  message : String
  attachments : List String
  created_at : ℕ
  deriving DecidableEq

/-! ## Request bodies -/

structure TicketCreate where
  subject : String
  category : String
  message : String
  priority : String := "normal"
  attachments : List String := []
  subject_min : 5 ≤ subject.length
  subject_max : subject.length ≤ 200
  message_min : 10 ≤ message.length

structure MessageCreate where
  message : String
  attachments : List String := []
  message_min : 1 ≤ message.length

structure AdminReplyCreate where
  message : String
  attachments : List String := []

structure TicketStatusUpdate where
  status : Option String := none
  priority : Option String := none

structure HTTPException where
  status_code : ℕ
  detail : String
  deriving DecidableEq

/-! ## The endpoints -/

/-- What the session of a request writes when it commits. -/
structure Changes where
  status : Option TicketStatus := none
  priority : Option NotificationPriority := none
  message : Option TicketMessage := none
  updated_at : ℕ

inductive Request
  | send_message (message_data : MessageCreate)
  | admin_reply (reply_data : AdminReplyCreate)
  | update_ticket (update_data : TicketStatusUpdate)

def send_message (message_data : MessageCreate) (current_user : User) (now : ℕ)
    (ticket : Option SupportTicket) : Except HTTPException Changes :=
  match ticket.filter (fun ticket => ticket.user_id = current_user.id) with
  | none => throw ⟨404, "Ticket not found"⟩
  | some ticket =>
      if ticket.status = .CLOSED then throw ⟨400, "Cannot reply to closed ticket"⟩
      else pure {
        status := if ticket.status = .RESOLVED then some .IN_PROGRESS else none
        message := some ⟨ticket.id, current_user.id, false, message_data.message,
          message_data.attachments, now⟩
        updated_at := now }

def require_admin (current_user : User) : Except HTTPException Unit :=
  if current_user.role ≠ .ADMIN then throw ⟨403, "Admin access required"⟩ else pure ()

def admin_reply (reply_data : AdminReplyCreate) (current_user : User) (now : ℕ)
    (ticket : Option SupportTicket) : Except HTTPException Changes := do
  require_admin current_user
  match ticket with
  | none => throw ⟨404, "Ticket not found"⟩
  | some ticket => pure {
      status := if ticket.status = .OPEN then some .IN_PROGRESS else none
      message := some ⟨ticket.id, current_user.id, true, reply_data.message,
        reply_data.attachments, now⟩
      updated_at := now }

/-- `if text: Enum(text)`, with the assignment of the value that was read left out of the
`UPDATE`. -/
def assigned {α : Type} [DecidableEq α] (of_value : String → Option α) (detail : String)
    (read : α) : Option String → Except HTTPException (Option α)
  | none | some "" => pure none
  | some text =>
      match of_value text with
      | none => throw ⟨400, detail⟩
      | some value => pure (if value = read then none else some value)

def update_ticket (update_data : TicketStatusUpdate) (current_user : User) (now : ℕ)
    (ticket : Option SupportTicket) : Except HTTPException Changes := do
  require_admin current_user
  match ticket with
  | none => throw ⟨404, "Ticket not found"⟩
  | some ticket =>
      let status ← assigned TicketStatus.of_value "Invalid status" ticket.status
        update_data.status
      let priority ← assigned NotificationPriority.of_value "Invalid priority"
        ticket.priority update_data.priority
      pure { status, priority, updated_at := now }

def handle (current_user : User) (now : ℕ) (ticket : Option SupportTicket) :
    Request → Except HTTPException Changes
  | .send_message message_data => send_message message_data current_user now ticket
  | .admin_reply reply_data => admin_reply reply_data current_user now ticket
  | .update_ticket update_data => update_ticket update_data current_user now ticket

/-! ## The system -/

/-- A request that has read the ticket and not committed. -/
structure Transaction where
  ticket_id : ℕ
  request : Request
  changes : Changes

structure State where
  tickets : KeyedTable SupportTicket.id := .empty
  messages : List TicketMessage := []
  pending : List Transaction := []
  now : ℕ := 0

/-- The `ticket_id` of a person's reading, with the random digits given. -/
def generate_ticket_id (suffix : String) : String := "TKT-" ++ suffix

/-- No ticket where its id or its `ticket_id` is taken. -/
def State.create_ticket (state : State) (id : ℕ) (suffix : String) (current_user : User)
    (ticket_data : TicketCreate) : State :=
  let ticket : SupportTicket := {
    id
    user_id := current_user.id
    ticket_id := generate_ticket_id suffix
    subject := ticket_data.subject
    category := (TicketCategory.of_value ticket_data.category).getD .OTHER
    status := .OPEN
    priority := (NotificationPriority.of_value ticket_data.priority).getD .NORMAL
    created_at := state.now
    updated_at := state.now }
  let message : TicketMessage := ⟨id, current_user.id, false, ticket_data.message,
    ticket_data.attachments, state.now⟩
  if state.tickets.rows.any (fun other => other.ticket_id = ticket.ticket_id) then state
  else
    match state.tickets.insert ticket with
    | none => state
    | some tickets => { state with tickets, messages := state.messages ++ [message] }

def State.begin (state : State) (current_user : User) (ticket_id : ℕ) (request : Request) :
    State :=
  match handle current_user state.now (state.tickets.get? ticket_id) request with
  | .error _ => state
  | .ok changes => { state with pending := ⟨ticket_id, request, changes⟩ :: state.pending }

def Changes.apply (changes : Changes) (ticket : SupportTicket) : SupportTicket :=
  { ticket with
    status := changes.status.getD ticket.status
    priority := changes.priority.getD ticket.priority
    updated_at := changes.updated_at }

def State.commit (state : State) (transaction : Transaction) : State :=
  match state.tickets.get? transaction.ticket_id with
  | none => state
  | some ticket =>
      { state with
        tickets := state.tickets.replace (transaction.changes.apply ticket)
        messages := state.messages ++ transaction.changes.message.toList }

inductive Label
  | create_ticket (id : ℕ) (suffix : String) (current_user : User) (ticket_data : TicketCreate)
  | begin (current_user : User) (ticket_id : ℕ) (request : Request)
  | commit (transaction : ℕ)
  | rollback (transaction : ℕ)
  | tick (seconds : ℕ)

def step (state : State) : Label → Option State
  | .create_ticket id suffix current_user ticket_data =>
      some (state.create_ticket id suffix current_user ticket_data)
  | .begin current_user ticket_id request => some (state.begin current_user ticket_id request)
  | .commit index => do
      let transaction ← state.pending[index]?
      some { state.commit transaction with pending := state.pending.eraseIdx index }
  | .rollback index => some { state with pending := state.pending.eraseIdx index }
  | .tick seconds => some { state with now := state.now + seconds }

def system : System State Label := ⟨{}, step⟩

/-! ## What a reader gets -/

def State.get_ticket (state : State) (current_user : User) (ticket_id : ℕ) :
    Except HTTPException (SupportTicket × List TicketMessage) :=
  match (state.tickets.get? ticket_id).filter
      (fun ticket => ticket.user_id = current_user.id) with
  | none => throw ⟨404, "Ticket not found"⟩
  | some ticket => pure (ticket,
      (state.messages.filter (fun message => message.ticket_id = ticket_id)).mergeSort
        (fun one other => one.created_at ≤ other.created_at))

end HftEngine.Backend.Support
