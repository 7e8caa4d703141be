import CannedReply.Config.Basic
import CannedReply.Net.Listener
import CannedReply.Server.Connection

/-!
A server with its clients: where the server stands in its run, who waits to be accepted, and what
has become of each client.
-/

namespace CannedReply.Server

/-- What has become of a client. -/
inductive Standing where
  /-- Nobody listened when it wanted to connect. -/
  | refused
  /-- It is connected, and not accepted yet. -/
  | waiting
  /-- The server stopped listening while it waited. -/
  | dropped
  /-- It has been accepted. -/
  | accepted (connection : Connection)
  deriving DecidableEq, Repr

/-- A client: what has become of it, what it sent that nobody has read, and whether it will send
no more. -/
structure Client where
  address : SocketAddress
  standing : Standing
  unread : Bytes
  ended : Bool
  deriving DecidableEq, Repr

/-- Where a server stands in its run. -/
inductive Phase where
  /-- It listens, but does not run yet. -/
  | bound
  /-- It waits for a client to accept. -/
  | accepting
  /-- It lets time pass after a failure. -/
  | pausing (resume : Nat)
  /-- It has accepted its only client, and is about to stop listening. -/
  | closing (client : Nat)
  /-- It waits for the end of its only connection. -/
  | awaiting (client : Nat)
  /-- It has ended, with the number of connections that it accepted. -/
  | finished (result : Except ListenerError Nat)
  /-- It was given up before it ran. -/
  | abandoned

/-- A server with its clients, who are told apart by numbers. -/
structure State where
  mode : AcceptMode
  address : SocketAddress
  phase : Phase
  /-- Those who wait to be accepted, the earliest first. -/
  backlog : List Nat
  clients : Nat → Option Client
  /-- Those who have been accepted, the earliest first. -/
  accepted : List Nat
  /-- Those whose connection was not accepted by the server but handed to a handler. -/
  adopted : List Nat
  ids : IdSource
  /-- Whether files can be opened. -/
  descriptors : Bool
  /-- The time in milliseconds. -/
  clock : Nat

namespace State

def start (mode : AcceptMode) (address : SocketAddress) (ids : IdSource) : State :=
  { mode, address, phase := .bound, backlog := [], clients := fun _ => none, accepted := []
    adopted := [], ids, descriptors := true, clock := 0 }

def isListening (s : State) : Bool :=
  match s.phase with
  | .bound | .accepting | .pausing _ | .closing _ => true
  | .awaiting _ | .finished _ | .abandoned => false

/-- What has become of a client, if there is one with the number. -/
def standing? (s : State) (c : Nat) : Option Standing :=
  (s.clients c).map Client.standing

/-- The result of the run, if there is one. -/
def result? (s : State) : Option (Except ListenerError Nat) :=
  match s.phase with
  | .finished result => some result
  | _ => none

/-- Whether a client has a handler. -/
def Attached (s : State) (c : Nat) : Prop :=
  c ∈ s.accepted ∨ c ∈ s.adopted

/-- The connection of a client, if it has been accepted. -/
def connection? (s : State) (c : Nat) : Option Connection :=
  match s.clients c with
  | some { standing := .accepted connection, .. } => some connection
  | _ => none

/-- What the exchange with a client came to, if it is over. -/
def outcome? (s : State) (c : Nat) : Option Http.Outcome :=
  (s.connection? c).bind Connection.outcome?

def received? (s : State) (c : Nat) : Option Http.Response :=
  (s.outcome? c).bind Http.Outcome.response?

/-- The bytes that a client has received, with the date of the response. -/
def written (s : State) (c : Nat) (date : String) : Bytes :=
  (s.received? c).elim [] fun r => r.bytes date

/-- Whether the connection of a client has ended from the server's side. -/
def isClosed (s : State) (c : Nat) : Bool :=
  match s.clients c with
  | some { standing := .waiting, .. } => false
  | some { standing := .accepted connection, .. } => connection.outcome?.isSome
  | _ => true

def machine (s : State) (m : Machine) : Machine :=
  let m := if s.isListening then m.withListener s.address else m
  if s.descriptors then m else m.withoutDescriptors

def put (s : State) (c : Nat) (client : Client) : State :=
  { s with clients := fun d => if d = c then some client else s.clients d }

def dropBacklog (s : State) : State :=
  { s with
    backlog := []
    clients := fun c =>
      if c ∈ s.backlog then (s.clients c).map fun k => { k with standing := .dropped }
      else s.clients c }

section lemmas

variable (s : State) (c d : Nat) (k : Client)

theorem connection?_eq_some_iff {s : State} {c : Nat} {x : Connection} :
    s.connection? c = some x ↔ s.standing? c = some (.accepted x) := by
  unfold connection? standing?
  split
  · next h => simp [h]
  · next h =>
    cases hc : s.clients c with
    | none => simp
    | some k => simpa using fun hk => h _ _ _ _ (by rw [hc, ← hk])

@[simp] theorem clients_put : (s.put c k).clients d = if d = c then some k else s.clients d := rfl

@[simp] theorem put_frame :
    (s.put c k).mode = s.mode ∧ (s.put c k).address = s.address ∧ (s.put c k).phase = s.phase ∧
    (s.put c k).backlog = s.backlog ∧ (s.put c k).accepted = s.accepted ∧
    (s.put c k).adopted = s.adopted ∧ (s.put c k).ids = s.ids ∧
    (s.put c k).descriptors = s.descriptors ∧ (s.put c k).clock = s.clock := by
  simp [put]

@[simp] theorem standing?_put :
    (s.put c k).standing? d = if d = c then some k.standing else s.standing? d := by
  by_cases h : d = c <;> simp [standing?, h]

@[simp] theorem dropBacklog_frame :
    s.dropBacklog.mode = s.mode ∧ s.dropBacklog.address = s.address ∧
    s.dropBacklog.phase = s.phase ∧ s.dropBacklog.backlog = [] ∧
    s.dropBacklog.accepted = s.accepted ∧ s.dropBacklog.adopted = s.adopted ∧
    s.dropBacklog.ids = s.ids ∧ s.dropBacklog.descriptors = s.descriptors ∧
    s.dropBacklog.clock = s.clock := by
  simp [dropBacklog]

end lemmas

end State

end CannedReply.Server
