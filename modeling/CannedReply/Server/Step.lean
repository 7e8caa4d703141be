import CannedReply.Server.AcceptLoop
import CannedReply.Server.State

/-!
What can happen to a server and its clients. Clients connect, send, and stop sending; the server
accepts, stops listening, pauses, and reports its end; handlers read what has arrived. Any of these
may come after any other, as long as it is possible.

Connections are streams of bytes that end. That a client resets its connection, or that a response
cannot be written any more, is left out: no label stands for it, and to close a connection is for
the handler no more than to finish it.
-/

namespace CannedReply.Server

/-- Something that happens. -/
inductive Label where
  | connect (client : Nat) (address : SocketAddress)
  | adopt (client : Nat) (address : SocketAddress)
  | send (client : Nat) (data : Bytes)
  | finish (client : Nat)
  | close (client : Nat)
  | run
  | abandon
  | accept
  | failAccept (failure : Failure)
  | stopListening
  | resume
  | handle (client : Nat)
  | report
  | setDescriptors (available : Bool)
  | pass (milliseconds : Nat)
  deriving DecidableEq, Repr

namespace State

/-- A client connects, unless the backlog is full. -/
def connect (s : State) (c : Nat) (address : SocketAddress) : Option State :=
  match s.clients c with
  | some _ => none
  | none =>
    if !s.isListening then some (s.put c ⟨address, .refused, [], false⟩)
    else if s.backlog.length ≤ listenBacklog then
      some { s.put c ⟨address, .waiting, [], false⟩ with backlog := s.backlog ++ [c] }
    else none

/-- A client is accepted: its connection gets a number and a handler. -/
def attach (s : State) (c : Nat) (client : Client) : State :=
  let (id, ids) := s.ids.take
  { s.put c { client with standing := .accepted (.accepted id client.address) } with ids }

@[simp] theorem attach_frame (s : State) (c : Nat) (k : Client) :
    (s.attach c k).mode = s.mode ∧ (s.attach c k).address = s.address ∧
    (s.attach c k).phase = s.phase ∧ (s.attach c k).backlog = s.backlog ∧
    (s.attach c k).accepted = s.accepted ∧ (s.attach c k).adopted = s.adopted ∧
    (s.attach c k).ids = s.ids.take.2 ∧ (s.attach c k).descriptors = s.descriptors ∧
    (s.attach c k).clock = s.clock := by
  simp [attach]

@[simp] theorem clients_attach (s : State) (c d : Nat) (k : Client) :
    (s.attach c k).clients d =
      if d = c then some { k with standing := .accepted (.accepted s.ids.take.1 k.address) }
      else s.clients d := rfl

/-- A connection that comes from elsewhere gets a handler. -/
def adopt (s : State) (c : Nat) (address : SocketAddress) : Option State :=
  match s.clients c with
  | some _ => none
  | none => some { s.attach c ⟨address, .waiting, [], false⟩ with adopted := s.adopted ++ [c] }

/-- A client sends bytes. Those that it sends after its end are lost. -/
def send (s : State) (c : Nat) (data : Bytes) : Option State :=
  (s.clients c).map fun client =>
    s.put c { client with unread := if client.ended then client.unread else client.unread ++ data }

/-- A client sends no more. To the server it looks the same whether the client still listens. -/
def finish (s : State) (c : Nat) : Option State :=
  (s.clients c).map fun client => s.put c { client with ended := true }

def run (s : State) : Option State :=
  match s.phase with
  | .bound => some { s with phase := .accepting }
  | _ => none

def abandon (s : State) : Option State :=
  match s.phase with
  | .bound => some { s.dropBacklog with phase := .abandoned }
  | _ => none

/-- An attempt to accept fails: the only one ends the run, and others are made again later. -/
def failToAccept (s : State) (failure : Failure) : State :=
  match s.mode with
  | .once => { s.dropBacklog with phase := .finished (.error (.accept failure)) }
  | .forever => { s with phase := .pausing (s.clock + acceptBackoff) }

/-- The server tries to accept the earliest of those who wait. While files cannot be opened the
attempt fails, whether or not somebody waits. -/
def accept (s : State) : Option State :=
  match s.phase with
  | .accepting =>
    if !s.descriptors then some (s.failToAccept .tooManyOpenFiles)
    else
      match s.backlog with
      | [] => none
      | c :: rest =>
        (s.clients c).map fun client =>
          { s.attach c client with
            backlog := rest
            accepted := s.accepted ++ [c]
            phase := match s.mode with
              | .once => .closing c
              | .forever => .accepting }
  | _ => none

/-- The server tries to accept, and the system refuses for a reason of its own. -/
def failAccept (s : State) (failure : Failure) : Option State :=
  match s.phase with
  | .accepting => some (s.failToAccept failure)
  | _ => none

/-- The server stops listening once its only client is accepted. -/
def stopListening (s : State) : Option State :=
  match s.phase with
  | .closing c => some { s.dropBacklog with phase := .awaiting c }
  | _ => none

def resume (s : State) : Option State :=
  match s.phase with
  | .pausing t => if t ≤ s.clock then some { s with phase := .accepting } else none
  | _ => none

/-- A handler reads what has arrived, if there is something to read. -/
def handle (s : State) (c : Nat) : Option State :=
  match s.clients c with
  | some client =>
    match client.standing with
    | .accepted connection =>
      if connection.outcome?.isSome || client.unread.isEmpty && !client.ended then none
      else some (s.put c { client with
        standing := .accepted (connection.receive client.unread client.ended)
        unread := [] })
    | _ => none
  | none => none

/-- The server ends when its only connection has ended. -/
def report (s : State) : Option State :=
  match s.phase with
  | .awaiting c =>
    if (s.outcome? c).isSome then some { s with phase := .finished (.ok 1) } else none
  | _ => none

/-- The state after something has happened, if it is possible. -/
def step (s : State) : Label → Option State
  | .connect c address => s.connect c address
  | .adopt c address => s.adopt c address
  | .send c data => s.send c data
  | .finish c | .close c => s.finish c
  | .run => s.run
  | .abandon => s.abandon
  | .accept => s.accept
  | .failAccept failure => s.failAccept failure
  | .stopListening => s.stopListening
  | .resume => s.resume
  | .handle c => s.handle c
  | .report => s.report
  | .setDescriptors available => some { s with descriptors := available }
  | .pass ms => some { s with clock := s.clock + ms }

def steps (s : State) : List Label → Option State
  | [] => some s
  | l :: ls => (s.step l).bind fun t => t.steps ls

end State

/-- Whether something is done by the server or a handler, and not by a client or by time. -/
def Label.isServers : Label → Bool
  | .accept | .stopListening | .resume | .handle _ | .report => true
  | _ => false

/-- Whether something is for the server or a handler to do. An attempt to accept is, when somebody
waits. -/
def State.isDue (s : State) : Label → Bool
  | .accept => !s.backlog.isEmpty
  | l => l.isServers

/-- Whether the server and its handlers have done all that they can. -/
def State.Settled (s : State) : Prop :=
  ∀ l : Label, s.isDue l → s.step l = none

end CannedReply.Server
