import CannedReply.Server.Journal

/-!
Scripted sessions: steps of clients and of the one who runs the server, and what each step shows.
After each step the server gets the time that it needs.
-/

namespace CannedReply.Server

/-- A step of a script. Connections have names. -/
inductive Act where
  | run
  | abandon
  | connect (name : String)
  | send (name : String) (data : Bytes)
  | finish (name : String)
  | close (name : String)
  | read (name : String)
  | bindAgain (host : String)
  | setDescriptors (available : Bool)
  | sleep (milliseconds : Nat)
  | askResult
  | handle (name : String)
  | askHandled (name : String)
  deriving DecidableEq, Repr

/-- What a step shows. -/
inductive Shown where
  | started
  | abandoned
  | connected
  | refused
  | pending
  | sent
  | finished
  | closed
  | received (response : Option Http.Response)
  | stillOpen
  | bound (authority : String)
  | notBound (error : ListenerError)
  | set
  | slept
  | notStarted
  | running
  | ended (result : Except ListenerError Nat)
  | handling
  | handled
  | handlerRunning
  | noHandler

/-- Why a script cannot go on. -/
inductive ScriptError where
  /-- There is no server left to run or to abandon. -/
  | noServer
  /-- There is no connection of that name. -/
  | noConnection
  /-- No connection could be made for a handler. -/
  | noPair (failure : Failure)
  deriving DecidableEq, Repr

/-- A session: the server and its clients, the names of the connections, what has been asked for
already, and the events so far. -/
structure Session where
  machine : Machine
  state : State
  names : List (String × Nat)
  served : List Nat
  clients : Nat
  isTold : Bool
  journal : List Log.Event

namespace Session

def start (m : Machine) (mode : AcceptMode) (address : SocketAddress) : Session :=
  { machine := m, state := .start mode address .fresh, names := [], served := [], clients := 0
    isTold := false, journal := [] }

def client (s : Session) (name : String) : Except ScriptError Nat :=
  match s.names.lookup name with
  | some c => .ok c
  | none => .error .noConnection

def clientAddress (c : Nat) : SocketAddress :=
  .v4 (.ofNat 0x7f000001) (UInt16.ofNat (40000 + c))

/-- The session after something has happened to the server, if it is possible. -/
def after? (s : Session) (l : Label) : Option Session :=
  (s.state.step l).map fun t =>
    let (state, events) := t.settle
    { s with state, journal := s.journal ++ s.state.events l ++ events }

/-- The session after something that changes nothing where it is impossible. -/
def after (s : Session) (l : Label) : Session :=
  (s.after? l).getD s

def named (s : Session) (name : String) : Session :=
  { s with names := (name, s.clients) :: s.names, clients := s.clients + 1 }

/-- A client connects; where the machine does not reach itself it is always refused. -/
def connect (s : Session) (name : String) : Session × Shown :=
  if !s.machine.reachesItself || !s.state.isListening then (s, .refused)
  else
    match s.after? (.connect s.clients (clientAddress s.clients)) with
    | some t => (t.named name, .connected)
    | none => (s, .pending)

def handle (s : Session) (name : String) : Except ScriptError (Session × Shown) := do
  ((s.state.machine s.machine).attempt .openSocket).mapError .noPair
  if !s.machine.reachesItself then throw (.noPair .networkUnreachable)
  return ((s.after (.adopt s.clients (clientAddress s.clients))).named name, .handling)

/-- A client reads to the end. What it has read once is not there again. -/
def read (s : Session) (name : String) : Except ScriptError (Session × Shown) := do
  let c ← s.client name
  if !s.state.isClosed c then return (s, .stillOpen)
  else if s.served.contains c then return (s, .received none)
  else return ({ s with served := c :: s.served }, .received (s.state.received? c))

def bindAgain (s : Session) (host : String) : Shown :=
  let e : Endpoint := ⟨host, s.state.address.port⟩
  match Listener.bind (s.state.machine s.machine) e with
  | .ok _ => .bound e.authority
  | .error error => .notBound error

/-- Asks for the result of the run, which is told once. -/
def askResult (s : Session) : Session × Shown :=
  match s.state.phase, s.state.result? with
  | .bound, _ | .abandoned, _ => (s, .notStarted)
  | _, some result =>
    if s.isTold then (s, .notStarted) else ({ s with isTold := true }, .ended result)
  | _, none => (s, .running)

def askHandled (s : Session) (name : String) : Shown :=
  match s.names.lookup name with
  | none => .noHandler
  | some c =>
    if !s.state.adopted.contains c then .noHandler
    else if (s.state.outcome? c).isSome then .handled
    else .handlerRunning

def act (s : Session) : Act → Except ScriptError (Session × Shown)
  | .run =>
    match s.after? .run with
    | some t => .ok (t, .started)
    | none => .error .noServer
  | .abandon =>
    match s.after? .abandon with
    | some t => .ok (t, .abandoned)
    | none => .error .noServer
  | .connect name => .ok (s.connect name)
  | .send name data => do return (s.after (.send (← s.client name) data), .sent)
  | .finish name => do return (s.after (.finish (← s.client name)), .finished)
  | .close name =>
    match s.names.lookup name with
    | some c => .ok (s.after (.close c), .closed)
    | none => .ok (s, .closed)
  | .read name => s.read name
  | .bindAgain host => .ok (s, s.bindAgain host)
  | .setDescriptors available => .ok (s.after (.setDescriptors available), .set)
  | .sleep ms => .ok (s.after (.pass ms), .slept)
  | .askResult => .ok s.askResult
  | .handle name => s.handle name
  | .askHandled name => .ok (s, s.askHandled name)

def play (s : Session) : List Act → Except ScriptError (List Shown)
  | [] => .ok []
  | a :: rest => do
    let (s, shown) ← s.act a
    return shown :: (← s.play rest)

end Session

/-- When a client stops sending: never, behind the last piece, or with all pieces there before
anything is read. -/
inductive Ending where
  | never
  | behind
  | early
  deriving DecidableEq, Repr

/-- A single exchange with a client that sends pieces. Where the machine does not reach itself
there is no connection to exchange anything over. -/
def exchange (m : Machine) (pieces : List Bytes) (ending : Ending) :
    Except ScriptError Connection := do
  if !m.reachesItself then throw (.noPair .networkUnreachable)
  let fresh := Connection.accepted IdSource.fresh.take.1 (Session.clientAddress 0)
  match ending with
  | .early => return fresh.receive pieces.flatten true
  | .never => return pieces.foldl (fun c piece => c.receive piece false) fresh
  | .behind => return (pieces.foldl (fun c piece => c.receive piece false) fresh).receive [] true

end CannedReply.Server
