import CannedReply.Server.Step

/-!
What the log says about a run: the events of each thing that happens.
-/

namespace CannedReply.Server

open Log

def serverEvent (level : Level) (message : String) (fields : List (String × String)) : Event :=
  { level, source := .server, message, fields }

def boundEvent (address : SocketAddress) : Event :=
  { level := .info, source := .listener, message := "Listener bound"
    fields := [("address", address.text), ("backlog", Numeral.decimal listenBacklog)] }

def acceptedEvent (c : Connection) : Event :=
  { level := .debug, source := .listener, message := "Connection accepted", fields := c.fields }

def failedEvent (e : ListenerError) : Event :=
  serverEvent .warn "Accept failed"
    [("error", e.message), ("backoff", Numeral.decimal acceptBackoff ++ "ms")]

def acceptingEvent (address : SocketAddress) (mode : AcceptMode) : Event :=
  serverEvent .info "Fixture server accepting"
    [("address", address.text), ("accept_mode", mode.account)]

/-- The event of a server that stops listening once its only client is accepted. -/
def closedEvent : Event :=
  serverEvent .debug "Listener closed after first connection" []

/-- The event of a server that ends once its only connection has ended. -/
def servedEvent : Event :=
  serverEvent .info "Single connection served" []

namespace State

def failEvents (s : State) (failure : Failure) : List Event :=
  match s.mode with
  | .forever => [failedEvent (.accept failure)]
  | .once => []

def acceptEvents (s : State) : List Event :=
  match s.backlog, s.descriptors with
  | _, false => s.failEvents .tooManyOpenFiles
  | c :: _, true => ((s.accept.bind fun t => t.connection? c).map acceptedEvent).toList
  | [], true => []

def handleEvents (s : State) (c : Nat) : List Event :=
  match (s.handle c).bind fun t => t.connection? c with
  | some connection => (connection.outcome?.map connection.ending).getD []
  | none => []

def events (s : State) : Label → List Event
  | .run => [acceptingEvent s.address s.mode]
  | .accept => s.acceptEvents
  | .failAccept failure => s.failEvents failure
  | .stopListening => [closedEvent]
  | .handle c => s.handleEvents c
  | .report => [servedEvent]
  | _ => []

/-- What the server and its handlers may do next, in the order in which it is tried. -/
def options (s : State) : List Label :=
  let all : List Label :=
    [.stopListening, .report, .resume] ++ (s.accepted ++ s.adopted).map .handle ++ [.accept]
  all.filter s.isDue

/-- Lets the server and its handlers do so many things, or fewer if there is nothing left to do.
Gives the events too. -/
def proceed : (count : Nat) → State → State × List Event
  | 0, s => (s, [])
  | count + 1, s =>
    match s.options.findSome? fun l => (s.step l).map fun t => (l, t) with
    | none => (s, [])
    | some (l, t) =>
      let (u, later) := proceed count t
      (u, s.events l ++ later)

/-- Lets the server and its handlers do all that they can. Each client is accepted once and read
from once more, and the phase changes at most three times. -/
def settle (s : State) : State × List Event :=
  proceed (3 * (s.backlog.length + s.accepted.length + s.adopted.length) + 4) s

end State

end CannedReply.Server
