import CannedReply.Http.Exchange
import CannedReply.Log.Event
import CannedReply.Net.Address
import CannedReply.Server.ConnectionId

/-!
Accepted connections: an exchange that goes on with one client, and what the log says about it.
-/

namespace CannedReply

/-- An accepted connection. -/
structure Connection where
  id : ConnectionId
  peer : SocketAddress
  exchange : Http.Exchange
  deriving DecidableEq, Repr

/-- The call at which an exchange breaks off, when the client resets the connection or has gone. -/
inductive Interruption where
  | reading
  | writing
  | closing

def Interruption.error : Interruption → String
  | reading => "HTTP connection error: connection error"
  | writing => "HTTP connection error: error writing a body to connection"
  | closing => "HTTP connection error: error shutting down connection"

namespace Connection

open Http Log

/-- The connection with a client that has just been accepted. -/
def accepted (id : ConnectionId) (peer : SocketAddress) : Connection :=
  ⟨id, peer, .start⟩

/-- The connection after more bytes have arrived, and perhaps the end of what the client sends. -/
def receive (c : Connection) (arrived : Bytes) (ended : Bool) : Connection :=
  { c with exchange := c.exchange.receive arrived ended }

/-- What the exchange came to, if it is over. -/
def outcome? (c : Connection) : Option Outcome :=
  c.exchange.outcome?

def fields (c : Connection) : List (String × String) :=
  [("connection_id", c.id.text), ("peer_addr", c.peer.text)]

def shown (b : Bytes) : String :=
  (Bytes.toText? b).getD ""

def replied (r : Request) : Event :=
  { level := .debug, source := .handler, message := "Serving fixed response"
    fields := [("method", shown r.method), ("path", shown r.target.shownPath),
      ("version", r.version.text)] }

def failure (c : Connection) (error : String) : Event :=
  { level := .warn, source := .connection, message := "Connection failed"
    fields := c.fields ++ [("error", error)] }

/-- What the log says about the end of an exchange. That a client goes away is not worth a
warning. -/
def ending (c : Connection) (o : Outcome) : List Event :=
  let closed : Event :=
    { level := .trace, source := .connection, message := "Connection closed", fields := c.fields }
  match o, o.error? with
  | .answered r, _ => [replied r, closed]
  | .cutShort, some e =>
    [{ level := .debug, source := .connection, message := "Peer went away"
       fields := c.fields ++ [("error", e)] }]
  | _, some e => [c.failure e]
  | _, none => [closed]

/-- What the log says about an exchange that the system has broken off. Nothing that may happen to
the state of a server is such an end; a call of the system may come to one. -/
def interrupted (c : Connection) (i : Interruption) : List Event :=
  match c.outcome? with
  | some (.answered r) => [replied r, c.failure i.error]
  | _ => [c.failure i.error]

end Connection

end CannedReply
