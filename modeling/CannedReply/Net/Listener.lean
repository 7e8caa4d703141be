import CannedReply.Config.Basic
import CannedReply.Machine.Network

/-!
The socket that a server listens on. Whichever call fails while it is set up, the error names host
and port as they were set; of several addresses only the first one is tried.
-/

namespace CannedReply

/-- The number of connections that may wait to be accepted. -/
def listenBacklog : Nat := 5

/-- Why there is nothing to listen on, or nothing accepted. -/
inductive ListenerError where
  | bind (authority : String) (failure : Failure)
  | accept (failure : Failure)
  deriving DecidableEq, Repr

namespace ListenerError

def failure : ListenerError → Failure
  | bind _ f => f
  | accept f => f

def message : ListenerError → String
  | bind authority f => "Failed to bind " ++ authority ++ ": " ++ f.message
  | accept f => "Failed to accept: " ++ f.message

def account : ListenerError → String
  | bind authority f =>
    "Bind \x7b addr: " ++ Text.quoted authority ++ ", source: " ++ f.account ++ " \x7d"
  | accept f => "Accept(" ++ f.account ++ ")"

end ListenerError

/-- A socket that is listened on. -/
structure Listener where
  address : SocketAddress
  deriving DecidableEq, Repr

namespace Listener

/-- Looks up the host, and listens on the first address that it has. -/
def open? (m : Machine) (e : Endpoint) : Except Failure Listener := do
  match ← m.lookUp e.host with
  | [] => throw .noAddresses
  | a :: _ =>
    m.attempt .openSocket
    m.attempt .allowReuse
    let address ← m.bind (.ofIP a e.port)
    m.attempt .listen
    m.attempt .localAddress
    return ⟨address⟩

def bind (m : Machine) (e : Endpoint) : Except ListenerError Listener :=
  (open? m e).mapError (.bind e.authority)

end Listener

end CannedReply
