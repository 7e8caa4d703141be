import CannedReply.Net.AddressReader
import CannedReply.Net.Listener

/-!
What an error tells about a socket that is not listened on: which stage of setting it up has
failed, and for which host and port, which can be read off the text that names them.
-/

namespace CannedReply

/-- The host in front of the last colon of a text, with the port behind it. -/
def Endpoint.ofAuthority? (s : String) : Option Endpoint := do
  match ← Reader.run (· ≠ ':') s.toList.reverse with
  | (_, []) => none
  | (port, _ :: host) =>
    return ⟨String.ofList host.reverse, ← Reader.port.whole? (':' :: port.reverse)⟩

/-- Why a call has failed, if it has. -/
def failureOf {α : Type} : Except Failure α → Option Failure
  | .error f => some f
  | .ok _ => none

namespace Listener

/-- A stage of setting up a socket. -/
inductive Stage where
  /-- The host is looked up. -/
  | resolution
  /-- Of the addresses that it has, the first one is taken. -/
  | choice
  | socket
  | reuse
  | binding
  | listening
  | localAddress
  deriving DecidableEq, Repr

namespace Stage

def all : List Stage :=
  [resolution, choice, socket, reuse, binding, listening, localAddress]

/-- Why a stage fails, if it does. Without an address there is nothing to bind. -/
def failure? (m : Machine) (e : Endpoint) : Stage → Option Failure
  | resolution => failureOf (m.lookUp e.host)
  | choice =>
    match m.lookUp e.host with
    | .ok [] => some .noAddresses
    | _ => none
  | socket => m.fault? .openSocket
  | reuse => m.fault? .allowReuse
  | binding =>
    match m.lookUp e.host with
    | .ok (a :: _) => failureOf (m.bind (.ofIP a e.port))
    | _ => none
  | listening => m.fault? .listen
  | localAddress => m.fault? .localAddress

end Stage

/-- The stage that fails first. Those behind it are not come to. -/
def failingStage? (m : Machine) (e : Endpoint) : Option Stage :=
  Stage.all.find? fun stage => (stage.failure? m e).isSome

end Listener

end CannedReply
