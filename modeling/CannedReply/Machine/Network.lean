import CannedReply.Machine.Failure
import CannedReply.Net.HostName

/-!
The network of a machine, as far as a server sees it: which addresses it has, which ports it keeps
for itself, who listens, and which calls fail at the moment.
-/

namespace CannedReply

/-- A call to the system. -/
inductive Call where
  | lookUp
  | openSocket
  | allowReuse
  | bind
  | listen
  | localAddress
  | accept
  deriving DecidableEq, Repr

/-- The network of a machine. -/
structure Machine where
  /-- The links by name and number. -/
  interfaces : List (String × UInt32)
  /-- Whether a socket may have an IPv4 address. -/
  hasIPv4 : IPv4 → Bool
  /-- Whether an interface has an IPv6 address. -/
  hasIPv6 : IPv6 → Bool
  /-- Whether a connection to an own address comes about. -/
  reachesItself : Bool
  /-- The addresses of a host that is no number. -/
  names : String → Except Failure (List IPAddress)
  /-- The port that is chosen where none is asked for. -/
  freePort : UInt16
  /-- The least port that is open to everybody; those below are kept for the system's services. -/
  leastOpenPort : Nat
  /-- The addresses that are listened on. -/
  listening : List SocketAddress
  /-- Why a call fails whatever it asks for, if it does. -/
  fault? : Call → Option Failure
  freePort_ne_zero : freePort ≠ 0 := by decide

namespace Machine

/-- The result of a call that fails only if all calls of its kind do. -/
def attempt (m : Machine) (call : Call) : Except Failure Unit :=
  match m.fault? call with
  | some failure => .error failure
  | none => .ok ()

/-- Whether a port is kept for the system's own services. -/
def isReserved (m : Machine) (port : UInt16) : Bool :=
  0 < port && port.toNat < m.leastOpenPort

def lookUp (m : Machine) (host : String) : Except Failure (List IPAddress) := do
  m.attempt .lookUp
  match HostName.numeric? m.interfaces host with
  | some a => return [a]
  | none => if host.toList.contains '\x00' then throw .nulInName else m.names host

/-- The IPv4 address that a socket with the address serves, if it is one. -/
def servedIPv4? : SocketAddress → Option IPv4
  | .v4 a _ => some a
  | .v6 a _ _ _ => a.mapped?

/-- Whether a socket with the address serves every address of the machine. -/
def servesAll : SocketAddress → Bool
  | .v4 _ _ => false
  | .v6 a _ _ _ => a = IPv6.unspecified

/-- Whether two sockets with these addresses would serve the same connections. -/
def collide (a b : SocketAddress) : Bool :=
  a.port = b.port &&
    (servesAll a || servesAll b ||
      match servedIPv4? a, servedIPv4? b with
      | some x, some y => x = y || x = IPv4.unspecified || y = IPv4.unspecified
      | none, none => a.ip = b.ip
      | _, _ => false)

/-- The number of the link that an address with a scope belongs to; others belong to none. -/
def linkOf (a : IPv6) (scope : UInt32) : UInt32 :=
  if a.isLinkLocal then scope else 0

/-- Why a socket may not have the address, whoever listens. An IPv4 address is looked at before
the port, and an IPv6 address behind it. -/
def refusal? (m : Machine) : SocketAddress → Option Failure
  | .v4 a port =>
    if !m.hasIPv4 a then some .addressNotAvailable
    else if m.isReserved port then some .notPermitted
    else none
  | .v6 a port _ scope =>
    if a.isMulticast then some .badArgument
    else if m.isReserved port then some .notPermitted
    else
      match a.mapped? with
      | some b => if m.hasIPv4 b then none else some .addressNotAvailable
      | none =>
        if a = IPv6.unspecified then none
        else if a.isLinkLocal && scope = 0 then some .badArgument
        else if a.isLinkLocal && !m.interfaces.any (·.2 = scope) then some .noSuchDevice
        else if m.hasIPv6 a then none
        else some .addressNotAvailable

/-- The address that a socket has once it is bound: with a port that is not zero, without flow
label, and with a scope only on a link. -/
def settled (m : Machine) (a : SocketAddress) : SocketAddress :=
  let port := if a.port = 0 then m.freePort else a.port
  match a with
  | .v4 a _ => .v4 a port
  | .v6 a _ _ scope => .v6 a port 0 (linkOf a scope)

/-- Binds a socket to an address, and gives the address that it then has. -/
def bind (m : Machine) (a : SocketAddress) : Except Failure SocketAddress := do
  m.attempt .bind
  match m.refusal? a with
  | some failure => throw failure
  | none =>
    if m.listening.any (collide (m.settled a)) then throw .addressInUse
    else return m.settled a

/-- The machine on which one more address is listened on. -/
def withListener (m : Machine) (a : SocketAddress) : Machine :=
  { m with listening := a :: m.listening }

def withoutDescriptors (m : Machine) : Machine :=
  { m with fault? := fun call =>
      if call = .openSocket ∨ call = .accept then some .tooManyOpenFiles else m.fault? call }

/-- A machine whose network has not been set up. The only link is down, so nothing connects; no
table of IPv4 addresses has been made, so none is refused. -/
def isolated : Machine where
  interfaces := [("lo", 1)]
  hasIPv4 _ := true
  hasIPv6 _ := false
  reachesItself := false
  names _ := .error .unknownHost
  freePort := 49152
  leastOpenPort := 1024
  listening := []
  fault? _ := none

/-- A machine that reaches itself, under the addresses that are kept for this. -/
def standalone : Machine where
  interfaces := [("lo", 1)]
  hasIPv4 a := a = IPv4.unspecified || a.octets.head? = some 127
  hasIPv6 a := a.groups = [0, 0, 0, 0, 0, 0, 0, 1]
  reachesItself := true
  names host := if host = "localhost" then .ok [.v4 (.ofNat 0x7f000001)] else .error .unknownHost
  freePort := 49152
  leastOpenPort := 1024
  listening := []
  fault? _ := none

end Machine

end CannedReply
