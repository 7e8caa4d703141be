import CannedReply.Server.History

/-!
Numbers of connections in the hands of many tasks. A task takes a new number, or copies one that
somebody has; a server takes one for each connection. Whatever tasks and servers do about numbers,
they do it one after the other, in any order.
-/

namespace CannedReply

/-- What a task does to come by a number. The default number is a new one, and a copy may be of
any number there is, which is named by its place in the order in which they came about. -/
inductive IdStep where
  | new (task : Nat)
  | default (task : Nat)
  | copy (task : Nat) (place : Nat)
  deriving DecidableEq, Repr

namespace IdStep

def takes : IdStep → Bool
  | .new _ | .default _ => true
  | .copy _ _ => false

/-- How many numbers are taken. -/
def taken (as : List IdStep) : Nat :=
  as.countP takes

/-- Where the number that comes about in one place was taken, if it is that number, its copy, or
the copy of a copy. -/
inductive StemsFrom (as : List IdStep) : (place origin : Nat) → Prop where
  | itself {place : Nat} {a : IdStep} (here : as[place]? = some a) (takes : a.takes = true) :
      StemsFrom as place place
  | through {place task original origin : Nat} (here : as[place]? = some (.copy task original))
      (stems : StemsFrom as original origin) : StemsFrom as place origin

end IdStep

/-- What one task does to come by a series of numbers behind so many others. -/
def IdOrigin.steps (task : Nat) : (place : Nat) → List IdOrigin → List IdStep
  | place + 1, .copied :: rest => .copy task place :: steps task (place + 2) rest
  | place, _ :: rest => .new task :: steps task (place + 1) rest
  | _, [] => []

/-- What is left to hand out, and who has a number, in the order in which they came by them. -/
structure Numbering where
  source : IdSource
  held : List (Nat × ConnectionId)
  deriving DecidableEq, Repr

namespace Numbering

def fresh : Numbering := ⟨.fresh, []⟩

def step (n : Numbering) : IdStep → Option Numbering
  | .new task | .default task =>
    let (id, source) := n.source.take
    some ⟨source, n.held ++ [(task, id)]⟩
  | .copy task place =>
    (n.held[place]?).map fun (_, id) => { n with held := n.held ++ [(task, id)] }

def steps (n : Numbering) : List IdStep → Option Numbering
  | [] => some n
  | a :: as => (n.step a).bind fun m => m.steps as

end Numbering

namespace Server

/-- A step of a process in which a server runs while tasks come by numbers. -/
inductive Move where
  | serve (label : Label)
  | number (step : IdStep)
  deriving DecidableEq, Repr

/-- A server, and who has a number. The handler of a connection is the task of its client, and has
the number of the connection. -/
structure Shared where
  server : State
  held : List (Nat × ConnectionId)

namespace Shared

def start (mode : AcceptMode) (address : SocketAddress) : Shared :=
  ⟨.start mode address .fresh, []⟩

def numbers (s : Shared) : Numbering :=
  ⟨s.server.ids, s.held⟩

/-- The number of a client's connection, with the client as its task. -/
def holding? (t : State) (c : Nat) : Option (Nat × ConnectionId) :=
  (t.connection? c).map fun x => (c, x.id)

def step (s : Shared) : Move → Option Shared
  | .serve l =>
    (s.server.step l).map fun t => ⟨t, s.held ++ (s.server.begins l).filterMap (holding? t)⟩
  | .number a =>
    (s.numbers.step a).map fun n => ⟨{ s.server with ids := n.source }, n.held⟩

def steps (s : Shared) : List Move → Option Shared
  | [] => some s
  | m :: ms => (s.step m).bind fun t => t.steps ms

/-- What a move does about numbers: one is taken for each handler that begins. -/
def idSteps (s : Shared) : Move → List IdStep
  | .serve l => (s.server.begins l).map .new
  | .number a => [a]

/-- What a run does about numbers. -/
def numbering (s : Shared) : List Move → List IdStep
  | [] => []
  | m :: ms => s.idSteps m ++ (s.step m).elim [] fun t => t.numbering ms

end Shared

end Server

end CannedReply
