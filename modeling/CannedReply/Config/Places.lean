import CannedReply.Config.Decode

/-!
The places of a document in which settings stand, and what a value in such a place sets.
-/

namespace CannedReply

open Toml

namespace Toml.Node

/-- What a value holds under a name if it is a table, and in a place if it is a list. -/
def member? (name : String) (place : Nat) : Node → Option Node
  | .table _ entries => Table.get? entries name
  | .array items _ => items[place]?
  | .series items => items[place]?.map fun (span, t) => .table (.header span) t
  | .scalar _ _ => none

def IsText (n : Node) (s : String) : Prop :=
  ∃ span, n = .scalar (.text s) span

def IsInteger (n : Node) (k : Int) : Prop :=
  ∃ span, n = .scalar (.integer k) span

/-- Whether a value is a table or a list without anything in it. -/
def HoldsNothing : Node → Prop
  | .table _ entries => entries = []
  | .array items _ => items = []
  | .series items => items = []
  | .scalar _ _ => False

end Toml.Node

namespace Config

def listenerNode? (d : Table) : Option Node :=
  d.get? "listener"

def hostNode? (d : Table) : Option Node :=
  (listenerNode? d).bind (Node.member? "host" 0)

def portNode? (d : Table) : Option Node :=
  (listenerNode? d).bind (Node.member? "port" 1)

def modeNode? (d : Table) : Option Node :=
  d.get? "accept_mode"

/-- Whether a value can hold settings of the listener: a table, a list, or a date or time, which
holds none. -/
def CanListen : Node → Prop
  | .scalar (.dateTime _) _ => True
  | .scalar _ _ => False
  | .table _ _ | .array _ _ | .series _ => True

def SetsPort (n : Node) (port : UInt16) : Prop :=
  n.IsInteger port.toNat

/-- Whether a value names a mode, as a text or as the only name in a table with nothing behind. -/
def SetsMode (n : Node) (mode : AcceptMode) : Prop :=
  n.IsText mode.word ∨
    ∃ origin key inner, n = .table origin [(key, inner)] ∧ key.name = mode.word ∧
      inner.HoldsNothing

/-- Whether a value is what stands in a place, or the default where nothing stands there. -/
def Chosen {α : Type} (place : Option Node) (sets : Node → α → Prop) (default value : α) : Prop :=
  match place with
  | none => value = default
  | some n => sets n value

/-- Whether a value sets an endpoint: what stands in it for host and port, and the defaults. -/
def SetsListener (n : Node) (e : Endpoint) : Prop :=
  CanListen n ∧ Chosen (n.member? "host" 0) Node.IsText defaultHost e.host ∧
    Chosen (n.member? "port" 1) SetsPort defaultPort e.port

/-- Whether a configuration is what a document says, and the default where it says nothing. -/
structure Follows (c : Config) (d : Table) : Prop where
  listener : Chosen (listenerNode? d) SetsListener .default c.listener
  acceptMode : Chosen (modeNode? d) SetsMode .once c.acceptMode

end Config

end CannedReply
