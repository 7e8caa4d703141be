import CannedReply.Text.Numeral

/-!
Numbers that tell connections apart. Each one is handed out once; what has been handed out may be
copied.
-/

namespace CannedReply

/-- The number of a connection. -/
structure ConnectionId where
  value : UInt64
  deriving DecidableEq, Repr

def ConnectionId.text (id : ConnectionId) : String :=
  "conn-" ++ Numeral.decimal id.value.toNat

/-- What is left to hand out: numbers from the next one on. -/
structure IdSource where
  next : UInt64
  deriving DecidableEq, Repr

namespace IdSource

def fresh : IdSource := ⟨1⟩

def take (s : IdSource) : ConnectionId × IdSource :=
  (⟨s.next⟩, ⟨s.next + 1⟩)

end IdSource

/-- How a number comes about: it is taken, or it is a copy of the one before. -/
inductive IdOrigin where
  | taken
  | copied
  deriving DecidableEq, Repr

/-- The numbers that come about one after the other; the first one is taken in any case. -/
def ConnectionId.series (source : IdSource) (last : Option ConnectionId) :
    List IdOrigin → List ConnectionId
  | [] => []
  | origin :: rest =>
    match origin, last with
    | .copied, some id => id :: series source (some id) rest
    | _, _ =>
      let (id, source) := source.take
      id :: series source (some id) rest

end CannedReply
