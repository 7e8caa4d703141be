import CannedReply.Text.Numeral

/-!
How much an event matters, and how much of the events a reader wants.
-/

namespace CannedReply.Log

/-- How much an event matters. -/
inductive Level where
  | error
  | warn
  | info
  | debug
  | trace
  deriving DecidableEq, Repr

namespace Level

/-- The place of the level, from one for what matters most. -/
def rank : Level → Nat
  | error => 1
  | warn => 2
  | info => 3
  | debug => 4
  | trace => 5

def name : Level → String
  | error => "error"
  | warn => "warn"
  | info => "info"
  | debug => "debug"
  | trace => "trace"

def title : Level → String
  | error => "ERROR"
  | warn => "WARN"
  | info => "INFO"
  | debug => "DEBUG"
  | trace => "TRACE"

def all : List Level :=
  [error, warn, info, debug, trace]

end Level

/-- The last level that is wanted, or nothing if none is. -/
structure Threshold where
  last : Option Level
  deriving DecidableEq, Repr

namespace Threshold

def off : Threshold := ⟨none⟩

def full : Threshold := ⟨some .trace⟩

/-- The place of the threshold: that of its level, or zero. -/
def rank (t : Threshold) : Nat :=
  (t.last.map Level.rank).getD 0

def admits (t : Threshold) (l : Level) : Bool :=
  l.rank ≤ t.rank

def text (t : Threshold) : String :=
  (t.last.map Level.name).getD "off"

def all : List Threshold :=
  off :: Level.all.map fun l => ⟨some l⟩

def lower (s : List Char) : List Char :=
  s.map Char.toLower

/-- The threshold that a text names: by its place or by its name, whose letters may have either
case. -/
def ofText? (s : List Char) : Option Threshold :=
  let digits := if s.head? = some '+' then s.drop 1 else s
  if !digits.isEmpty && digits.all (Numeral.isDigit 10) then
    all.find? fun t => t.rank = Numeral.number 10 digits
  else all.find? fun t => lower s = t.text.toList

end Threshold

end CannedReply.Log
