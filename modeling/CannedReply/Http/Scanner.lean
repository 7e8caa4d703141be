import CannedReply.Http.Grammar

/-!
Scanners: readers of bytes of which the end may not have arrived. A scanner has found what it looks
for, needs more bytes, or has seen a fault that no further bytes mend.
-/

namespace CannedReply.Http

/-- What a scanner makes of the bytes that have arrived. -/
inductive Scan (ε α : Type) where
  | done (value : α) (rest : Bytes)
  | more
  | fault (error : ε)
  deriving DecidableEq, Repr

/-- A scanner of values of one type with faults of another. -/
def Scanner (ε α : Type) : Type :=
  Bytes → Scan ε α

namespace Scanner

variable {ε α β : Type}

/-- Scans for a value, and then for what the value asks for. -/
def bind (p : Scanner ε α) (f : α → Scanner ε β) : Scanner ε β := fun s =>
  match p s with
  | .done a rest => f a rest
  | .more => .more
  | .fault e => .fault e

instance : Monad (Scanner ε) where
  pure a s := .done a s
  bind := bind

def refuse (e : ε) : Scanner ε α := fun _ => .fault e

/-- The bytes of a class up to the first other one, which has to have arrived. -/
def run (p : UInt8 → Bool) : Scanner ε Bytes := fun s =>
  let found := s.takeWhile p
  match s.dropWhile p with
  | [] => .more
  | rest => .done found rest

/-- The next byte, if it is in the class. -/
def byte (p : UInt8 → Bool) (e : ε) : Scanner ε UInt8 := fun s =>
  match s with
  | [] => .more
  | b :: rest => if p b then .done b rest else .fault e

def token (e : ε) : Bytes → Scanner ε Unit
  | [] => pure ()
  | b :: word => do
    let _ ← byte (· = b) e
    token e word

/-- A line end: a line feed, with or without a carriage return in front. -/
def lineEnd (e : ε) : Scanner ε Unit := do
  let b ← byte (fun b => b = cr || b = lf) e
  if b = cr then token e [lf] else pure ()

end Scanner

end CannedReply.Http
