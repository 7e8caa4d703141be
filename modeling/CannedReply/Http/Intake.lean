import CannedReply.Http.Grammar

/-!
The bytes that a connection has read and not used yet. How much is read at once adapts to what
comes: it doubles when a read is filled, and goes back after two small ones.
-/

namespace CannedReply.Http

/-- The least number of bytes that is asked for at once. -/
def leastAsk : Nat := 8192

/-- The length from which on a head is not waited for any longer. -/
def headLimit : Nat := 417792

/-- The bytes that have been read, and how much will be read at once. -/
structure Intake where
  buffer : Bytes
  capacity : Nat
  ask : Nat
  wasSmall : Bool
  leastAsk_le : leastAsk ≤ ask
  deriving DecidableEq, Repr

namespace Intake

def empty : Intake :=
  { buffer := [], capacity := 0, ask := leastAsk, wasSmall := false, leastAsk_le := Nat.le_refl _ }

def nextCapacity (i : Intake) : Nat :=
  if i.capacity < i.buffer.length + i.ask then max (2 * i.capacity) (i.buffer.length + i.ask)
  else i.capacity

/-- The number of bytes that the next read takes at most. -/
def room (i : Intake) : Nat :=
  i.nextCapacity - i.buffer.length

theorem ask_le_room (i : Intake) : i.ask ≤ i.room := by
  unfold room nextCapacity
  split <;> omega

theorem room_pos (i : Intake) : 0 < i.room := by
  have ha := i.ask_le_room
  have hl := i.leastAsk_le
  have hp : 0 < leastAsk := by decide
  omega

def halved (n : Nat) : Nat :=
  1 <<< (n.log2 - 1)

def take (i : Intake) (read : Bytes) : Intake :=
  let i' := { i with buffer := i.buffer ++ read, capacity := i.nextCapacity }
  if i.ask ≤ read.length then
    { i' with
      ask := min (2 * i.ask) headLimit
      wasSmall := false
      leastAsk_le := by
        have ha := i.leastAsk_le
        have hl : leastAsk ≤ headLimit := by decide
        omega }
  else if halved i.ask ≤ read.length then { i' with wasSmall := false }
  else if i.wasSmall then
    { i' with
      ask := max (halved i.ask) leastAsk
      wasSmall := false
      leastAsk_le := Nat.le_max_right _ _ }
  else { i' with wasSmall := true }

end Intake

end CannedReply.Http
