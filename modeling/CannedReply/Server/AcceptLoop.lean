import CannedReply.Net.Listener

/-!
What a server that goes on for ever does with each attempt to accept: a connection gets a handler
at once, and a failure is followed by a pause, so that failures that repeat do not keep it busy.
-/

namespace CannedReply

/-- The pause behind a failed attempt, in milliseconds. -/
def acceptBackoff : Nat := 100

/-- What an attempt to accept came to. -/
inductive Attempt (α : Type) where
  | accepted (connection : α)
  | failed (error : ListenerError)
  deriving DecidableEq, Repr

/-- What is done about an attempt. -/
inductive Reaction (α : Type) where
  | spawn (connection : α)
  | warn (error : ListenerError)
  | pause (milliseconds : Nat)
  deriving DecidableEq, Repr

def Attempt.reactions {α : Type} : Attempt α → List (Reaction α)
  | accepted c => [.spawn c]
  | failed e => [.warn e, .pause acceptBackoff]

/-- How long a reaction takes, in milliseconds. -/
def Reaction.duration {α : Type} : Reaction α → Nat
  | pause ms => ms
  | spawn _ | warn _ => 0

/-- How long all that is done about an attempt takes, in milliseconds. -/
def Attempt.reactionTime {α : Type} (a : Attempt α) : Nat :=
  a.reactions.foldr (fun r time => r.duration + time) 0

/-- Something that the loop does: it attempts to accept, or does something about what the attempt
came to. -/
inductive Deed (α : Type) where
  | attempt
  | react (reaction : Reaction α)
  deriving DecidableEq, Repr

/-- What the loop does, with the times at which it does it, where one thing after the other comes
of its attempts, each with the time that it takes. Behind the last of them it attempts once more,
and waits. -/
def acceptLoop {α : Type} (clock : Nat) : List (Nat × Attempt α) → List (Nat × Deed α)
  | [] => [(clock, .attempt)]
  | (wait, attempt) :: rest =>
    (clock, .attempt) :: attempt.reactions.map (fun r => (clock + wait, .react r))
      ++ acceptLoop (clock + wait + attempt.reactionTime) rest

namespace Attempt

variable {α : Type}

def connection? : Attempt α → Option α
  | accepted c => some c
  | failed _ => none

def error? : Attempt α → Option ListenerError
  | accepted _ => none
  | failed e => some e

end Attempt

namespace Reaction

variable {α : Type}

def spawned? : Reaction α → Option α
  | spawn c => some c
  | warn _ | pause _ => none

def warning? : Reaction α → Option ListenerError
  | warn e => some e
  | spawn _ | pause _ => none

def pause? : Reaction α → Option Nat
  | pause ms => some ms
  | spawn _ | warn _ => none

end Reaction

namespace Deed

variable {α β : Type}

def reaction? : Deed α → Option (Reaction α)
  | attempt => none
  | react r => some r

/-- What is picked of the reactions among deeds, with the times. -/
def pick (look : Reaction α → Option β) (deeds : List (Nat × Deed α)) : List (Nat × β) :=
  deeds.filterMap fun (time, d) => (d.reaction?.bind look).map fun b => (time, b)

/-- When each attempt that fails begins, and when it fails. -/
def failedSpans : List (Nat × Deed α) → List (Nat × Nat)
  | (begun, attempt) :: (failed, react (.warn _)) :: rest => (begun, failed) :: failedSpans rest
  | _ :: rest => failedSpans rest
  | [] => []

end Deed

end CannedReply
