import CannedReply.Server.Step

/-!
What a run says about clients, label by label: in which order they came and got their handlers,
what each of them sent, and in which pieces its handler was handed that.
-/

namespace CannedReply.Server

namespace State

/-- The client that joins those who wait. -/
def joins (s : State) : Label → List Nat
  | .connect c _ => if s.isListening then [c] else []
  | _ => []

/-- Those who join the ones who wait, in their order. -/
def joined (s : State) : List Label → List Nat
  | [] => []
  | l :: ls => s.joins l ++ (s.step l).elim [] fun t => t.joined ls

/-- The client that gets a handler. -/
def begins (s : State) : Label → List Nat
  | .adopt c _ => [c]
  | .accept => if s.descriptors then s.backlog.head?.toList else []
  | _ => []

/-- Those who get a handler, in their order. -/
def begun (s : State) : List Label → List Nat
  | [] => []
  | l :: ls => s.begins l ++ (s.step l).elim [] fun t => t.begun ls

/-- Why an attempt to accept fails, if it is one that does. -/
def failure? (s : State) : Label → Option Failure
  | .accept => if s.descriptors then none else some .tooManyOpenFiles
  | .failAccept failure => some failure
  | _ => none

/-- Why the first attempt to accept that has failed did so, if one has. -/
def failed? (s : State) : List Label → Option Failure
  | [] => none
  | l :: ls => (s.failure? l).or ((s.step l).bind fun t => t.failed? ls)

end State

namespace Label

/-- Whether a client stops sending. -/
def isEndOf (c : Nat) : Label → Bool
  | .finish d | .close d => d = c
  | _ => false

/-- Whether it is a client that does this, to a connection that it has. -/
def isOf (c : Nat) : Label → Bool
  | .send d _ => d = c
  | l => l.isEndOf c

/-- Whether it is a client that does this, or the handler of its connection. -/
def concerns (c : Nat) : Label → Bool
  | .handle d => d = c
  | l => l.isOf c

/-- The bytes that a client sends. -/
def bytesOf (c : Nat) : Label → Bytes
  | .send d data => if d = c then data else []
  | _ => []

/-- What a handler can be handed at once behind this, where the client may have ended before. -/
def cut (c : Nat) (ended : Bool) (l : Label) : List Http.Delivery :=
  if l.isEndOf c then [⟨[], true⟩]
  else if ended || (l.bytesOf c).isEmpty then []
  else [⟨l.bytesOf c, false⟩]

end Label

/-- Whether a client has got from the server what an exchange gives, and nothing else. -/
def State.AnswersAs (s : State) (c : Nat) (e : Http.Exchange) : Prop :=
  (∀ date, s.written c date = e.written date) ∧ s.isClosed c = e.outcome?.isSome

/-- Whether the handler of a client has read all there was whenever the client does something. -/
def State.Prompt (s : State) (c : Nat) (ls : List Label) : Prop :=
  ∀ as l bs t, ls = as ++ l :: bs → s.steps as = some t → l.isOf c → t.step (.handle c) = none

/-- All that a client sends until it stops. -/
def sentBy (c : Nat) (ls : List Label) : Bytes :=
  (ls.takeWhile fun l => !l.isEndOf c).flatMap (Label.bytesOf c)

/-- Whether a client has stopped sending. -/
def endedBy (c : Nat) (ls : List Label) : Bool :=
  ls.any (Label.isEndOf c)

/-- What a client sends, in the pieces in which it sends it, and its end. -/
def cutBy (c : Nat) (ended : Bool) : List Label → List Http.Delivery
  | [] => []
  | l :: ls => l.cut c ended ++ cutBy c (ended || l.isEndOf c) ls

/-- What one client sends, in the pieces in which its handler was handed it, and what the handler
has not been handed yet. -/
structure Feed where
  handed : List Http.Delivery
  unread : Bytes
  ended : Bool
  deriving DecidableEq, Repr

namespace Feed

/-- The feed of a client that has sent nothing. -/
def empty : Feed := ⟨[], [], false⟩

/-- The feed of a client after a step of the whole run. -/
def after (c : Nat) (f : Feed) : Label → Feed
  | .send d data =>
    if d = c then { f with unread := if f.ended then f.unread else f.unread ++ data } else f
  | .finish d | .close d => if d = c then { f with ended := true } else f
  | .handle d =>
    if d = c then { f with handed := f.handed ++ [⟨f.unread, f.ended⟩], unread := [] } else f
  | _ => f

/-- The feed of a client in a run. -/
def of (c : Nat) (ls : List Label) : Feed :=
  ls.foldl (after c) empty

/-- All pieces, the one that waits to be handed over included. -/
def pieces (f : Feed) : List Http.Delivery :=
  f.handed ++ if f.unread.isEmpty && !f.ended then [] else [⟨f.unread, f.ended⟩]

end Feed

end CannedReply.Server
