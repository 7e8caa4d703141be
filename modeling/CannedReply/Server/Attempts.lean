import CannedReply.Server.History
import CannedReply.Server.Journal

/-!
What shows in a run of the attempts to accept: what comes of them, which connections are new, what
the server warns of, and how long it pauses, each with the time at which it shows.
-/

namespace CannedReply.Server.State

/-- What shows at the steps of a run, with the times. -/
def timed {β : Type} (shows : State → Label → State → List β) (s : State) :
    List Label → List (Nat × β)
  | [] => []
  | l :: ls =>
    (s.step l).elim [] fun t => (shows s l t).map (fun b => (s.clock, b)) ++ t.timed shows ls

/-- What comes of an attempt to accept: the first one of those who wait, or a failure. -/
def outcomes (s : State) (l : Label) (t : State) : List (Attempt Connection) :=
  match s.failure? l, l with
  | some f, _ => [.failed (.accept f)]
  | none, .accept => (s.backlog.head?.bind t.connection?).toList.map .accepted
  | none, _ => []

/-- The connections of those whom the server has newly accepted. -/
def newConnections (s : State) (_ : Label) (t : State) : List Connection :=
  (t.accepted.drop s.accepted.length).filterMap t.connection?

/-- What the server itself warns of in the log. -/
def warnings (s : State) (l : Label) (_ : State) : List Log.Event :=
  (s.events l).filter fun e => e.source = .server ∧ e.level = .warn

/-- How long the server pauses, where it begins to. -/
def newPauses (s : State) (_ : Label) (t : State) : List Nat :=
  match s.phase, t.phase with
  | .pausing _, _ => []
  | _, .pausing resume => [resume - s.clock]
  | _, _ => []

/-- Whether a server goes on, and makes its next attempt to accept at this time or later, unless it
is given up. -/
def AttemptsFrom (s : State) (time : Nat) : Prop :=
  match s.phase with
  | .bound | .accepting => time ≤ s.clock
  | .pausing resume => resume = time
  | .abandoned => True
  | .closing _ | .awaiting _ | .finished _ => False

/-- Whether what shows in a run is what the loop does from a time on, where this comes of its
attempts. -/
structure RunsLoop (s : State) (ls : List Label) (t : State) (time : Nat)
    (tried : List (Nat × Attempt Connection)) : Prop where
  outcomes : (s.timed State.outcomes ls).map Prod.snd = tried.map Prod.snd
  spawns : s.timed newConnections ls = Deed.pick Reaction.spawned? (acceptLoop time tried)
  warnings : s.timed State.warnings ls =
    (Deed.pick Reaction.warning? (acceptLoop time tried)).map fun w => (w.1, failedEvent w.2)
  pauses : s.timed newPauses ls = Deed.pick Reaction.pause? (acceptLoop time tried)
  stands : ∃ past begun,
    acceptLoop time tried = past ++ [(begun, .attempt)] ∧ t.AttemptsFrom begun

end CannedReply.Server.State
