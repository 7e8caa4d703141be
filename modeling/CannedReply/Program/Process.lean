import CannedReply.Program.Plan

/-!
Programs among their clients. A program goes on with its plan turn by turn; between any two of its
turns clients may come, send and go, handlers may read, and a server that runs may accept.
-/

namespace CannedReply.Program

open Server Log

/-- Where a program stands: it has a plan for what is left to do, or it is over. -/
inductive Stage where
  | going (plan : Plan)
  | finished (verdict : Verdict)

/-- A program with all that others can see of it. -/
structure Process where
  stage : Stage
  /-- Which events are logged, as soon as that is decided. -/
  filter : Option Filter
  /-- The server with its clients, as soon as there is one. -/
  server : Option State
  /-- Those who wanted to connect before there was a server. -/
  turnedAway : List Nat
  output : String
  log : List Event

/-- What may happen next: the program goes on, or something else does. -/
inductive Turn where
  | own
  | outside (label : Label)
  deriving DecidableEq, Repr

namespace Process

/-- A program that has not done anything yet. -/
def start (plan : Plan) : Process :=
  { stage := .going plan, filter := none, server := none, turnedAway := [], output := ""
    log := [] }

/-- The events are logged that the filter lets through; none are before the log is set up. -/
def tell (p : Process) (events : List Event) : Process :=
  { p with log := p.log ++ events.filter fun e => p.filter.any fun f => f.logs e }

/-- What becomes of a server whose program ends: if it has not run, it is given up. -/
def leave (s : State) : State :=
  (s.step .abandon).getD s

/-- The program goes on, unless it is over or has to wait. -/
def advance (w : Surroundings) (p : Process) : Option Process :=
  match p.stage with
  | .finished _ => none
  | .going (.exit v) => some { p with stage := .finished v, server := p.server.map leave }
  | .going (.setUpLog next) =>
    match w.filter with
    | .ok f => some { p with stage := .going next, filter := some f }
    | .error slip => some { p with stage := .going (.exit (.crashed slip)) }
  | .going (.note e next) => some ({ p with stage := .going next }.tell [e])
  | .going (.configure s next) => some { p with stage := .going (next (s.effective w.fileAt)) }
  | .going (.listen c next) =>
    match Listener.bind w.machine c.listener with
    | .error e => some { p with stage := .going (next (.error e)) }
    | .ok l =>
      some ({ p with
        stage := .going (next (.ok l.address))
        server := some (.start c.acceptMode l.address .fresh) }.tell [boundEvent l.address])
  | .going (.print text next) =>
    some { p with stage := .going (next w.outputFault?), output := p.output ++ w.written text }
  | .going (.serve next) =>
    p.server.bind fun s =>
      match s.result? with
      | some r => some { p with stage := .going (next r) }
      | none => (s.step .run).map fun t => { p with server := some t }.tell (s.events .run)

/-- Whether something may happen outside the program. To run and to give up a server is for the
program itself, no connections come from elsewhere, and nobody comes twice. -/
def admits (p : Process) : Label → Bool
  | .run | .abandon | .adopt _ _ => false
  | .connect c _ => c ∉ p.turnedAway
  | _ => true

/-- Something happens outside the program. Without a server, those who come are turned away. -/
def outside (p : Process) (l : Label) : Option Process :=
  if !p.admits l then none
  else
    match p.server, l with
    | some s, l => (s.step l).map fun t => { p with server := some t }.tell (s.events l)
    | none, .connect c _ => some { p with turnedAway := p.turnedAway ++ [c] }
    | none, _ => none

def step (w : Surroundings) (p : Process) : Turn → Option Process
  | .own => p.advance w
  | .outside l => p.outside l

def steps (w : Surroundings) (p : Process) : List Turn → Option Process
  | [] => some p
  | t :: ts => (p.step w t).bind fun q => q.steps w ts

/-- Whether there is nothing left to do for the program itself, or not before something happens. -/
def Waits (w : Surroundings) (p : Process) : Prop :=
  p.step w .own = none

def verdict? (p : Process) : Option Verdict :=
  match p.stage with
  | .going _ => none
  | .finished v => some v

def fate (p : Process) : Fate :=
  p.verdict?.elim .goesOn Verdict.fate

/-- What is said on standard error in the end. -/
def report? (p : Process) : Option String :=
  p.verdict?.bind Verdict.report?

/-- What is on standard error: the lines of the log, and the report. -/
def errorLines (p : Process) : List String :=
  p.log.map Event.line ++ p.report?.toList

/-- What has become of a client. -/
def standing? (p : Process) (c : Nat) : Option Standing :=
  if c ∈ p.turnedAway then some .refused else p.server.bind fun s => s.standing? c

/-- The bytes that a client has received, with the date of the response. -/
def written (p : Process) (c : Nat) (date : String) : Bytes :=
  p.server.elim [] fun s => s.written c date

end Process

/-- What happens outside the program in the course of a run. -/
def outsideOf (ts : List Turn) : List Label :=
  ts.filterMap fun
    | .own => none
    | .outside l => some l

end CannedReply.Program
