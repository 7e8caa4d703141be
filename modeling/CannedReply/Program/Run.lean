import CannedReply.Program.Launch
import CannedReply.Server.Script

/-!
Whole runs of the program, with clients that come one after the other: what they are answered, what
is written, and how the program ends.
-/

namespace CannedReply.Program

open Server Log

/-- A request of a client that connects, sends, perhaps ends, and reads to the end. -/
structure Visit where
  data : Bytes
  ends : Bool
  deriving DecidableEq, Repr

/-- How a program ends, or that it goes on. -/
inductive Fate where
  | goesOn
  | exits (code : Nat) (error : Option ProgramError)
  deriving DecidableEq, Repr

/-- A run: its end, what it wrote to standard output, the answers, and the events. -/
structure Run where
  launch : Launch
  fate : Fate
  output : String
  answers : List Shown
  events : List Event

def session (w : Surroundings) (state : State) : Session :=
  let s := Session.start w.machine state.mode state.address
  s.after .run

/-- A client comes, asks and reads. The number tells it from the others. -/
def visit (s : Session) (number : Nat) (v : Visit) : Session × Shown :=
  let name := Numeral.decimal number
  let (s, shown) := s.connect name
  match shown with
  | .connected =>
    let result := do
      let (s, _) ← s.act (.send name v.data)
      let s ← if v.ends then Prod.fst <$> s.act (.finish name) else pure s
      s.read name
    match result with
    | .ok r => r
    | .error _ => (s, .refused)
  | shown => (s, shown)

def visits (s : Session) (number : Nat) : List Visit → Session × List Shown
  | [] => (s, [])
  | v :: rest =>
    let (s, shown) := visit s number v
    let (s, later) := visits s (number + 1) rest
    (s, shown :: later)

def fateOf : Option (Except ListenerError Nat) → Fate
  | none => .goesOn
  | some (.ok _) => .exits 0 none
  | some (.error e) => .exits 1 (some (.listener e))

def runStarted (w : Surroundings) (started : Started) (vs : List Visit) : Run :=
  let ended := fun fate => Run.mk started.launch fate started.output [] started.events
  match started.launch with
  | .crashed _ => ended (.exits 101 none)
  | .helped => ended (.exits 0 none)
  | .unusable _ => ended (.exits 2 none)
  | .failed e => ended (.exits 1 (some e))
  | .running state =>
    let (s, answers) := visits (session w state) 0 vs
    { launch := started.launch, fate := fateOf s.state.result?, output := started.output, answers
      events := started.events ++ s.journal }

/-- The run of the program with the arguments of a command line. -/
def run (w : Surroundings) (args : List String) (vs : List Visit) : Run :=
  let r := runStarted w (launch w args) vs
  match r.launch, r.fate with
  | .running _, .exits 0 _ => { r with events := r.events ++ [completedEvent 1] }
  | _, _ => r

/-- The run of a server for one connection on a host and a port. -/
def runServe (w : Surroundings) (host : String) (port : UInt16) (vs : List Visit) : Run :=
  runStarted w (serve w host port) vs

/-- The lines of the log, without their times. -/
def Run.logLines (r : Run) (w : Surroundings) : List String :=
  (r.events.filter w.logs).map Event.line

end CannedReply.Program
