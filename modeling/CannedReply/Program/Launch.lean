import CannedReply.CommandLine.Effective
import CannedReply.CommandLine.Parser
import CannedReply.Server.Journal
import CannedReply.Server.Readiness

/-!
Starting a server: from a command line, or from a host and a port alone. When the line that tells
the address is out, the server listens and has accepted nobody.
-/

namespace CannedReply.Program

open Log

/-- What surrounds a program that starts. -/
structure Surroundings where
  machine : Machine
  fileAt : CommandLine.FileAccess
  /-- The filter that is set for the log, if one is. -/
  logSetting : Option String
  /-- Why nothing can be written to standard output, if so. -/
  outputFault? : Option Failure
  /-- Which texts are patterns that the value of a field can be compared with. What patterns there
  are is not decided here. -/
  isPattern : String → Bool

/-- The filter for the log, unless its setting cannot be set up. -/
def Surroundings.filter (w : Surroundings) : Except Text.Slip Filter :=
  Filter.ofSetting w.isPattern w.logSetting

/-- Whether an event is logged. Nothing is where the log cannot be set up. -/
def Surroundings.logs (w : Surroundings) (e : Event) : Bool :=
  w.filter.toOption.any fun f => f.logs e

/-- Why a server does not come about, or ends without success. -/
inductive ProgramError where
  | config (error : ConfigError)
  | listener (error : ListenerError)
  | announcement (failure : Failure)
  deriving DecidableEq, Repr

def ProgramError.account : ProgramError → String
  | config e => e.account
  | listener e => "Listener(" ++ e.account ++ ")"
  | announcement f => f.account

def ProgramError.message : ProgramError → String
  | config e => e.message
  | listener e => e.message
  | announcement f => "Failed to write readiness line: " ++ f.message

/-- What a start came to. -/
inductive Launch where
  | crashed (slip : Text.Slip)
  | helped
  | unusable (error : CommandLine.UsageError)
  | failed (error : ProgramError)
  | running (state : Server.State)

/-- A start: what it came to, what was written to standard output, and the events. -/
structure Started where
  launch : Launch
  output : String
  events : List Event

def configuredEvent (c : Config) : Event :=
  { level := .info, source := .program, message := "Configuration loaded"
    fields := [("bind_address", c.listener.authority), ("accept_mode", c.acceptMode.account)] }

def completedEvent (accepted : Nat) : Event :=
  { level := .info, source := .program, message := "Shutdown complete"
    fields := [("connections_accepted", Numeral.decimal accepted)] }

def Surroundings.written (w : Surroundings) (text : String) : String :=
  if w.outputFault?.isSome then "" else text

/-- What a start comes to once the log is set up. Where that fails, nothing else is done. -/
def Surroundings.behindLog (w : Surroundings) (started : Started) : Started :=
  match w.filter with
  | .ok _ => started
  | .error slip => ⟨.crashed slip, "", []⟩

theorem Surroundings.behindLog_of_ok {w : Surroundings} {f : Filter} (set : w.filter = .ok f)
    (started : Started) : w.behindLog started = started := by
  rw [behindLog, set]

theorem Surroundings.behindLog_of_error {w : Surroundings} {slip : Text.Slip}
    (broken : w.filter = .error slip) (started : Started) :
    w.behindLog started = ⟨.crashed slip, "", []⟩ := by
  rw [behindLog, broken]

/-- Listens as a configuration says, tells the address, and lets the server run. -/
def bringUp (w : Surroundings) (c : Config) : Started :=
  match Listener.bind w.machine c.listener with
  | .error e => ⟨.failed (.listener e), "", []⟩
  | .ok l =>
    match w.outputFault? with
    | some f => ⟨.failed (.announcement f), "", [Server.boundEvent l.address]⟩
    | none =>
      ⟨.running (.start c.acceptMode l.address .fresh), readinessLine l.address ++ "\n",
        [Server.boundEvent l.address]⟩

/-- Starts a server from the arguments of a command line. -/
def launch (w : Surroundings) (args : List String) : Started :=
  w.behindLog <| match CommandLine.parse args with
  | .error e => ⟨.unusable e, "", []⟩
  | .ok .help => ⟨.helped, w.written CommandLine.helpText, []⟩
  | .ok (.serve settings) =>
    match settings.effective w.fileAt with
    | .error e => ⟨.failed (.config e), "", []⟩
    | .ok c =>
      let started := bringUp w c
      { started with events := configuredEvent c :: started.events }

/-- Starts a server for one connection on a host and a port. -/
def serve (w : Surroundings) (host : String) (port : UInt16) : Started :=
  w.behindLog (bringUp w { listener := ⟨host, port⟩, acceptMode := .once })

end CannedReply.Program
