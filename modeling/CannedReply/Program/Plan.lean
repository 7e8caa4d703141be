import CannedReply.Program.Run

/-!
What a program does, one thing after the other, where what comes next may depend on what became of
the thing before. There are two of them: the program with a command line, and the one that is given
a host and a port.
-/

namespace CannedReply.Program

open Log

/-- How a program ends. -/
inductive Verdict where
  /-- It breaks off while it sets up its log. -/
  | crashed (slip : Text.Slip)
  | helped
  | unusable (error : CommandLine.UsageError)
  | failed (error : ProgramError)
  /-- Its server has ended, with the number of connections that it accepted. -/
  | completed (accepted : Nat)
  deriving DecidableEq, Repr

namespace Verdict

def fate : Verdict → Fate
  | crashed _ => .exits 101 none
  | helped | completed _ => .exits 0 none
  | unusable _ => .exits 2 none
  | failed e => .exits 1 (some e)

/-- What is said on standard error in the end. Of a break-off it is what went wrong, without the
place in the program and the hints around it. -/
def report? : Verdict → Option String
  | crashed slip => some (slip.message ++ "\n")
  | helped | completed _ => none
  | unusable e => some e.report
  | failed e => some ("Error: " ++ e.account ++ "\n")

end Verdict

/-- What is left to do for a program. -/
inductive Plan where
  | exit (verdict : Verdict)
  /-- Decides from the setting of the log which events are logged, or breaks off. -/
  | setUpLog (next : Plan)
  | note (event : Event) (next : Plan)
  /-- Reads the file of the settings, and lays the settings over it. -/
  | configure (settings : CommandLine.Settings) (next : Except ConfigError Config → Plan)
  | listen (config : Config) (next : Except ListenerError SocketAddress → Plan)
  /-- Writes to standard output. What comes next is told why that was not possible, if so. -/
  | print (text : String) (next : Option Failure → Plan)
  /-- Lets the server run, and waits for its result. -/
  | serve (next : Except ListenerError Nat → Plan)

namespace Plan

def ended : Except ListenerError Nat → Plan
  | .error e => exit (.failed (.listener e))
  | .ok n => note (completedEvent n) (exit (.completed n))

def announced : Option Failure → Plan
  | some f => exit (.failed (.announcement f))
  | none => serve ended

def bound : Except ListenerError SocketAddress → Plan
  | .error e => exit (.failed (.listener e))
  | .ok address => print (readinessLine address ++ "\n") announced

def configured : Except ConfigError Config → Plan
  | .error e => exit (.failed (.config e))
  | .ok c => note (configuredEvent c) (listen c bound)

def asked : Except CommandLine.UsageError CommandLine.Request → Plan
  | .error e => exit (.unusable e)
  | .ok .help => print CommandLine.helpText fun _ => exit .helped
  | .ok (.serve settings) => configure settings configured

/-- The program with the arguments of a command line. The log is set up before they are read. -/
def ofArguments (args : List String) : Plan :=
  setUpLog (asked (CommandLine.parse args))

/-- What is done to serve one connection on a host and a port, which nobody checks. -/
def serving (host : String) (port : UInt16) : Plan :=
  listen ⟨⟨host, port⟩, .once⟩ fun
    | .error e => exit (.failed (.listener e))
    | .ok address => print (readinessLine address ++ "\n") fun
      | some f => exit (.failed (.announcement f))
      | none => serve fun
        | .error e => exit (.failed (.listener e))
        | .ok n => exit (.completed n)

/-- A program that serves one connection on a host and a port. To serve sets up no log: the program
that asks for it does so before, as the one with a command line does. -/
def ofEndpoint (host : String) (port : UInt16) : Plan :=
  setUpLog (serving host port)

end Plan

end CannedReply.Program
