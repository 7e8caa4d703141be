import CannedReply.Program.Plan
import CannedReply.Text.Instant
import Std.Async.DNS
import Std.Async.TCP

/-!
The program: it carries out the plan for its command line, with a socket to listen on and one task
for each accepted connection. The decisions are made elsewhere; here are the calls of the system
between them.
-/

namespace CannedReply.Service

open Std.Async.TCP Server

/-- The number of an error of the system, and its words. -/
def numberAndWords : IO.Error → Nat × String
  | .alreadyExists _ code words | .otherError code words | .resourceBusy code words
  | .resourceVanished code words | .unsupportedOperation code words | .hardwareFault code words
  | .unsatisfiedConstraints code words | .illegalOperation code words | .protocolError code words
  | .timeExpired code words | .interrupted _ code words | .noFileOrDirectory _ code words
  | .invalidArgument _ code words | .permissionDenied _ code words
  | .resourceExhausted _ code words | .inappropriateType _ code words
  | .noSuchThing _ code words => (min code.toNat (UInt32.size - code.toNat), words)
  | .unexpectedEof => (0, "unexpected end of file")
  | .userError words => (0, words)

/-- The refusal behind an error of the system, whose number may come with a minus sign. -/
def failureOf (e : IO.Error) : Failure :=
  let (number, words) := numberAndWords e
  .ofCode number words

/-- What a call gives, or the refusal. -/
def attempt {α : Type} (call : IO α) : IO (Except Failure α) := do
  try
    return .ok (← call)
  catch e =>
    return .error (failureOf e)

/-- The seconds since the start of 1970, and the microseconds behind them. -/
def now : IO (Nat × Nat) := do
  let nanoseconds := (← Std.Time.Timestamp.now).toNanosecondsSinceUnixEpoch.val.toNat
  return (nanoseconds / 1000000000, nanoseconds / 1000 % 1000000)

/-- Writes those of the events to the log that the filter lets through, if there is one yet. -/
def write (f : Option Log.Filter) (events : List Log.Event) : IO Unit := do
  for e in events.filter fun e => f.any fun f => f.logs e do
    let (seconds, micros) ← now
    IO.eprintln (e.timedLine ((Instant.ofSeconds seconds).logText micros))

def addressOf : Std.Net.SocketAddress → SocketAddress
  | .v4 a => .v4 ⟨a.addr.octets.toList, by simp⟩ a.port
  | .v6 a => .v6 ⟨a.addr.segments.toList, by simp⟩ a.port 0 0

def withPort (a : Std.Net.IPAddr) (port : UInt16) : Std.Net.SocketAddress :=
  match a with
  | .v4 addr => .v4 ⟨addr, port⟩
  | .v6 addr => .v6 ⟨addr, port⟩

def lookUp (host : String) : IO (Except Failure (List Std.Net.IPAddr)) := do
  try
    return .ok (← (Std.Async.DNS.getAddrInfo host "").block).toList
  catch _ =>
    return .error .unknownHost

/-- A socket that is listened on until it is given up. -/
structure Listening where
  socket : IO.Ref (Option Socket.Server)
  address : SocketAddress
  mode : AcceptMode

def listenOn (c : Config) : IO (Except Failure Listening) := do
  match ← lookUp c.listener.host with
  | .error f => return .error f
  | .ok [] => return .error .noAddresses
  | .ok (a :: _) =>
    attempt do
      let server ← Socket.Server.mk
      server.bind (withPort a c.listener.port)
      server.listen listenBacklog.toUInt32
      let address := addressOf (← server.getSockName)
      return ⟨← IO.mkRef (some server), address, c.acceptMode⟩

/-- Reads what a client sends until the exchange is over, or a call to read fails. -/
partial def converse (client : Socket.Client) (c : Connection) :
    IO (Connection × Option Http.Outcome) := do
  match c.outcome? with
  | some o => return (c, some o)
  | none =>
    match ← attempt (client.recv? 65536).block with
    | .error _ => return (c, none)
    | .ok none => converse client (c.receive [] true)
    | .ok (some data) => converse client (c.receive data.toList false)

/-- Writes the response, if there is one, and ends the connection. -/
def conclude (client : Socket.Client) (o : Http.Outcome) : IO (Option Interruption) := do
  if let some r := o.response? then
    let (seconds, _) ← now
    let bytes := r.bytes (Instant.ofSeconds seconds).responseText
    if let .error _ ← attempt (client.send ⟨bytes.toArray⟩).block then
      return some .writing
  match ← attempt client.shutdown.block with
  | .error _ => return some .closing
  | .ok () => return none

def handle (f : Option Log.Filter) (client : Socket.Client) (c : Connection) : IO Unit := do
  match ← converse client c with
  | (c, none) => write f (c.interrupted .reading)
  | (c, some o) =>
    match ← conclude client o with
    | some i => write f (c.interrupted i)
    | none => write f (c.ending o)

def accept (f : Option Log.Filter) (listening : Listening) (id : ConnectionId) :
    IO (Attempt (Socket.Client × Connection)) := do
  let accepted ← attempt do
    let some server ← listening.socket.get | throw (IO.userError "not listening")
    let client ← server.accept.block
    return (client, addressOf (← client.getPeerName))
  match accepted with
  | .error failure => return .failed (.accept failure)
  | .ok (client, peer) =>
    let c := Connection.accepted id peer
    write f [acceptedEvent c]
    return .accepted (client, c)

/-- Accepts clients for ever, each of which gets a task. -/
partial def acceptForever (f : Option Log.Filter) (listening : Listening) (ids : IdSource) :
    IO (Except ListenerError Nat) := do
  let (id, rest) := ids.take
  let attempt ← accept f listening id
  for reaction in attempt.reactions do
    match reaction with
    | .spawn (client, c) => discard (IO.asTask (handle f client c) .dedicated)
    | .warn e => write f [failedEvent e]
    | .pause ms => IO.sleep ms.toUInt32
  match attempt with
  | .accepted _ => acceptForever f listening rest
  | .failed _ => acceptForever f listening ids

/-- Accepts one client, gives up the socket, and waits for the end of the connection. -/
def acceptOnce (f : Option Log.Filter) (listening : Listening) :
    IO (Except ListenerError Nat) := do
  match ← accept f listening IdSource.fresh.take.1 with
  | .failed e => return .error e
  | .accepted (client, c) =>
    let task ← IO.asTask (handle f client c) .dedicated
    listening.socket.set none
    write f [closedEvent]
    IO.ofExcept task.get
    write f [servedEvent]
    return .ok 1

def serve (f : Option Log.Filter) (listening : Listening) : IO (Except ListenerError Nat) := do
  write f [acceptingEvent listening.address listening.mode]
  match listening.mode with
  | .once => acceptOnce f listening
  | .forever => acceptForever f listening .fresh

def configure (s : CommandLine.Settings) : IO (Except ConfigError Config) := do
  let content ← match s.config with
    | some path => attempt (IO.FS.readBinFile path)
    | none => pure (.ok .empty)
  return s.effective fun _ => content

/-- Writes to standard output, and tells why that was not possible, if so. -/
def print (text : String) : IO (Option Failure) := do
  let out ← IO.getStdout
  match ← attempt (do out.putStr text; out.flush) with
  | .error failure => return some failure
  | .ok () => return none

/-- Ends the program with its report and its status. -/
def exit (v : Program.Verdict) : IO UInt32 := do
  if let some report := v.report? then
    IO.eprint report
  match v.fate with
  | .exits code _ => return code.toUInt32
  | .goesOn => return 0

/-- Carries out a plan, with the filter and the socket that there are so far. What comes of each
call decides how the plan goes on. -/
def carryOut (f : Option Log.Filter) (listening : Option Listening) : Program.Plan → IO UInt32
  | .exit v => exit v
  | .setUpLog next => do
    -- patterns are not looked into: each text is taken for one
    match Log.Filter.ofSetting (fun _ => true) (← IO.getEnv "RUST_LOG") with
    | .ok f => carryOut (some f) listening next
    | .error slip => exit (.crashed slip)
  | .note e next => do
    write f [e]
    carryOut f listening next
  | .configure s next => do
    let config ← configure s
    carryOut f listening (next config)
  | .listen c next => do
    match ← listenOn c with
    | .error failure => carryOut f listening (next (.error (.bind c.listener.authority failure)))
    | .ok opened =>
      write f [boundEvent opened.address]
      carryOut f (some opened) (next (.ok opened.address))
  | .print text next => do
    let fault ← print text
    carryOut f listening (next fault)
  | .serve next => do
    let some opened := listening | throw (IO.userError "no server to run")
    let result ← serve f opened
    carryOut f listening (next result)

end CannedReply.Service

def main (args : List String) : IO UInt32 :=
  CannedReply.Service.carryOut none none (.ofArguments args)
