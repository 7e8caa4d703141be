/-!
The flags of the command line, and the settings that they give.
-/

namespace CannedReply.CommandLine

/-- A flag. All but the last two take a value. -/
inductive Flag where
  | config
  | host
  | port
  | forever
  | help
  deriving DecidableEq, Repr

namespace Flag

def name : Flag → String
  | config => "config"
  | host => "host"
  | port => "port"
  | forever => "forever"
  | help => "help"

/-- The letter behind one dash, for the flags that have one. -/
def letter? : Flag → Option Char
  | config => some 'c'
  | host => none
  | port => some 'p'
  | forever => none
  | help => some 'h'

/-- The word for the value in messages, for the flags that take one. -/
def valueName? : Flag → Option String
  | config => some "CONFIG"
  | host => some "HOST"
  | port => some "PORT"
  | forever => none
  | help => none

def takesValue (f : Flag) : Bool :=
  f.valueName?.isSome

def shown (f : Flag) : String :=
  "--" ++ f.name ++ (f.valueName?.map fun v => " <" ++ v ++ ">").getD ""

def all : List Flag :=
  [config, host, port, forever, help]

/-- The flag of a name; names are not shortened. -/
def ofName? (s : String) : Option Flag :=
  all.find? fun f => f.name = s

def ofLetter? (c : Char) : Option Flag :=
  all.find? fun f => f.letter? = some c

end Flag

/-- What a command line sets. -/
structure Settings where
  config : Option String
  host : Option String
  port : Option UInt16
  forever : Bool
  deriving DecidableEq, Repr

def Settings.empty : Settings :=
  ⟨none, none, none, false⟩

end CannedReply.CommandLine
