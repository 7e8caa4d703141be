import CannedReply.CommandLine.Usage

/-!
The command line from left to right. A value may be attached to its flag or be the next argument;
in the second case it is looked at when the next known flag, or the end, comes.
-/

namespace CannedReply.CommandLine

/-- What a usable command line asks for. -/
inductive Request where
  | help
  | serve (settings : Settings)
  deriving DecidableEq, Repr

/-- The form of an argument. -/
inductive Argument where
  | separator
  | long (name : String) (value : Option String)
  | short (letter : Char) (rest : List Char)
  | plain (text : String)
  deriving DecidableEq, Repr

/-- The form of an argument; a single dash is plain. -/
def Argument.ofString (s : String) : Argument :=
  match s.toList with
  | ['-', '-'] => separator
  | '-' :: '-' :: r =>
    let name := r.takeWhile (· ≠ '=')
    match r.dropWhile (· ≠ '=') with
    | _ :: v => long (String.ofList name) (some (String.ofList v))
    | [] => long (String.ofList name) none
  | '-' :: c :: r => short c r
  | _ => plain s

/-- What has been read: the settings so far, and a flag that waits for its value or for the value
to be looked at. -/
structure Progress where
  settings : Settings
  pending : Option (Flag × Option String)
  deriving DecidableEq, Repr

namespace Progress

def has (p : Progress) : Flag → Bool
  | .config => p.settings.config.isSome
  | .host => p.settings.host.isSome
  | .port => p.settings.port.isSome
  | .forever => p.settings.forever
  | .help => false

/-- Takes a value for a flag. A flag is given once, a path is not empty, and a port is a number. -/
def store (p : Progress) (flag : Flag) (value : String) : Except UsageError Progress := do
  if p.has flag then throw (.repeated flag)
  match flag with
  | .config =>
    if value.isEmpty then throw (.missingValue .config)
    return { p with settings := { p.settings with config := some value } }
  | .host => return { p with settings := { p.settings with host := some value } }
  | .port =>
    match readPort value with
    | .ok port => return { p with settings := { p.settings with port := some port } }
    | .error fault => throw (.badPort value fault)
  | .forever => return p
  | .help => return p

def settle (p : Progress) : Except UsageError Progress :=
  match p.pending with
  | none => .ok p
  | some (flag, none) => .error (.missingValue flag)
  | some (flag, some value) => { p with pending := none }.store flag value

def turnOn (p : Progress) : Except UsageError Progress := do
  if p.has .forever then throw (.repeated .forever)
  return { p with settings := { p.settings with forever := true } }

end Progress

def parseFrom (p : Progress) : List String → Except UsageError Request
  | [] => do return .serve (← p.settle).settings
  | arg :: rest =>
    match Argument.ofString arg with
    | .separator =>
      match rest with
      | [] => do return .serve (← p.settle).settings
      | next :: _ => .error (.unexpected next)
    | .long name value =>
      match Flag.ofName? name, value with
      | none, _ => .error (.unexpected ("--" ++ name))
      | some .help, none => do
        discard p.settle
        return .help
      | some .forever, none => do parseFrom (← (← p.settle).turnOn) rest
      | some flag, some value =>
        if flag.takesValue then do parseFrom (← (← p.settle).store flag value) rest
        else .error (.surplusValue flag value)
      | some flag, none => do parseFrom { ← p.settle with pending := some (flag, none) } rest
    | .short letter attached =>
      match Flag.ofLetter? letter with
      | none => .error (.unexpected (String.ofList ['-', letter]))
      | some .help => do
        discard p.settle
        return .help
      | some flag =>
        match attached with
        | [] => do parseFrom { ← p.settle with pending := some (flag, none) } rest
        | '=' :: value => do parseFrom (← (← p.settle).store flag (String.ofList value)) rest
        | value => do parseFrom (← (← p.settle).store flag (String.ofList value)) rest
    | .plain text =>
      match p.pending with
      | some (flag, none) => parseFrom { p with pending := some (flag, some text) } rest
      | _ => .error (.unexpected text)

/-- What the arguments behind the program's name ask for. -/
def parse (args : List String) : Except UsageError Request :=
  parseFrom ⟨.empty, none⟩ args

end CannedReply.CommandLine
