import CannedReply.CommandLine.Flag
import CannedReply.CommandLine.PortValue

/-!
Settings as they are given on a command line: a flag for each of them, in any order, and each flag
in any of its spellings.
-/

namespace CannedReply.CommandLine

/-- A flag that stands on a command line, with the text of its value. -/
inductive Mention where
  | config (path : String)
  | host (name : String)
  | port (text : String)
  | forever
  deriving DecidableEq, Repr

namespace Mention

def flag : Mention → Flag
  | config _ => .config
  | host _ => .host
  | port _ => .port
  | forever => .forever

def value? : Mention → Option String
  | config path => some path
  | host name => some name
  | port text => some text
  | forever => none

/-- Whether the value of a flag can be taken: a path that is not empty, a port that is one. -/
def Fine : Mention → Prop
  | config path => path ≠ ""
  | port text => ∃ n, readPort text = .ok n
  | host _ | forever => True

/-- The ways to give a flag. A value stands behind an equals sign or is an argument of its own,
which does not start with a dash then. Behind a letter the equals sign may be left out, unless the
value is empty or starts with one. -/
inductive Spells : Mention → List String → Prop where
  | bare {m : Mention} (none : m.value? = none) : Spells m ["--" ++ m.flag.name]
  | long {m : Mention} {v : String} (value : m.value? = some v) :
      Spells m ["--" ++ m.flag.name ++ "=" ++ v]
  | longApart {m : Mention} {v : String} (value : m.value? = some v)
      (plain : v.toList.head? ≠ some '-') : Spells m ["--" ++ m.flag.name, v]
  | short {m : Mention} {v : String} {c : Char} (value : m.value? = some v)
      (letter : m.flag.letter? = some c) : Spells m [String.ofList ('-' :: c :: '=' :: v.toList)]
  | shortAttached {m : Mention} {v : String} {c : Char} (value : m.value? = some v)
      (letter : m.flag.letter? = some c) (any : v ≠ "") (plain : v.toList.head? ≠ some '=') :
      Spells m [String.ofList ('-' :: c :: v.toList)]
  | shortApart {m : Mention} {v : String} {c : Char} (value : m.value? = some v)
      (letter : m.flag.letter? = some c) (plain : v.toList.head? ≠ some '-') :
      Spells m [String.ofList ['-', c], v]

/-- Whether arguments are flags that are given one after the other. -/
inductive Spelled : List Mention → List String → Prop where
  | nil : Spelled [] []
  | cons {m : Mention} {ms : List Mention} {piece args : List String} (first : m.Spells piece)
      (rest : Spelled ms args) : Spelled (m :: ms) (piece ++ args)

end Mention

namespace Settings

/-- The flag that gives a setting, if it is given. A port is written without needless digits. -/
def mention? (s : Settings) : Flag → Option Mention
  | .config => s.config.map .config
  | .host => s.host.map .host
  | .port => s.port.map fun port => .port (Numeral.decimal port.toNat)
  | .forever => if s.forever then some .forever else none
  | .help => none

def mentions (s : Settings) : List Mention :=
  Flag.all.filterMap s.mention?

/-- Whether arguments give just these settings, in any order and in any spelling. -/
def SpelledBy (s : Settings) (args : List String) : Prop :=
  ∃ ms : List Mention, ms.Perm s.mentions ∧ Mention.Spelled ms args

end Settings

end CannedReply.CommandLine
