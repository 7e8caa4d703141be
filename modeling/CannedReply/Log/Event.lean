import CannedReply.Log.Filter

/-!
Events of a run, and the lines that a log has for them.
-/

namespace CannedReply.Log

/-- Where in the program an event comes from. -/
inductive Source where
  | program
  | handler
  | server
  | connection
  | listener
  deriving DecidableEq, Repr

/-- The name of a source, which rules compare with their targets. -/
def Source.target : Source → String
  | program => "fixture_server"
  | handler => "fixture_server::http::handler"
  | server => "fixture_server::http::server"
  | connection => "fixture_server::net::connection"
  | listener => "fixture_server::net::listener"

/-- An event: what happened, and the values that go with it. -/
structure Event where
  level : Level
  source : Source
  message : String
  fields : List (String × String)
  deriving DecidableEq, Repr

/-- The line for an event behind its time: level, source, what happened, and the values. -/
def Event.line (e : Event) : String :=
  e.level.title ++ " " ++ e.source.target ++ ": " ++ e.message
    ++ String.join (e.fields.map fun (name, value) => " " ++ name ++ "=" ++ value)

/-- The line for an event with its time, where levels end in one column. -/
def Event.timedLine (e : Event) (time : String) : String :=
  time ++ (if e.level.title.length < 5 then "  " else " ") ++ e.line

namespace Filter

/-- Whether a rule speaks of an event: the source starts with the target, and all fields are
there. -/
def speaksOf (r : Rule) (e : Event) : Bool :=
  (r.target.all fun t => e.source.target.startsWith t)
    && r.fields.all fun name => name = "message" || e.fields.any (·.1 = name)

/-- Whether an event is logged. There are no spans, so what depends on them says nothing. -/
def logs (f : Filter) (e : Event) : Bool :=
  (f.rules.find? fun r => speaksOf r e).any fun r => r.level.admits e.level

end Filter

end CannedReply.Log
