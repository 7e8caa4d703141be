import CannedReply.Config.Decode
import CannedReply.Config.HostProblem
import CannedReply.Machine.Failure
import CannedReply.Toml.Diagnostic
import CannedReply.Toml.Parser

/-!
Configurations from texts and files: UTF-8, then the grammar, then the settings, then the checks.
-/

namespace CannedReply

/-- Why there is no configuration. -/
inductive ConfigError where
  | unreadable (failure : Failure)
  /-- The text is not in the grammar. Where it leaves it, and in what words this is told, is left
  out. -/
  | malformed
  | misfit (report : String)
  | invalid (problems : List HostProblem)
  deriving DecidableEq, Repr

namespace ConfigError

def joined (problems : List HostProblem) : String :=
  ", ".intercalate (problems.map HostProblem.message)

/-- Why there is no configuration, in words. -/
def message : ConfigError → String
  | unreadable failure => "IO error: " ++ failure.message
  | malformed => "Parse error: TOML parse error"
  | misfit report => "Parse error: " ++ report
  | invalid problems => "Validation failed: " ++ joined problems

/-- Why there is no configuration, in the words of a final report. The inner structure of an error
in the text is left out, and a fixed phrase stands for it. -/
def account : ConfigError → String
  | unreadable failure => "Io(" ++ failure.account ++ ")"
  | malformed => "Parse(<toml error>)"
  | misfit _ => "Parse(<toml error>)"
  | invalid problems =>
    "Validation([" ++ ", ".intercalate (problems.map HostProblem.account) ++ "])"

end ConfigError

namespace Config

def parse (text : String) : Except ConfigError Config :=
  match Toml.parse? text.toList with
  | none => .error .malformed
  | some document =>
    match ofDocument document with
    | .error r =>
      .error (.misfit (Toml.report text.toList (r.span.getD ⟨text.toList, []⟩) r.misfit.message))
    | .ok config => config.validate.mapError .invalid

/-- The configuration in a file, given what reading the file gives. -/
def load (content : Except Failure ByteArray) : Except ConfigError Config :=
  match content with
  | .error failure => .error (.unreadable failure)
  | .ok bytes =>
    match String.fromUTF8? bytes with
    | none => .error (.unreadable .notText)
    | some text => parse text

end Config

end CannedReply
