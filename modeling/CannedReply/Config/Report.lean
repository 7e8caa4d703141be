import CannedReply.Config.Load
import CannedReply.Text.Unquoted

/-!
What is said to be wrong with a host, as it is read back.
-/

namespace CannedReply

open Reader

/-- What is wrong with a host, from the words for it. -/
def HostProblem.told : Reader HostProblem := do
  token "listener.host ".toList
  (do
    token "must not be empty".toList
    return empty)
  <|> (do
    let host ← Text.quotedText
    token " must not contain whitespace".toList
    return blank host)
  <|> (do
    token "is ".toList
    let length ← run (Numeral.isDigit 10)
    token (" bytes long, the limit is " ++ Numeral.decimal maxHostLength).toList
    return tooLong (Numeral.number 10 length))

/-- The problems that a report on a configuration names. -/
def ConfigError.problems? (report : String) : Option (List HostProblem) :=
  whole? (do
    token "Validation failed: ".toList
    let first ← HostProblem.told
    let more ← many do
      token ", ".toList
      HostProblem.told
    return first :: more) report.toList

end CannedReply
