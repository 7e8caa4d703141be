import CannedReply.Config.Basic
import CannedReply.Text.Blank

/-!
What a host may look like before anything tries to look it up. Every check is made, whatever the
others say, and what fails is reported in a fixed order.
-/

namespace CannedReply

/-- The length of the longest host name, in bytes. -/
def maxHostLength : Nat := 253

/-- What is wrong with a host. -/
inductive HostProblem where
  | empty
  | blank (host : String)
  | tooLong (length : Nat)
  deriving DecidableEq, Repr

namespace HostProblem

def name : HostProblem → String
  | empty => "EmptyHost"
  | blank _ => "HostWhitespace"
  | tooLong _ => "HostTooLong"

/-- What is wrong, in words. -/
def message : HostProblem → String
  | empty => "listener.host must not be empty"
  | blank host => "listener.host " ++ Text.quoted host ++ " must not contain whitespace"
  | tooLong length =>
    "listener.host is " ++ Numeral.decimal length ++ " bytes long, the limit is "
      ++ Numeral.decimal maxHostLength

/-- What is wrong, for a log. -/
def account : HostProblem → String
  | empty => "EmptyHost"
  | blank host => "HostWhitespace(" ++ Text.quoted host ++ ")"
  | tooLong length => "HostTooLong(" ++ Numeral.decimal length ++ ")"

end HostProblem

def hostProblems (host : String) : List HostProblem :=
  (if host.isEmpty then [.empty] else [])
    ++ (if host.toList.any Text.isBlank then [.blank host] else [])
    ++ (if maxHostLength < host.utf8ByteSize then [.tooLong host.utf8ByteSize] else [])

/-- The checks that a configuration fails: those of its host. -/
def Config.problems (c : Config) : List HostProblem :=
  hostProblems c.listener.host

/-- The configuration, unless it fails a check. -/
def Config.validate (c : Config) : Except (List HostProblem) Config :=
  if c.problems.isEmpty then .ok c else .error c.problems

end CannedReply
