import CannedReply.CommandLine.Flag
import CannedReply.CommandLine.PortValue
import CannedReply.Text.Visible

/-!
What is said about the command line: what makes one unusable, and the help text.
-/

namespace CannedReply.CommandLine

/-- What makes a command line unusable. -/
inductive UsageError where
  | unexpected (argument : String)
  | missingValue (flag : Flag)
  | badPort (value : String) (fault : PortFault)
  | repeated (flag : Flag)
  | surplusValue (flag : Flag) (value : String)
  deriving DecidableEq, Repr

/-- What makes the command line unusable, in words. -/
def UsageError.message (e : UsageError) : String :=
  Text.visible (match e with
    | unexpected argument => "error: unexpected argument '" ++ argument ++ "' found"
    | missingValue flag =>
      "error: a value is required for '" ++ flag.shown ++ "' but none was supplied"
    | badPort value fault =>
      "error: invalid value '" ++ value ++ "' for '" ++ Flag.port.shown ++ "': " ++ fault.message
    | repeated flag => "error: the argument '" ++ flag.shown ++ "' cannot be used multiple times"
    | surplusValue flag value =>
      "error: unexpected value '" ++ value ++ "' for '" ++ flag.shown
        ++ "' found; no more were expected")

/-- Whether the form of a command line is shown too, which says nothing about single values. -/
def UsageError.showsForm : UsageError → Bool
  | unexpected _ | repeated _ => true
  | missingValue _ | badPort _ _ | surplusValue _ _ => false

def form : String := "Usage: fixture-server [OPTIONS]"

def UsageError.report (e : UsageError) : String :=
  e.message ++ "\n\n" ++ (if e.showsForm then form ++ "\n\n" else "")
    ++ "For more information, try '--help'.\n"

def helpText : String :=
  "Answers every HTTP request with 200 and a fixed 10-byte body\n\n"
    ++ form ++ "\n\n"
    ++ "Options:\n"
    ++ "  -c, --config <CONFIG>  TOML config file; CLI flags override its values\n"
    ++ "      --host <HOST>      Host or IP address to bind\n"
    ++ "  -p, --port <PORT>      Port to bind (0 picks an ephemeral port)\n"
    ++ "      --forever          Keep accepting connections instead of exiting after the first "
    ++ "one\n"
    ++ "  -h, --help             Print help\n"

end CannedReply.CommandLine
