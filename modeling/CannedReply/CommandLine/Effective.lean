import CannedReply.CommandLine.Flag
import CannedReply.Config.Load

/-!
The configuration that a command line leads to: defaults, then the file, then the flags. The file
has to stand on its own, and what the flags make of it is checked again.
-/

namespace CannedReply.CommandLine

/-- The configuration with the flags' values in place of its own. -/
def Settings.override (s : Settings) (c : Config) : Config :=
  { listener :=
      { host := s.host.getD c.listener.host
        port := s.port.getD c.listener.port }
    acceptMode := if s.forever then .forever else c.acceptMode }

abbrev FileAccess := String → Except Failure ByteArray

/-- The configuration before the flags: that of the file if there is one, else the default. -/
def Settings.base (s : Settings) (fileAt : FileAccess) : Except ConfigError Config :=
  match s.config with
  | some path => Config.load (fileAt path)
  | none => .ok .default

def Settings.effective (s : Settings) (fileAt : FileAccess) : Except ConfigError Config := do
  let config := s.override (← s.base fileAt)
  config.validate.mapError .invalid

end CannedReply.CommandLine
