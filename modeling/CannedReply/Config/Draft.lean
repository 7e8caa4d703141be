import CannedReply.Config.Basic
import CannedReply.Toml.Writer

/-!
Configurations as they are written down: any of the settings, in any order that a document leaves
free, and the listener in any of its four forms.
-/

namespace CannedReply.Config

open Toml

def listenerName : BareName := ⟨"listener", by decide⟩
def hostName : BareName := ⟨"host", by decide⟩
def portName : BareName := ⟨"port", by decide⟩
def modeName : BareName := ⟨"accept_mode", by decide⟩

/-- A setting that is written down. -/
inductive Setting where
  | host (value : String)
  | port (value : UInt16)
  | mode (value : AcceptMode)

namespace Setting

def name : Setting → BareName
  | host _ => hostName
  | port _ => portName
  | mode _ => modeName

def literal : Setting → Literal
  | host value => .text value
  | port value => .number value
  | mode value => .text value.word

/-- The name of the table that a setting belongs to, unless it stands for itself. -/
def parent : Setting → Option BareName
  | host _ => listenerName
  | port _ => listenerName
  | mode _ => none

/-- The line of a setting within the table that it belongs to. -/
def line (s : Setting) : Line :=
  .assign none s.name (.plain s.literal)

/-- The line of a setting outside of all tables, with a dot in the name if it belongs to one. -/
def dotted (s : Setting) : Line :=
  .assign s.parent s.name (.plain s.literal)

def entry (s : Setting) : BareName × Literal :=
  (s.name, s.literal)

end Setting

/-- The settings of which a text is to be made, each of them or not. -/
structure Draft where
  host : Option String
  port : Option UInt16
  mode : Option AcceptMode

namespace Draft

/-- The configuration with the settings of a draft, and the defaults for the rest. -/
def config (d : Draft) : Config where
  listener := { host := d.host.getD defaultHost, port := d.port.getD defaultPort }
  acceptMode := d.mode.getD .once

def listener (d : Draft) : List Setting :=
  (d.host.map .host).toList ++ (d.port.map .port).toList

def outer (d : Draft) : List Setting :=
  (d.mode.map .mode).toList

/-- The ways to write a draft: with dots, with a header, with the listener in braces, or with the
listener as a list if it does not give a port alone. Settings come in any order as far as headers
and lists allow. -/
inductive Spells (d : Draft) : List Line → Prop where
  | dotted {settings : List Setting} (order : settings.Perm (d.listener ++ d.outer)) :
      Spells d (settings.map Setting.dotted)
  | header {settings : List Setting} (order : settings.Perm d.listener) :
      Spells d (d.outer.map Setting.line ++ .header listenerName :: settings.map Setting.line)
  | braces {settings : List Setting} {lines : List Line} (inner : settings.Perm d.listener)
      (order : lines.Perm (.assign none listenerName (.braces (settings.map Setting.entry))
        :: d.outer.map Setting.line)) : Spells d lines
  | array {lines : List Line} (complete : d.port.isSome → d.host.isSome)
      (order : lines.Perm (.assign none listenerName (.array (d.listener.map Setting.literal))
        :: d.outer.map Setting.line)) : Spells d lines

end Draft

end CannedReply.Config
