import CannedReply.Config.Basic
import CannedReply.Number.Shortest
import CannedReply.Toml.Document

/-!
The configuration that a document holds. What is not set keeps its default, and names that mean
nothing here are passed over. A setting of the wrong form is not replaced by a default, except that
a date or time in the place of the listener counts as a table without settings.
-/

namespace CannedReply.Config

open Toml

/-- What a value is, where something else was wanted. -/
inductive Found where
  | boolean (value : Bool)
  | integer (value : Int)
  | float (value : Binary64)
  | text (value : String)
  | sequence
  | map
  deriving DecidableEq, Repr

/-- What was wanted in the place of a value. -/
inductive Wanted where
  | text
  | port
  | listener
  deriving DecidableEq, Repr

/-- Why a value does not fit the setting that it is given for. -/
inductive Misfit where
  | wrongType (found : Found) (wanted : Wanted)
  | outOfRange (value : Int)
  | unknownMode (word : String)
  | noModeForm
  | noMode
  | severalModes
  | modeTableNotEmpty
  | modeSeriesNotEmpty
  | modeWithScalar (type : String)
  deriving DecidableEq, Repr

def integerText (n : Int) : String :=
  if n < 0 then "-" ++ Numeral.decimal n.natAbs else Numeral.decimal n.natAbs

/-- What a value is, in words. -/
def Found.phrase : Found → String
  | boolean value => "boolean `" ++ (if value then "true" else "false") ++ "`"
  | integer value => "integer `" ++ integerText value ++ "`"
  | float value => "floating point `" ++ value.text ++ "`"
  | text value => "string " ++ Text.quoted value
  | sequence => "sequence"
  | map => "map"

/-- What was wanted, in words. -/
def Wanted.phrase : Wanted → String
  | text => "a string"
  | port => "u16"
  | listener => "struct ListenerConfig"

/-- Why a value does not fit, in words. -/
def Misfit.message : Misfit → String
  | wrongType found wanted => "invalid type: " ++ found.phrase ++ ", expected " ++ wanted.phrase
  | outOfRange value =>
    "invalid value: " ++ (Found.integer value).phrase ++ ", expected " ++ Wanted.port.phrase
  | unknownMode word => "unknown variant `" ++ word ++ "`, expected `once` or `forever`"
  | noModeForm => "wanted string or table"
  | noMode => "wanted exactly 1 element, found 0 elements"
  | severalModes => "wanted exactly 1 element, more than 1 element"
  | modeTableNotEmpty => "expected empty table"
  | modeSeriesNotEmpty => "expected empty array"
  | modeWithScalar type => "expected table, found " ++ type

/-- A misfit, and where it is unless its place is that of the value around it. -/
structure Rejection where
  misfit : Misfit
  span : Option Span

/-- What a value is. A date or time counts as a map. -/
def found : Node → Found
  | .scalar (.text s) _ => .text s
  | .scalar (.integer n) _ => .integer n
  | .scalar (.float x) _ => .float x
  | .scalar (.boolean b) _ => .boolean b
  | .scalar (.dateTime _) _ => .map
  | .array _ _ => .sequence
  | .series _ => .sequence
  | .table _ _ => .map

def wrongType (node : Node) (wanted : Wanted) : Rejection :=
  ⟨.wrongType (found node) wanted, node.span?⟩

/-- The result of a reader for an entry's value. A rejection without a place gets the place of
the value, or of its key if the value stands nowhere. -/
def placed {α : Type} (key : Key) (node : Node) (result : Except Rejection α) :
    Except Rejection α :=
  result.mapError fun r => { r with span := some (r.span.getD (node.span?.getD key.span)) }

def readHost : Node → Except Rejection String
  | .scalar (.text s) _ => .ok s
  | node => .error (wrongType node .text)

def readPort : Node → Except Rejection UInt16
  | .scalar (.integer n) span =>
    if 0 ≤ n ∧ n < 65536 then .ok (UInt16.ofNat n.toNat) else .error ⟨.outOfRange n, some span⟩
  | node => .error (wrongType node .port)

/-- The endpoint with what an entry of the listener's table sets. -/
def readListenerEntry (e : Endpoint) : Key × Node → Except Rejection Endpoint
  | (key, node) =>
    if key.name = "host" then do return { e with host := ← placed key node (readHost node) }
    else if key.name = "port" then do return { e with port := ← placed key node (readPort node) }
    else return e

/-- The endpoint that a list gives by position: the host, the port, and then whatever. -/
def readListenerItems : List Node → Except Rejection Endpoint
  | [] => return .default
  | [first] => return { Endpoint.default with host := ← readHost first }
  | first :: second :: _ => return { host := ← readHost first, port := ← readPort second }

/-- The endpoint that a value gives: a table or a list. A date or time is a table without
settings. -/
def readListener : Node → Except Rejection Endpoint
  | .table _ entries => entries.foldlM readListenerEntry .default
  | .scalar (.dateTime _) _ => return .default
  | .array items _ => readListenerItems items
  | .series items => readListenerItems (items.map fun (span, t) => .table (.header span) t)
  | node => .error (wrongType node .listener)

def modeNamed (word : String) (span : Span) : Except Rejection AcceptMode :=
  match AcceptMode.ofWord? word with
  | some mode => .ok mode
  | none => .error ⟨.unknownMode word, some span⟩

/-- Accepts what may stand for nothing behind the name of a mode: an empty table or list. -/
def expectNothing (node : Node) : Except Rejection Unit :=
  match node with
  | .table _ [] => .ok ()
  | .array [] _ => .ok ()
  | .series [] => .ok ()
  | .table _ _ => .error ⟨.modeTableNotEmpty, node.span?⟩
  | .array _ _ => .error ⟨.modeTableNotEmpty, node.span?⟩
  | .series _ => .error ⟨.modeSeriesNotEmpty, node.span?⟩
  | .scalar (.text _) span => .error ⟨.modeWithScalar "string", some span⟩
  | .scalar (.integer _) span => .error ⟨.modeWithScalar "integer", some span⟩
  | .scalar (.float _) span => .error ⟨.modeWithScalar "float", some span⟩
  | .scalar (.boolean _) span => .error ⟨.modeWithScalar "boolean", some span⟩
  | .scalar (.dateTime _) span => .error ⟨.modeWithScalar "datetime", some span⟩

/-- The mode that a value gives: its word, or a table with its word as the only name. -/
def readMode (node : Node) : Except Rejection AcceptMode :=
  match node with
  | .scalar (.text s) span => modeNamed s span
  | .table _ [] => .error ⟨.noMode, node.span?⟩
  | .table _ [(key, inner)] => do
    let mode ← modeNamed key.name key.span
    expectNothing inner
    return mode
  | .table _ _ => .error ⟨.severalModes, node.span?⟩
  | _ => .error ⟨.noModeForm, node.span?⟩

/-- The configuration with what an entry of the document sets. -/
def readEntry (c : Config) : Key × Node → Except Rejection Config
  | (key, node) =>
    if key.name = "listener" then do
      return { c with listener := ← placed key node (readListener node) }
    else if key.name = "accept_mode" then do
      return { c with acceptMode := ← placed key node (readMode node) }
    else return c

def ofDocument (document : Table) : Except Rejection Config :=
  document.foldlM readEntry .default

end CannedReply.Config
