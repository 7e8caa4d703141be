import CannedReply.Http.Target

/-!
Requests: a method, a target and fields, each of its own grammar.
-/

namespace CannedReply.Http

/-- A version of HTTP. -/
inductive Version where
  | v09
  | v10
  | v11
  | v2
  deriving DecidableEq, Repr

def Version.text : Version → String
  | v09 => "HTTP/0.9"
  | v10 => "HTTP/1.0"
  | v11 => "HTTP/1.1"
  | v2 => "HTTP/2.0"

/-- A named value of a request or a response. -/
structure Field where
  name : Bytes
  value : Bytes
  deriving DecidableEq, Repr

/-- A request without its body. -/
structure Request where
  method : Bytes
  target : Target
  version : Version
  fields : List Field
  deriving DecidableEq, Repr

/-- Whether the method of a request is the one that asks for no body. -/
def Request.isHead (r : Request) : Bool :=
  r.method = Bytes.ofText "HEAD"

/-- Whether the method of a request is the one that asks for a tunnel. -/
def Request.isConnect (r : Request) : Bool :=
  r.method = Bytes.ofText "CONNECT"

/-- What makes parts no request. -/
inductive RequestProblem where
  | method
  | target (fault : TargetFault)
  | fieldName
  | fieldValue
  deriving DecidableEq, Repr

/-- What makes parts no request, in words. -/
def RequestProblem.message : RequestProblem → String
  | method => "invalid HTTP method"
  | target fault => fault.message
  | fieldName => "invalid HTTP header name"
  | fieldValue => "failed to parse header value"

/-- The longest name of a field, in bytes. -/
def maxNameLength : Nat := 65535

/-- The field, if name and value are of their grammar. -/
def Field.check (f : Field) : Except RequestProblem Field := do
  if !isTokenText f.name || maxNameLength < f.name.length then throw .fieldName
  if !f.value.all isValueByte then throw .fieldValue
  return f

/-- The request with these parts. They are looked at in order, and the first problem counts. -/
def Request.ofParts (method target : Bytes) (version : Version) (fields : List Field) :
    Except RequestProblem Request := do
  if !isTokenText method then throw .method
  let target ← (Target.read target).mapError .target
  let fields ← fields.mapM Field.check
  return { method, target, version, fields }

end CannedReply.Http
