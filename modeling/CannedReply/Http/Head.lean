import CannedReply.Http.Request
import CannedReply.Http.Scanner

/-!
Heads of requests on the wire: blank lines, then method, target and version on one line, then a
field on each line, and an empty line.
-/

namespace CannedReply.Http

/-- What is wrong with a request that has arrived. -/
inductive Fault where
  | method
  | version
  | target
  | targetTooLong
  | field
  | contentLength
  | transferEncoding
  | unexpectedTransferEncoding
  | headTooLarge
  deriving DecidableEq, Repr

/-- What is wrong with a request, in words. -/
def Fault.message : Fault → String
  | method => "invalid HTTP method parsed"
  | version => "invalid HTTP version parsed"
  | target => "invalid URI"
  | targetTooLong => "URI too long"
  | field => "invalid HTTP header parsed"
  | contentLength => "invalid content-length parsed"
  | transferEncoding => "invalid transfer-encoding parsed"
  | unexpectedTransferEncoding => "unexpected transfer-encoding parsed"
  | headTooLarge => "message head is too large"

/-- A head as it was found: the target has not been looked into. -/
structure Head where
  method : Bytes
  target : Bytes
  version : Version
  fields : List Field
  deriving DecidableEq, Repr

def maxFields : Nat := 100

namespace Scanner

def skipBlankLines : Scanner Fault Unit
  | [] => .more
  | cr :: lf :: rest => skipBlankLines rest
  | [cr] => .more
  | cr :: _ => .fault .field
  | lf :: rest => skipBlankLines rest
  | s => .done () s

/-- The method: a token, and a space behind it. -/
def method : Scanner Fault Bytes := do
  let m ← run isToken
  let _ ← byte (fun b => b = space && !m.isEmpty) .method
  return m

/-- The target: text without white space, and a space behind it. -/
def target : Scanner Fault Bytes := do
  let t ← run isTargetByte
  let _ ← byte (fun b => b = space && !t.isEmpty && (Bytes.toText? t).isSome) .target
  return t

/-- The version: one of the two of the first generation. -/
def version : Scanner Fault Version := do
  token .version (Bytes.ofText "HTTP/1.")
  let b ← byte (fun b => b = 0x30 || b = 0x31) .version
  return if b = 0x31 then .v11 else .v10

/-- The rest of a line with a field: its name, a colon, and its value without the white space
around it. -/
def field : Scanner Fault Field := do
  let name ← run isToken
  let _ ← byte (fun b => b = colon && !name.isEmpty) .field
  let value ← run isValueByte
  lineEnd .field
  return ⟨name, trim value⟩

/-- A field, or the empty line behind the last one. -/
def field? : Scanner Fault (Option Field) := fun s =>
  match s with
  | [] => .more
  | b :: _ =>
    if b = cr || b = lf then (do lineEnd .field; return none : Scanner Fault (Option Field)) s
    else (some <$> field) s

/-- The fields up to the empty line, if there are not too many. -/
def fields : (room : Nat) → Scanner Fault (List Field)
  | 0 => do
    match ← field? with
    | none => return []
    | some _ => refuse .headTooLarge
  | room + 1 => do
    match ← field? with
    | none => return []
    | some f => return f :: (← fields room)

def head : Scanner Fault Head := do
  skipBlankLines
  let m ← method
  let t ← target
  let v ← version
  lineEnd .field
  let fs ← fields maxFields
  return ⟨m, t, v, fs⟩

end Scanner

end CannedReply.Http
