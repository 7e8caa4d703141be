import CannedReply.Http.Body
import CannedReply.Http.Response

/-!
Responses as clients read them: where an answer ends depends on its status, on what it says about
itself, and on the method that was asked with.
-/

namespace CannedReply.Http

/-- A response that has been read. -/
structure Answer where
  version : Version
  code : Nat
  fields : List Field
  body : Bytes
  deriving DecidableEq, Repr

namespace Scanner

/-- The number of a status: three digits. -/
def code : Scanner Fault Nat := do
  let a ← byte isDigit .version
  let b ← byte isDigit .version
  let c ← byte isDigit .version
  return 100 * (a.toNat - 0x30) + 10 * (b.toNat - 0x30) + (c.toNat - 0x30)

/-- The first line of a response: version, number, and the outcome in words. -/
def statusLine : Scanner Fault (Version × Nat) := do
  let v ← version
  token .version [space]
  let n ← code
  token .version [space]
  let _ ← run isValueByte
  lineEnd .version
  return (v, n)

/-- All of a response but its body. -/
def answerHead : Scanner Fault (Version × Nat × List Field) := do
  let (v, n) ← statusLine
  let fs ← fields maxFields
  return (v, n, fs)

end Scanner

namespace Answer

/-- Whether an answer has no body, whatever it says about itself. -/
def isBare (method : Bytes) (code : Nat) : Bool :=
  method = Bytes.ofText "HEAD" || code / 100 = 1 || code = 204 || code = 304
    || (method = Bytes.ofText "CONNECT" && code / 100 = 2)

/-- The values of the fields with a name. -/
def values (name : String) (fields : List Field) : List Bytes :=
  (fields.filter fun f => Bytes.spells name f.name).map Field.value

/-- The body, and what follows it. Without a length the body is all that comes. A body in chunks
cannot be read. -/
def body? (method : Bytes) (code : Nat) (fields : List Field) (s : Bytes) :
    Option (Bytes × Bytes) :=
  if isBare method code then some ([], s)
  else if !(values "transfer-encoding" fields).isEmpty then none
  else
    match values "content-length" fields with
    | [] => some (s, [])
    | value :: others => do
      let n ← Framing.decimal? value
      if others.all (· = value) && n ≤ s.length then some (s.take n, s.drop n) else none

/-- The first answer among the bytes, if it is complete, and what follows it. -/
def read? (method : Bytes) (s : Bytes) : Option (Answer × Bytes) :=
  match Scanner.answerHead s with
  | .done (v, n, fs) rest => do
    let (body, rest) ← body? method n fs rest
    return (⟨v, n, fs, body⟩, rest)
  | _ => none

/-- All the answers that the bytes consist of, if they are nothing but complete answers. -/
def all? (method : Bytes) (s : Bytes) : Option (List Answer) :=
  if s.isEmpty then some []
  else
    match read? method s with
    | none => none
    | some (a, rest) =>
      if rest.length < s.length then (all? method rest).map (a :: ·) else none
termination_by s.length

example :
    (all? [] (Bytes.ofText "HTTP/1.1 100 Go on\r\n\r\nHTTP/1.1 204 Done\r\n\r\n")).map List.length
      = some 2 := by decide +kernel
example : all? [] (Bytes.ofText "HTTP/1.0 200 OK\r\ncontent-length: 2\r\n\r\nX") = none := by
  decide +kernel

/-- Whether the bytes are one complete success, with the canned body if the method wants one. -/
def IsCanned (method s : Bytes) : Prop :=
  ∃ a, all? method s = some [a] ∧ a.code = 200 ∧
    a.body = if method = Bytes.ofText "HEAD" ∨ method = Bytes.ofText "CONNECT" then []
      else cannedBody

/-- Whether the bytes are one complete refusal without a body, whatever was asked with. -/
def IsRefusal (s : Bytes) : Prop :=
  ∃ code ∈ [400, 414, 431], ∀ method, ∃ a, all? method s = some [a] ∧ a.code = code ∧ a.body = [] ∧
    values "content-length" a.fields = [Bytes.ofText "0"]

end Answer

end CannedReply.Http
