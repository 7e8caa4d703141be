import CannedReply.Http.Head

/-!
Bodies of requests: how a head says where its body ends, and when a body ends with the bytes that
have arrived. What stands in a body is never looked at.
-/

namespace CannedReply.Http

/-- Where a body ends: behind a number of bytes, or behind a chunk without any. -/
inductive Extent where
  | sized (length : Nat)
  | chunked
  deriving DecidableEq, Repr

/-- What the fields that have been looked at say about the body. -/
structure Framing where
  encoded : Bool
  chunked : Bool
  length : Option Nat
  waits : Bool
  deriving DecidableEq, Repr

namespace Framing

/-- The longest body that a length may announce. -/
def maxLength : Nat := UInt64.size - 3

def start : Framing := ⟨false, false, none, false⟩

/-- The number of 64 bits that bytes spell with digits alone. -/
def decimal? (b : Bytes) : Option Nat :=
  let n := b.foldl (fun n d => 10 * n + (d.toNat - 0x30)) 0
  if !b.isEmpty && b.all isDigit && n < UInt64.size then some n else none

/-- Whether the last coding in a list of codings is the one in chunks. -/
def endsChunked (value : Bytes) : Bool :=
  let comma : UInt8 := 0x2c
  let last := (value.reverse.takeWhile (· ≠ comma)).reverse
  value.all (· < 0x80) && (trim last |> Bytes.spells "chunked")

/-- What is known with one more field. A length counts only in front of a coding, and lengths have
to agree. -/
def see (version : Version) (f : Framing) (field : Field) : Except Fault Framing :=
  if Bytes.spells "transfer-encoding" field.name then
    if version = .v11 then .ok { f with encoded := true, chunked := endsChunked field.value }
    else .error .unexpectedTransferEncoding
  else if Bytes.spells "content-length" field.name then
    if f.encoded then .ok f
    else
      match decimal? field.value, f.length with
      | none, _ => .error .contentLength
      | some n, some m => if n = m then .ok f else .error .contentLength
      | some n, none =>
        if n ≤ maxLength then .ok { f with length := some n } else .error .headTooLarge
  else if Bytes.spells "expect" field.name then
    .ok { f with waits := Bytes.spells "100-continue" field.value }
  else .ok f

/-- What all fields say. A coding has to end in chunks. -/
def ofFields (version : Version) (fields : List Field) : Except Fault Framing := do
  let f ← fields.foldlM (see version) start
  if f.encoded && !f.chunked then throw .transferEncoding
  return f

def extent (f : Framing) : Extent :=
  if f.encoded then .chunked else .sized (f.length.getD 0)

end Framing

/-- A request whose head has arrived, where its body ends, and whether the client sends the body
only when it is asked to. -/
structure Arrival where
  request : Request
  extent : Extent
  waits : Bool
  deriving DecidableEq, Repr

def Head.limits (h : Head) : Except Fault Unit := do
  if maxTargetLength < h.target.length then throw .targetTooLong
  if h.fields.any fun f => maxNameLength < f.name.length then throw .headTooLarge

def Head.arrival (h : Head) : Except Fault Arrival := do
  let target ← (Target.read h.target).mapError fun _ => .target
  let framing ← Framing.ofFields h.version h.fields
  return {
    request := { method := h.method, target, version := h.version, fields := h.fields }
    extent := framing.extent
    waits := framing.waits && h.version = .v11 && framing.extent ≠ .sized 0 }

/-- The longest extension of a chunk, in bytes. -/
def maxExtension : Nat := 16383

/-- Whether the bytes are one chunk without content and nothing else. -/
def isLastChunk (s : Bytes) : Bool :=
  let digits := s.takeWhile (· = 0x30)
  let rest := (s.drop digits.length).dropWhile isBlankByte
  let rest := if rest.head? = some 0x3b then
      let extension := (rest.drop 1).takeWhile fun b => b ≠ cr && b ≠ lf
      if extension.length ≤ maxExtension then (rest.drop 1).drop extension.length else []
    else rest
  !digits.isEmpty && rest = [cr, lf, cr, lf]

/-- Whether a body ends exactly with the bytes at hand: those read together with the head, and
those that can still be read, at most `room` at once. A sized body is taken in one piece. -/
def Arrival.endsWith (a : Arrival) (rest unread : Bytes) (room : Nat) : Bool :=
  match a.extent with
  | .sized n =>
    if a.waits then false
    else (rest.length = n && unread.isEmpty) || (rest.isEmpty && unread.length = n && n ≤ room)
  | .chunked => !a.waits && isLastChunk (rest ++ unread)

end CannedReply.Http
