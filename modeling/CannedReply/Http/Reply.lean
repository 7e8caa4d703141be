import CannedReply.Http.Request

/-!
The canned reply: whatever is asked, the answer is a success with ten equal bytes and no fields of
its own.
-/

namespace CannedReply.Http

/-- The outcome that a response tells. -/
inductive Status where
  | ok
  | badRequest
  | targetTooLong
  | headTooLarge
  deriving DecidableEq, Repr

namespace Status

def code : Status → Nat
  | ok => 200
  | badRequest => 400
  | targetTooLong => 414
  | headTooLarge => 431

def phrase : Status → String
  | ok => "OK"
  | badRequest => "Bad Request"
  | targetTooLong => "URI Too Long"
  | headTooLarge => "Request Header Fields Too Large"

end Status

/-- An answer, before it is decided how it goes over the connection. -/
structure Reply where
  status : Status
  version : Version
  fields : List Field
  body : Bytes
  deriving DecidableEq, Repr

def cannedByte : UInt8 := 0x58

def cannedLength : Nat := 10

def cannedBody : Bytes :=
  List.replicate cannedLength cannedByte

def reply (_request : Request) : Reply :=
  { status := .ok, version := .v11, fields := [], body := cannedBody }

end CannedReply.Http
