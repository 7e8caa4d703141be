import CannedReply.Http.Intake
import CannedReply.Http.Response

/-!
One exchange over a connection: bytes arrive until they make a request or cannot make one any more,
then there is at most one response, and the connection ends. Nothing is answered twice, and nothing
that follows a request is looked at: that connections are not kept alive is no parameter here, but
what an exchange is. Every read and every write succeeds here.
-/

namespace CannedReply.Http

/-- What an exchange came to. -/
inductive Outcome where
  /-- The request got the canned reply. -/
  | answered (request : Request)
  /-- What arrived is no request. -/
  | refused (fault : Fault)
  /-- What arrived opens a connection of the second generation of HTTP. -/
  | otherProtocol
  /-- The client stopped sending when something was still to come. -/
  | cutShort
  /-- The client stopped sending without having asked. -/
  | unasked
  deriving DecidableEq, Repr

/-- The status of the response to what is no request. -/
def Fault.status : Fault → Status
  | targetTooLong => .targetTooLong
  | headTooLarge => .headTooLarge
  | _ => .badRequest

namespace Outcome

/-- The response, if there is one. -/
def response? : Outcome → Option Response
  | answered request => some (.ofReply request (reply request))
  | refused fault => some (.refusal fault.status)
  | otherProtocol | cutShort | unasked => none

/-- What went wrong, in words. -/
def error? : Outcome → Option String
  | answered _ | unasked => none
  | refused fault => some ("HTTP connection error: " ++ fault.message)
  | otherProtocol =>
    some ("HTTP connection error: " ++ Fault.version.message ++ " (found HTTP2 preface)")
  | cutShort => some "HTTP connection error: connection closed before message completed"

end Outcome

/-- What a connection of the second generation of HTTP opens with. -/
def secondGeneration : Bytes :=
  Bytes.ofText "PRI * HTTP/2.0\r\n\r\nSM\r\n\r\n"

/-- Whether an empty line ends a head somewhere in the bytes: two line ends of the same kind. -/
def endsHead : Bytes → Bool
  | cr :: lf :: cr :: lf :: _ => true
  | lf :: lf :: _ => true
  | _ :: rest => endsHead rest
  | [] => false

/-- What the bytes that have been read come to. A fault goes with the bytes that are left. -/
inductive Look where
  | more
  | arrived (arrival : Arrival) (rest : Bytes)
  | faulty (fault : Fault) (left : Bytes)
  deriving DecidableEq, Repr

def look (s : Bytes) : Look :=
  match Scanner.head s with
  | .more => .more
  | .fault f => .faulty f s
  | .done head rest =>
    match head.limits, head.arrival with
    | .error f, _ => .faulty f s
    | .ok (), .error f => .faulty f rest
    | .ok (), .ok a => .arrived a rest

/-- Looks at the bytes that have been read, of which so many were not enough when last looked at.
Then only the end of a head makes it worth while. -/
def lookAgain (s : Bytes) (looked : Nat) : Look :=
  if looked ≠ 0 && !endsHead (s.drop (looked - 3)) then .more else look s

/-- What a request leads to. A client that has stopped sending just behind it counts as gone. -/
def Arrival.outcome (a : Arrival) (rest unread : Bytes) (ended : Bool) (room : Nat) : Outcome :=
  if ended && a.endsWith rest unread room then .cutShort else .answered a.request

def dropLineEnds (s : Bytes) : Bytes :=
  s.dropWhile fun b => b = cr || b = lf

def refuse (f : Fault) (left : Bytes) : Outcome :=
  if secondGeneration.isPrefixOf (dropLineEnds left) then .otherProtocol else .refused f

/-- What it leads to that the client stopped sending before its request was there. -/
def giveUp (left : Bytes) : Outcome :=
  if secondGeneration.isPrefixOf (dropLineEnds left) then .otherProtocol
  else if (dropLineEnds left).isEmpty then .unasked
  else .cutShort

/-- An exchange: bytes are read, or it is over. -/
inductive Exchange where
  | reading (intake : Intake) (looked : Nat)
  | closed (outcome : Outcome)
  deriving DecidableEq, Repr

/-- What a handler is handed at once: bytes that have arrived, and whether no more will. -/
structure Delivery where
  data : Bytes
  ended : Bool
  deriving DecidableEq, Repr

namespace Exchange

def start : Exchange :=
  .reading .empty 0

/-- Reads what can be read, looking at it after each read. -/
def settle (i : Intake) (looked : Nat) (unread : Bytes) (ended : Bool) : Exchange :=
  match lookAgain i.buffer looked with
  | .arrived a rest => .closed (a.outcome rest unread ended i.ask)
  | .faulty f left => .closed (refuse f left)
  | .more =>
    if headLimit ≤ i.buffer.length then .closed (refuse .headTooLarge i.buffer)
    else
      match unread with
      | [] => if ended then .closed (giveUp i.buffer) else .reading i i.buffer.length
      | b :: bs =>
        have := i.room_pos
        settle (i.take ((b :: bs).take i.room)) i.buffer.length ((b :: bs).drop i.room) ended
termination_by unread.length
decreasing_by
  simp only [List.length_drop, List.length_cons]
  omega

/-- The exchange after more bytes have arrived, and perhaps the end of what the client sends. -/
def receive (e : Exchange) (arrived : Bytes) (ended : Bool) : Exchange :=
  match e with
  | .reading i looked => settle i looked arrived ended
  | .closed o => .closed o

/-- What the exchange came to, if it is over. -/
def outcome? : Exchange → Option Outcome
  | .reading _ _ => none
  | .closed o => some o

/-- The exchange with a client that sends pieces, one after the other. -/
def receiveAll (e : Exchange) (pieces : List Bytes) : Exchange :=
  pieces.foldl (fun e piece => e.receive piece false) e

/-- The exchange after deliveries, one after the other. -/
def receiveEach (e : Exchange) (deliveries : List Delivery) : Exchange :=
  deliveries.foldl (fun e d => e.receive d.data d.ended) e

/-- The bytes that have been written, with the date of the response. Nothing is written while
there is something to read. -/
def written (e : Exchange) (date : String) : Bytes :=
  (e.outcome?.bind Outcome.response?).elim [] fun r => r.bytes date

@[simp] theorem receiveEach_closed (o : Outcome) (ds : List Delivery) :
    (closed o).receiveEach ds = closed o := by
  induction ds with
  | nil => rfl
  | cons d ds ih => exact ih

theorem eq_closed_of_outcome {e : Exchange} {o : Outcome} (h : e.outcome? = some o) :
    e = .closed o := by
  cases e with
  | reading => cases h
  | closed o' => rw [show o' = o from Option.some.inj h]

theorem receiveEach_append (e : Exchange) (ds es : List Delivery) :
    e.receiveEach (ds ++ es) = (e.receiveEach ds).receiveEach es :=
  List.foldl_append

/-- Where the client sends no more, an exchange comes to its end. -/
theorem exists_settle_eq_closed (i : Intake) (looked : Nat) (unread : Bytes) {ended : Bool}
    (h : ended = true) : ∃ o, settle i looked unread ended = closed o := by
  fun_induction settle i looked unread ended with
  | case1 => exact ⟨_, rfl⟩
  | case2 => exact ⟨_, rfl⟩
  | case3 => exact ⟨_, rfl⟩
  | case4 => exact ⟨_, rfl⟩
  | case5 => contradiction
  | case6 _ _ _ _ _ _ _ ih => exact ih

theorem exists_receive_eq_closed (e : Exchange) (arrived : Bytes) :
    ∃ o, e.receive arrived true = closed o := by
  cases e with
  | reading i looked => exact exists_settle_eq_closed i looked arrived rfl
  | closed o => exact ⟨o, rfl⟩

end Exchange

end CannedReply.Http
