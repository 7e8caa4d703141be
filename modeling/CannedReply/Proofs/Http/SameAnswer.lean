import CannedReply.Proofs.Http.Reading

/-!
The answer to a head, to the byte. It is settled by the version of the request and by whether its
method asks for a head alone or for a tunnel; nothing else in the request, and nothing behind it,
makes a difference.
-/

namespace CannedReply.Http

/-- What a method says about the answer. -/
inductive MethodClass where
  | head
  | connect
  | other
  deriving DecidableEq, Repr

def MethodClass.of (method : Bytes) : MethodClass :=
  if method = Bytes.ofText "HEAD" then .head
  else if method = Bytes.ofText "CONNECT" then .connect
  else .other

/-- The answer to a request of a version, with a method of a class. -/
def answerText (version : Version) (asked : MethodClass) (date : String) : String :=
  version.text ++ " 200 OK\r\n"
    ++ (if version = .v11 then "connection: close\r\n" else "")
    ++ (if asked = .connect then "" else "content-length: 10\r\n")
    ++ "date: " ++ date ++ "\r\n\r\n"
    ++ (if asked = .other then "XXXXXXXXXX" else "")

theorem ofText_cannedBody : Bytes.ofText "XXXXXXXXXX" = cannedBody := by decide

theorem decimal_ok : Numeral.decimal Status.ok.code = "200" :=
  Scanner.decimal_code .ok

theorem ofText_lineEnd : Bytes.ofText "\r\n" = [cr, lf] := by decide

theorem Request.isHead_eq (r : Request) :
    r.isHead = decide (MethodClass.of r.method = .head) := by
  simp only [Request.isHead, MethodClass.of]
  split
  · simp_all
  · split <;> simp_all

theorem Request.isConnect_eq (r : Request) :
    r.isConnect = decide (MethodClass.of r.method = .connect) := by
  simp only [Request.isConnect, MethodClass.of]
  split
  · next head => rw [head]; decide
  · split <;> simp_all

namespace Response

theorem fieldLine_textField (name value : String) :
    fieldLine (textField name value) = Bytes.ofText (name ++ ": " ++ value ++ "\r\n") := by
  simp only [fieldLine, textField, Bytes.ofText_append, ofText_lineEnd]

theorem closing_lines (v : Version) :
    (closing v).flatMap fieldLine
      = Bytes.ofText (if v = .v11 then "connection: close\r\n" else "") := by
  cases v <;> decide

theorem length_line :
    fieldLine (lengthField cannedLength) = Bytes.ofText "content-length: 10\r\n" := by
  rw [lengthField, decimal_length.2]
  decide

/-- The reply to a request, byte by byte. -/
theorem bytes_ofReply (request : Request) (date : String) :
    (ofReply request (reply request)).bytes date =
      Bytes.ofText (answerText request.version (.of request.method) date) := by
  have length : (if request.isConnect then [] else [lengthField cannedLength]).flatMap fieldLine
      = Bytes.ofText (if MethodClass.of request.method = .connect then ""
          else "content-length: 10\r\n") := by
    rw [request.isConnect_eq]
    cases MethodClass.of request.method
    · simpa using length_line
    · rfl
    · simpa using length_line
  have body : (if request.isConnect || request.isHead then [] else cannedBody)
      = Bytes.ofText (if MethodClass.of request.method = .other then "XXXXXXXXXX" else "") := by
    rw [request.isConnect_eq, request.isHead_eq]
    cases MethodClass.of request.method
    · rfl
    · rfl
    · exact ofText_cannedBody.symm
  have fields : (ofReply request (reply request)).sentFields date =
      closing request.version ++ (if request.isConnect then [] else [lengthField cannedLength])
        ++ [textField "date" date] := by
    simp [sentFields, ofReply, reply, cannedBody]
  have first : Bytes.ofText (request.version.text ++ " " ++ Numeral.decimal Status.ok.code ++ " "
      ++ Status.ok.phrase) ++ [cr, lf] = Bytes.ofText (request.version.text ++ " 200 OK\r\n") := by
    rw [decimal_ok, ← ofText_lineEnd, ← Bytes.ofText_append]
    cases request.version <;> rfl
  have last : fieldLine (textField "date" date) ++ [cr, lf] =
      Bytes.ofText ("date: " ++ date ++ "\r\n\r\n") := by
    rw [fieldLine_textField, ← ofText_lineEnd, ← Bytes.ofText_append]
    congr 1
    simp only [String.append_assoc]
    rfl
  calc (ofReply request (reply request)).bytes date
      = (Bytes.ofText (request.version.text ++ " " ++ Numeral.decimal Status.ok.code ++ " "
            ++ Status.ok.phrase) ++ [cr, lf])
          ++ ((closing request.version).flatMap fieldLine
            ++ (if request.isConnect then [] else [lengthField cannedLength]).flatMap fieldLine
            ++ (fieldLine (textField "date" date) ++ [cr, lf]))
          ++ (if request.isConnect || request.isHead then [] else cannedBody) := by
        rw [bytes, fields]
        simp [ofReply, reply]
    _ = Bytes.ofText (answerText request.version (.of request.method) date) := by
        rw [first, closing_lines, length, last, body]
        simp only [answerText, Bytes.ofText_append, List.append_assoc]

end Response

namespace Exchange

/-- Whatever request has this head, and whatever comes with it in the same piece or later: it gets
a success in its own version, and nothing goes wrong. Its date apart, the answer depends on nothing
but the version and the class of the method. -/
theorem answer_depends_on_version_and_method_class {head : Bytes} {a : Arrival}
    (whole : IsHead head a) (behind : Bytes) (later : List Delivery) :
    ∃ h, Scanner.head head = .done h [] ∧ (h.version = .v10 ∨ h.version = .v11) ∧
      (∃ o, (start.receiveEach (⟨head ++ behind, false⟩ :: later)).outcome? = some o ∧
        o.error? = none) ∧
      ∀ date, (start.receiveEach (⟨head ++ behind, false⟩ :: later)).written date
        = Bytes.ofText (answerText h.version (.of h.method) date) := by
  obtain ⟨h, scan, arrival⟩ := head_of_look (look_of_readHead whole)
  obtain ⟨method, version, -⟩ := Head.request_of_arrival arrival
  -- the head ends the exchange, and an exchange that has ended takes nothing more
  have closed : start.receiveEach (⟨head ++ behind, false⟩ :: later)
      = .closed (.answered a.request) := by
    have first : start.receive (head ++ behind) false = .closed (.answered a.request) :=
      settle_of_readHead (readHead_append whole behind)
    rw [receiveEach, List.foldl_cons, first]
    exact receiveEach_closed _ later
  refine ⟨h, scan, Scanner.head_version scan, ?_, ?_⟩
  · rw [closed]
    exact ⟨_, rfl, rfl⟩
  · intro date
    rw [closed, ← method, ← version]
    exact Response.bytes_ofReply a.request date

/-- A client that waits to be asked for its body sends it at once, and it is broken. -/
theorem answer_to_a_broken_body :
    let h : Head :=
      { method := Bytes.ofText "POST", target := Bytes.ofText "/a?b#c", version := .v11
        fields := [⟨Bytes.ofText "Expect", Bytes.ofText "100-continue"⟩,
          ⟨Bytes.ofText "Transfer-Encoding", Bytes.ofText "chunked"⟩] }
    ∃ a, IsHead h.bytes a ∧
      (start.receiveEach [⟨h.bytes ++ Bytes.ofText "zz\r\nGET / HTTP/1.1", false⟩]).written "now" =
        Bytes.ofText ("HTTP/1.1 200 OK\r\nconnection: close\r\ncontent-length: 10\r\n"
          ++ "date: now\r\n\r\nXXXXXXXXXX") := by
  intro h
  have plain : h.isPlain = true := by decide +kernel
  have short : h.bytes.length ≤ headLimit := by decide +kernel
  have fine : h.arrival.isOk = true := by decide +kernel
  cases found : h.arrival with
  | error e =>
    rw [found] at fine
    cases fine
  | ok a =>
    have whole : IsHead h.bytes a := isHead_bytes plain rfl found short
    obtain ⟨h', scan, -, -, written⟩ := answer_depends_on_version_and_method_class whole
      (Bytes.ofText "zz\r\nGET / HTTP/1.1") []
    have same : Scanner.head h.bytes = .done h [] := by
      simpa using Scanner.head_bytes plain []
    rw [same] at scan
    cases scan
    exact ⟨a, whole, written "now"⟩

end Exchange

end CannedReply.Http
