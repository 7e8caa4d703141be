import CannedReply.Proofs.Http.Pieces

/-!
Clients that stop sending behind their request. A client that stops once its request has been read
gets its answer. One that stops together with the last bytes of its request is taken for gone, and
gets nothing, if nothing was left of what it sent when all of the request had been read; anything
more, or anything missing, gets it the answer.
-/

namespace CannedReply.Http

variable {a : Arrival} {i : Intake} {looked : Nat}

/-- Whether bytes are all that is read of a body before the answer is written: a body of some
length, or of a body in chunks the last one, which has no content. -/
def Extent.isUsedUp : Extent → Bytes → Bool
  | sized n, behind => behind.length = n
  | chunked, behind => isLastChunk behind

/-- Whether nothing is left of the bytes behind a head when the answer is about to be written. A
body that the client wants to be asked for is not read before that. -/
def Arrival.UsesUp (a : Arrival) (behind : Bytes) : Prop :=
  a.waits = false ∧ a.extent.isUsedUp behind = true

instance (a : Arrival) (behind : Bytes) : Decidable (a.UsesUp behind) :=
  inferInstanceAs (Decidable (_ ∧ _))

namespace Arrival

theorem usesUp_of_endsWith {rest behind : Bytes} {room : Nat}
    (ends : a.endsWith rest behind room = true) : a.UsesUp (rest ++ behind) := by
  unfold endsWith at ends
  unfold UsesUp
  cases extent : a.extent with
  | sized n =>
    simp only [extent] at ends
    split at ends
    · cases ends
    · next asks =>
      simp only [Bool.or_eq_true, Bool.and_eq_true, decide_eq_true_eq, List.isEmpty_iff] at ends
      refine ⟨eq_false_of_ne_true asks, ?_⟩
      rcases ends with ⟨all, rfl⟩ | ⟨⟨rfl, all⟩, -⟩
      · simpa [Extent.isUsedUp] using all
      · simpa [Extent.isUsedUp] using all
  | chunked =>
    simp only [extent, Bool.and_eq_true, Bool.not_eq_true'] at ends
    exact ends

/-- Where all has been read together with the head, or there is no body, that is just when the
request is lost. -/
theorem endsWith_of_usesUp {rest behind : Bytes} {room : Nat} (uses : a.UsesUp (rest ++ behind))
    (all : behind = [] ∨ a.extent = .sized 0) : a.endsWith rest behind room = true := by
  unfold endsWith
  obtain ⟨asks, uses⟩ := uses
  cases extent : a.extent with
  | sized n =>
    simp only [extent, Extent.isUsedUp, List.length_append, decide_eq_true_eq, Extent.sized.injEq]
      at uses all
    rcases all with rfl | rfl
    · simpa [asks] using .inl uses
    · have none' : rest = [] ∧ behind = [] := by
        simp only [← List.length_eq_zero_iff]
        omega
      simp [asks, none']
  | chunked =>
    simp only [extent, Extent.isUsedUp] at uses
    simp [asks, uses]

end Arrival

namespace Exchange

/-- What a client has sent has all been read by an exchange that goes on. -/
theorem Awaits.all {e : Exchange} {sent : Bytes} (h : e.Awaits sent) (pieces : List Bytes) :
    (e.receiveAll pieces).Awaits (sent ++ pieces.flatten) ∨
      ∃ o, e.receiveAll pieces = .closed o := by
  induction pieces generalizing e sent with
  | nil =>
    rw [List.flatten_nil, List.append_nil]
    exact .inl h
  | cons p pieces ih =>
    rw [List.flatten_cons, ← List.append_assoc]
    rcases h.receive p with waits | ⟨o, -, -, past, -⟩
    · exact ih waits
    · right
      refine ⟨o, ?_⟩
      change (e.receive p false).receiveAll pieces = _
      rw [past]
      exact receiveAll_closed o pieces

/-- What becomes of a request whose client stops sending with the last bytes of it, where the
exchange has not been over before these bytes came. -/
theorem Awaits.ends {e : Exchange} {sent last : Bytes} {r : Request} (h : e.Awaits sent)
    (asked : e.receive last false = .closed (.answered r)) :
    ∃ a behind, look (sent ++ last) = .arrived a behind ∧ a.request = r ∧
      (e.receive last true = .closed (.answered r) ∨
        a.UsesUp behind ∧ e.receive last true = .closed .cutShort) ∧
      (a.UsesUp behind → a.extent = .sized 0 ∨ last.length ≤ leastAsk →
        e.receive last true = .closed .cutShort) := by
  obtain ⟨i, looked, rfl, rfl, -, waits⟩ := h
  obtain ⟨a, rest, behind, room, found, rfl, ended, all⟩ := settle_of_answered asked
  change settle i looked last true = _ at ended
  refine ⟨a, rest ++ behind, found, rfl, ?_, ?_⟩
  · change settle i looked last true = _ ∨ _ ∧ settle i looked last true = _
    rw [ended]
    unfold Arrival.outcome
    split
    · next ends =>
      exact .inr ⟨Arrival.usesUp_of_endsWith (Bool.and_eq_true_iff.1 ends).2, rfl⟩
    · exact .inl rfl
  · intro uses fits
    change settle i looked last true = _
    have lost : a.endsWith rest behind room = true := by
      refine Arrival.endsWith_of_usesUp uses ?_
      rcases fits with bodiless | short
      · exact .inr bodiless
      · exact .inl (all (.inr ⟨waits, short⟩))
    rw [ended, Arrival.outcome, lost]
    rfl

/-- A request of which the client lets the server read the last piece before it stops sending is
answered whatever comes later. If the client stops with the last piece, the answer is the same
where the request was answered without that piece. Otherwise it is lost only if what has been sent
behind the head is used up before the answer; and it is lost then, if no body was announced or one
read can take the last piece. -/
theorem end_behind_the_request {earlier : List Bytes} {last : Bytes} {r : Request}
    (asked : (start.receiveAll (earlier ++ [last])).outcome? = some (.answered r)) :
    (∀ later, (start.receiveAll (earlier ++ [last])).receiveEach later = .closed (.answered r)) ∧
    ((start.receiveAll earlier).outcome? = some (.answered r) ∧
      (start.receiveAll earlier).receive last true = .closed (.answered r) ∨
    ∃ a behind, (start.receiveAll earlier).outcome? = none ∧
      look (earlier.flatten ++ last) = .arrived a behind ∧ a.request = r ∧
      ((start.receiveAll earlier).receive last true = .closed (.answered r) ∨
        a.UsesUp behind ∧ (start.receiveAll earlier).receive last true = .closed .cutShort) ∧
      (a.UsesUp behind → a.extent = .sized 0 ∨ last.length ≤ leastAsk →
        (start.receiveAll earlier).receive last true = .closed .cutShort)) := by
  have asked := eq_closed_of_outcome asked
  have split : start.receiveAll (earlier ++ [last]) =
      (start.receiveAll earlier).receive last false := by
    simp [receiveAll]
  constructor
  · intro later
    rw [asked, receiveEach_closed]
  · rw [split] at asked
    rcases awaits_start.all earlier with waits | ⟨o, past⟩
    · obtain ⟨a, behind, rest⟩ := waits.ends asked
      exact .inr ⟨a, behind, waits.silent.1, rest⟩
    · left
      rw [past] at asked ⊢
      rw [show closed o = closed (.answered r) from asked]
      exact ⟨rfl, rfl⟩

/-- A request without a body, cut in two, of which the client sends the second part and stops. -/
theorem end_behind_the_second_part :
    let first := Bytes.ofText "GET / HTTP/1.1\r\nHo"
    let second := Bytes.ofText "st: h\r\n\r\n"
    (∃ r, (start.receiveAll [first, second]).outcome? = some (.answered r)) ∧
    (start.receiveAll [first]).receive second true = .closed .cutShort := by
  intro first second
  obtain ⟨r, asked⟩ := answered_of_ok (e := start.receiveAll ([first] ++ [second]))
    (by decide +kernel)
  refine ⟨⟨r, asked⟩, ?_⟩
  have waits : (start.receiveAll [first]).outcome? = none := by decide +kernel
  rcases (end_behind_the_request asked).2 with ⟨past, -⟩ | ⟨a, behind, -, found, -, -, lost⟩
  · rw [waits] at past
    cases past
  · have uses : (match look ([first].flatten ++ second) with
        | .arrived a behind => decide (a.UsesUp behind)
        | _ => false) = true := by decide +kernel
    rw [found] at uses
    exact lost (of_decide_eq_true uses) (.inr (by decide))

/-- A request gets its answer if the client stops sending once the request has been read, and also
if it stops at once but has sent one byte more. If it stops at once behind the request, it gets
nothing, and this is reported as a request that was cut short. -/
theorem whole_request_without_answer :
    let request := Bytes.ofText "GET / HTTP/1.1\r\n\r\n"
    (∃ r, (start.receiveEach [⟨request, false⟩, ⟨[], true⟩]).outcome? = some (.answered r)) ∧
    (∃ r, (start.receiveEach [⟨request ++ [lf], true⟩]).outcome? = some (.answered r)) ∧
    (start.receiveEach [⟨request, true⟩]).outcome? = some .cutShort ∧
    ∀ date, (start.receiveEach [⟨request, true⟩]).written date = [] := by
  intro request
  have lost : (start.receiveEach [⟨request, true⟩]).outcome? = some .cutShort := by decide +kernel
  refine ⟨answered_of_ok (by decide +kernel), answered_of_ok (by decide +kernel), lost, ?_⟩
  intro date
  simp [written, lost, Outcome.response?]

end Exchange

end CannedReply.Http
