import CannedReply.Proofs.Http.Wire
import CannedReply.Proofs.Outcome

/-!
One exchange, one answer: whatever arrives, and however it is cut, what is written is nothing or
one complete answer, and a success only to a request that has arrived.
-/

namespace CannedReply.Http

variable {s rest : Bytes} {a : Arrival} {h : Head}

theorem Intake.buffer_take (i : Intake) (read : Bytes) :
    (i.take read).buffer = i.buffer ++ read := by
  unfold Intake.take
  split
  · rfl
  · split
    · rfl
    · split <;> rfl

/-- What is in the buffer and what is still unread make up the same bytes after a read. -/
theorem Intake.buffer_take_append_drop (i : Intake) (unread : Bytes) (n : Nat) :
    (i.take (unread.take n)).buffer ++ unread.drop n = i.buffer ++ unread := by
  rw [buffer_take, List.append_assoc, List.take_append_drop]

theorem Scanner.version_eq_done {v : Version} (found : Scanner.version s = .done v rest) :
    v = .v10 ∨ v = .v11 := by
  obtain ⟨_, _, _, found⟩ := bind_eq_done_iff.1 found
  obtain ⟨b, _, _, found⟩ := bind_eq_done_iff.1 found
  cases found
  split
  · exact .inr rfl
  · exact .inl rfl

/-- Where a head has been read, so have its method and its version. -/
theorem Scanner.parts_of_head (found : Scanner.head s = .done h rest) :
    (∃ u v, Scanner.method u = .done h.method v) ∧
      ∃ u v, Scanner.version u = .done h.version v := by
  obtain ⟨_, _, _, found⟩ := bind_eq_done_iff.1 found
  obtain ⟨m, _, method, found⟩ := bind_eq_done_iff.1 found
  obtain ⟨t, _, _, found⟩ := bind_eq_done_iff.1 found
  obtain ⟨v, _, version, found⟩ := bind_eq_done_iff.1 found
  obtain ⟨_, _, _, found⟩ := bind_eq_done_iff.1 found
  obtain ⟨fs, _, _, found⟩ := bind_eq_done_iff.1 found
  cases found
  exact ⟨⟨_, _, method⟩, _, _, version⟩

theorem Scanner.head_version (found : Scanner.head s = .done h rest) :
    h.version = .v10 ∨ h.version = .v11 := by
  obtain ⟨-, _, _, version⟩ := parts_of_head found
  exact version_eq_done version

/-- The request that a head makes has the method and the version of the head, and the target that
is read there. -/
theorem Head.request_of_arrival (found : h.arrival = .ok a) :
    a.request.method = h.method ∧ a.request.version = h.version ∧
      Target.read h.target = .ok a.request.target := by
  unfold Head.arrival at found
  obtain ⟨t, target, found⟩ := then_eq_ok_iff.1 found
  obtain ⟨f, -, found⟩ := then_eq_ok_iff.1 found
  cases found
  exact ⟨rfl, rfl, mapError_eq_ok_iff.1 target⟩

/-- A request is there where its head has been read and says nothing that is refused. -/
theorem look_eq_arrived_iff :
    look s = .arrived a rest ↔
      ∃ h, Scanner.head s = .done h rest ∧ h.limits = .ok () ∧ h.arrival = .ok a := by
  unfold look
  cases scan : Scanner.head s with
  | more => simp
  | fault => simp
  | done h behind =>
    cases limits : h.limits with
    | error => simp [limits]
    | ok =>
      cases arrival : h.arrival with
      | error => simp [limits, arrival]
      | ok a' =>
        simp only [limits, arrival, Look.arrived.injEq, Scan.done.injEq]
        constructor
        · rintro ⟨rfl, rfl⟩
          exact ⟨h, ⟨rfl, rfl⟩, limits, arrival⟩
        · rintro ⟨h', ⟨rfl, rfl⟩, -, same⟩
          rw [arrival] at same
          exact ⟨Except.ok.inj same, rfl⟩

/-- Only a whole head makes a request. -/
theorem head_of_look (found : look s = .arrived a rest) :
    ∃ h, Scanner.head s = .done h rest ∧ h.arrival = .ok a := by
  obtain ⟨h, whole, -, arrival⟩ := look_eq_arrived_iff.1 found
  exact ⟨h, whole, arrival⟩

theorem look_of_lookAgain {looked : Nat} (found : lookAgain s looked = .arrived a rest) :
    look s = .arrived a rest := by
  unfold lookAgain at found
  split at found
  · cases found
  · exact found

/-- How far an exchange has come with the bytes that a client has sent: it has read them all, or it
has answered the request that they begin with, or it has come to another end. -/
def Exchange.StemsFrom (sent : Bytes) : Exchange → Prop
  | .reading i _ => i.buffer = sent
  | .closed (.answered r) => ∃ h rest, Scanner.head sent = .done h rest ∧ r.method = h.method ∧
      r.version = h.version
  | .closed _ => True

/-- What is refused is not answered. -/
theorem refuse_ne_answered (f : Fault) (left : Bytes) (r : Request) :
    refuse f left ≠ .answered r := by
  intro same
  unfold refuse at same
  split at same <;> cases same

/-- What is given up is not answered. -/
theorem giveUp_ne_answered (left : Bytes) (r : Request) : giveUp left ≠ .answered r := by
  intro same
  unfold giveUp at same
  split at same
  · cases same
  · split at same <;> cases same

namespace Exchange

/-- An outcome that is no answer stems from any bytes. -/
theorem StemsFrom.of_ne_answered {o : Outcome} (other : ∀ r, o ≠ .answered r) (sent : Bytes) :
    (closed o).StemsFrom sent := by
  cases o with
  | answered r => exact absurd rfl (other r)
  | refused | otherProtocol | cutShort | unasked => trivial

/-- What has been found at the front of the bytes is still found when more have come. -/
theorem stemsFrom_arrived (found : look s = .arrived a rest) (more unread : Bytes) (ended : Bool)
    (room : Nat) : (closed (a.outcome rest unread ended room)).StemsFrom (s ++ more) := by
  obtain ⟨h, whole, arrival⟩ := head_of_look found
  unfold Arrival.outcome
  split
  · trivial
  · obtain ⟨method, version, -⟩ := Head.request_of_arrival arrival
    exact ⟨h, _, Scanner.Stable.head.done whole more, method, version⟩

theorem stemsFrom_settle (i : Intake) (looked : Nat) (unread : Bytes) (ended : Bool) :
    (settle i looked unread ended).StemsFrom (i.buffer ++ unread) := by
  fun_induction settle i looked unread ended with
  | case1 i looked unread a rest found =>
    exact stemsFrom_arrived (look_of_lookAgain found) _ _ _ _
  | case2 | case3 => exact .of_ne_answered (refuse_ne_answered _ _) _
  | case4 => exact .of_ne_answered (giveUp_ne_answered _) _
  | case5 => exact (List.append_nil _).symm
  | case6 i looked _ _ b bs _ ih =>
    rw [Intake.buffer_take_append_drop] at ih
    exact ih

theorem StemsFrom.receive {e : Exchange} {sent : Bytes} (he : e.StemsFrom sent) (d : Delivery) :
    (e.receive d.data d.ended).StemsFrom (sent ++ d.data) := by
  cases e with
  | reading i looked =>
    rw [← show i.buffer = sent from he]
    exact stemsFrom_settle i looked d.data d.ended
  | closed o =>
    cases o with
    | answered r =>
      obtain ⟨h, rest, whole, same⟩ := he
      exact ⟨h, _, Scanner.Stable.head.done whole d.data, same⟩
    | refused | otherProtocol | cutShort | unasked => trivial

theorem StemsFrom.receiveEach {e : Exchange} {sent : Bytes} (he : e.StemsFrom sent)
    (ds : List Delivery) :
    (e.receiveEach ds).StemsFrom (sent ++ ds.flatMap Delivery.data) := by
  induction ds generalizing e sent with
  | nil =>
    rw [List.flatMap_nil, List.append_nil]
    exact he
  | cons d ds ih =>
    rw [List.flatMap_cons, ← List.append_assoc]
    exact ih (he.receive d)

theorem stemsFrom_start (ds : List Delivery) :
    (start.receiveEach ds).StemsFrom (ds.flatMap Delivery.data) :=
  StemsFrom.receiveEach (show start.StemsFrom [] from rfl) ds

/-- Whatever a client sends, in whatever pieces, and wherever it stops: it gets nothing, or one
complete success and no error is reported, or one complete refusal and the error is reported. A
success answers the request that came first. Nothing is written before the end, and nothing follows
what has been written, whatever else arrives. -/
theorem writes_one_answer_at_most (ds : List Delivery) (now : Instant) :
    ((start.receiveEach ds).written now.responseText = [] ∨
      (∃ h rest, Scanner.head (ds.flatMap Delivery.data) = .done h rest ∧
        Answer.IsCanned h.method ((start.receiveEach ds).written now.responseText) ∧
        ∃ o, (start.receiveEach ds).outcome? = some o ∧ o.error? = none) ∨
      Answer.IsRefusal ((start.receiveEach ds).written now.responseText) ∧
        ∃ o message, (start.receiveEach ds).outcome? = some o ∧
          o.error? = some ("HTTP connection error: " ++ message)) ∧
    ((start.receiveEach ds).outcome? = none →
      (start.receiveEach ds).written now.responseText = []) ∧
    ∀ more, (start.receiveEach ds).written now.responseText ≠ [] →
      start.receiveEach (ds ++ more) = start.receiveEach ds := by
  have stems := stemsFrom_start ds
  generalize he : start.receiveEach ds = e at stems
  cases e with
  | reading i looked =>
    refine ⟨.inl rfl, fun _ => rfl, ?_⟩
    intro more some'
    exact absurd rfl some'
  | closed o =>
    refine ⟨?_, nofun, ?_⟩
    · cases o with
      | answered r =>
        obtain ⟨h, rest, whole, method, version⟩ := stems
        have canned := Response.isCanned_ofReply (version ▸ Scanner.head_version whole) now
        rw [method] at canned
        exact .inr (.inl ⟨h, rest, whole, canned, _, rfl, rfl⟩)
      | refused f =>
        exact .inr (.inr ⟨Response.isRefusal_refusal f now, _, f.message, rfl, rfl⟩)
      | otherProtocol | cutShort | unasked => exact .inl rfl
    · intro more _
      rw [receiveEach_append, he, receiveEach_closed]

end Exchange

end CannedReply.Http
