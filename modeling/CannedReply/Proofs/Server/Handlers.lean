import CannedReply.Proofs.Server.WellFormed
import CannedReply.Server.History

/-!
Handlers and the numbers of their connections: each client gets at most one handler, and the
numbers are handed out in the order in which the handlers begin.
-/

namespace CannedReply.Server

variable {s t u : State} {l : Label} {ls : List Label}

/-- What a connection keeps while its exchange goes on. -/
def State.HasConnection (s : State) (c : Nat) (id : ConnectionId) (peer : SocketAddress) : Prop :=
  ∃ x, s.connection? c = some x ∧ x.id = id ∧ x.peer = peer

theorem State.begun_of_happens (h : Happens s l u) (ls : List Label) :
    s.begun (l :: ls) = s.begins l ++ u.begun ls := by
  simp [State.begun, step_of_happens h]

namespace WellFormed

/-- A connection keeps its number and its peer. -/
theorem hasConnection_step (w : WellFormed s) (h : Happens s l t) {c : Nat} {id : ConnectionId}
    {peer : SocketAddress} (hc : s.HasConnection c id peer) : t.HasConnection c id peer := by
  obtain ⟨x, hx, hid, hp⟩ := hc
  rcases w.connection_step h hx with ht | ⟨-, -, k, -, ht⟩
  · exact ⟨x, ht, hid, hp⟩
  · exact ⟨_, ht, hid, hp⟩

theorem hasConnection_steps (w : WellFormed s) (run : s.steps ls = some t) {c : Nat}
    {id : ConnectionId} {peer : SocketAddress} (hc : s.HasConnection c id peer) :
    t.HasConnection c id peer :=
  steps_keep (P := fun u => u.HasConnection c id peer) (fun w h => w.hasConnection_step h) w run hc

/-- A step begins a handler for a client that had none, with the next number, or it begins no
handler and hands out no number. -/
theorem begins_step (w : WellFormed s) (h : Happens s l t) :
    s.begins l = [] ∧ t.ids = s.ids ∧ (∀ d, t.Attached d ↔ s.Attached d) ∨
    ∃ c peer, s.begins l = [c] ∧ t.ids = s.ids.take.2 ∧ ¬s.Attached c ∧
      t.HasConnection c s.ids.take.1 peer ∧ ∀ d, t.Attached d ↔ d = c ∨ s.Attached d := by
  cases h with
  | @adopted c a new =>
    refine .inr ⟨c, a, rfl, rfl, w.not_attached new, ⟨.accepted s.ids.take.1 a, ?_, rfl, rfl⟩, ?_⟩
    · simp [State.connection?_eq_some_iff, State.standing?]
    · intro d
      simp only [State.Attached, State.attach_frame, List.mem_append, List.mem_singleton]
      tauto
  | @acceptedOnly c rest k accepting able first _ _
  | @acceptedNext c rest k accepting able first _ _ =>
    have waits : c ∈ s.backlog := by simp [first]
    refine .inr ⟨c, k.address, by simp [State.begins, able, first], rfl,
      w.waiting_not_attached c waits, ⟨.accepted s.ids.take.1 k.address, ?_, rfl, rfl⟩, ?_⟩
    · simp [State.connection?_eq_some_iff, State.standing?]
    · intro d
      simp only [State.Attached, State.attach_frame, List.mem_append, List.mem_singleton]
      tauto
  | failed _ short =>
    left
    unfold State.failToAccept
    cases s.mode <;> simp [State.begins, short, State.Attached]
  | hindered _ =>
    left
    unfold State.failToAccept
    cases s.mode <;> simp [State.begins, State.Attached]
  | refused _ _ | queued _ _ _ | sent _ | finished _ | closed _ | handled _ _ _ _ | started _
  | abandoned _ | stoppedListening _ | resumed _ _ | reported _ _ | descriptorsSet | passed =>
    exact .inl ⟨rfl, rfl, fun d => Iff.rfl⟩

theorem not_attached_of_begun (w : WellFormed s) (run : s.steps ls = some t) {c : Nat}
    (hc : c ∈ s.begun ls) : ¬s.Attached c := by
  induction ls generalizing s with
  | nil => simp [State.begun] at hc
  | cons l ls ih =>
    obtain ⟨u, first, rest⟩ := State.steps_cons_eq_some_iff.1 run
    rw [State.begun_of_happens first] at hc
    rcases w.begins_step first with ⟨hb, -, same⟩ | ⟨d, -, hb, -, hn, -, same⟩
    · rw [hb, List.nil_append] at hc
      rw [← same]
      exact ih (w.step first) rest hc
    · rw [hb, List.singleton_append, List.mem_cons] at hc
      rcases hc with rfl | hc
      · exact hn
      · intro attached
        exact ih (w.step first) rest hc ((same c).2 (.inr attached))

/-- No client gets a second handler. -/
theorem begun_nodup (w : WellFormed s) (run : s.steps ls = some t) : (s.begun ls).Nodup := by
  induction ls generalizing s with
  | nil => exact List.nodup_nil
  | cons l ls ih =>
    obtain ⟨u, first, rest⟩ := State.steps_cons_eq_some_iff.1 run
    have wu := w.step first
    rw [State.begun_of_happens first]
    rcases w.begins_step first with ⟨hb, -, -⟩ | ⟨d, -, hb, -, -, -, same⟩
    · rw [hb]
      exact ih wu rest
    · rw [hb, List.singleton_append, List.nodup_cons]
      refine ⟨?_, ih wu rest⟩
      intro again
      exact wu.not_attached_of_begun rest again ((same d).2 (.inl rfl))

theorem attached_steps_iff (w : WellFormed s) (run : s.steps ls = some t) (c : Nat) :
    t.Attached c ↔ c ∈ s.begun ls ∨ s.Attached c := by
  induction ls generalizing s with
  | nil =>
    rw [← Option.some.inj run]
    simp [State.begun]
  | cons l ls ih =>
    obtain ⟨u, first, rest⟩ := State.steps_cons_eq_some_iff.1 run
    rw [ih (w.step first) rest, State.begun_of_happens first, List.mem_append]
    rcases w.begins_step first with ⟨hb, -, same⟩ | ⟨d, -, hb, -, -, -, same⟩
    · rw [hb, same]
      simp
    · rw [hb, same, List.mem_singleton]
      tauto

/-- The numbers of the connections go up by one from handler to handler. -/
theorem begun_id (w : WellFormed s) (run : s.steps ls = some t) {i c : Nat}
    (hc : (s.begun ls)[i]? = some c) :
    ∃ peer, t.HasConnection c ⟨s.ids.next + UInt64.ofNat i⟩ peer := by
  induction ls generalizing s i with
  | nil => simp [State.begun] at hc
  | cons l ls ih =>
    obtain ⟨u, first, rest⟩ := State.steps_cons_eq_some_iff.1 run
    have wu := w.step first
    rw [State.begun_of_happens first] at hc
    rcases w.begins_step first with ⟨hb, hids, -⟩ | ⟨d, peer, hb, hids, -, hd, -⟩
    · rw [hb, List.nil_append] at hc
      rw [← hids]
      exact ih wu rest hc
    · rw [hb, List.singleton_append] at hc
      cases i with
      | zero =>
        obtain rfl : d = c := by simpa using hc
        exact ⟨peer, by simpa [IdSource.take] using wu.hasConnection_steps rest hd⟩
      | succ i =>
        rw [List.getElem?_cons_succ] at hc
        obtain ⟨p, hp⟩ := ih wu rest hc
        refine ⟨p, ?_⟩
        have next : u.ids.next + UInt64.ofNat i = s.ids.next + UInt64.ofNat (i + 1) := by
          rw [hids, UInt64.ofNat_add, UInt64.add_comm (UInt64.ofNat i), ← UInt64.add_assoc]
          rfl
        rw [← next]
        exact hp

end WellFormed

end CannedReply.Server
