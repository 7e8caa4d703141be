import CannedReply.Proofs.Server.Result

/-!
Handlers come to their end. Once a client sends no more, it is certain what its exchange comes to,
and one reading is all that is left for its handler to do.
-/

namespace CannedReply.Server

open Http

variable {s t u : State} {l : Label} {ls later : List Label} {c : Nat} {f : Feed} {o : Outcome}

namespace Feed

theorem pieces_of_ended (ended : f.ended = true) : f.pieces = f.handed ++ [⟨f.unread, true⟩] := by
  simp [pieces, ended]

/-- An exchange is over with all that a client sends, wherever that stops and however it is cut. -/
theorem closed_of_ended (ended : f.ended = true) :
    ∃ o, Exchange.start.receiveEach f.pieces = .closed o := by
  rw [pieces_of_ended ended, Exchange.receiveEach_append]
  exact Exchange.exists_receive_eq_closed _ f.unread

/-- Behind the end of its client nothing makes a difference to an exchange. -/
theorem pieces_after_end (ended : f.ended = true) (c : Nat) (l : Label) :
    Exchange.start.receiveEach (f.after c l).pieces = Exchange.start.receiveEach f.pieces := by
  obtain others | ⟨bytes, rfl⟩ | rfl | rfl | rfl := l.concerns_cases c
  · rw [after_of_others others]
  · simp [after, pieces, ended]
  · simp [after, pieces, ended]
  · simp [after, pieces, ended]
  · exact pieces_handle c (.inr ended)

theorem ended_behind_end (ended : endedBy c ls = true) (later : List Label) :
    (Feed.of c (ls ++ later)).ended = true := by
  rw [(carries_of c _).ended, endedBy_append, ended, Bool.true_or]

theorem pieces_behind_end (ended : endedBy c ls = true) (later : List Label) :
    Exchange.start.receiveEach (Feed.of c (ls ++ later)).pieces =
      Exchange.start.receiveEach (Feed.of c ls).pieces := by
  induction later using List.reverseRecOn with
  | nil => rw [List.append_nil]
  | append_singleton later l ih =>
    rw [← List.append_assoc, of_append c (ls ++ later) [l]]
    exact (pieces_after_end (ended_behind_end ended later) c l).trans ih

end Feed

namespace State.Feeds

variable {x : Connection}

/-- A handler with nothing left to do has returned, if its client has ended. -/
theorem returned_of_idle (hf : s.Feeds c f) (hx : s.connection? c = some x)
    (whole : Exchange.start.receiveEach f.pieces = .closed o)
    (idle : s.step (.handle c) = none) : s.Returned c o := by
  refine State.returned_of_connection hx ?_
  rw [hf.exchange hx, ← hf.pieces_of_idle hx idle, whole]

/-- And one that has something to do returns with it, whatever the exchange comes to, and touches
nothing but its own connection. -/
theorem returned_of_handled (hf : s.Feeds c f) (hx : s.connection? c = some x)
    (ended : f.ended = true) (whole : Exchange.start.receiveEach f.pieces = .closed o)
    (reads : s.step (.handle c) = some t) : (∃ k, t = s.put c k) ∧ t.Returned c o := by
  obtain ⟨k, known, attached⟩ := State.client_of_connection hx
  simp only [Feeds, known, attached] at hf
  obtain ⟨unread, ended', exchange⟩ := hf
  cases happens_of_step reads with
  | @handled _ k' x' known' attached' going arrived =>
    obtain rfl : k = k' := Option.some.inj (known.symm.trans known')
    obtain rfl : x = x' := Standing.accepted.inj (attached.symm.trans attached')
    refine ⟨⟨_, rfl⟩, State.returned_of_connection
      (x := x.receive k.unread k.ended) (by simp [State.connection?]) ?_⟩
    rw [Feed.pieces_of_ended ended, Exchange.receiveEach_append, ← exchange] at whole
    rw [Connection.receive, unread, ended', ended]
    exact whole

end State.Feeds

namespace WellFormed

/-- A server with one client comes to its result by what it and the handler of the client do, if
the handler returns with the next reading at the latest. -/
theorem ends (w : WellFormed s) (once : s.mode = .once) (client : c ∈ s.accepted)
    (idle : s.step (.handle c) = none → s.Returned c o)
    (reads : ∀ t, s.step (.handle c) = some t → (∃ k, t = s.put c k) ∧ t.Returned c o) :
    ∃ own t, (∀ l ∈ own, l = .handle c ∨ l = .stopListening ∨ l = .report) ∧
      s.steps own = some t ∧ t.result? = some (.ok 1) := by
  cases next : s.step (.handle c) with
  | none =>
    obtain ⟨own, t, servers, run, result⟩ := w.reports once client (idle next).outcome
    exact ⟨own, t, fun l hl => .inr (servers l hl), run, result⟩
  | some t =>
    obtain ⟨⟨k, rfl⟩, returned⟩ := reads t next
    have wt := w.step (happens_of_step next)
    obtain ⟨own, u, servers, run, result⟩ :=
      wt.reports (by simpa using once) (by simpa using client) returned.outcome
    refine ⟨.handle c :: own, u, ?_, by simpa [State.steps, next] using run, result⟩
    simp only [List.mem_cons, forall_eq_or_imp, true_or, true_and]
    exact fun l hl => .inr (servers l hl)

end WellFormed

/-- As soon as a client sends no more, it is certain what its exchange comes to, whatever it has
sent and however that was cut. From then on its handler has returned with that, all is written and
the connection is closed, as soon as the handler has nothing left to do. One reading at most is left
before, which returns at once, and leaves all but the connection of the client as it was, however
the exchange ends. So a server with this client as its only one comes to its result by what it and
the handler do. -/
theorem handlers_return_when_clients_end {mode : AcceptMode} {address : SocketAddress}
    {ids : IdSource} {c : Nat} {ls : List Label}
    (run : (State.start mode address ids).steps ls = some s) (ended : endedBy c ls = true) :
    ∃ o, Exchange.start.receiveEach (Feed.of c ls).pieces = .closed o ∧
      ∀ later u, s.steps later = some u → u.Attached c →
        (u.step (.handle c) = none → u.Returned c o) ∧
        (∀ t, u.step (.handle c) = some t → (∃ k, t = u.put c k) ∧ t.Returned c o) ∧
        (mode = .once → c ∈ u.accepted →
          (u.Settled → u.result? = some (.ok 1)) ∧
          ∃ own t, (∀ l ∈ own, l = .handle c ∨ l = .stopListening ∨ l = .report) ∧
            u.steps own = some t ∧ t.result? = some (.ok 1)) := by
  obtain ⟨o, whole⟩ := Feed.closed_of_ended ((Feed.carries_of c ls).ended.trans ended)
  refine ⟨o, whole, fun later u rest attached => ?_⟩
  have all : (State.start mode address ids).steps (ls ++ later) = some u := by
    rw [State.steps_append, run]
    exact rest
  have w := WellFormed.of_run all
  have hf := State.feeds_of_run all c
  obtain ⟨x, hx⟩ := (w.attached_iff c).1 attached
  rw [← Feed.pieces_behind_end ended later] at whole
  have idle := hf.returned_of_idle hx whole
  have reads := fun t =>
    hf.returned_of_handled (t := t) hx (Feed.ended_behind_end ended later) whole
  refine ⟨idle, reads, fun once client => ⟨fun settled => ?_, ?_⟩⟩
  · have finished := (idle (settled (.handle c) rfl)).outcome
    exact w.result_of_settled ((State.mode_steps all).trans once) settled client finished
  · exact w.ends ((State.mode_steps all).trans once) client idle reads

/-- A client sends an empty line and goes, before anybody has accepted it. -/
theorem handler_returns_from_an_empty_line :
    let address : SocketAddress := .v4 (.ofNat 0x7f000001) 5000
    let ls : List Label := [.connect 0 address, .send 0 [0x0d, 0x0a], .close 0]
    ∃ s u t own v, (State.start .once address .fresh).steps ls = some s ∧ endedBy 0 ls = true ∧
      s.steps [.run, .accept] = some u ∧ u.step (.handle 0) = some t ∧ t.Returned 0 .unasked ∧
      u.steps own = some v ∧ v.result? = some (.ok 1) := by
  intro address ls
  obtain ⟨o, whole, later⟩ := handlers_return_when_clients_end (c := 0)
    (show (State.start .once address .fresh).steps ls = some _ from rfl) rfl
  have nothing : Exchange.start.receiveEach (Feed.of 0 ls).pieces = .closed .unasked := by
    decide +kernel
  obtain rfl : Outcome.unasked = o := Exchange.closed.inj (nothing.symm.trans whole)
  obtain ⟨-, reads, ends⟩ := later [.run, .accept] _ rfl (.inl (by decide))
  obtain ⟨-, own, v, -, run, result⟩ := ends rfl (by decide)
  exact ⟨_, _, _, own, v, rfl, rfl, rfl, rfl, (reads _ rfl).2, run, result⟩

end CannedReply.Server
