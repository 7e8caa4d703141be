import CannedReply.Proofs.Server.Feeds

/-!
What a client gets depends on nothing but what that client does, and on when its handler reads:
whatever the others do, in either mode, and also with a connection that comes from elsewhere.
-/

namespace CannedReply.Server

open Http

variable {s t u : State} {l : Label} {ls as bs : List Label} {c : Nat} {f : Feed} {o : Outcome}

namespace State

theorem client_of_connection {x : Connection} (hx : s.connection? c = some x) :
    ∃ k, s.clients c = some k ∧ k.standing = .accepted x :=
  Option.map_eq_some_iff.1 (connection?_eq_some_iff.1 hx)

theorem answersAs_of_connection {x : Connection} (hx : s.connection? c = some x) :
    s.AnswersAs c x.exchange := by
  constructor
  · intro date
    cases ho : x.exchange.outcome? <;>
      simp [written, received?, outcome?, hx, Connection.outcome?, Exchange.written, ho]
  · obtain ⟨⟨a, g, unread, ended⟩, hk, rfl⟩ := client_of_connection hx
    simp [isClosed, hk, Connection.outcome?]

/-- Whether the handler of a client has returned with what the exchange came to: it has nothing
left to do, the client has got all of its answer, and the connection is closed. -/
structure Returned (s : State) (c : Nat) (o : Outcome) : Prop where
  idle : s.step (.handle c) = none
  outcome : s.outcome? c = some o
  answers : s.AnswersAs c (.closed o)
  closed : s.isClosed c = true

theorem returned_of_connection {x : Connection} (hx : s.connection? c = some x)
    (finished : x.exchange = .closed o) : s.Returned c o := by
  have outcome : x.outcome? = some o := by simp [Connection.outcome?, finished, Exchange.outcome?]
  have answers : s.AnswersAs c (.closed o) := finished ▸ answersAs_of_connection hx
  refine ⟨?_, by simp [outcome?, hx, outcome], answers, answers.2⟩
  obtain ⟨k, known, attached⟩ := client_of_connection hx
  simp [step, handle, known, attached, outcome]

theorem handle_of_all_read {k : Client} (hk : s.clients c = some k) (unread : k.unread = [])
    (ended : k.ended = false) : s.step (.handle c) = none := by
  simp only [step, handle, hk]
  cases k.standing <;> simp [unread, ended]

/-- The exchange of a connection has come as far as what its handler was handed brings it. -/
theorem Feeds.exchange (hf : s.Feeds c f) {x : Connection} (hx : s.connection? c = some x) :
    x.exchange = Exchange.start.receiveEach f.handed := by
  obtain ⟨k, hk, hs⟩ := client_of_connection hx
  simp only [Feeds, hk, hs] at hf
  exact hf.2.2

/-- A client without a handler has been handed nothing. -/
theorem Feeds.handed_of_no_connection (hf : s.Feeds c f) (none' : s.connection? c = none) :
    f.handed = [] := by
  unfold Feeds at hf
  cases hk : s.clients c with
  | none =>
    rw [hk] at hf
    rw [hf]
    rfl
  | some k =>
    obtain ⟨a, g, unread, ended⟩ := k
    rw [hk] at hf
    cases g with
    | accepted x => simp [connection?, hk] at none'
    | refused | waiting | dropped => exact hf.2.2

/-- A handler that has nothing to do has been handed all, or its exchange is over. -/
theorem Feeds.idle (hf : s.Feeds c f) {x : Connection} (hx : s.connection? c = some x)
    (stuck : s.step (.handle c) = none) :
    (∃ o, Exchange.start.receiveEach f.handed = .closed o) ∨ f.unread = [] ∧ f.ended = false := by
  rw [← hf.exchange hx]
  obtain ⟨k, hk, hs⟩ := client_of_connection hx
  simp only [Feeds, hk, hs] at hf
  obtain ⟨unread, ended, -⟩ := hf
  rw [← unread, ← ended]
  simp only [step, handle, hk, hs, ite_eq_left_iff, reduceCtorEq, imp_false, not_not] at stuck
  cases he : x.exchange with
  | closed o => exact .inl ⟨o, rfl⟩
  | reading i looked =>
    right
    simpa [Connection.outcome?, he, Exchange.outcome?] using stuck

/-- Then the piece that waits, if any, changes nothing any more. -/
theorem Feeds.pieces_of_idle (hf : s.Feeds c f) {x : Connection} (hx : s.connection? c = some x)
    (stuck : s.step (.handle c) = none) :
    Exchange.start.receiveEach f.pieces = Exchange.start.receiveEach f.handed := by
  rcases hf.idle hx stuck with ⟨o, closed⟩ | ⟨unread, ended⟩
  · rw [Feed.pieces, Exchange.receiveEach_append, closed, Exchange.receiveEach_closed]
  · simp [Feed.pieces, unread, ended]

end State

/-- Handing over what waits is no news for the exchange with all pieces. -/
theorem Feed.pieces_handle (c : Nat) (h : f.unread ≠ [] ∨ f.ended = true) :
    Exchange.start.receiveEach (f.after c (.handle c)).pieces =
      Exchange.start.receiveEach f.pieces := by
  have pending : f.pieces = f.handed ++ [⟨f.unread, f.ended⟩] := by
    rcases h with h | h <;> simp [Feed.pieces, h]
  have handed : (f.after c (.handle c)).handed = f.pieces := by simp [Feed.after, pending]
  cases he : f.ended with
  | false =>
    rw [Feed.pieces, handed]
    simp [Feed.after, he]
  | true =>
    -- the end stays behind as a piece of its own, which finds the exchange over
    rw [Feed.pieces, handed, Exchange.receiveEach_append, pending, Exchange.receiveEach_append]
    obtain ⟨o, closed⟩ :=
      Exchange.exists_receive_eq_closed (Exchange.start.receiveEach f.handed) f.unread
    have last : (Exchange.start.receiveEach f.handed).receiveEach [⟨f.unread, f.ended⟩]
        = .closed o := by
      rw [he]
      exact closed
    rw [last, Exchange.receiveEach_closed]

theorem Feed.ended_after (f : Feed) (c : Nat) (l : Label) :
    (f.after c l).ended = (f.ended || l.isEndOf c) := by
  obtain others | ⟨bytes, rfl⟩ | rfl | rfl | rfl := l.concerns_cases c
  · rw [after_of_others others, Label.isEndOf_of_others others, Bool.or_false]
  all_goals simp [Feed.after, Label.isEndOf]

theorem Feed.handed_of_own (f : Feed) (own : l.isOf c = true) :
    (f.after c l).handed = f.handed := by
  cases l <;> simp_all [Label.isOf, Label.isEndOf, Feed.after]

/-- What a client does when its handler has been handed all makes a piece. -/
theorem Feed.pieces_of_own (own : l.isOf c = true) (unread : f.unread = [])
    (ended : f.ended = false) : (f.after c l).pieces = f.handed ++ l.cut c f.ended := by
  cases l <;>
    simp_all [Label.isOf, Label.isEndOf, Label.bytesOf, Label.cut, Feed.after, Feed.pieces]

/-- Where the handler has read all when its client does something, the exchange gets what the
client does as a piece of its own. -/
theorem State.Feeds.cut (hf : s.Feeds c f) (h : Happens s l t) {x : Connection}
    (hx : s.connection? c = some x) (prompt : l.isOf c = true → s.step (.handle c) = none) :
    Exchange.start.receiveEach (f.after c l).pieces =
      (Exchange.start.receiveEach f.pieces).receiveEach (l.cut c f.ended) := by
  cases own : l.isOf c with
  | true =>
    have stuck := prompt own
    rw [hf.pieces_of_idle hx stuck]
    rcases hf.idle hx stuck with ⟨o, closed⟩ | ⟨unread, ended⟩
    · rw [Feed.pieces, f.handed_of_own own, Exchange.receiveEach_append, closed,
        Exchange.receiveEach_closed, Exchange.receiveEach_closed]
    · rw [Feed.pieces_of_own own unread ended, Exchange.receiveEach_append]
  | false =>
    have none' : l.cut c f.ended = [] := by
      cases l <;> simp_all [Label.cut, Label.isOf, Label.isEndOf, Label.bytesOf]
    rw [none']
    cases handles : l.concerns c with
    | false => rw [Feed.after_of_others handles]; rfl
    | true =>
      obtain rfl : l = .handle c := by cases l <;> simp_all [Label.concerns]
      cases h with
      | handled known _ _ arrived =>
        simp only [State.Feeds, known] at hf
        obtain ⟨unread, ended, -⟩ := hf
        rw [unread, ended] at arrived
        exact Feed.pieces_handle c arrived

theorem WellFormed.cut_steps (w : WellFormed s) (hf : s.Feeds c f) {x : Connection}
    (hx : s.connection? c = some x) (run : s.steps ls = some t) (prompt : s.Prompt c ls) :
    Exchange.start.receiveEach (ls.foldl (Feed.after c) f).pieces =
      (Exchange.start.receiveEach f.pieces).receiveEach (cutBy c f.ended ls) := by
  induction ls generalizing s f x with
  | nil => rfl
  | cons l ls ih =>
    obtain ⟨u, first, rest⟩ := State.steps_cons_eq_some_iff.1 run
    have hu : ∃ y, u.connection? c = some y := by
      rcases w.connection_step first hx with hy | ⟨-, -, k, -, hy⟩
      · exact ⟨x, hy⟩
      · exact ⟨_, hy⟩
    obtain ⟨y, hy⟩ := hu
    have later : u.Prompt c ls := by
      intro as l' bs v split before own
      refine prompt (l :: as) l' bs v (by rw [split]; rfl) ?_ own
      exact State.steps_cons_eq_some_iff.2 ⟨u, first, before⟩
    rw [List.foldl_cons, ih (w.step first) (first.feeds w hf) hy rest later,
      hf.cut first hx (prompt [] l ls s rfl rfl), Feed.ended_after, cutBy,
      Exchange.receiveEach_append]

/-- Without a step of its handler, a client has been handed nothing. -/
theorem Feed.handed_of_no_handle (h : .handle c ∉ ls) : (Feed.of c ls).handed = [] := by
  induction ls using List.reverseRecOn with
  | nil => rfl
  | append_singleton ls l ih =>
    simp only [List.mem_append, List.mem_singleton, not_or] at h
    have before := ih h.1
    rw [of_append, List.foldl_cons, List.foldl_nil]
    obtain others | ⟨bytes, rfl⟩ | rfl | rfl | rfl := l.concerns_cases c
    · rw [after_of_others others, before]
    · simpa [Feed.after] using before
    · simpa [Feed.after] using before
    · simpa [Feed.after] using before
    · exact absurd rfl h.2

theorem Feed.leads_of_no_handle (as bs : List Label) (handed : (Feed.of c as).handed = []) :
    (Feed.of c (as ++ bs)).Leads (sentBy c as) (endedBy c as) := by
  have carries := Feed.carries_of c as
  induction bs using List.reverseRecOn with
  | nil =>
    rw [List.append_nil, leads_nil handed, ← carries.data, handed, ← carries.ended]
    exact ⟨List.prefix_rfl, id⟩
  | append_singleton bs l ih =>
    rw [← List.append_assoc, of_append]
    exact ih.after l

/-- Being handed nothing yet is the same as being handed no bytes. -/
theorem Feed.pieces_of_no_handle {sent : Bytes} {ended : Bool} (h : f.Carries sent ended)
    (handed : f.handed = []) :
    Exchange.start.receiveEach f.pieces = Exchange.start.receiveEach [⟨sent, ended⟩] := by
  obtain ⟨rfl, rfl, -⟩ := h
  have nothing : Exchange.start.receive [] false = Exchange.start := by
    simp [Exchange.start, Exchange.receive, Exchange.settle, lookAgain, look]
    rfl
  rw [Feed.pieces, handed]
  split
  · next none' =>
    simp only [Bool.and_eq_true, List.isEmpty_iff, Bool.not_eq_true'] at none'
    rw [none'.1, none'.2]
    exact nothing.symm
  · rfl

/-- A client with a handler gets what one exchange gives that has the connection for itself, for
just the bytes and the end that this client has sent. What it sent before it had its handler comes
in one piece, and what it sends later to a handler that has read all comes as it is sent. What the
others do, the mode, and where the connection comes from do not matter. -/
theorem each_client_is_served_alone {mode : AcceptMode} {address : SocketAddress} {ids : IdSource}
    (run : (State.start mode address ids).steps ls = some s) (attached : s.Attached c) :
    ((Feed.of c ls).pieces.flatMap Delivery.data = sentBy c ls ∧
      (Feed.of c ls).pieces.any Delivery.ended = endedBy c ls) ∧
    (s.Settled → s.AnswersAs c (Exchange.start.receiveEach (Feed.of c ls).pieces)) ∧
    (∀ as bs u, ls = as ++ bs → (State.start mode address ids).steps as = some u →
      ¬u.Attached c → ∀ d, (Feed.of c ls).pieces.head? = some d →
        sentBy c as <+: d.data ∧ (endedBy c as = true → d.ended = true)) ∧
    (∀ as bs u, ls = as ++ bs → (State.start mode address ids).steps as = some u →
      u.Attached c → .handle c ∉ as → u.Prompt c bs → s.Settled →
        s.AnswersAs c (Exchange.start.receiveEach
          (⟨sentBy c as, endedBy c as⟩ :: cutBy c (endedBy c as) bs))) ∧
    ∀ mode' address' ids' ls' t, (State.start mode' address' ids').steps ls' = some t →
      t.Attached c → ls'.filter (Label.concerns c) = ls.filter (Label.concerns c) →
        (∀ date, t.written c date = s.written c date) ∧ t.isClosed c = s.isClosed c := by
  have w := WellFormed.of_run run
  have hf := State.feeds_of_run run c
  obtain ⟨x, hx⟩ := (w.attached_iff c).1 attached
  have settle : s.Settled →
      s.AnswersAs c (Exchange.start.receiveEach (Feed.of c ls).pieces) := by
    intro settled
    rw [hf.pieces_of_idle hx (settled (.handle c) rfl), ← hf.exchange hx]
    exact State.answersAs_of_connection hx
  refine ⟨(Feed.carries_of c ls).pieces, settle, ?_, ?_, ?_⟩
  · rintro as bs u rfl before new d first
    have none' := (WellFormed.of_run before).connection_of_not_attached new
    have handed := (State.feeds_of_run before c).handed_of_no_connection none'
    exact (Feed.leads_of_no_handle as bs handed).head first
  · rintro as bs u rfl before early none' prompt settled
    have wu := WellFormed.of_run before
    have hu := State.feeds_of_run before c
    have carries := Feed.carries_of c as
    obtain ⟨y, hy⟩ := (wu.attached_iff c).1 early
    have rest : u.steps bs = some s := by
      rw [State.steps_append, before] at run
      exact run
    have all := wu.cut_steps hu hy rest prompt
    rw [← Feed.of_append, carries.ended,
      Feed.pieces_of_no_handle carries (Feed.handed_of_no_handle none')] at all
    have answers := settle settled
    rw [all] at answers
    exact answers
  · intro mode' address' ids' ls' t run' attached' same
    have wt := WellFormed.of_run run'
    have ht := State.feeds_of_run run' c
    obtain ⟨y, hy⟩ := (wt.attached_iff c).1 attached'
    have feed : Feed.of c ls' = Feed.of c ls := by
      rw [← Feed.of_filter, same, Feed.of_filter]
    have exchange : y.exchange = x.exchange := by rw [ht.exchange hy, hf.exchange hx, feed]
    have here := State.answersAs_of_connection hx
    have there := State.answersAs_of_connection hy
    rw [exchange] at there
    exact ⟨fun date => (there.1 date).trans (here.1 date).symm, there.2.trans here.2.symm⟩

/-- One client sends half a request to a server that takes many, where another client has sent what
is no request. It gets what it gets from a server that takes only this client. -/
theorem served_alike_beside_another_client :
    let address : SocketAddress := .v4 (.ofNat 0x7f000001) 5000
    let crowd : List Label :=
      [.connect 1 address, .connect 0 address, .run, .accept, .send 1 [0x00], .handle 1,
        .send 0 [0x47], .accept, .handle 0]
    let alone : List Label := [.connect 0 address, .run, .accept, .send 0 [0x47], .handle 0]
    ∃ s t,
      (State.start .forever address .fresh).steps crowd = some s ∧
      (State.start .once address .fresh).steps alone = some t ∧ s.Settled ∧
      s.AnswersAs 0 (Exchange.start.receiveEach [⟨[0x47], false⟩]) ∧
      (∀ date, t.written 0 date = s.written 0 date) ∧ t.isClosed 0 = s.isClosed 0 := by
  intro address crowd alone
  let s := ((State.start .forever address .fresh).steps crowd).get rfl
  let t := ((State.start .once address .fresh).steps alone).get rfl
  have settled : s.Settled := by
    intro l due
    cases l with
    | accept => exact absurd due (by decide)
    | handle c =>
      rcases c with _ | _ | c
      · exact State.handle_of_all_read rfl rfl rfl
      · exact State.handle_of_all_read rfl rfl rfl
      · rfl
    | stopListening | resume | report => rfl
    | _ => simp [State.isDue, Label.isServers] at due
  have h := each_client_is_served_alone
    (show (State.start .forever address .fresh).steps crowd = some s from rfl)
    (show s.Attached 0 from .inl (by decide))
  obtain ⟨-, answers, -, -, alike⟩ := h
  exact ⟨s, t, rfl, rfl, settled, answers settled,
    alike .once address .fresh alone t rfl (.inl (by decide)) rfl⟩

end CannedReply.Server
