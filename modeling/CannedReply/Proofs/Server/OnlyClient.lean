import CannedReply.Proofs.Server.Order

/-!
A server that takes one client takes the first that comes, and nobody else gets anything from it.
-/

namespace CannedReply.Server

variable {s t u : State} {l : Label} {ls : List Label}

namespace State

theorem isClosed_of_gone {c : Nat} {g : Standing} (gone : g = .refused ∨ g = .dropped)
    (hc : s.standing? c = some g) : s.isClosed c = true := by
  obtain ⟨⟨a, g, unread, ended⟩, hk, rfl⟩ := Option.map_eq_some_iff.1 hc
  unfold isClosed
  rw [hk]
  rcases gone with rfl | rfl <;> rfl

theorem written_of_no_connection {c : Nat} (none' : s.connection? c = none) (date : String) :
    s.written c date = [] := by
  simp [written, received?, outcome?, none']

theorem written_of_gone {c : Nat} {g : Standing} (gone : g = .refused ∨ g = .dropped)
    (hc : s.standing? c = some g) (date : String) : s.written c date = [] := by
  apply written_of_no_connection
  rw [Option.eq_none_iff_forall_ne_some]
  intro x hx
  rw [connection?_eq_some_iff, hc] at hx
  rcases gone with rfl | rfl <;> simp at hx

/-- Where nobody listens, a client that connects is refused. -/
theorem refused_of_deaf (deaf : s.isListening = false) {c : Nat} {a : SocketAddress}
    (h : Happens s (.connect c a) t) : t.standing? c = some .refused := by
  cases h with
  | refused _ _ => simp
  | queued _ listens _ => simp [deaf] at listens

/-- Whoever connects to a server that does not listen has been refused ever since. -/
theorem refused_steps (w : WellFormed s) (deaf : s.isListening = false)
    (run : s.steps ls = some t) {c : Nat} {a : SocketAddress} (came : .connect c a ∈ ls) :
    t.standing? c = some .refused := by
  obtain ⟨as, bs, rfl⟩ := List.append_of_mem came
  rw [steps_append, Option.bind_eq_some_iff] at run
  obtain ⟨u, before, run⟩ := run
  obtain ⟨v, knock, after⟩ := steps_cons_eq_some_iff.1 run
  have wu : WellFormed u := w.steps before
  exact (wu.step knock).gone_steps after (.inl rfl) (refused_of_deaf (deaf_steps before deaf) knock)

end State

namespace WellFormed

theorem written_of_not_attached (w : WellFormed s) {c : Nat} (hc : ¬s.Attached c)
    (date : String) : s.written c date = [] :=
  State.written_of_no_connection (w.connection_of_not_attached hc) date

/-- When the server stops listening, those who wait are dropped. -/
theorem dropped_of_stop (w : WellFormed s) (stop : Happens s .stopListening t) :
    t.isListening = false ∧ t.accepted = s.accepted ∧
    ∀ c ∈ s.backlog, t.standing? c = some .dropped := by
  cases stop with
  | stoppedListening _ =>
    refine ⟨rfl, rfl, ?_⟩
    intro c hc
    obtain ⟨k, hk, -⟩ := Option.map_eq_some_iff.1 ((w.waiting_iff c).1 hc)
    simp [State.standing?, State.dropBacklog, hc, hk]

theorem accepted_of_once (w : WellFormed s) (once : s.mode = .once) :
    s.accepted = [] ∨ ∃ c, s.accepted = [c] := by
  have fits := w.phase_fits
  unfold State.PhaseFits at fits
  rw [once] at fits
  cases hp : s.phase with
  | bound | accepting | abandoned =>
    rw [hp] at fits
    exact .inl fits
  | pausing =>
    rw [hp] at fits
    exact fits.elim
  | closing c | awaiting c =>
    rw [hp] at fits
    exact .inr ⟨c, fits⟩
  | finished result =>
    rw [hp] at fits
    cases result with
    | error e => exact .inl fits.1
    | ok n =>
      obtain ⟨-, c, -, hc, -⟩ := fits
      exact .inr ⟨c, hc⟩

/-- Once the server has done all that it can, it does not listen behind its only client. -/
theorem deaf_of_settled (w : WellFormed s) (once : s.mode = .once) (settled : s.Settled)
    (some' : s.accepted ≠ []) : s.isListening = false := by
  have fits := w.phase_fits
  unfold State.PhaseFits at fits
  cases hp : s.phase with
  | bound | accepting => simp [once, hp, some'] at fits
  | pausing => simp [once, hp] at fits
  | closing c =>
    have stuck := settled .stopListening rfl
    rw [step_of_happens (.stoppedListening hp)] at stuck
    simp at stuck
  | awaiting | finished | abandoned => simp [State.isListening, hp]

end WellFormed

/-- A server that takes one client accepts the first that comes, if any, and nobody else gets a
byte from it. From the end of its listening on, whoever waited is dropped, and whoever comes is
refused, whatever the accepted client does meanwhile. -/
theorem once_serves_the_first_only {address : SocketAddress} {ids : IdSource}
    (run : (State.start .once address ids).steps ls = some s) :
    (s.accepted = [] ∨
      ∃ c, s.accepted = [c] ∧ ((State.start .once address ids).joined ls).head? = some c) ∧
    (∀ c date, ¬s.Attached c → s.written c date = []) ∧
    (s.Settled → s.descriptors = true → s.phase = .accepting →
      (State.start .once address ids).joined ls = []) ∧
    (s.Settled → s.accepted ≠ [] → s.isListening = false) ∧
    ∀ t later u, s.step .stopListening = some t → t.steps later = some u →
      u.isListening = false ∧ u.accepted = s.accepted ∧
      (∀ c ∈ s.backlog, u.standing? c = some .dropped ∧ u.isClosed c = true ∧
        ∀ date, u.written c date = []) ∧
      (∀ c a, .connect c a ∈ later → u.standing? c = some .refused ∧ u.isClosed c = true ∧
        ∀ date, u.written c date = []) ∧
      ∀ c a, u.clients c = none →
        ∃ v, u.step (.connect c a) = some v ∧ v.standing? c = some .refused := by
  have w := WellFormed.of_run run
  have once : s.mode = .once := State.mode_steps run
  have first : s.accepted <+: (State.start .once address ids).joined ls := by
    simpa [State.start] using (WellFormed.start .once address ids).accepted_are_first run
  refine ⟨?_, fun c date hc => w.written_of_not_attached hc date, ?_,
    fun settled some' => w.deaf_of_settled once settled some', ?_⟩
  · rcases w.accepted_of_once once with none' | ⟨c, hc⟩
    · exact .inl none'
    · right
      obtain ⟨behind, hb⟩ := first
      exact ⟨c, hc, by rw [← hb, hc]; rfl⟩
  · intro settled able accepting
    have order := State.order_steps run (by simp [State.isListening, accepting])
    have fits := w.phase_fits
    unfold State.PhaseFits at fits
    rw [once, accepting] at fits
    rw [w.backlog_of_settled settled able accepting, fits] at order
    simpa [State.start] using order.symm
  · intro t later u stop rest
    have close := happens_of_step stop
    have wt := w.step close
    obtain ⟨deaf, same, dropped⟩ := w.dropped_of_stop close
    have deaf' := State.deaf_steps rest deaf
    refine ⟨deaf', (State.accepted_steps_of_deaf rest deaf).trans same, ?_, ?_, ?_⟩
    · intro c hc
      have gone := wt.gone_steps rest (.inr rfl) (dropped c hc)
      exact ⟨gone, State.isClosed_of_gone (.inr rfl) gone, State.written_of_gone (.inr rfl) gone⟩
    · intro c a came
      have gone := State.refused_steps wt deaf rest came
      exact ⟨gone, State.isClosed_of_gone (.inl rfl) gone, State.written_of_gone (.inl rfl) gone⟩
    · intro c a new
      have knock : Happens u (.connect c a) _ := .refused new deaf'
      exact ⟨_, step_of_happens knock, State.refused_of_deaf deaf' knock⟩

/-- The first of three clients has gone away when it is accepted. The two others are dropped, and a
fourth one is refused while the handler of the first still waits for a request. -/
theorem once_serves_the_first_of_four :
    let address : SocketAddress := .v4 (.ofNat 0x7f000001) 5000
    ∃ s t u,
      (State.start .once address .fresh).steps
        [.connect 0 address, .connect 1 address, .close 0, .run, .accept, .connect 2 address]
          = some s ∧
      s.step .stopListening = some t ∧ t.steps [.send 1 [0x47], .connect 3 address] = some u ∧
      u.accepted = [0] ∧ u.outcome? 0 = none ∧ u.standing? 1 = some .dropped ∧
      u.standing? 2 = some .dropped ∧ u.standing? 3 = some .refused ∧ u.written 2 "" = [] := by
  intro address
  refine ⟨_, _, _, rfl, rfl, rfl, ?_⟩
  have h := once_serves_the_first_only (show (State.start .once address .fresh).steps
    [.connect 0 address, .connect 1 address, .close 0, .run, .accept, .connect 2 address]
      = some _ from rfl)
  obtain ⟨-, same, dropped, refused, -⟩ := h.2.2.2.2 _ [.send 1 [0x47], .connect 3 address] _ rfl rfl
  have two := dropped 2 (by decide)
  exact ⟨same, rfl, (dropped 1 (by decide)).1, two.1, (refused 3 address (by simp)).1, two.2.2 ""⟩

end CannedReply.Server
