import CannedReply.Proofs.Server.Independence
import CannedReply.Proofs.Server.OnlyClient

/-!
What a server that takes one client reports, and when. It reports success when the exchange with
its client is over and all that belongs to it has been written, and the failure of its only attempt
to accept; it reports nothing else and nothing before.
-/

namespace CannedReply.Server

open Http

variable {s t u : State} {l : Label} {ls : List Label}

/-- A result stays as it is. -/
theorem Happens.result_stays (h : Happens s l t) {r : Except ListenerError Nat}
    (result : s.result? = some r) : t.result? = some r := by
  unfold State.result? at result ⊢
  cases h with
  | failed phase _ | hindered phase | acceptedOnly phase _ _ _ _ | acceptedNext phase _ _ _ _
  | started phase | abandoned phase | stoppedListening phase | resumed phase _ | reported phase _ =>
    simp [phase] at result
  | refused _ _ | queued _ _ _ | adopted _ | sent _ | finished _ | closed _ | handled _ _ _ _
  | descriptorsSet | passed => exact result

/-- The result is an error where it was one before, or where an attempt to accept fails now. -/
theorem Happens.error_iff (h : Happens s l t) (once : s.mode = .once) (e : ListenerError) :
    t.result? = some (.error e) ↔
      s.result? = some (.error e) ∨ ∃ f, s.failure? l = some f ∧ .accept f = e := by
  unfold State.result?
  cases h with
  | failed phase short => simp [State.failToAccept, once, phase, State.failure?, short]
  | hindered phase => simp [State.failToAccept, once, phase, State.failure?]
  | acceptedOnly phase able _ _ _ | acceptedNext phase able _ _ _ =>
    simp [phase, State.failure?, able]
  | started phase | abandoned phase | stoppedListening phase | resumed phase _
  | reported phase _ => simp [phase, State.failure?]
  | refused _ _ | queued _ _ _ | adopted _ | sent _ | finished _ | closed _ | handled _ _ _ _
  | descriptorsSet | passed => simp [State.failure?]

namespace State

theorem result_steps (run : s.steps ls = some t) {r : Except ListenerError Nat}
    (result : s.result? = some r) : t.result? = some r :=
  steps_keep (P := fun u => u.result? = some r) (fun h => h.result_stays) run result

/-- The result of a run is an error just where an attempt to accept has failed in it, and it is
the failure of that attempt. -/
theorem error_steps_iff (run : s.steps ls = some t) (once : s.mode = .once) (e : ListenerError) :
    t.result? = some (.error e) ↔
      s.result? = some (.error e) ∨ ∃ f, s.failed? ls = some f ∧ .accept f = e := by
  induction ls generalizing s e with
  | nil =>
    rw [← Option.some.inj run]
    simp [failed?]
  | cons l ls ih =>
    obtain ⟨u, first, rest⟩ := steps_cons_eq_some_iff.1 run
    have later : s.failed? (l :: ls) = (s.failure? l).or (u.failed? ls) := by
      simp [failed?, step_of_happens first]
    have all := ih rest (first.mode.trans once)
    rw [all, later]
    cases now : s.failure? l with
    | none => simp [first.error_iff once, now]
    | some f =>
      -- the result of the first failure stays, so that no other one can follow
      have result : t.result? = some (.error (.accept f)) :=
        result_steps rest ((first.error_iff once _).2 (.inr ⟨f, now, rfl⟩))
      have same : ∀ g, u.failed? ls = some g → g = f := by
        intro g found
        have other := (all (.accept g)).2 (.inr ⟨g, found, rfl⟩)
        rw [result] at other
        cases other
        rfl
      rw [first.error_iff once, now, Option.some_or, or_assoc]
      refine or_congr_right ⟨?_, .inl⟩
      rintro (found | ⟨g, found, rfl⟩)
      · exact found
      · exact ⟨f, rfl, congrArg _ (same g found).symm⟩

end State

namespace WellFormed

/-- The exchange with an accepted client is over, and stays as it is. -/
theorem outcome_steps (w : WellFormed s) (run : s.steps ls = some t) {c : Nat} {o : Outcome}
    (finished : s.outcome? c = some o) : t.outcome? c = some o :=
  steps_keep (P := fun u => u.outcome? c = some o) (fun w h => w.outcome_step h) w run finished

/-- Where the exchange with its only client is over, the server has a result, or comes to it by
what it does itself. -/
theorem reports (w : WellFormed s) (once : s.mode = .once) {c : Nat} {o : Outcome}
    (client : c ∈ s.accepted) (finished : s.outcome? c = some o) :
    ∃ own t, (∀ l ∈ own, l = .stopListening ∨ l = .report) ∧ s.steps own = some t ∧
      t.result? = some (.ok 1) := by
  have fits := w.phase_fits
  unfold State.PhaseFits at fits
  rw [once] at fits
  -- with a client accepted, two steps at most are left to the report
  cases hp : s.phase with
  | bound | accepting | abandoned =>
    rw [hp] at fits
    simp [show s.accepted = [] from fits] at client
  | pausing =>
    rw [hp] at fits
    exact fits.elim
  | closing d =>
    rw [hp] at fits
    obtain rfl : c = d := by simpa [show s.accepted = [d] from fits] using client
    have stop : Happens s .stopListening _ := .stoppedListening hp
    have stays := w.outcome_step stop finished
    have report := Happens.reported (s := { s.dropBacklog with phase := .awaiting c }) rfl stays
    have run : s.steps [.stopListening, .report] = some _ :=
      State.steps_cons_eq_some_iff.2 ⟨_, stop, State.steps_cons_eq_some_iff.2 ⟨_, report, rfl⟩⟩
    exact ⟨_, _, by simp, run, rfl⟩
  | awaiting d =>
    rw [hp] at fits
    obtain rfl : c = d := by simpa [show s.accepted = [d] from fits] using client
    have run : s.steps [.report] = some _ :=
      State.steps_cons_eq_some_iff.2 ⟨_, .reported hp finished, rfl⟩
    exact ⟨_, _, by simp, run, rfl⟩
  | finished result =>
    rw [hp] at fits
    cases result with
    | error e => simp [show s.accepted = [] from fits.1] at client
    | ok n =>
      obtain ⟨rfl, -⟩ := fits
      exact ⟨[], s, by simp, rfl, by simp [State.result?, hp]⟩

/-- A server that has done all that it can has its result once the exchange with its client is
over. -/
theorem result_of_settled (w : WellFormed s) (once : s.mode = .once) (settled : s.Settled) {c : Nat}
    {o : Outcome} (client : c ∈ s.accepted) (finished : s.outcome? c = some o) :
    s.result? = some (.ok 1) := by
  obtain ⟨own, t, servers, run, result⟩ := w.reports once client finished
  cases own with
  | nil =>
    rw [Option.some.inj run]
    exact result
  | cons l own =>
    have due : s.isDue l = true := by
      rcases servers l List.mem_cons_self with rfl | rfl <;> rfl
    simp [State.steps, settled l due] at run

/-- Without an accepted client, or while the exchange with it goes on, there is no success. -/
theorem client_of_success (w : WellFormed s) (once : s.mode = .once) {n : Nat}
    (result : s.result? = some (.ok n)) :
    n = 1 ∧ ∃ c o, s.accepted = [c] ∧ s.outcome? c = some o := by
  have fits := w.phase_fits
  unfold State.PhaseFits at fits
  unfold State.result? at result
  cases hp : s.phase <;> simp_all

/-- Where an attempt to accept has failed, nobody is accepted and nobody listens. -/
theorem deaf_of_error (w : WellFormed s) (once : s.mode = .once) {e : ListenerError}
    (result : s.result? = some (.error e)) : s.accepted = [] ∧ s.isListening = false := by
  have fits := w.phase_fits
  unfold State.PhaseFits at fits
  unfold State.result? at result
  cases hp : s.phase <;> simp_all [State.isListening]

end WellFormed

/-- The exchange that is over came to what one gives that has the connection for itself, for what
the client has sent, and the client has got all of that. -/
theorem answersAs_of_outcome {mode : AcceptMode} {address : SocketAddress} {ids : IdSource}
    (run : (State.start mode address ids).steps ls = some s) {c : Nat} {o : Outcome}
    (finished : s.outcome? c = some o) :
    Exchange.start.receiveEach (Feed.of c ls).pieces = .closed o ∧ s.AnswersAs c (.closed o) := by
  have hf := State.feeds_of_run run c
  obtain ⟨x, hx, ho⟩ := Option.bind_eq_some_iff.1 finished
  have closed : x.exchange = .closed o := Exchange.eq_closed_of_outcome ho
  have returned := State.returned_of_connection hx closed
  constructor
  · rw [hf.pieces_of_idle hx returned.idle, ← hf.exchange hx, closed]
  · exact returned.answers

section Once

variable {address : SocketAddress} {ids : IdSource}
  (run : (State.start .once address ids).steps ls = some s)

include run

/-- The server reports an error just where its attempt to accept has failed. -/
theorem error_iff_failed (e : ListenerError) :
    s.result? = some (.error e) ↔
      ∃ f, (State.start .once address ids).failed? ls = some f ∧ .accept f = e := by
  rw [State.error_steps_iff run rfl e]
  simp [State.start, State.result?]

theorem result_of_nobody (nobody : s.accepted = [])
    (fine : (State.start .once address ids).failed? ls = none) : s.result? = none := by
  have w := WellFormed.of_run run
  cases result : s.result? with
  | none => rfl
  | some r =>
    cases r with
    | error e =>
      obtain ⟨f, failed, -⟩ := (error_iff_failed run e).1 result
      simp [failed] at fine
    | ok n =>
      obtain ⟨-, c, -, client, -⟩ := w.client_of_success (State.mode_steps run) result
      simp [nobody] at client

theorem result_of_going {c : Nat} (client : c ∈ s.accepted) (going : s.outcome? c = none) :
    s.result? = none := by
  have w := WellFormed.of_run run
  have once : s.mode = .once := State.mode_steps run
  cases result : s.result? with
  | none => rfl
  | some r =>
    cases r with
    | error e => simp [(w.deaf_of_error once result).1] at client
    | ok n =>
      obtain ⟨-, d, o, only, finished⟩ := w.client_of_success once result
      obtain rfl : c = d := by simpa [only] using client
      simp [going] at finished

/-- With its success the server has one client, which has got all of its answer, and gets nothing
else whatever happens later. -/
theorem answers_of_success {n : Nat} (result : s.result? = some (.ok n)) :
    n = 1 ∧ ∃ c o, s.accepted = [c] ∧
      Exchange.start.receiveEach (Feed.of c ls).pieces = .closed o ∧
      s.AnswersAs c (.closed o) ∧
      ∀ later u, s.steps later = some u → u.AnswersAs c (.closed o) := by
  have w := WellFormed.of_run run
  obtain ⟨one, c, o, only, finished⟩ := w.client_of_success (State.mode_steps run) result
  obtain ⟨alone, answers⟩ := answersAs_of_outcome run finished
  refine ⟨one, c, o, only, alone, answers, ?_⟩
  intro later u rest
  have whole : (State.start .once address ids).steps (ls ++ later) = some u := by
    rw [State.steps_append, run]
    exact rest
  exact (answersAs_of_outcome whole (w.outcome_steps rest finished)).2

theorem deaf_of_failed {f : Failure}
    (failed : (State.start .once address ids).failed? ls = some f) :
    s.result? = some (.error (.accept f)) ∧ s.accepted = [] ∧ s.isListening = false ∧
      ∀ c date, c ∉ s.adopted → s.written c date = [] := by
  have w := WellFormed.of_run run
  have result := (error_iff_failed run (.accept f)).2 ⟨f, failed, rfl⟩
  obtain ⟨nobody, deaf⟩ := w.deaf_of_error (State.mode_steps run) result
  refine ⟨result, nobody, deaf, ?_⟩
  intro c date other
  exact w.written_of_not_attached (by simp [State.Attached, nobody, other]) date

end Once

/-- A server that takes one client has no result while nobody is accepted, unless the attempt has
failed, and none while the exchange with its client goes on. Once that is over, however it ended,
the server comes by itself to the result that it has accepted one connection. By then the client has
got all that an exchange gives for what it sent, and its connection is closed. If the attempt to
accept fails, its failure is the result, nobody listens, and no client gets a byte. There is no
other result, and none changes. -/
theorem once_reports_the_end_of_its_exchange {address : SocketAddress} {ids : IdSource}
    (run : (State.start .once address ids).steps ls = some s) :
    (s.accepted = [] → (State.start .once address ids).failed? ls = none → s.result? = none) ∧
    (∀ c ∈ s.accepted, s.outcome? c = none → s.result? = none) ∧
    (∀ c ∈ s.accepted, ∀ o, s.outcome? c = some o →
      (s.Settled → s.result? = some (.ok 1)) ∧
      ∃ own t, (∀ l ∈ own, l = .stopListening ∨ l = .report) ∧ s.steps own = some t ∧
        t.result? = some (.ok 1)) ∧
    (∀ r, s.result? = some r →
      (r = .ok 1 ∧ (∃ c o, s.accepted = [c] ∧
          Exchange.start.receiveEach (Feed.of c ls).pieces = .closed o ∧
          s.AnswersAs c (.closed o) ∧ ∀ later u, s.steps later = some u → u.AnswersAs c (.closed o))
        ∨ ∃ f, r = .error (.accept f) ∧ (State.start .once address ids).failed? ls = some f) ∧
      ∀ later u, s.steps later = some u → u.result? = some r) ∧
    (∀ f, (State.start .once address ids).failed? ls = some f →
      s.result? = some (.error (.accept f)) ∧ s.accepted = [] ∧ s.isListening = false ∧
      ∀ c date, c ∉ s.adopted → s.written c date = []) := by
  have w := WellFormed.of_run run
  have once : s.mode = .once := State.mode_steps run
  refine ⟨result_of_nobody run, fun c => result_of_going run, ?_, ?_,
    fun f => deaf_of_failed run⟩
  · intro c client o finished
    exact ⟨fun settled => w.result_of_settled once settled client finished,
      w.reports once client finished⟩
  · intro r result
    refine ⟨?_, fun later u rest => State.result_steps rest result⟩
    cases r with
    | error e =>
      obtain ⟨f, failed, rfl⟩ := (error_iff_failed run e).1 result
      exact .inr ⟨f, rfl, failed⟩
    | ok n =>
      obtain ⟨rfl, answers⟩ := answers_of_success run result
      exact .inl ⟨rfl, answers⟩

/-- A client goes away in the middle of its request, and the server still comes to its result.
Another one waits when files cannot be opened any more. -/
theorem once_reports_a_broken_request_and_a_failure :
    let address : SocketAddress := .v4 (.ofNat 0x7f000001) 5000
    let start := State.start .once address .fresh
    ∃ s own t u,
      start.steps [.connect 0 address, .run, .accept, .send 0 [0x47], .close 0, .handle 0]
        = some s ∧
      s.accepted = [0] ∧ s.steps own = some t ∧ t.result? = some (.ok 1) ∧
      start.steps [.connect 0 address, .setDescriptors false, .run, .accept] = some u ∧
      u.result? = some (.error (.accept .tooManyOpenFiles)) ∧ u.written 0 "" = [] := by
  intro address start
  let s := (start.steps
    [.connect 0 address, .run, .accept, .send 0 [0x47], .close 0, .handle 0]).get rfl
  have ended : (s.outcome? 0).isSome = true := by decide +kernel
  obtain ⟨o, finished⟩ := Option.isSome_iff_exists.1 ended
  have first := once_reports_the_end_of_its_exchange (show start.steps
    [.connect 0 address, .run, .accept, .send 0 [0x47], .close 0, .handle 0] = some s from rfl)
  obtain ⟨own, t, -, run, result⟩ := (first.2.2.1 0 (by decide) o finished).2
  have second := once_reports_the_end_of_its_exchange (show start.steps
    [.connect 0 address, .setDescriptors false, .run, .accept] = some _ from rfl)
  obtain ⟨error, -, -, nothing⟩ := second.2.2.2.2 .tooManyOpenFiles rfl
  exact ⟨s, own, t, _, rfl, rfl, run, result, rfl, error, nothing 0 "" (by decide)⟩

end CannedReply.Server
