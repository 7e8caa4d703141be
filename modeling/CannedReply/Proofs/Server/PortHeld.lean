import CannedReply.Proofs.Net.Binding
import CannedReply.Proofs.Server.EveryClient
import CannedReply.Proofs.Server.Result
import CannedReply.Server.Script

/-!
How long a server keeps others from its host and port: as long as it listens, and not for the sake
of a connection that is still open.
-/

namespace CannedReply.Server

variable {m : Machine} {e : Endpoint} {l : Listener} {s t u : State} {step : Label}
  {ls : List Label}

namespace Happens

/-- Three things end the listening: to give the server up, to stop, and a failure of the only
attempt to accept. -/
theorem falls_deaf (h : Happens s step t) (listens : s.isListening = true)
    (deaf : t.isListening = false) :
    step = .abandon ∨ step = .stopListening ∨ ∃ f, t.result? = some (.error (.accept f)) := by
  cases h with
  | abandoned _ => exact .inl rfl
  | stoppedListening _ => exact .inr (.inl rfl)
  | failed accepting _ | hindered accepting =>
    cases hm : s.mode with
    | once => exact .inr (.inr ⟨_, by rw [State.failToAccept, hm]; rfl⟩)
    | forever => simp [State.failToAccept, hm, State.isListening] at deaf
  | reported awaiting _ => simp [State.isListening, awaiting] at listens
  | acceptedOnly _ _ _ _ _ | acceptedNext _ _ _ _ _ | started _ | resumed _ _ =>
    simp [State.isListening] at deaf
  | refused _ _ | queued _ _ _ | adopted _ | sent _ | finished _ | closed _ | handled _ _ _ _
  | descriptorsSet | passed =>
    have same : s.isListening = false := deaf
    simp [listens] at same

theorem deaf_of_end (h : Happens s step t) (ends : step = .abandon ∨ step = .stopListening) :
    t.isListening = false := by
  rcases ends with rfl | rfl <;> cases h <;> rfl

end Happens

namespace State

theorem deaf_of_result {r : Except ListenerError Nat} (result : s.result? = some r) :
    s.isListening = false := by
  unfold result? at result
  unfold isListening
  split at result
  · next phase => simp [phase]
  · simp at result

/-- Whether a server listens can be told from what has happened and from its result. -/
theorem deaf_iff (run : s.steps ls = some t) (listens : s.isListening = true) :
    t.isListening = false ↔
      .abandon ∈ ls ∨ .stopListening ∈ ls ∨ ∃ f, t.result? = some (.error (.accept f)) := by
  induction ls generalizing s with
  | nil =>
    obtain rfl := Option.some.inj run
    simp only [listens, Bool.true_eq_false, List.not_mem_nil, false_or, false_iff]
    rintro ⟨f, result⟩
    simp [deaf_of_result result] at listens
  | cons first ls ih =>
    obtain ⟨u, h, rest⟩ := steps_cons_eq_some_iff.1 run
    cases hears : u.isListening with
    | true =>
      have goes : first ≠ .abandon ∧ first ≠ .stopListening := by
        constructor <;> rintro rfl <;> simp [h.deaf_of_end] at hears
      simp [ih rest hears, goes.1.symm, goes.2.symm]
    | false =>
      simp only [deaf_steps rest hears, true_iff, List.mem_cons]
      rcases h.falls_deaf listens hears with rfl | rfl | ⟨f, result⟩
      · exact .inl (.inl rfl)
      · exact .inr (.inl (.inl rfl))
      · exact .inr (.inr ⟨f, result_steps rest result⟩)

/-- Whoever is asked, the machine of a server that listens has its address taken. -/
theorem machine_eq (s : State) (m : Machine) (able : s.descriptors = true) :
    s.machine m = if s.isListening then m.withListener s.address else m := by
  simp [machine, able]

end State

/-- To stop listening changes no connection. -/
theorem WellFormed.connection_of_stop (w : WellFormed s) (stop : Happens s .stopListening t)
    (c : Nat) : t.connection? c = s.connection? c := by
  by_cases waits : c ∈ s.backlog
  · have before : s.connection? c = none := w.connection_of_not_attached
      (w.waiting_not_attached c waits)
    have dropped := (w.dropped_of_stop stop).2.2 c waits
    rw [before, Option.eq_none_iff_forall_ne_some]
    intro x
    simp [State.connection?_eq_some_iff, dropped]
  · cases stop with
    | stoppedListening _ => simp [State.connection?, State.dropBacklog, waits]

/-- Whether a step of a script tries to bind the port of the server once more. -/
def Act.bindsAgain : Act → Bool
  | .bindAgain _ => true
  | _ => false

/-- What the steps of a script show, but for those that bind the port once more. -/
def Act.others (acts : List Act) (shown : List Shown) : List Shown :=
  ((acts.zip shown).filter fun a => !a.1.bindsAgain).map Prod.snd

/-- A script shows the same without the attempts to bind the port once more. -/
theorem Session.play_others (s : Session) (acts : List Act) :
    s.play (acts.filter fun a => !a.bindsAgain) = (s.play acts).map (Act.others acts) := by
  induction acts generalizing s with
  | nil => rfl
  | cons a acts ih =>
    cases again : a.bindsAgain with
    | true =>
      obtain ⟨host, rfl⟩ : ∃ host, a = .bindAgain host := by
        cases a <;> simp [Act.bindsAgain] at again
        exact ⟨_, rfl⟩
      rw [List.filter_cons_of_neg (by simp [again]), ih]
      simp only [play, act, Bind.bind, Except.bind]
      cases s.play acts <;> rfl
    | false =>
      rw [List.filter_cons_of_pos (by simp [again])]
      simp only [play, Bind.bind, Except.bind]
      cases acted : s.act a with
      | error e => rfl
      | ok next =>
        simp only [ih]
        cases next.1.play acts with
        | error e => rfl
        | ok shown => simp [Except.map, Act.others, again, Pure.pure, Except.pure]

section

variable {mode : AcceptMode} {ids : IdSource} (opened : Listener.bind m e = .ok l)
  (ephemeral : e.port = 0 → m.isReserved m.freePort = false)
  (run : (State.start mode l.address ids).steps ls = some s) (able : s.descriptors = true)

include opened ephemeral run able

/-- Who asks for the port of a server gets it if the server does not listen. -/
theorem bind_beside :
    Listener.bind (s.machine m) ⟨e.host, l.address.port⟩ =
      if s.isListening then
        .error (.bind (Endpoint.authority ⟨e.host, l.address.port⟩) .addressInUse)
      else .ok l := by
  obtain ⟨free, taken⟩ := Listener.bind_again opened ephemeral
  rw [s.machine_eq m able, State.address_steps run]
  cases s.isListening with
  | true => exact taken
  | false => exact free

/-- A server for one client that has accepted it is about to give the port away, if it has not done
so, and its connection stays as it is. -/
theorem bind_behind_the_client (once : mode = .once) (served : s.accepted ≠ []) :
    s.isListening = false ∨
      ∃ t, s.step .stopListening = some t ∧ (∀ c, t.connection? c = s.connection? c) ∧
        Listener.bind (t.machine m) ⟨e.host, l.address.port⟩ = .ok l := by
  have w : WellFormed s := .of_run run
  have fits := w.phase_fits
  unfold State.PhaseFits at fits
  rw [(State.mode_steps run).trans once] at fits
  cases phase : s.phase with
  | bound | accepting => simp [phase, served] at fits
  | pausing => simp [phase] at fits
  | awaiting | finished | abandoned => exact .inl (by simp [State.isListening, phase])
  | closing c =>
    have stops := Happens.stoppedListening phase
    refine .inr ⟨_, step_of_happens stops, ?_, ?_⟩
    · exact w.connection_of_stop stops
    · have after : (State.start mode l.address ids).steps (ls ++ [.stopListening]) =
          some { s.dropBacklog with phase := .awaiting c } := by
        simp [State.steps_append, run, State.steps, step_of_happens stops]
      rw [bind_beside opened ephemeral after able]
      rfl

end

/-- Nobody else can have the host and the port of a server while it listens, and everybody can when
it does not, now or at any time from then on. A server for any number of clients listens until it is
given up; one for a single client listens until it has accepted it, or has failed to, whatever
becomes of the connection. To try makes no difference to the server or to its clients. -/
theorem port_is_held_while_listening {mode : AcceptMode} {ids : IdSource}
    (opened : Listener.bind m e = .ok l)
    (ephemeral : e.port = 0 → m.isReserved m.freePort = false)
    (run : (State.start mode l.address ids).steps ls = some s) (able : s.descriptors = true) :
    let again : Endpoint := ⟨e.host, l.address.port⟩
    (e.port ≠ 0 → again = e) ∧
    (Listener.bind (s.machine m) again = .error (.bind again.authority .addressInUse) ↔
      s.isListening = true) ∧
    Failure.addressInUse.kind = .addrInUse ∧
    (Listener.bind (s.machine m) again = .ok l ↔ s.isListening = false) ∧
    (s.isListening = false ↔
      .abandon ∈ ls ∨ .stopListening ∈ ls ∨ ∃ f, s.result? = some (.error (.accept f))) ∧
    (s.isListening = false → ∀ ls' t, s.steps ls' = some t → t.descriptors = true →
      Listener.bind (t.machine m) again = .ok l) ∧
    (mode = .forever → (s.isListening = false ↔ s.phase = .abandoned)) ∧
    (mode = .once → s.accepted ≠ [] → s.isListening = false ∨
      ∃ t, s.step .stopListening = some t ∧ (∀ c, t.connection? c = s.connection? c) ∧
        Listener.bind (t.machine m) again = .ok l) ∧
    ∀ (session : Session) acts, session.play (acts.filter fun a => !a.bindsAgain) =
      (session.play acts).map (Act.others acts) := by
  intro again
  have second := bind_beside opened ephemeral run able
  refine ⟨?same, ?taken, rfl, ?free, State.deaf_iff run rfl, ?later, ?forever,
    bind_behind_the_client opened ephemeral run able, fun session => session.play_others⟩
  case same =>
    intro asked
    simp only [again, Listener.port_of_bind opened, if_neg asked]
  case taken =>
    rw [second]
    cases s.isListening <;> simp [again]
  case free =>
    rw [second]
    cases s.isListening <;> simp
  case later =>
    intro deaf ls' t rest able'
    have whole : (State.start mode l.address ids).steps (ls ++ ls') = some t := by
      rw [State.steps_append, run]
      exact rest
    rw [bind_beside opened ephemeral whole able', State.deaf_steps rest deaf]
    rfl
  case forever =>
    intro forever
    have listens := (WellFormed.of_run run).phase_of_forever ((State.mode_steps run).trans forever)
    refine ⟨fun deaf => ?_, fun given => by simp [State.isListening, given]⟩
    by_contra kept
    simp [listens.2 kept] at deaf

/-- On a port that the system chose, the first client is accepted and goes on sending; somebody else
can have the port as soon as the server has stopped listening, and not before. -/
theorem port_is_held_until_the_only_client :
    let m := Machine.standalone
    let address : SocketAddress := .v4 (.ofNat 0x7f000001) 49152
    let client : SocketAddress := .v4 (.ofNat 0x7f000001) 40000
    let new := State.start .once address .fresh
    let ls : List Label := [.run, .connect 0 client, .accept]
    ∃ s t, Listener.bind m ⟨"127.0.0.1", 0⟩ = .ok ⟨address⟩ ∧ new.steps ls = some s ∧
      new.steps (ls ++ [.stopListening, .send 0 [0]]) = some t ∧
      Listener.bind (s.machine m) ⟨"127.0.0.1", 49152⟩ =
        .error (.bind "127.0.0.1:49152" .addressInUse) ∧
      (t.connection? 0).isSome = true ∧ t.outcome? 0 = none ∧
      Listener.bind (t.machine m) ⟨"127.0.0.1", 49152⟩ = .ok ⟨address⟩ := by
  intro m address client new ls
  have opened : Listener.bind m ⟨"127.0.0.1", 0⟩ = .ok ⟨address⟩ := by decide +kernel
  have ephemeral : (0 : UInt16) = 0 → m.isReserved m.freePort = false := fun _ => by decide
  have first : (new.steps ls).map (fun s => (s.descriptors, s.isListening)) =
      some (true, true) := by decide +kernel
  have then' : (new.steps (ls ++ [.stopListening, .send 0 [0]])).map (fun t => (t.descriptors,
      t.isListening, (t.connection? 0).isSome, t.outcome? 0)) =
      some (true, false, true, none) := by decide +kernel
  obtain ⟨s, early, listening⟩ := Option.map_eq_some_iff.1 first
  obtain ⟨t, late, open'⟩ := Option.map_eq_some_iff.1 then'
  simp only [Prod.mk.injEq] at listening open'
  obtain ⟨-, taken, -⟩ := port_is_held_while_listening opened ephemeral early listening.1
  obtain ⟨-, -, -, free, -⟩ := port_is_held_while_listening opened ephemeral late open'.1
  have named : Endpoint.authority ⟨"127.0.0.1", 49152⟩ = "127.0.0.1:49152" := by decide +kernel
  refine ⟨s, t, opened, early, late, ?_, open'.2.2.1, open'.2.2.2, free.2 open'.2.1⟩
  rw [← named]
  exact taken.2 listening.2

end CannedReply.Server
