import CannedReply.Proofs.Program.Turns
import CannedReply.Proofs.Server.Result

/-!
The course of the program with a command line once its log is set up, whatever happens around it:
the points to which it comes, and all the ways in which it ends, each with its cause.
-/

namespace CannedReply.Program

open Server CommandLine

variable {w : Surroundings} {args : List String} {p q : Process} {ts : List Turn} {l : Label}
  {s u : State} {mode : AcceptMode} {a : SocketAddress} {c : Config} {f : Log.Filter}

/-- Whether arguments lead to a configuration. -/
def Configures (w : Surroundings) (args : List String) (c : Config) : Prop :=
  ∃ settings, parse args = .ok (.serve settings) ∧ settings.effective w.fileAt = .ok c

/-- Whether arguments lead to a configuration, and that to an address that is listened on. -/
def Listens (w : Surroundings) (args : List String) (c : Config) (a : SocketAddress) : Prop :=
  Configures w args c ∧ Listener.bind w.machine c.listener = .ok ⟨a⟩

/-- Whether a state is one that the server of a program may come to. -/
structure Serves (mode : AcceptMode) (a : SocketAddress) (s : State) : Prop where
  run : ∃ ls, (State.start mode a .fresh).steps ls = some s
  adopted : s.adopted = []

/-- Whether a server has not run, and does not run any more if it has been given up. -/
def Unrun (s : State) : Prop :=
  s.phase = .bound ∨ s.phase = .abandoned

theorem adopted_of_happens (h : Happens s l u) (own : ∀ c a, l ≠ .adopt c a) :
    u.adopted = s.adopted := by
  cases h with
  | adopted _ => exact absurd rfl (own _ _)
  | failed _ _ | hindered _ =>
    unfold State.failToAccept
    cases s.mode <;> rfl
  | refused _ _ | queued _ _ _ | sent _ | finished _ | closed _ | handled _ _ _ _ | started _
  | abandoned _ | acceptedOnly _ _ _ _ _ | acceptedNext _ _ _ _ _ | stoppedListening _
  | resumed _ _ | reported _ _ | descriptorsSet | passed => rfl

theorem Unrun.step (unrun : Unrun s) (h : Happens s l u) (quiet : l ≠ .run) : Unrun u := by
  unfold Unrun at unrun ⊢
  cases h with
  | started _ => exact absurd rfl quiet
  | abandoned _ => exact .inr rfl
  | failed phase _ | hindered phase | acceptedOnly phase _ _ _ _ | acceptedNext phase _ _ _ _
  | stoppedListening phase | resumed phase _ | reported phase _ => simp [phase] at unrun
  | refused _ _ | queued _ _ _ | adopted _ | sent _ | finished _ | closed _ | handled _ _ _ _
  | descriptorsSet | passed => exact unrun

namespace Serves

theorem start (mode : AcceptMode) (a : SocketAddress) : Serves mode a (.start mode a .fresh) :=
  ⟨⟨[], rfl⟩, rfl⟩

theorem wellFormed (h : Serves mode a s) : WellFormed s := by
  obtain ⟨ls, run⟩ := h.run
  exact .of_run run

theorem mode_eq (h : Serves mode a s) : s.mode = mode := by
  obtain ⟨ls, run⟩ := h.run
  exact State.mode_steps run

theorem address_eq (h : Serves mode a s) : s.address = a := by
  obtain ⟨ls, run⟩ := h.run
  exact State.address_steps run

theorem step (h : Serves mode a s) (next : s.step l = some u) (own : ∀ c a, l ≠ .adopt c a) :
    Serves mode a u := by
  obtain ⟨ls, run⟩ := h.run
  refine ⟨⟨ls ++ [l], ?_⟩, (adopted_of_happens (happens_of_step next) own).trans h.adopted⟩
  simp [State.steps_append, run, State.steps, next]

/-- Where a server has not run, nobody is accepted. -/
theorem accepted_of_unrun (h : Serves mode a s) (unrun : Unrun s) : s.accepted = [] := by
  have fits := h.wellFormed.phase_fits
  unfold State.PhaseFits at fits
  rcases unrun with phase | phase <;> cases hm : s.mode <;> simpa [hm, phase] using fits

end Serves

/-- To leave a server is to give it up, or nothing. -/
theorem leave_cases (s : State) :
    s.step .abandon = some (Process.leave s) ∨ Process.leave s = s := by
  unfold Process.leave
  cases h : s.step .abandon with
  | some u => exact .inl rfl
  | none => exact .inr rfl

/-- What is kept by all that happens around a program and by its end. -/
theorem Serves.leave (h : Serves mode a s) : Serves mode a (Process.leave s) := by
  rcases leave_cases s with next | same
  · exact h.step next (by simp)
  · rwa [same]

theorem Unrun.leave (h : Unrun s) : Unrun (Process.leave s) := by
  rcases leave_cases s with next | same
  · exact h.step (happens_of_step next) (by simp)
  · rwa [same]

theorem result_leave {r : Except ListenerError Nat} (h : s.result? = some r) :
    (Process.leave s).result? = some r := by
  rcases leave_cases s with next | same
  · exact (happens_of_step next).result_stays h
  · rwa [same]

def Verdict.ofResult : Except ListenerError Nat → Verdict
  | .error e => .failed (.listener e)
  | .ok n => .completed n

/-- How the program with a command line may end: with which server, and with what it has written. -/
inductive Closed (w : Surroundings) (args : List String) :
    Verdict → Option State → String → Prop where
  | unusable {e : UsageError} (parsed : parse args = .error e) :
      Closed w args (.unusable e) none ""
  | helped (parsed : parse args = .ok .help) : Closed w args .helped none (w.written helpText)
  | misconfigured {settings : Settings} {e : ConfigError}
      (parsed : parse args = .ok (.serve settings))
      (refused : settings.effective w.fileAt = .error e) :
      Closed w args (.failed (.config e)) none ""
  | unopened {c : Config} {e : ListenerError} (configures : Configures w args c)
      (failed : Listener.bind w.machine c.listener = .error e) :
      Closed w args (.failed (.listener e)) none ""
  | unannounced {c : Config} {a : SocketAddress} {s : State} {f : Failure}
      (listens : Listens w args c a) (fault : w.outputFault? = some f)
      (serves : Serves c.acceptMode a s) (unrun : Unrun s) :
      Closed w args (.failed (.announcement f)) (some s) ""
  | served {c : Config} {a : SocketAddress} {s : State} {r : Except ListenerError Nat}
      (listens : Listens w args c a) (writable : w.outputFault? = none)
      (serves : Serves c.acceptMode a s) (result : s.result? = some r) :
      Closed w args (.ofResult r) (some s) (readinessLine a ++ "\n")

/-- How far the program with a command line may come: where it stands, what server there is then,
and what it has written. -/
inductive Reached (w : Surroundings) (args : List String) :
    Stage → Option State → String → Prop where
  | new : Reached w args (.going (.ofArguments args)) none ""
  | helping (parsed : parse args = .ok .help) :
      Reached w args (.going (.print helpText fun _ => .exit .helped)) none ""
  | configuring {settings : Settings} (parsed : parse args = .ok (.serve settings)) :
      Reached w args (.going (.configure settings .configured)) none ""
  | configured {c : Config} (configures : Configures w args c) :
      Reached w args (.going (.note (configuredEvent c) (.listen c .bound))) none ""
  | listening {c : Config} (configures : Configures w args c) :
      Reached w args (.going (.listen c .bound)) none ""
  | bound {c : Config} {a : SocketAddress} {s : State} (listens : Listens w args c a)
      (serves : Serves c.acceptMode a s) (phase : s.phase = .bound) :
      Reached w args (.going (.print (readinessLine a ++ "\n") .announced)) (some s) ""
  | serving {c : Config} {a : SocketAddress} {s : State} (listens : Listens w args c a)
      (writable : w.outputFault? = none) (serves : Serves c.acceptMode a s) :
      Reached w args (.going (.serve .ended)) (some s) (readinessLine a ++ "\n")
  | completing {c : Config} {a : SocketAddress} {s : State} {n : Nat} (listens : Listens w args c a)
      (writable : w.outputFault? = none) (serves : Serves c.acceptMode a s)
      (result : s.result? = some (.ok n)) :
      Reached w args (.going (.note (completedEvent n) (.exit (.completed n)))) (some s)
        (readinessLine a ++ "\n")
  | ending {v : Verdict} {server : Option State} {output : String} {stage : Stage}
      (closed : Closed w args v server output) (ends : stage.Ends v) :
      Reached w args stage server output

open Process

/-- What happens outside a program does not change how it ended. -/
theorem Closed.outside {v : Verdict} {output : String} (h : Closed w args v (some s) output)
    (next : s.step l = some u) (quiet : l ≠ .run) (own : ∀ c a, l ≠ .adopt c a) :
    Closed w args v (some u) output := by
  cases h with
  | unannounced listens fault serves unrun =>
    exact .unannounced listens fault (serves.step next own)
      (unrun.step (happens_of_step next) quiet)
  | served listens writable serves result =>
    exact .served listens writable (serves.step next own)
      ((happens_of_step next).result_stays result)

theorem Closed.leave {v : Verdict} {server : Option State} {output : String}
    (h : Closed w args v server output) : Closed w args v (server.map Process.leave) output := by
  cases h with
  | unusable parsed => exact .unusable parsed
  | helped parsed => exact .helped parsed
  | misconfigured parsed refused => exact .misconfigured parsed refused
  | unopened configures failed => exact .unopened configures failed
  | unannounced listens fault serves unrun =>
    exact .unannounced listens fault serves.leave unrun.leave
  | served listens writable serves result =>
    exact .served listens writable serves.leave (result_leave result)

theorem Closed.not_crashed {v : Verdict} {server : Option State} {output : String}
    (h : Closed w args v server output) (slip : Text.Slip) : v ≠ .crashed slip := by
  cases h with
  | @served c a s r _ _ _ _ => cases r <;> simp [Verdict.ofResult]
  | _ => simp

namespace Reached

/-- The points to which the program comes with each of its turns. -/
theorem advance (set : w.filter = .ok f) (h : Reached w args p.stage p.server p.output)
    (go : p.Advances w q) : Reached w args q.stage q.server q.output := by
  generalize stage : p.stage = st, server : p.server = σ, output : p.output = out at h
  cases h with
  | new =>
    obtain rfl := go.unique (.logSetUp stage set)
    simp only [server, output]
    cases parsed : parse args with
    | error e => exact .ending (.unusable parsed) (.inl rfl)
    | ok request =>
      cases request with
      | help => exact .helping parsed
      | serve settings => exact .configuring parsed
  | helping parsed =>
    obtain rfl := go.unique (.printed stage)
    simp only [server, output, String.empty_append]
    exact .ending (.helped parsed) (.inl rfl)
  | @configuring settings parsed =>
    obtain rfl := go.unique (.configured stage)
    simp only [server, output]
    cases laid : settings.effective w.fileAt with
    | error e => exact .ending (.misconfigured parsed laid) (.inl rfl)
    | ok c => exact .configured ⟨settings, parsed, laid⟩
  | configured configures =>
    obtain rfl := go.unique (.noted stage)
    simp only [tell_frame, server, output]
    exact .listening configures
  | @listening c configures =>
    cases opened : Listener.bind w.machine c.listener with
    | error e =>
      obtain rfl := go.unique (.unopened stage opened)
      simp only [server, output]
      exact .ending (.unopened configures opened) (.inl rfl)
    | ok l =>
      obtain rfl := go.unique (.opened stage opened)
      simp only [tell_frame, output]
      exact .bound ⟨configures, opened⟩ (.start _ _) rfl
  | bound listens serves phase =>
    obtain rfl := go.unique (.printed stage)
    simp only [server, output, String.empty_append, Surroundings.written]
    cases fault : w.outputFault? with
    | some f => exact .ending (.unannounced listens fault serves (.inl phase)) (.inl rfl)
    | none => exact .serving listens fault serves
  | @serving c a s listens writable serves =>
    cases result : s.result? with
    | some r =>
      obtain rfl := go.unique (.reported stage server result)
      simp only [server, output]
      cases r with
      | error e => exact .ending (.served listens writable serves result) (.inl rfl)
      | ok n => exact .completing listens writable serves result
    | none =>
      have bound : s.phase = .bound := by
        by_contra running
        exact waits_iff.1 (waits_of_serve stage server result running) q go
      obtain rfl := go.unique (.started stage server bound)
      simp only [tell_frame, stage, output]
      exact .serving listens writable (serves.step (step_of_happens (.started bound)) (by simp))
  | completing listens writable serves result =>
    obtain rfl := go.unique (.noted stage)
    simp only [tell_frame, server, output]
    exact .ending (.served listens writable serves result) (.inl rfl)
  | ending closed ends =>
    obtain ⟨ends, same, written, -⟩ := go.of_ends (stage ▸ ends)
    rw [same, written, server, output]
    exact .ending closed.leave ends

/-- What happens outside leaves the program where it is. -/
theorem outside (h : Reached w args p.stage p.server p.output) (next : p.outside l = some q) :
    Reached w args q.stage q.server q.output := by
  obtain ⟨sameStage, -, sameOutput⟩ := outside_frame next
  rw [sameStage, sameOutput]
  rcases outside_cases next with ⟨s, u, server, admitted, step, rfl⟩ | ⟨c, a, server, -, -, rfl⟩
  · obtain ⟨quiet, given, own⟩ := ne_of_admits admitted
    have unrun : s.phase = .bound → u.phase = .bound := by
      intro bound
      cases happens_of_step step <;> simp_all
    simp only [tell_frame]
    generalize p.stage = st, p.output = out at h
    rw [server] at h
    cases h with
    | bound listens serves phase => exact .bound listens (serves.step step own) (unrun phase)
    | serving listens writable serves => exact .serving listens writable (serves.step step own)
    | completing listens writable serves result =>
      exact .completing listens writable (serves.step step own)
        ((happens_of_step step).result_stays result)
    | ending closed ends => exact .ending (closed.outside step quiet own) ends
  · exact h

theorem of_run (set : w.filter = .ok f)
    (run : (Process.start (.ofArguments args)).steps w ts = some p) :
    Reached w args p.stage p.server p.output := by
  refine steps_keep (P := fun p => Reached w args p.stage p.server p.output) ?_ run .new
  intro t _ p q step h
  cases t with
  | own => exact h.advance set (advance_eq_some_iff.1 step)
  | outside l => exact h.outside step

theorem closed_of_finished {v : Verdict} {server : Option State} {output : String}
    (h : Reached w args (.finished v) server output) : Closed w args v server output := by
  cases h with
  | ending closed ends =>
    rcases ends with ending | ended
    · cases ending
    · cases ended
      exact closed

/-- Where the program waits it is over, or its server runs and has no result. -/
theorem of_waits (set : w.filter = .ok f) (h : Reached w args p.stage p.server p.output)
    (waits : p.Waits w) :
    (∃ v, p.fate = v.fate ∧ Closed w args v p.server p.output) ∨
    ∃ c a s, p.fate = .goesOn ∧ Listens w args c a ∧ w.outputFault? = none ∧
      p.server = some s ∧ Serves c.acceptMode a s ∧ s.result? = none ∧
      p.output = readinessLine a ++ "\n" := by
  have stuck := waits_iff.1 waits
  generalize stage : p.stage = st, server : p.server = σ, output : p.output = out at h
  cases h with
  | new => exact absurd (.logSetUp stage set) (stuck _)
  | helping _ => exact absurd (.printed stage) (stuck _)
  | configuring _ => exact absurd (.configured stage) (stuck _)
  | configured _ => exact absurd (.noted stage) (stuck _)
  | @listening c _ =>
    cases opened : Listener.bind w.machine c.listener with
    | error e => exact absurd (.unopened stage opened) (stuck _)
    | ok l => exact absurd (.opened stage opened) (stuck _)
  | bound _ _ _ => exact absurd (.printed stage) (stuck _)
  | @serving c a s listens writable serves =>
    cases result : s.result? with
    | some r => exact absurd (.reported stage server result) (stuck _)
    | none =>
      have going : p.fate = .goesOn := by simp [fate, verdict?, stage]
      exact .inr ⟨c, a, s, going, listens, writable, rfl, serves, result, rfl⟩
  | completing _ _ _ _ => exact absurd (.noted stage) (stuck _)
  | @ending v _ _ _ closed ends =>
    rcases ends with ending | ended
    · exact absurd (.exited (stage.trans ending)) (stuck _)
    · exact .inl ⟨v, by simp [fate, verdict?, stage, ended], closed⟩

end Reached

end CannedReply.Program
