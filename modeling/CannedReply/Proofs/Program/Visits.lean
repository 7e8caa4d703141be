import CannedReply.Proofs.Program.Turns
import CannedReply.Proofs.Server.EveryClient
import CannedReply.Proofs.Server.Result
import CannedReply.Proofs.Server.Sessions

/-!
Whole runs with clients that come one after the other are runs of the program among its clients:
they end alike, write the same, and log the same.
-/

namespace CannedReply.Program

open Server Log

variable {w : Surroundings} {p q r : Process} {s t : State} {ls : List Label} {f : Filter}
  {c : Config}

/-- To read makes nothing happen. -/
theorem follows_answer {s t : Session} (h : s.Follows Label.isOthers t) (name : String) :
    s.Follows Label.isOthers
      (match t.read name with | .ok r => r | .error _ => (s, .refused)).1 := by
  cases answered : t.read name with
  | error e => exact .of_eq rfl rfl
  | ok r => exact h.trans (Session.follows_read answered)

/-- A client that comes, asks and reads makes things happen, and the server does its part. -/
theorem follows_visit (s : Session) (number : Nat) (v : Visit) :
    s.Follows Label.isOthers (visit s number v).1 := by
  have comes : s.Follows Label.isOthers (s.connect (Numeral.decimal number)).1 :=
    Session.follows_connect Label.isOthers_of_isServers (fun _ _ => rfl) _
  unfold visit
  cases came : s.connect (Numeral.decimal number) with
  | mk s' shown =>
    rw [came] at comes
    simp only [came]
    cases shown with
    | connected =>
      refine comes.trans ?_
      simp only [Bind.bind, Except.bind]
      cases sent : s'.act (.send (Numeral.decimal number) v.data) with
      | error e => exact .of_eq rfl rfl
      | ok next =>
        have sends : s'.Follows Label.isOthers next.1 := Session.follows_act sent
        cases v.ends with
        | false => exact follows_answer sends _
        | true =>
          cases finished : next.1.act (.finish (Numeral.decimal number)) with
          | error e =>
            simp only [if_true, finished]
            exact .of_eq rfl rfl
          | ok ended =>
            have finishes : next.1.Follows Label.isOthers ended.1 :=
              Session.follows_act finished
            simp only [if_true, finished]
            exact follows_answer (sends.trans finishes) _
    | _ => exact comes

theorem follows_visits (s : Session) (number : Nat) (vs : List Visit) :
    s.Follows Label.isOthers (visits s number vs).1 := by
  induction vs generalizing s number with
  | nil => exact .of_eq rfl rfl
  | cons v vs ih => exact (follows_visit s number v).trans (ih _ _)

namespace Process

/-- Whether a program comes from one point to another, with its clients. -/
def LeadsTo (w : Surroundings) (p q : Process) : Prop :=
  ∃ ts, p.steps w ts = some q

theorem LeadsTo.refl (p : Process) : p.LeadsTo w p :=
  ⟨[], rfl⟩

theorem LeadsTo.trans (h : p.LeadsTo w q) (h' : q.LeadsTo w r) : p.LeadsTo w r := by
  obtain ⟨ts, run⟩ := h
  obtain ⟨us, run'⟩ := h'
  refine ⟨ts ++ us, ?_⟩
  rw [steps_append, run]
  exact run'

theorem LeadsTo.head (go : p.Advances w q) (h : q.LeadsTo w r) : p.LeadsTo w r := by
  obtain ⟨ts, run⟩ := h
  exact ⟨.own :: ts, steps_cons_eq_some_iff.2 ⟨q, advance_eq_some_iff.2 go, run⟩⟩

theorem tell_nil (p : Process) : p.tell [] = p := by
  simp [tell]

/-- What others make happen to the server of a program happens around the program. -/
theorem leadsTo_of_steps (server : p.server = some s) (early : p.turnedAway = [])
    (run : s.steps ls = some t) (others : ∀ l ∈ ls, l.isOthers = true) :
    p.LeadsTo w ({ p with server := some t }.tell (s.told ls)) := by
  induction ls generalizing p s with
  | nil =>
    obtain rfl := Option.some.inj run
    rw [State.told, tell_nil, ← server]
    exact .refl p
  | cons l ls ih =>
    obtain ⟨u, first, rest⟩ := Option.bind_eq_some_iff.1 run
    have admitted : p.admits l = true := by
      have other := others l (by simp)
      cases l <;> simp_all [admits, Label.isOthers]
    have next : p.step w (.outside l) = some ({ p with server := some u }.tell (s.events l)) := by
      simp [step, outside, admitted, server, first]
    obtain ⟨ts, run'⟩ := ih (p := { p with server := some u }.tell (s.events l)) (s := u) rfl early
      rest fun l mem => others l (by simp [mem])
    refine ⟨.outside l :: ts, steps_cons_eq_some_iff.2 ⟨_, next, ?_⟩⟩
    rw [run', State.told, first]
    simp [tell]

end Process

namespace Plan

/-- What is left of a plan once its server has ended. -/
def finishing (done : Nat → Plan) : Except ListenerError Nat → Plan
  | .error e => exit (.failed (.listener e))
  | .ok n => done n

/-- What is left of a plan once it is known where to listen, up to the end of the server. -/
def bringUp (done : Nat → Plan) : Except ListenerError SocketAddress → Plan
  | .error e => exit (.failed (.listener e))
  | .ok a => print (readinessLine a ++ "\n") fun
    | some f => exit (.failed (.announcement f))
    | none => serve (finishing done)

theorem serving_eq (host : String) (port : UInt16) :
    serving host port = listen ⟨⟨host, port⟩, .once⟩ (bringUp fun n => exit (.completed n)) :=
  rfl

end Plan

/-- Once the log is set up, its filter decides alone which events are logged. -/
theorem Surroundings.logs_eq (set : w.filter = .ok f) : w.logs = f.logs := by
  funext e
  simp [Surroundings.logs, set, Except.toOption]

/-- A server that has been let run, behind all visits. -/
def visited (w : Surroundings) (s : State) (vs : List Visit) : Session :=
  (visits (session w s) 0 vs).1

/-- Whether a run with clients one after the other is what a program has come to among them. -/
structure Process.Shows (w : Surroundings) (vs : List Visit) (p : Process) (r : Run) : Prop where
  waits : p.Waits w
  fate : p.fate = r.fate
  output : p.output = r.output
  log : p.log = r.events.filter w.logs
  server : ∀ s, r.launch = .running s → p.server = some (visited w s vs).state

theorem unbound_step {l : Label} (h : Happens s l t) (running : s.phase ≠ .bound) :
    t.phase ≠ .bound := by
  cases h with
  | failed _ _ | hindered _ =>
    unfold State.failToAccept
    cases s.mode <;> simp
  | abandoned _ | stoppedListening _ | acceptedOnly _ _ _ _ _ | acceptedNext _ _ _ _ _ | started _
  | resumed _ _ | reported _ _ => simp
  | refused _ _ | queued _ _ _ | adopted _ | sent _ | finished _ | closed _ | handled _ _ _ _
  | descriptorsSet | passed => exact running

/-- A server that runs, and all visits to it. -/
theorem follows_session (w : Surroundings) (mode : AcceptMode) (a : SocketAddress)
    (vs : List Visit) :
    ∃ ls, ({ State.start mode a .fresh with phase := .accepting } : State).steps ls =
        some (visited w (.start mode a .fresh) vs).state ∧
      (visited w (.start mode a .fresh) vs).journal =
        (State.start mode a .fresh).events .run ++
          ({ State.start mode a .fresh with phase := .accepting } : State).told ls ∧
      ∀ l ∈ ls, l.isOthers = true := by
  let s : Session := { Session.start w.machine mode a with
    state := { State.start mode a .fresh with phase := .accepting }
    journal := (State.start mode a .fresh).events .run }
  have settles : s.Follows Label.isOthers (session w (.start mode a .fresh)) := by
    obtain ⟨ls, run, told, servers⟩ := State.proceed_runs
      (3 * (s.state.backlog.length + s.state.accepted.length + s.state.adopted.length) + 4) s.state
    refine ⟨ls, run, ?_, fun l mem => Label.isOthers_of_isServers (servers l mem)⟩
    rw [told]
    rfl
  exact settles.trans (follows_visits _ 0 vs)

/-- What is logged behind a run, if it succeeds. -/
def Fate.closing (extra : List Event) : Fate → List Event
  | exits 0 _ => extra
  | _ => []

/-- What is logged behind the run of a server, if it succeeds. -/
def Run.closing (r : Run) (extra : List Event) : List Event :=
  match r.launch with
  | .running _ => r.fate.closing extra
  | _ => []

namespace Process

/-- Where a server has its result, it stays as it is when its program ends. -/
theorem leave_of_result {result : Except ListenerError Nat} (h : s.result? = some result) :
    leave s = s := by
  have none' : s.step .abandon = none := by
    unfold State.result? at h
    split at h
    · next phase => simp [State.step, State.abandon, phase]
    · cases h
  rw [leave, none', Option.getD_none]

/-- The program tells where it listens, and then has a server or gives up. -/
theorem leadsTo_print {done : Nat → Plan} {a : SocketAddress}
    (stage : p.stage = .going (.listen c (.bringUp done))) (filter : p.filter = some f)
    (output : p.output = "") (opened : Listener.bind w.machine c.listener = .ok ⟨a⟩) :
    p.LeadsTo w
      { p with
        stage := .going (match w.outputFault? with
          | some f => .exit (.failed (.announcement f))
          | none => .serve (.finishing done))
        server := some (.start c.acceptMode a .fresh)
        output := w.written (readinessLine a ++ "\n")
        log := p.log ++ [boundEvent a].filter f.logs } := by
  have told : p.log ++ [boundEvent a].filter f.logs =
      (p.tell [boundEvent a]).log := by simp [tell, filter]
  have written : w.written (readinessLine a ++ "\n") =
      p.output ++ w.written (readinessLine a ++ "\n") := by rw [output, String.empty_append]
  rw [told, written]
  exact .head (.opened stage opened) (.head (.printed rfl) (.refl _))

/-- A server that is let run serves all visits. -/
theorem leadsTo_visits {next : Except ListenerError Nat → Plan} {mode : AcceptMode}
    {a : SocketAddress} (stage : p.stage = .going (.serve next)) (filter : p.filter = some f)
    (server : p.server = some (.start mode a .fresh)) (early : p.turnedAway = [])
    (vs : List Visit) :
    p.LeadsTo w
      { p with
        server := some (visited w (.start mode a .fresh) vs).state
        log := p.log ++ (visited w (.start mode a .fresh) vs).journal.filter f.logs } := by
  obtain ⟨ls, run, journal, others⟩ := follows_session w mode a vs
  have leads := LeadsTo.head (.started stage server rfl)
    (leadsTo_of_steps (w := w) rfl early run others)
  have same : p.log ++ (visited w (.start mode a .fresh) vs).journal.filter f.logs =
      ((p.tell ((State.start mode a .fresh).events .run)).tell
        (({ State.start mode a .fresh with phase := .accepting } : State).told ls)).log := by
    simp [tell, filter, journal]
  rw [same]
  exact leads

/-- The program ends when its server does. -/
theorem exists_end {done : Nat → Plan} {extra : Nat → List Event} {mode : AcceptMode}
    {a : SocketAddress}
    (stage : p.stage = .going (.serve (.finishing done)))
    (filter : p.filter = some f) (server : p.server = some s)
    (run : ∃ ls, (State.start mode a .fresh).steps (.run :: ls) = some s)
    (finishes : ∀ {q : Process} {n : Nat}, q.stage = .going (done n) → q.LeadsTo w
      ({ q with stage := .finished (.completed n), server := q.server.map leave }.tell (extra n))) :
    ∃ q, p.LeadsTo w q ∧ q.Waits w ∧ q.fate = fateOf s.result? ∧ q.server = some s ∧
      q.output = p.output ∧
      q.log = p.log ++ ((fateOf s.result?).closing (extra 1)).filter f.logs := by
  obtain ⟨ls, run⟩ := run
  have w' : WellFormed s := .of_run run
  have running : s.phase ≠ .bound := by
    obtain ⟨t, first, rest⟩ := State.steps_cons_eq_some_iff.1 run
    refine State.steps_keep (P := fun t => t.phase ≠ .bound) unbound_step rest ?_
    cases first with
    | started _ => simp
  cases result : s.result? with
  | none =>
    refine ⟨p, .refl p, waits_of_serve stage server result running, ?_, server, rfl, ?_⟩
    · simp [fate, verdict?, stage, fateOf]
    · simp [fateOf, Fate.closing]
  | some r =>
    have stays : p.server.map leave = some s := by
      rw [server, Option.map_some, leave_of_result result]
    cases r with
    | error e =>
      refine ⟨_, .head (.reported stage server result) (.head (.exited rfl) (.refl _)),
        waits_of_finished rfl, rfl, stays, rfl, ?_⟩
      simp [fateOf, Fate.closing]
    | ok n =>
      obtain rfl : n = 1 := by
        cases hm : s.mode with
        | once => exact (w'.client_of_success hm result).1
        | forever => simp [(w'.phase_of_forever hm).1] at result
      refine ⟨_, .head (.reported stage server result) (finishes rfl), waits_of_finished rfl, rfl,
        stays, rfl, ?_⟩
      simp [fateOf, Fate.closing, tell, filter]

/-- The program ends when its server does, behind all visits, or goes on. -/
theorem exists_served {done : Nat → Plan} {extra : Nat → List Event} {mode : AcceptMode}
    {a : SocketAddress} (stage : p.stage = .going (.serve (.finishing done)))
    (filter : p.filter = some f) (server : p.server = some (.start mode a .fresh))
    (early : p.turnedAway = [])
    (finishes : ∀ {q : Process} {n : Nat}, q.stage = .going (done n) → q.LeadsTo w
      ({ q with stage := .finished (.completed n), server := q.server.map leave }.tell (extra n)))
    (vs : List Visit) :
    ∃ q, p.LeadsTo w q ∧ q.Waits w ∧
      q.fate = fateOf (visited w (.start mode a .fresh) vs).state.result? ∧
      q.server = some (visited w (.start mode a .fresh) vs).state ∧ q.output = p.output ∧
      q.log = p.log ++ ((visited w (.start mode a .fresh) vs).journal ++
        (fateOf (visited w (.start mode a .fresh) vs).state.result?).closing (extra 1)).filter
          f.logs := by
  have ran : ∃ ls, (State.start mode a .fresh).steps (.run :: ls) =
      some (visited w (.start mode a .fresh) vs).state := by
    obtain ⟨ls, run, -⟩ := follows_session w mode a vs
    exact ⟨ls, run⟩
  obtain ⟨q, ends, waits, fate, same, output, log⟩ := exists_end
    (p := { p with
      server := some (visited w (.start mode a .fresh) vs).state
      log := p.log ++ (visited w (.start mode a .fresh) vs).journal.filter f.logs })
    stage filter rfl ran finishes
  refine ⟨q, (leadsTo_visits stage filter server early vs).trans ends, waits, fate, same, output,
    ?_⟩
  rw [log, List.append_assoc, ← List.filter_append]

/-- A program that knows where to listen comes to what a run from there shows. -/
theorem shows_bringUp (done : Nat → Plan) (extra : Nat → List Event)
    (stage : p.stage = .going (.listen c (.bringUp done))) (filter : p.filter = some f)
    (early : p.turnedAway = []) (output : p.output = "")
    (finishes : ∀ {q : Process} {n : Nat}, q.stage = .going (done n) → q.LeadsTo w
      ({ q with stage := .finished (.completed n), server := q.server.map leave }.tell (extra n)))
    (vs : List Visit) :
    ∃ q, p.LeadsTo w q ∧ q.Waits w ∧ q.fate = (runStarted w (bringUp w c) vs).fate ∧
      q.output = (runStarted w (bringUp w c) vs).output ∧
      q.log = p.log ++ ((runStarted w (bringUp w c) vs).events ++
        (runStarted w (bringUp w c) vs).closing (extra 1)).filter f.logs ∧
      ∀ s, (runStarted w (bringUp w c) vs).launch = .running s →
        q.server = some (visited w s vs).state := by
  cases opened : Listener.bind w.machine c.listener with
  | error e =>
    have started : bringUp w c = ⟨.failed (.listener e), "", []⟩ := by simp [bringUp, opened]
    rw [started]
    refine ⟨_, .head (.unopened stage opened) (.head (.exited rfl) (.refl _)),
      waits_of_finished rfl, rfl, output, ?_, by simp [runStarted]⟩
    simp [runStarted, Run.closing]
  | ok l =>
    obtain ⟨a⟩ := l
    have tells := leadsTo_print stage filter output opened
    cases fault : w.outputFault? with
    | some f' =>
      have started : bringUp w c = ⟨.failed (.announcement f'), "", [boundEvent a]⟩ := by
        simp [bringUp, opened, fault]
      rw [started]
      rw [fault] at tells
      refine ⟨_, tells.trans (.head (.exited rfl) (.refl _)), waits_of_finished rfl, rfl, ?_, ?_,
        by simp [runStarted]⟩
      · simp [Surroundings.written, fault, runStarted]
      · simp [runStarted, Run.closing]
    | none =>
      have started : bringUp w c =
          ⟨.running (.start c.acceptMode a .fresh), readinessLine a ++ "\n", [boundEvent a]⟩ := by
        simp [bringUp, opened, fault]
      rw [started]
      rw [fault] at tells
      obtain ⟨q, ends, waits, fate, same, kept, log⟩ := exists_served
        (p := { p with
          stage := .going (.serve (.finishing done))
          server := some (.start c.acceptMode a .fresh)
          output := w.written (readinessLine a ++ "\n")
          log := p.log ++ [boundEvent a].filter f.logs })
        rfl filter rfl early finishes vs
      refine ⟨q, tells.trans ends, waits, fate, ?_, ?_, ?_⟩
      · rw [kept, Surroundings.written, fault]
        rfl
      · rw [log, List.append_assoc, ← List.filter_append]
        rfl
      · rintro s ⟨⟩
        exact same

end Process

open Process

theorem run_eq (w : Surroundings) (args : List String) (vs : List Visit) :
    run w args vs = { runStarted w (launch w args) vs with
      events := (runStarted w (launch w args) vs).events ++
        (runStarted w (launch w args) vs).closing [completedEvent 1] } := by
  unfold run
  generalize runStarted w (launch w args) vs = r
  obtain ⟨launch, fate, output, answers, events⟩ := r
  cases launch with
  | running s =>
    cases fate with
    | goesOn => simp [Run.closing, Fate.closing]
    | exits code e => cases code <;> simp [Run.closing, Fate.closing]
  | crashed slip | helped | unusable e | failed e => simp [Run.closing]

/-- An event before a start is one before its run. -/
theorem runStarted_cons (w : Surroundings) (started : Started) (e : Event) (vs : List Visit) :
    runStarted w { started with events := e :: started.events } vs =
      { runStarted w started vs with events := e :: (runStarted w started vs).events } := by
  unfold runStarted
  cases started.launch <;> rfl

theorem closing_nil (r : Run) : r.closing [] = [] := by
  unfold Run.closing Fate.closing
  split
  · split <;> rfl
  · rfl

/-- Where the log cannot be set up, a run shows just that. -/
theorem exists_shows_of_slip {slip : Text.Slip} (broken : w.filter = .error slip) (plan : Plan)
    (vs : List Visit) :
    ∃ p, (Process.start (.setUpLog plan)).LeadsTo w p ∧
      p.Shows w vs (runStarted w ⟨.crashed slip, "", []⟩ vs) :=
  ⟨_, .head (.slipped rfl broken) (.head (.exited rfl) (.refl _)), waits_of_finished rfl, rfl, rfl,
    rfl, by simp [runStarted]⟩

/-- Once the log is set up, a run of the program with a command line is one that it may take among
its clients. -/
theorem exists_shows_run (set : w.filter = .ok f) (args : List String) (vs : List Visit) :
    ∃ p, (Process.start (.ofArguments args)).LeadsTo w p ∧ p.Shows w vs (run w args vs) := by
  rw [run_eq]
  have behind := Surroundings.behindLog_of_ok set
  -- the log is set up before the arguments are read
  have first : (Process.start (.ofArguments args)).LeadsTo w
      { Process.start (.asked (CommandLine.parse args)) with filter := some f } :=
    .head (.logSetUp rfl set) (.refl _)
  cases parsed : CommandLine.parse args with
  | error e =>
    have started : launch w args = ⟨.unusable e, "", []⟩ := by simp [launch, behind, parsed]
    rw [parsed] at first
    rw [started]
    exact ⟨_, first.trans (.head (.exited rfl) (.refl _)), waits_of_finished rfl, rfl, rfl, rfl,
      by simp [runStarted]⟩
  | ok request =>
    rw [parsed] at first
    cases request with
    | help =>
      have started : launch w args = ⟨.helped, w.written CommandLine.helpText, []⟩ := by
        simp [launch, behind, parsed]
      rw [started]
      refine ⟨_, first.trans (.head (.printed rfl) (.head (.exited rfl) (.refl _))),
        waits_of_finished rfl, rfl, ?_, rfl, by simp [runStarted]⟩
      simp [Process.start, runStarted]
    | serve settings =>
      have laid' := first.trans (.head (.configured rfl) (.refl _))
      cases laid : settings.effective w.fileAt with
      | error e =>
        have started : launch w args = ⟨.failed (.config e), "", []⟩ := by
          simp [launch, behind, parsed, laid]
        rw [laid] at laid'
        rw [started]
        exact ⟨_, laid'.trans (.head (.exited rfl) (.refl _)), waits_of_finished rfl, rfl, rfl, rfl,
          by simp [runStarted]⟩
      | ok c =>
        have started : launch w args =
            { bringUp w c with events := configuredEvent c :: (bringUp w c).events } := by
          simp [launch, behind, parsed, laid]
        rw [laid] at laid'
        rw [started, runStarted_cons]
        obtain ⟨p, leads, waits, fate, output, log, server⟩ := shows_bringUp
          (fun n => .note (completedEvent n) (.exit (.completed n))) (fun n => [completedEvent n])
          (w := w) (f := f) (c := c) (p := { Process.start (.listen c .bound) with
            filter := some f
            log := [configuredEvent c].filter f.logs }) rfl rfl rfl rfl
          (fun stage => .head (.noted stage) (.head (.exited rfl) (.refl _))) vs
        refine ⟨p, laid'.trans (.head (.noted rfl) leads), waits, fate, output, ?_, server⟩
        rw [log, ← List.filter_append, Surroundings.logs_eq set]
        rfl

/-- A run of the program with a command line is one that it may take among its clients. -/
theorem run_is_a_course (w : Surroundings) (args : List String) (vs : List Visit) :
    ∃ p, (Process.start (.ofArguments args)).LeadsTo w p ∧ p.Shows w vs (run w args vs) := by
  cases set : w.filter with
  | ok f => exact exists_shows_run set args vs
  | error slip =>
    have started : launch w args = ⟨.crashed slip, "", []⟩ :=
      Surroundings.behindLog_of_error set _
    rw [run_eq, started]
    exact exists_shows_of_slip set _ vs

/-- A run of a server on a host and a port is one that it may take among its clients. -/
theorem runServe_is_a_course (w : Surroundings) (host : String) (port : UInt16)
    (vs : List Visit) :
    ∃ p, (Process.start (.ofEndpoint host port)).LeadsTo w p ∧
      p.Shows w vs (runServe w host port vs) := by
  unfold runServe serve Plan.ofEndpoint
  cases set : w.filter with
  | error slip =>
    rw [Surroundings.behindLog_of_error set]
    exact exists_shows_of_slip set _ vs
  | ok f =>
    rw [Surroundings.behindLog_of_ok set, Plan.serving_eq]
    obtain ⟨p, leads, waits, fate, output, log, server⟩ := shows_bringUp
      (fun n => .exit (.completed n)) (fun _ => []) (w := w)
      (p := { Process.start
          (.listen ⟨⟨host, port⟩, .once⟩ (.bringUp fun n => .exit (.completed n))) with
        filter := some f })
      rfl rfl rfl rfl (fun stage => .head (.exited stage) (by rw [tell_nil]; exact .refl _)) vs
    refine ⟨p, .head (.logSetUp rfl set) leads, waits, fate, output, ?_, server⟩
    rw [log, closing_nil, List.append_nil, Surroundings.logs_eq set]
    rfl

end CannedReply.Program
