import CannedReply.Proofs.Log.Filter
import CannedReply.Proofs.Program.BrokenStart

/-!
What is set for the log decides which events are logged, and nothing else, if the log can be set up
with it. Two runs of one program that differ in the setting go on side by side then, turn by turn,
whatever happens around them. With the other settings the program ends before it does anything.
-/

namespace CannedReply.Program

open Server Log

variable {v w : Surroundings} {f g : Filter} {p p' q : Process} {t : Turn} {ts : List Turn}

/-- The same surroundings, with another setting for the log. -/
def Surroundings.withLog (w : Surroundings) (setting : Option String) : Surroundings :=
  { w with logSetting := setting }

/-- Whether a plan sets up no log. -/
def Plan.LeavesLog : Plan → Prop
  | .exit _ => True
  | .setUpLog _ => False
  | .note _ next => next.LeavesLog
  | .configure _ next => ∀ r, (next r).LeavesLog
  | .listen _ next => ∀ r, (next r).LeavesLog
  | .print _ next => ∀ r, (next r).LeavesLog
  | .serve next => ∀ r, (next r).LeavesLog

def Process.LeavesLog (p : Process) : Prop :=
  ∀ plan, p.stage = .going plan → plan.LeavesLog

/-- Whether two programs stand at the same point of the same run, and each has logged those of the
events that its filter lets through. -/
structure Process.Beside (f g : Filter) (p q : Process) : Prop where
  stage : p.stage = q.stage
  server : p.server = q.server
  turnedAway : p.turnedAway = q.turnedAway
  output : p.output = q.output
  filters : p.filter = none ∧ q.filter = none ∨ p.filter = some f ∧ q.filter = some g
  logs : ∃ events : List Event, p.log = events.filter f.logs ∧ q.log = events.filter g.logs

/-- Whether the surroundings differ in the setting for the log at most, and the log can be set up
with both. -/
structure Surroundings.Alike (v w : Surroundings) (f g : Filter) : Prop where
  same : w.withLog v.logSetting = v
  here : v.filter = .ok f
  there : w.filter = .ok g

theorem Surroundings.Alike.symm (h : v.Alike w f g) : w.Alike v g f where
  same := by rw [← h.same]; rfl
  here := h.there
  there := h.here

namespace Process

theorem log_tell_none {p : Process} (h : p.filter = none) (es : List Event) :
    (p.tell es).log = p.log := by
  simp [tell, h]

theorem log_tell_some {p : Process} (h : p.filter = some f) (es : List Event) :
    (p.tell es).log = p.log ++ es.filter f.logs := by
  simp [tell, h]

namespace Beside

theorem symm (h : Beside f g p q) : Beside g f q p where
  stage := h.stage.symm
  server := h.server.symm
  turnedAway := h.turnedAway.symm
  output := h.output.symm
  filters := h.filters.imp And.symm And.symm
  logs := by
    obtain ⟨events, hp, hq⟩ := h.logs
    exact ⟨events, hq, hp⟩

/-- The same events happen to both. -/
theorem tell (h : Beside f g p q) (es : List Event) : Beside f g (p.tell es) (q.tell es) where
  stage := by simpa using h.stage
  server := by simpa using h.server
  turnedAway := by simpa using h.turnedAway
  output := by simpa using h.output
  filters := by simpa using h.filters
  logs := by
    obtain ⟨events, hp, hq⟩ := h.logs
    rcases h.filters with ⟨fp, fq⟩ | ⟨fp, fq⟩
    · exact ⟨events, by rw [log_tell_none fp, hp], by rw [log_tell_none fq, hq]⟩
    · exact ⟨events ++ es, by rw [log_tell_some fp, hp, List.filter_append],
        by rw [log_tell_some fq, hq, List.filter_append]⟩

theorem withServer (h : Beside f g p q) (s : State) :
    Beside f g { p with server := some s } { q with server := some s } :=
  { h with server := rfl }

/-- What one of them does, the other one does. -/
theorem advance (alike : v.Alike w f g) (h : Beside f g p q) (go : p.Advances v p') :
    ∃ q', q.Advances w q' ∧ Beside f g p' q' := by
  obtain ⟨machine, fileAt, -, fault, -⟩ := Surroundings.mk.inj alike.same
  have stageOf : ∀ {st}, p.stage = st → q.stage = st := fun e => h.stage.symm.trans e
  have serverOf : ∀ {st}, p.server = st → q.server = st := fun e => h.server.symm.trans e
  cases go with
  | exited stage =>
    exact ⟨_, .exited (stageOf stage),
      { h with stage := rfl, server := congrArg (Option.map leave) h.server }⟩
  | logSetUp stage set =>
    obtain rfl := Except.ok.inj (alike.here.symm.trans set)
    exact ⟨_, .logSetUp (stageOf stage) alike.there,
      { h with stage := rfl, filters := .inr ⟨rfl, rfl⟩ }⟩
  | slipped _ broken => exact nomatch alike.here.symm.trans broken
  | @noted e next stage =>
    have beside : Beside f g { p with stage := .going next } { q with stage := .going next } :=
      { h with stage := rfl }
    exact ⟨_, .noted (stageOf stage), beside.tell [e]⟩
  | configured stage =>
    exact ⟨_, .configured (stageOf stage), { h with stage := by simp only [fileAt] }⟩
  | unopened stage failed =>
    exact ⟨_, .unopened (stageOf stage) (machine ▸ failed), { h with stage := rfl }⟩
  | @opened c next a stage listens =>
    have beside : Beside f g
        { p with stage := .going (next (.ok a)), server := some (.start c.acceptMode a .fresh) }
        { q with stage := .going (next (.ok a)), server := some (.start c.acceptMode a .fresh) } :=
      { h with stage := rfl, server := rfl }
    exact ⟨_, .opened (stageOf stage) (machine ▸ listens), beside.tell [boundEvent a]⟩
  | printed stage =>
    exact ⟨_, .printed (stageOf stage), { h with
      stage := by simp only [fault]
      output := by simp only [h.output, Surroundings.written, fault] }⟩
  | @started next s stage server bound =>
    exact ⟨_, .started (stageOf stage) (serverOf server) bound,
      (h.withServer { s with phase := .accepting }).tell (s.events .run)⟩
  | reported stage server result =>
    exact ⟨_, .reported (stageOf stage) (serverOf server) result, { h with stage := rfl }⟩

/-- What happens around one of them can happen around the other one. -/
theorem outside {l : Label} (h : Beside f g p q) (next : p.outside l = some p') :
    ∃ q', q.outside l = some q' ∧ Beside f g p' q' := by
  have admits : q.admits l = p.admits l := by
    cases l <;> simp only [Process.admits, h.turnedAway]
  rcases outside_cases next with ⟨s, u, server, admitted, step, rfl⟩ | ⟨c, a, server, rfl, new, rfl⟩
  · have server' : q.server = some s := h.server.symm.trans server
    refine ⟨{ q with server := some u }.tell (s.events l), ?_, (h.withServer u).tell _⟩
    simp [Process.outside, admits, admitted, server', step]
  · have server' : q.server = none := h.server.symm.trans server
    rw [h.turnedAway] at new
    refine ⟨{ q with turnedAway := q.turnedAway ++ [c] }, ?_,
      { h with turnedAway := by simp only [h.turnedAway] }⟩
    simp [Process.outside, Process.admits, new, server']

theorem step (alike : v.Alike w f g) (h : Beside f g p q) (next : p.step v t = some p') :
    ∃ q', q.step w t = some q' ∧ Beside f g p' q' := by
  cases t with
  | own =>
    obtain ⟨q', go, beside⟩ := h.advance alike (advance_eq_some_iff.1 next)
    exact ⟨q', advance_eq_some_iff.2 go, beside⟩
  | outside l => exact h.outside next

theorem steps (alike : v.Alike w f g) (h : Beside f g p q) (run : p.steps v ts = some p') :
    ∃ q', q.steps w ts = some q' ∧ Beside f g p' q' := by
  induction ts generalizing p q with
  | nil =>
    obtain rfl := Option.some.inj run
    exact ⟨q, rfl, h⟩
  | cons t ts ih =>
    obtain ⟨r, first, rest⟩ := steps_cons_eq_some_iff.1 run
    obtain ⟨r', first', h'⟩ := h.step alike first
    obtain ⟨q', rest', h''⟩ := ih h' rest
    exact ⟨q', steps_cons_eq_some_iff.2 ⟨r', first', rest'⟩, h''⟩

theorem waits_iff (alike : v.Alike w f g) (h : Beside f g p q) : p.Waits v ↔ q.Waits w := by
  simp only [Process.waits_iff]
  constructor
  · intro stuck q' go
    obtain ⟨p', go', -⟩ := h.symm.advance alike.symm go
    exact stuck p' go'
  · intro stuck p' go
    obtain ⟨q', go', -⟩ := h.advance alike go
    exact stuck q' go'

theorem start (f g : Filter) (plan : Plan) : Beside f g (.start plan) (.start plan) :=
  ⟨rfl, rfl, rfl, rfl, .inl ⟨rfl, rfl⟩, [], rfl, rfl⟩

theorem verdict (h : Beside f g p q) : p.verdict? = q.verdict? := by
  rw [verdict?, verdict?, h.stage]

end Beside

/-- A setting counts for the filter that it gives alone. -/
theorem steps_of_filter {a b : Option String} (w : Surroundings)
    (same : (w.withLog a).filter = (w.withLog b).filter) (p : Process) (ts : List Turn) :
    p.steps (w.withLog a) ts = p.steps (w.withLog b) ts := by
  have one : ∀ (p : Process) t, p.step (w.withLog a) t = p.step (w.withLog b) t := by
    intro p t
    cases t with
    | outside l => rfl
    | own =>
      simp only [Process.step, advance, same]
      rfl
  induction ts generalizing p with
  | nil => rfl
  | cons t ts ih => simp only [Process.steps, one, ih]

theorem LeavesLog.of_stage {plan : Plan} (stage : p.stage = .going plan)
    (leaves : plan.LeavesLog) : p.LeavesLog := by
  intro plan' stage'
  cases stage.symm.trans stage'
  exact leaves

/-- Where no log is set up, what is set for it does not count, and goes on not to count. -/
theorem LeavesLog.advance {a : Option String} (b : Option String) (h : p.LeavesLog)
    (go : p.Advances (w.withLog a) q) : p.Advances (w.withLog b) q ∧ q.LeavesLog := by
  cases go with
  | exited stage => exact ⟨.exited stage, nofun⟩
  | logSetUp stage _ | slipped stage _ => exact (h _ stage).elim
  | noted stage => exact ⟨.noted stage, .of_stage rfl (h _ stage :)⟩
  | configured stage => exact ⟨.configured (w := w.withLog b) stage, .of_stage rfl (h _ stage _)⟩
  | unopened stage failed => exact ⟨.unopened stage failed, .of_stage rfl (h _ stage _)⟩
  | opened stage listens => exact ⟨.opened stage listens, .of_stage rfl (h _ stage _)⟩
  | printed stage => exact ⟨.printed (w := w.withLog b) stage, .of_stage rfl (h _ stage _)⟩
  | started stage server bound => exact ⟨.started stage server bound, h⟩
  | reported stage server result =>
    exact ⟨.reported stage server result, .of_stage rfl (h _ stage _)⟩

theorem LeavesLog.steps {a : Option String} (b : Option String) (h : p.LeavesLog)
    (run : p.steps (w.withLog a) ts = some q) : p.steps (w.withLog b) ts = some q := by
  induction ts generalizing p with
  | nil => exact run
  | cons t ts ih =>
    obtain ⟨r, first, rest⟩ := steps_cons_eq_some_iff.1 run
    cases t with
    | own =>
      obtain ⟨go, leaves⟩ := h.advance b (advance_eq_some_iff.1 first)
      exact steps_cons_eq_some_iff.2 ⟨r, advance_eq_some_iff.2 go, ih leaves rest⟩
    | outside l =>
      have leaves : r.LeavesLog := fun plan stage => h plan ((outside_frame first).1 ▸ stage)
      exact steps_cons_eq_some_iff.2 ⟨r, first, ih leaves rest⟩

theorem leavesLog_serving (host : String) (port : UInt16) :
    (start (.serving host port)).LeavesLog := by
  rintro plan ⟨⟩ (_ | address)
  · trivial
  · rintro (_ | failure)
    · rintro (_ | n) <;> trivial
    · trivial

end Process

/-- With any two settings with which the log can be set up, a program writes the same to standard
output, ends in the same way or goes on, gives all clients the same, and says the same about its
end; only which of the events are logged depends on the setting. One that is refused counts as none,
and both programs start. The log cannot be set up with a setting only if that has a directive with
white space in front of it and a character of several bytes; both programs then come to nothing. To
serve alone sets up no log, and is the same with every setting. -/
theorem log_setting_changes_the_log_only {w : Surroundings} {plan : Plan} {a b : Option String}
    (here : (w.withLog a).filter = .ok f) (there : (w.withLog b).filter = .ok g)
    (run : (Process.start plan).steps (w.withLog a) ts = some p) :
    (∃ q, (Process.start plan).steps (w.withLog b) ts = some q ∧
      p.output = q.output ∧ p.verdict? = q.verdict? ∧ p.fate = q.fate ∧ p.report? = q.report? ∧
      (p.Waits (w.withLog a) ↔ q.Waits (w.withLog b)) ∧
      (∀ c, p.standing? c = q.standing? c ∧ ∀ date, p.written c date = q.written c date) ∧
      ∃ events : List Event,
        p.errorLines = (events.filter f.logs).map Event.line ++ p.report?.toList ∧
        q.errorLines = (events.filter g.logs).map Event.line ++ q.report?.toList) ∧
    ((∀ s ∈ a, ∀ f, Filter.ofText w.isPattern s ≠ .ok f) →
      (Process.start plan).steps (w.withLog none) ts = some p) ∧
    (∀ host port us r c d, (Process.start (.serving host port)).steps (w.withLog c) us = some r →
      (Process.start (.serving host port)).steps (w.withLog d) us = some r) ∧
    ∀ args host port, ∀ plan' ∈ [Plan.ofArguments args, Plan.ofEndpoint host port],
      (∃ r, (Process.start plan').steps (w.withLog a) [.own] = some r ∧ r.fate = .goesOn ∧
        r.filter = some f) ∧
      ∀ c slip, (w.withLog c).filter = .error slip →
        (∃ s ∈ c, ∃ d ∈ s.toList.splitOn ',',
          (∃ x ∈ d.head?, Text.isBlank x = true) ∧ ∃ x ∈ d, x.utf8Size ≠ 1) ∧
        (∃ r, (Process.start plan').steps (w.withLog c) [.own, .own] = some r ∧
          r.fate = .exits 101 none) ∧
        ∀ us r, (Process.start plan').steps (w.withLog c) us = some r →
          r.Fruitless (w.withLog c) slip := by
  obtain ⟨q, run', h⟩ := (Process.Beside.start f g plan).steps ⟨rfl, here, there⟩ run
  obtain ⟨events, logged, logged'⟩ := h.logs
  refine ⟨⟨q, run', h.output, h.verdict, ?fate, ?report, h.waits_iff ⟨rfl, here, there⟩, ?clients,
    events, ?lines, ?lines'⟩, ?refused,
    fun host port us r c d run => (Process.leavesLog_serving host port).steps d run,
    fun args host port plan' either => ?programs⟩
  case fate => rw [Process.fate, Process.fate, h.verdict]
  case report => rw [Process.report?, Process.report?, h.verdict]
  case clients =>
    intro c
    exact ⟨by rw [Process.standing?, Process.standing?, h.turnedAway, h.server],
      fun date => by rw [Process.written, Process.written, h.server]⟩
  case lines => rw [Process.errorLines, logged]
  case lines' => rw [Process.errorLines, logged']
  case refused =>
    intro refused
    obtain rfl := Filter.eq_default_of_refused here refused
    rw [← Process.steps_of_filter w here]
    exact run
  case programs =>
    obtain ⟨next, rfl⟩ : ∃ next, plan' = .setUpLog next := by
      rcases List.mem_pair.1 either with rfl | rfl
      · exact ⟨_, rfl⟩
      · exact ⟨_, rfl⟩
    refine ⟨⟨{ Process.start next with filter := some f }, ?_, rfl, rfl⟩,
      fun c slip broken => ⟨Filter.exists_of_slip broken, Process.exists_crash broken next,
        fun us r run => Process.fruitless_of_slip broken run⟩⟩
    exact Process.steps_cons_eq_some_iff.2
      ⟨_, Process.advance_eq_some_iff.2 (.logSetUp rfl here), rfl⟩

/-- With nothing set the program tells what happens; with the empty text it is silent, and does the
same. -/
theorem log_setting_of_a_telling_and_a_silent_run :
    let client : SocketAddress := .v4 (.ofNat 0x7f000001) 40000
    let w : Surroundings :=
      ⟨.standalone, fun _ => .error .noSuchFile, none, none, fun _ => true⟩
    let new := Process.start (.ofArguments ["--host=127.0.0.1", "--port=0"])
    let ts : List Turn := List.replicate 6 .own ++ [.outside (.connect 0 client),
      .outside .accept, .outside (.close 0), .outside .stopListening, .outside (.handle 0),
      .outside .report, .own, .own, .own]
    ∃ p q, new.steps (w.withLog none) ts = some p ∧ new.steps (w.withLog (some "")) ts = some q ∧
      p.errorLines.length = 5 ∧ q.errorLines = [] ∧
      p.output = q.output ∧ q.output = "Serving on 127.0.0.1:49152\n" ∧ q.fate = .exits 0 none := by
  intro client w new ts
  have ends : (new.steps (w.withLog none) ts).map
      (fun p => (p.output, p.fate, p.report?, p.errorLines.length)) =
      some ("Serving on 127.0.0.1:49152\n", .exits 0 none, none, 5) := by decide +kernel
  obtain ⟨p, telling, told⟩ := Option.map_eq_some_iff.1 ends
  simp only [Prod.mk.injEq] at told
  obtain ⟨output, fate, report, lines⟩ := told
  have empty : (w.withLog (some "")).filter = .ok ⟨[], []⟩ := by decide +kernel
  obtain ⟨⟨q, silent, outputs, -, fates, reports, -, -, events, -, lines'⟩, -⟩ :=
    log_setting_changes_the_log_only (f := .default) rfl empty telling
  have nothing : q.errorLines = [] := by
    have none' : (⟨[], []⟩ : Filter).logs = fun _ => false := rfl
    simp [lines', ← reports, report, none']
  exact ⟨p, q, telling, silent, lines, nothing, outputs, outputs ▸ output, fates ▸ fate⟩

/-- There is a setting with which the program ends with the status 101 and says nothing where it
gives its help without one. -/
theorem log_setting_that_breaks_the_start :
    let w : Surroundings :=
      ⟨.standalone, fun _ => .error .noSuchFile, none, none, fun _ => true⟩
    let new := Process.start (.ofArguments ["--help"])
    (new.steps (w.withLog none) (List.replicate 3 .own)).map (fun p => (p.output, p.fate)) =
      some (CommandLine.helpText, .exits 0 none) ∧
    (new.steps (w.withLog (some "\u00a0a=info")) (List.replicate 2 .own)).map
      (fun p => (p.output, p.fate)) = some ("", .exits 101 none) := by
  decide +kernel

end CannedReply.Program
