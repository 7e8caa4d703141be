import CannedReply.Proofs.Server.AcceptLoop
import CannedReply.Proofs.Server.Happens
import CannedReply.Server.Attempts

/-!
A server that takes any number of clients does about its attempts to accept what the loop does:
one thing after the other, each in its place, and with the pauses that keep it from being busy with
failures.
-/

namespace CannedReply.Server

open Deed Reaction

variable {s t : State} {l : Label} {ls : List Label} {time : Nat}

namespace State

/-- What shows in the first step of a run, and in the others. -/
theorem timed_cons {β : Type} (shows : State → Label → State → List β) (h : Happens s l t)
    (ls : List Label) :
    s.timed shows (l :: ls) =
      (shows s l t).map (fun b => (s.clock, b)) ++ t.timed shows ls := by
  simp [timed, step_of_happens h]

/-- Where nobody but handlers and the listener has something to tell, the server warns of
nothing. -/
theorem warnings_of_others (others : ∀ e ∈ s.events l, e.source ≠ .server) :
    s.warnings l t = [] := by
  refine List.filter_eq_nil_iff.2 fun e mem => ?_
  simp [others e mem]

/-- A server that stays where it is begins no pause. -/
theorem newPauses_of_phase (same : t.phase = s.phase) : s.newPauses l t = [] := by
  unfold newPauses
  rw [same]
  cases s.phase <;> rfl

/-- Time that passes makes no attempt come too early. -/
theorem AttemptsFrom.later (goesOn : s.AttemptsFrom time) (phase : t.phase = s.phase)
    (clock : s.clock ≤ t.clock) : t.AttemptsFrom time := by
  unfold AttemptsFrom at goesOn ⊢
  rw [phase]
  cases hp : s.phase with
  | bound | accepting =>
    rw [hp] at goesOn
    exact Nat.le_trans goesOn clock
  | pausing | closing | awaiting | finished | abandoned =>
    rw [hp] at goesOn
    exact goesOn

/-- The listener tells of connections. -/
theorem source_of_mem_acceptEvents {e : Log.Event} (able : s.descriptors = true)
    (mem : e ∈ s.acceptEvents) : e.source = .listener := by
  unfold acceptEvents at mem
  rw [able] at mem
  split at mem
  · next impossible => simp at impossible
  · obtain ⟨x, -, rfl⟩ := Option.map_eq_some_iff.1 (Option.mem_toList.1 mem)
    rfl
  · simp at mem

/-- Handlers do not speak for the server. -/
theorem source_of_mem_handleEvents {c : Nat} {e : Log.Event} (mem : e ∈ s.handleEvents c) :
    e.source ≠ .server := by
  unfold handleEvents at mem
  split at mem
  · next x _ =>
    obtain ⟨es, hes, here⟩ : ∃ es, x.outcome?.map x.ending = some es ∧ e ∈ es := by
      cases ho : x.outcome?.map x.ending with
      | none => simp [ho] at mem
      | some es => exact ⟨es, rfl, by simpa [ho] using mem⟩
    obtain ⟨o, -, rfl⟩ := Option.map_eq_some_iff.1 hes
    unfold Connection.ending at here
    split at here
    all_goals
      simp only [List.mem_cons, List.not_mem_nil, or_false] at here
      rcases here with rfl | rfl <;> simp [Connection.replied, Connection.failure]
  · simp at mem

end State

namespace Happens

/-- To the loop a step is an attempt that fails, an attempt that gives a connection, or nothing. -/
theorem attempt_cases (h : Happens s l t) (forever : s.mode = .forever) :
    (∃ f, s.outcomes l t = [.failed (.accept f)] ∧ s.phase = .accepting ∧
      s.events l = [failedEvent (.accept f)] ∧
      t = { s with phase := .pausing (s.clock + acceptBackoff) }) ∨
    (∃ c x, s.outcomes l t = [.accepted x] ∧ s.phase = .accepting ∧ s.warnings l t = [] ∧
      t.phase = .accepting ∧ t.clock = s.clock ∧ t.accepted = s.accepted ++ [c] ∧
      t.connection? c = some x) ∨
    (s.outcomes l t = [] ∧ s.warnings l t = [] ∧ s.newPauses l t = [] ∧
      t.accepted = s.accepted ∧ ∀ time, s.AttemptsFrom time → t.AttemptsFrom time) := by
  cases h with
  | failed accepting short =>
    refine .inl ⟨.tooManyOpenFiles, ?_, accepting, ?_, ?_⟩
    · simp [State.outcomes, State.failure?, short]
    · simp [State.events, State.acceptEvents, State.failEvents, short, forever]
    · simp [State.failToAccept, forever]
  | @hindered f accepting =>
    refine .inl ⟨f, rfl, accepting, ?_, ?_⟩
    · simp [State.events, State.failEvents, forever]
    · simp [State.failToAccept, forever]
  | acceptedOnly _ _ _ _ once => simp [forever] at once
  | @acceptedNext c rest k accepting able first _ _ =>
    refine .inr (.inl ⟨c, .accepted s.ids.take.1 k.address, ?_, accepting, ?_, rfl, rfl, rfl, ?_⟩)
    · simp [State.outcomes, State.failure?, able, first, State.connection?]
    · exact State.warnings_of_others fun e mem => by
        simp [State.source_of_mem_acceptEvents able mem]
    · simp [State.connection?]
  | @handled c _ _ _ _ _ _ =>
    refine .inr (.inr ⟨rfl, ?_, ?_, rfl, fun _ goesOn => goesOn⟩)
    · exact State.warnings_of_others fun e mem => State.source_of_mem_handleEvents mem
    · exact State.newPauses_of_phase rfl
  | started phase | abandoned phase | stoppedListening phase | reported phase _ =>
    refine .inr (.inr ⟨rfl, ?_, ?_, rfl, fun time goesOn => ?_⟩)
    · simp [State.warnings, State.events, serverEvent, acceptingEvent, closedEvent, servedEvent]
    · simp [State.newPauses, phase]
    · simp_all [State.AttemptsFrom]
  | resumed pausing past =>
    refine .inr (.inr ⟨rfl, rfl, ?_, rfl, fun time goesOn => ?_⟩)
    · simp [State.newPauses, pausing]
    · simp_all [State.AttemptsFrom]
  | passed =>
    exact .inr (.inr ⟨rfl, rfl, State.newPauses_of_phase rfl, rfl,
      fun _ goesOn => goesOn.later rfl (Nat.le_add_right _ _)⟩)
  | refused _ _ | queued _ _ _ | adopted _ | sent _ | finished _ | closed _ | descriptorsSet =>
    exact .inr (.inr ⟨rfl, rfl, State.newPauses_of_phase rfl, rfl, fun _ goesOn => goesOn⟩)

/-- Each connection that comes of an attempt is new, and no others are. -/
theorem newConnections_eq (h : Happens s l t) (forever : s.mode = .forever) :
    s.newConnections l t = (s.outcomes l t).filterMap Attempt.connection? := by
  rcases h.attempt_cases forever with
    ⟨f, failed, -, -, rfl⟩ | ⟨c, x, one, -, -, -, -, next, gets⟩ | ⟨none', -, -, same, -⟩
  · rw [failed]
    simp [State.newConnections, Attempt.connection?]
  · rw [one]
    simp [State.newConnections, next, gets, Attempt.connection?]
  · rw [none']
    simp [State.newConnections, same]

/-- The server warns of each failure that comes of an attempt, and of nothing else. -/
theorem warnings_eq (h : Happens s l t) (forever : s.mode = .forever) :
    s.warnings l t = ((s.outcomes l t).filterMap Attempt.error?).map failedEvent := by
  rcases h.attempt_cases forever with
    ⟨f, failed, -, told, -⟩ | ⟨c, x, one, -, silent, -⟩ | ⟨none', silent, -⟩
  · rw [failed, State.warnings, told]
    rfl
  · rw [one, silent]
    rfl
  · rw [none', silent]
    rfl

/-- The server pauses behind each failure that comes of an attempt, and behind nothing else. -/
theorem newPauses_eq (h : Happens s l t) (forever : s.mode = .forever) :
    s.newPauses l t =
      ((s.outcomes l t).filterMap Attempt.error?).map fun _ => acceptBackoff := by
  rcases h.attempt_cases forever with
    ⟨f, failed, accepting, -, rfl⟩ | ⟨c, x, one, accepting, -, stays, -⟩ | ⟨none', -, still, -⟩
  · rw [failed]
    simp [State.newPauses, accepting, Attempt.error?]
  · rw [one, State.newPauses_of_phase (stays.trans accepting.symm)]
    rfl
  · rw [none', still]
    rfl

/-- A step makes no attempt, and leaves open when the next one is made, or it makes one, no
earlier than it may, and the next one follows behind the pause, if there is one. -/
theorem attemptsFrom (h : Happens s l t) (forever : s.mode = .forever)
    (goesOn : s.AttemptsFrom time) :
    s.outcomes l t = [] ∧ t.AttemptsFrom time ∨
    ∃ a, s.outcomes l t = [a] ∧ time ≤ s.clock ∧ t.AttemptsFrom (s.clock + a.reactionTime) := by
  rcases h.attempt_cases forever with
    ⟨f, failed, accepting, -, rfl⟩ | ⟨c, x, one, accepting, -, phase, clock, -⟩ |
    ⟨none', -, -, -, keeps⟩
  · rw [State.AttemptsFrom, accepting] at goesOn
    exact .inr ⟨_, failed, goesOn, rfl⟩
  · rw [State.AttemptsFrom, accepting] at goesOn
    refine .inr ⟨_, one, goesOn, ?_⟩
    rw [State.AttemptsFrom, phase, clock]
    exact Nat.le_refl _
  · exact .inl ⟨none', keeps time goesOn⟩

end Happens

namespace State

namespace RunsLoop

variable {u : State} {tried : List (Nat × Attempt Connection)} {a : Attempt Connection}

/-- Before anything happens the loop stands in front of its first attempt. -/
theorem nil (goesOn : s.AttemptsFrom time) : s.RunsLoop [] s time [] where
  outcomes := rfl
  spawns := rfl
  warnings := rfl
  pauses := rfl
  stands := ⟨[], time, rfl, goesOn⟩

/-- A step without an attempt shows nothing, so that the run shows what the rest of it does. -/
theorem silent (first : Happens s l u) (forever : s.mode = .forever)
    (none' : s.outcomes l u = []) (loop : u.RunsLoop ls t time tried) :
    s.RunsLoop (l :: ls) t time tried := by
  have spawns := first.newConnections_eq forever
  have warnings := first.warnings_eq forever
  have pauses := first.newPauses_eq forever
  rw [none'] at spawns warnings pauses
  refine ⟨?_, ?_, ?_, ?_, loop.stands⟩
  · rw [timed_cons _ first, none']
    exact loop.outcomes
  · rw [timed_cons _ first, spawns]
    exact loop.spawns
  · rw [timed_cons _ first, warnings]
    exact loop.warnings
  · rw [timed_cons _ first, pauses]
    exact loop.pauses

/-- A step with an attempt is the next one of the loop, which takes all the time since it could be
made. -/
theorem attempt (first : Happens s l u) (forever : s.mode = .forever)
    (one : s.outcomes l u = [a]) (late : time ≤ s.clock)
    (loop : u.RunsLoop ls t (s.clock + a.reactionTime) tried) :
    s.RunsLoop (l :: ls) t time ((s.clock - time, a) :: tried) := by
  have spawns := first.newConnections_eq forever
  have warnings := first.warnings_eq forever
  have pauses := first.newPauses_eq forever
  rw [one, List.filterMap_eq_flatMap_toList, List.flatMap_singleton] at spawns warnings pauses
  have now : time + (s.clock - time) = s.clock := Nat.add_sub_cancel' late
  refine ⟨?_, ?_, ?_, ?_, ?_⟩
  · rw [timed_cons _ first, one, List.map_append, loop.outcomes]
    rfl
  · rw [timed_cons _ first, spawns, loop.spawns, pick_acceptLoop_cons, now,
      a.spawned_reactions]
  · rw [timed_cons _ first, warnings, loop.warnings, pick_acceptLoop_cons, now,
      a.warnings_reactions, List.map_append, List.map_map, List.map_map]
    rfl
  · rw [timed_cons _ first, pauses, loop.pauses, pick_acceptLoop_cons, now,
      a.pauses_reactions]
  · obtain ⟨past, begun, ends, goesOn⟩ := loop.stands
    refine ⟨(time, .attempt) :: a.reactions.map (fun r => (s.clock, .react r)) ++ past, begun, ?_,
      goesOn⟩
    simp only [acceptLoop, now, ends, List.append_assoc]

end RunsLoop

/-- What shows of a run is what the loop does, whatever happens in it. -/
theorem exists_runsLoop (run : s.steps ls = some t) (forever : s.mode = .forever)
    (goesOn : s.AttemptsFrom time) : ∃ tried, s.RunsLoop ls t time tried := by
  induction ls generalizing s time with
  | nil =>
    obtain rfl := Option.some.inj run
    exact ⟨[], .nil goesOn⟩
  | cons l ls ih =>
    obtain ⟨u, first, rest⟩ := steps_cons_eq_some_iff.1 run
    rcases first.attemptsFrom forever goesOn with ⟨none', goesOn⟩ | ⟨a, one, late, goesOn⟩
    · obtain ⟨tried, loop⟩ := ih rest (first.mode.trans forever) goesOn
      exact ⟨tried, loop.silent first forever none'⟩
    · obtain ⟨tried, loop⟩ := ih rest (first.mode.trans forever) goesOn
      exact ⟨_, loop.attempt first forever one late⟩

/-- A server that the loop goes on for has no result. -/
theorem AttemptsFrom.result (goesOn : s.AttemptsFrom time) : s.result? = none := by
  unfold AttemptsFrom at goesOn
  unfold result?
  cases hp : s.phase <;> simp_all

/-- A server in front of an attempt, with nobody there. -/
structure Idles (s : State) (next : Nat) : Prop where
  forever : s.mode = .forever
  accepting : s.phase = .accepting
  able : s.descriptors = true
  empty : s.backlog = []
  new : ∀ c, next ≤ c → s.clients c = none

namespace Idles

variable {next : Nat}

theorem attemptsFrom (idles : s.Idles next) : s.AttemptsFrom s.clock := by
  simp [AttemptsFrom, idles.accepting]

/-- A client comes, and is accepted after a while. -/
theorem connect (idles : s.Idles next) (address : SocketAddress) (wait : Nat) :
    ∃ (u : State) (x : Connection), u.Idles (next + 1) ∧
      (∀ ls, s.steps (.connect next address :: .pass wait :: .accept :: ls) = u.steps ls) ∧
      ∀ ls t tried, u.RunsLoop ls t u.clock tried →
        s.RunsLoop (.connect next address :: .pass wait :: .accept :: ls) t s.clock
          ((wait, .accepted x) :: tried) := by
  obtain ⟨forever, accepting, able, empty, new⟩ := idles
  let k : Client := ⟨address, .waiting, [], false⟩
  let come : State := { s.put next k with backlog := s.backlog ++ [next] }
  let late : State := { come with clock := come.clock + wait }
  let served : State :=
    { late.attach next k with
      backlog := []
      accepted := late.accepted ++ [next]
      phase := .accepting }
  have first : late.backlog = [next] := by simp [late, come, empty]
  have known : late.clients next = some k := by simp [late, come]
  have queued : Happens s (.connect next address) come :=
    .queued (new next (Nat.le_refl _)) (by simp [isListening, accepting]) (by simp [empty])
  have waited : Happens come (.pass wait) late := .passed
  have accepted : Happens late .accept served := .acceptedNext accepting able first known forever
  let x : Connection := .accepted late.ids.take.1 address
  have one : late.outcomes .accept served = [.accepted x] := by
    have stays : late.failure? .accept = none := by simp [failure?, late, come, able]
    have connected : served.connection? next = some x := by simp [served, connection?, k, x]
    simp [outcomes, stays, first, connected]
  refine ⟨served, x, ⟨forever, rfl, able, rfl, fun c above => ?_⟩, fun ls => ?_,
    fun ls t tried loop => ?_⟩
  · have other : c ≠ next := by omega
    simpa [served, late, come, other] using new c (by omega)
  · simp only [steps, step_of_happens queued, step_of_happens waited, step_of_happens accepted,
      Option.bind_some]
  · have spent : late.clock - s.clock = wait := Nat.add_sub_cancel_left _ _
    have since : s.clock ≤ late.clock := Nat.le_add_right _ _
    have all := loop.attempt accepted forever one since
    rw [spent] at all
    exact (all.silent waited forever rfl).silent queued forever rfl

/-- An attempt fails after a while, and the pause behind it passes. -/
theorem fail (idles : s.Idles next) (f : Failure) (wait : Nat) :
    ∃ u : State, u.Idles next ∧
      (∀ ls, s.steps (.pass wait :: .failAccept f :: .pass acceptBackoff :: .resume :: ls) =
        u.steps ls) ∧
      ∀ ls t tried, u.RunsLoop ls t u.clock tried →
        s.RunsLoop (.pass wait :: .failAccept f :: .pass acceptBackoff :: .resume :: ls) t s.clock
          ((wait, .failed (.accept f)) :: tried) := by
  obtain ⟨forever, accepting, able, empty, new⟩ := idles
  let late : State := { s with clock := s.clock + wait }
  let pausing : State := { late with phase := .pausing (late.clock + acceptBackoff) }
  let rested : State := { pausing with clock := pausing.clock + acceptBackoff }
  let ready : State := { rested with phase := .accepting }
  have waited : Happens s (.pass wait) late := .passed
  have failed : Happens late (.failAccept f) pausing := by
    have comes : late.failToAccept f = pausing := by simp [failToAccept, pausing, late, forever]
    rw [← comes]
    exact .hindered accepting
  have passed : Happens pausing (.pass acceptBackoff) rested := .passed
  have resumed : Happens rested .resume ready := .resumed rfl (Nat.le_refl _)
  refine ⟨ready, ⟨forever, rfl, able, empty, new⟩, fun ls => ?_, fun ls t tried loop => ?_⟩
  · simp only [steps, step_of_happens waited, step_of_happens failed, step_of_happens passed,
      step_of_happens resumed, Option.bind_some]
  · have spent : late.clock - s.clock = wait := Nat.add_sub_cancel_left _ _
    have rest := (loop.silent resumed forever rfl).silent passed forever rfl
    have since : s.clock ≤ late.clock := Nat.le_add_right _ _
    have all := rest.attempt failed forever rfl since
    rw [spent] at all
    exact all.silent waited forever rfl

end Idles

end State

/-- What happens to a server with nobody there so that its attempts take so long each, and come to
a connection or to a failure. -/
def Label.course (address : SocketAddress) :
    (next : Nat) → List (Nat × Option Failure) → List Label
  | _, [] => []
  | c, (wait, none) :: rest =>
    .connect c address :: .pass wait :: .accept :: course address (c + 1) rest
  | c, (wait, some f) :: rest =>
    .pass wait :: .failAccept f :: .pass acceptBackoff :: .resume :: course address c rest

/-- Whatever is to come of the attempts, and after whatever time, there is a run in which it
does. -/
theorem State.Idles.exists_course {next : Nat} (idles : s.Idles next) (address : SocketAddress)
    (plan : List (Nat × Option Failure)) :
    ∃ t tried, s.steps (Label.course address next plan) = some t ∧
      s.RunsLoop (Label.course address next plan) t s.clock tried ∧
      tried.map (fun o => (o.1, o.2.error?)) = plan.map fun p => (p.1, p.2.map .accept) := by
  induction plan generalizing s next with
  | nil => exact ⟨s, [], rfl, .nil idles.attemptsFrom, rfl⟩
  | cons first rest ih =>
    obtain ⟨wait, none | f⟩ := first
    · obtain ⟨u, x, idles, goesOn, loops⟩ := idles.connect address wait
      obtain ⟨t, tried, run, loop, same⟩ := ih idles
      exact ⟨t, _, (goesOn _).trans run, loops _ _ _ loop, congrArg (_ :: ·) same⟩
    · obtain ⟨u, idles, goesOn, loops⟩ := idles.fail f wait
      obtain ⟨t, tried, run, loop, same⟩ := ih idles
      exact ⟨t, _, (goesOn _).trans run, loops _ _ _ loop, congrArg (_ :: ·) same⟩

/-- Every sequence of connections and failures, after whatever times, is what comes of the attempts
of some server in some run. -/
theorem every_course_happens (address : SocketAddress) (ids : IdSource)
    (plan : List (Nat × Option Failure)) :
    ∃ ls s tried, (State.start .forever address ids).steps ls = some s ∧
      (State.start .forever address ids).RunsLoop ls s 0 tried ∧
      tried.map (fun o => (o.1, o.2.error?)) = plan.map fun p => (p.1, p.2.map .accept) := by
  let start := State.start .forever address ids
  let ready : State := { start with phase := .accepting }
  have started : Happens start .run ready := .started rfl
  have idles : ready.Idles 0 := ⟨rfl, rfl, rfl, rfl, fun _ _ => rfl⟩
  obtain ⟨t, tried, run, loop, same⟩ := idles.exists_course address plan
  refine ⟨.run :: Label.course address 0 plan, t, tried, ?_, loop.silent started rfl rfl, same⟩
  exact State.steps_cons_eq_some_iff.2 ⟨ready, started, run⟩

/-- Whatever comes of the attempts to accept, each connection gets one handler and no pause, and
each failure gets one warning, one pause and no handler. All of this comes in the order of the
attempts and in front of the next one, and there is always a next one. So failures cannot come
faster than the pauses let them, however many connections come between. A server that takes any
number of clients does just this. -/
theorem each_attempt_is_answered_once :
    (∀ (α : Type) (clock wait : Nat) (before after : List (Nat × Attempt α)) (a : Attempt α),
      ∃ (past later : List (Nat × Deed α)) (begun : Nat),
        acceptLoop clock before = past ++ [(begun, .attempt)] ∧
        acceptLoop clock (before ++ (wait, a) :: after) = past ++ (begun, .attempt) ::
          match a with
          | .accepted c =>
            (begun + wait, .react (.spawn c)) :: (begun + wait, .attempt) :: later
          | .failed e =>
            (begun + wait, .react (.warn e)) :: (begun + wait, .react (.pause acceptBackoff)) ::
              (begun + wait + acceptBackoff, .attempt) :: later) ∧
    (∀ (α : Type) (clock : Nat) (outcomes : List (Nat × Attempt α)),
      (acceptLoop clock outcomes).countP (fun d => d.2 matches .attempt) = outcomes.length + 1 ∧
      (pick spawned? (acceptLoop clock outcomes)).map Prod.snd =
        outcomes.filterMap (fun o => o.2.connection?) ∧
      (pick warning? (acceptLoop clock outcomes)).map Prod.snd =
        outcomes.filterMap (fun o => o.2.error?) ∧
      (pick pause? (acceptLoop clock outcomes)).map Prod.snd =
        (outcomes.filterMap fun o => o.2.error?).map (fun _ => acceptBackoff) ∧
      (failedSpans (acceptLoop clock outcomes)).map Prod.snd =
        (pick warning? (acceptLoop clock outcomes)).map Prod.fst ∧
      ∀ since T, ((failedSpans (acceptLoop clock outcomes)).filter fun x =>
        since ≤ x.2 ∧ x.1 ≤ since + T).length ≤ T / 100 + 1) ∧
    ∀ (address : SocketAddress) (ids : IdSource) (ls : List Label) (s : State),
      (State.start .forever address ids).steps ls = some s →
        s.result? = none ∧
        (∃ tried, (State.start .forever address ids).RunsLoop ls s 0 tried) ∧
        ∀ since T, (((State.start .forever address ids).timed State.warnings ls).filter fun w =>
          since ≤ w.1 ∧ w.1 ≤ since + T).length ≤ T / 100 + 1 := by
  refine ⟨fun α clock wait before after a => acceptLoop_at clock before wait a after,
    fun α clock outcomes => ?_, fun address ids ls s run => ?_⟩
  · exact ⟨attempts_acceptLoop clock outcomes, spawned_acceptLoop clock outcomes,
      warnings_acceptLoop clock outcomes, pauses_acceptLoop clock outcomes,
      failedSpans_acceptLoop clock outcomes, failedSpans_within clock outcomes⟩
  · have ready : (State.start .forever address ids).AttemptsFrom 0 := Nat.le_refl 0
    obtain ⟨tried, loop⟩ := State.exists_runsLoop run rfl ready
    obtain ⟨-, begun, -, goesOn⟩ := loop.stands
    refine ⟨goesOn.result, ⟨tried, loop⟩, fun since T => ?_⟩
    rw [loop.warnings, List.filter_map, List.length_map]
    exact warnings_within 0 tried since T

/-- Two attempts fail within 150 milliseconds, with a connection between them, and a third failure
would not fit in. -/
theorem failures_around_a_connection :
    let address : SocketAddress := .v4 (.ofNat 0x7f000001) 5000
    let start := State.start .forever address .fresh
    let ls : List Label :=
      [.run, .failAccept .tooManyOpenFiles, .connect 0 address, .pass 100, .resume, .pass 5,
        .accept, .pass 30, .failAccept .tooManyOpenFiles]
    let failure : Attempt Nat := .failed (.accept .tooManyOpenFiles)
    let outcomes := [(0, failure), (5, .accepted 7), (30, failure)]
    (failedSpans (acceptLoop 0 outcomes) = [(0, 0), (105, 135)] ∧
      ((failedSpans (acceptLoop 0 outcomes)).filter fun x =>
        0 ≤ x.2 ∧ x.1 ≤ 0 + 150).length ≤ 2) ∧
    ∃ s, start.steps ls = some s ∧ s.result? = none ∧
      (start.timed State.warnings ls).map Prod.fst = [0, 135] ∧
      ((start.timed State.warnings ls).filter fun w => 0 ≤ w.1 ∧ w.1 ≤ 0 + 150).length ≤ 2 := by
  intro address start ls failure outcomes
  obtain ⟨-, answers, serves⟩ := each_attempt_is_answered_once
  obtain ⟨-, -, -, -, -, few⟩ := answers Nat 0 outcomes
  let s := (start.steps ls).get rfl
  have run : start.steps ls = some s := rfl
  obtain ⟨endless, -, fewWarnings⟩ := serves address .fresh ls s run
  exact ⟨⟨rfl, few 0 150⟩, s, run, endless, rfl, fewWarnings 0 150⟩

end CannedReply.Server
