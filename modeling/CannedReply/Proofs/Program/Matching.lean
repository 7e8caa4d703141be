import CannedReply.Proofs.Program.Turns

/-!
Two programs that do the same for others. One of them may set up its log, read its settings and note
what happens where the other one does not; as others come and go at the same points, they stay
abreast.
-/

namespace CannedReply.Server

variable {s t : State} {l : Label}

/-- The same server at another address. -/
def State.withAddress (s : State) (a : SocketAddress) : State :=
  { s with address := a }

/-- What can happen to a server can happen to it at another address. -/
theorem Happens.withAddress (h : Happens s l t) (a : SocketAddress) :
    Happens (s.withAddress a) l (t.withAddress a) := by
  have fails : ∀ f, (s.failToAccept f).withAddress a = (s.withAddress a).failToAccept f := by
    intro f
    cases mode : s.mode <;>
      simp [State.failToAccept, State.withAddress, State.dropBacklog, mode]
  cases h with
  | refused new deaf => exact .refused new deaf
  | queued new listens room => exact .queued new listens room
  | adopted new => exact .adopted new
  | sent known => exact .sent (s := s.withAddress a) known
  | finished known => exact .finished (s := s.withAddress a) known
  | closed known => exact .closed (s := s.withAddress a) known
  | started bound => exact .started (s := s.withAddress a) bound
  | abandoned bound => exact .abandoned (s := s.withAddress a) bound
  | failed accepting short =>
    rw [fails]
    exact .failed accepting short
  | hindered accepting =>
    rw [fails]
    exact .hindered accepting
  | acceptedOnly accepting able first known once =>
    exact .acceptedOnly (s := s.withAddress a) accepting able first known once
  | acceptedNext accepting able first known forever =>
    exact .acceptedNext (s := s.withAddress a) accepting able first known forever
  | stoppedListening closing => exact .stoppedListening (s := s.withAddress a) closing
  | resumed pausing past => exact .resumed (s := s.withAddress a) pausing past
  | handled known attached going arrived =>
    exact .handled (s := s.withAddress a) known attached going arrived
  | reported awaiting ended => exact .reported (s := s.withAddress a) awaiting ended
  | descriptorsSet => exact .descriptorsSet
  | passed => exact .passed

theorem State.step_withAddress (s : State) (a : SocketAddress) (l : Label) :
    (s.withAddress a).step l = (s.step l).map fun t => t.withAddress a := by
  cases step : s.step l with
  | some t => exact step_of_happens ((happens_of_step step).withAddress a)
  | none =>
    rw [Option.map_none, Option.eq_none_iff_forall_ne_some]
    intro t step'
    have back := step_of_happens ((happens_of_step step').withAddress s.address)
    rw [show (s.withAddress a).withAddress s.address = s from rfl, step] at back
    cases back

end CannedReply.Server

namespace CannedReply.Program

open Server

/-- Whether two plans do the same for others, from where so much has been written. What is written
need not be the same, as long as it tells the same. -/
inductive Plan.Matches (told : String → String → Prop) (v w : Surroundings) :
    String → String → Plan → Plan → Prop where
  | exit {x y : String} (verdict : Verdict) :
      Matches told v w x y (.exit verdict) (.exit verdict)
  | setUpLog {x y : String} {P Q : Plan} {f g : Log.Filter} (here : v.filter = .ok f)
      (there : w.filter = .ok g) (next : Matches told v w x y P Q) :
      Matches told v w x y (.setUpLog P) (.setUpLog Q)
  | setUpLogAlone {x y : String} {P Q : Plan} {f : Log.Filter} (here : v.filter = .ok f)
      (next : Matches told v w x y P Q) (busy : ∀ n, Q ≠ .serve n) :
      Matches told v w x y (.setUpLog P) Q
  | note {x y : String} {P Q : Plan} {e : Log.Event} (next : Matches told v w x y P Q)
      (busy : ∀ n, Q ≠ .serve n) :
      Matches told v w x y (.note e P) Q
  | configure {x y : String} {Q : Plan} {s : CommandLine.Settings}
      {n : Except ConfigError Config → Plan}
      (next : Matches told v w x y (n (s.effective v.fileAt)) Q)
      (busy : ∀ n, Q ≠ .serve n) :
      Matches told v w x y (.configure s n) Q
  | unopened {x y : String} {c : Config} {n n' : Except ListenerError SocketAddress → Plan}
      {e : ListenerError}
      (here : Listener.bind v.machine c.listener = .error e)
      (there : Listener.bind w.machine c.listener = .error e)
      (next : Matches told v w x y (n (.error e)) (n' (.error e))) :
      Matches told v w x y (.listen c n) (.listen c n')
  | opened {x y : String} {c : Config} {n n' : Except ListenerError SocketAddress → Plan}
      {a b : SocketAddress}
      (here : Listener.bind v.machine c.listener = .ok ⟨a⟩)
      (there : Listener.bind w.machine c.listener = .ok ⟨b⟩)
      (next : Matches told v w x y (n (.ok a)) (n' (.ok b))) :
      Matches told v w x y (.listen c n) (.listen c n')
  | print {x y text text' : String} {n n' : Option Failure → Plan}
      (same : told (x ++ v.written text) (y ++ w.written text'))
      (next : Matches told v w (x ++ v.written text) (y ++ w.written text')
        (n v.outputFault?) (n' w.outputFault?)) :
      Matches told v w x y (.print text n) (.print text' n')
  | serve {x y : String} {n n' : Except ListenerError Nat → Plan}
      (next : ∀ r, Matches told v w x y (n r) (n' r)) :
      Matches told v w x y (.serve n) (.serve n')

inductive Stage.Matches (told : String → String → Prop) (v w : Surroundings) (x y : String) :
    Stage → Stage → Prop where
  | going {P Q : Plan} (plans : Plan.Matches told v w x y P Q) :
      Matches told v w x y (.going P) (.going Q)
  | finished (verdict : Verdict) : Matches told v w x y (.finished verdict) (.finished verdict)

/-- Whether two programs are at the same point, and have the same server but for its address. -/
structure Process.Abreast (told : String → String → Prop) (v w : Surroundings)
    (p q : Process) : Prop where
  stage : Stage.Matches told v w p.output q.output p.stage q.stage
  server : Option.Rel (fun s t => ∃ a, t = s.withAddress a) p.server q.server
  turnedAway : p.turnedAway = q.turnedAway
  output : told p.output q.output

variable {told : String → String → Prop} {v w : Surroundings} {P Q : Plan} {x y : String}
  {p p' q q' : Process} {t : Turn} {ts us : List Turn} {l : Label}

namespace Process

theorem leave_withAddress (s : State) (a : SocketAddress) :
    leave (s.withAddress a) = (leave s).withAddress a := by
  unfold leave
  rw [State.step_withAddress]
  cases s.step .abandon <;> rfl

/-- A program with anything left to do but to let a server run can go on. -/
theorem not_waits_of_busy (stage : q.stage = .going Q) (busy : ∀ n, Q ≠ .serve n) :
    ¬q.Waits w := by
  rw [waits_iff]
  intro stuck
  cases Q with
  | exit v => exact stuck _ (.exited stage)
  | setUpLog next =>
    cases set : w.filter with
    | ok f => exact stuck _ (.logSetUp stage set)
    | error slip => exact stuck _ (.slipped stage set)
  | note e next => exact stuck _ (.noted stage)
  | configure s next => exact stuck _ (.configured stage)
  | listen c next =>
    cases opened : Listener.bind w.machine c.listener with
    | error e => exact stuck _ (.unopened stage opened)
    | ok l => exact stuck _ (.opened stage opened)
  | print text next => exact stuck _ (.printed stage)
  | serve next => exact busy next rfl

theorem exists_of_rel_left {α : Type} {R : α → α → Prop} {a b : Option α} {x : α}
    (h : Option.Rel R a b) (found : a = some x) : ∃ y, b = some y ∧ R x y := by
  subst found
  cases h with
  | some same => exact ⟨_, rfl, same⟩

theorem exists_of_rel_right {α : Type} {R : α → α → Prop} {a b : Option α} {y : α}
    (h : Option.Rel R a b) (found : b = some y) : ∃ x, a = some x ∧ R x y := by
  subst found
  cases h with
  | some same => exact ⟨_, rfl, same⟩

theorem outsideOf_own (k : Nat) (ts : List Turn) :
    outsideOf (List.replicate k .own ++ ts) = outsideOf ts := by
  simp [outsideOf, List.filterMap_append]

namespace Abreast

/-- Where the first one has a server, the second one has it at an address. -/
theorem exists_server (h : Abreast told v w p q) {s : State} (server : p.server = some s) :
    ∃ a, q.server = some (s.withAddress a) := by
  obtain ⟨t, found, a, rfl⟩ := exists_of_rel_left h.server server
  exact ⟨a, found⟩

/-- What the first one does, the second one does too, unless it is nothing to others. -/
theorem advance (h : Abreast told v w p q) (go : p.Advances v p') :
    Abreast told v w p' q ∨ ∃ q', q.Advances w q' ∧ Abreast told v w p' q' := by
  have there' : ∀ {s}, p.server = some s → ∃ a, q.server = some (s.withAddress a) :=
    h.exists_server
  obtain ⟨stages, server, turnedAway, output⟩ := h
  generalize here : p.stage = S, there : q.stage = T at stages
  cases stages with
  | finished verdict => exact absurd go (waits_iff.1 (waits_of_finished here) p')
  | going plans =>
    cases plans with
    | exit verdict =>
      obtain rfl := go.unique (.exited here)
      refine .inr ⟨_, .exited there, .finished verdict, ?_, turnedAway, output⟩
      generalize p.server = σ, q.server = τ at server
      cases server with
      | none => exact .none
      | @some s _ known =>
        obtain ⟨a, rfl⟩ := known
        exact .some ⟨a, leave_withAddress s a⟩
    | setUpLog set set' next =>
      obtain rfl := go.unique (.logSetUp here set)
      exact .inr ⟨_, .logSetUp there set', .going next, server, turnedAway, output⟩
    | setUpLogAlone set next busy =>
      obtain rfl := go.unique (.logSetUp here set)
      exact .inl ⟨there ▸ .going next, server, turnedAway, output⟩
    | note next busy =>
      obtain rfl := go.unique (.noted here)
      exact .inl ⟨there ▸ .going next, server, turnedAway, output⟩
    | configure next busy =>
      obtain rfl := go.unique (.configured here)
      exact .inl ⟨there ▸ .going next, server, turnedAway, output⟩
    | unopened failed failed' next =>
      obtain rfl := go.unique (.unopened here failed)
      exact .inr ⟨_, .unopened there failed', .going next, server, turnedAway, output⟩
    | opened listens listens' next =>
      obtain rfl := go.unique (.opened here listens)
      exact .inr ⟨_, .opened there listens', .going next, .some ⟨_, rfl⟩, turnedAway, output⟩
    | print same next =>
      obtain rfl := go.unique (.printed here)
      exact .inr ⟨_, .printed there, .going next, server, turnedAway, same⟩
    | serve next =>
      cases go with
      | @started _ s stage' server' bound =>
        obtain ⟨a, found⟩ := there' server'
        refine .inr ⟨_, .started there found bound, ?_, .some ⟨a, rfl⟩, turnedAway, output⟩
        simp only [tell_frame, here, there]
        exact .going (.serve next)
      | @reported _ s r stage' server' result =>
        obtain ⟨a, found⟩ := there' server'
        cases here.symm.trans stage'
        exact .inr ⟨_, .reported there found result, .going (next r), server, turnedAway, output⟩
      | exited stage' | logSetUp stage' _ | slipped stage' _ | noted stage' | configured stage'
      | unopened stage' _ | opened stage' _ | printed stage' => cases here.symm.trans stage'

/-- The second one waits just where the first one does. -/
theorem waits_iff (h : Abreast told v w p q) : p.Waits v ↔ q.Waits w := by
  have stages := h.stage
  generalize here : p.stage = S, there : q.stage = T at stages
  have both : ∀ {P Q}, S = .going P → T = .going Q → (∀ n, P ≠ .serve n) → (∀ n, Q ≠ .serve n) →
      (p.Waits v ↔ q.Waits w) := fun hP hQ busy busy' =>
    iff_of_false (not_waits_of_busy (here.trans hP) busy) (not_waits_of_busy (there.trans hQ) busy')
  cases stages with
  | finished verdict => exact iff_of_true (waits_of_finished here) (waits_of_finished there)
  | going plans =>
    cases plans with
    | exit _ | setUpLog _ _ _ | unopened _ _ _ | opened _ _ _ | print _ _ =>
      exact both rfl rfl (by simp) (by simp)
    | setUpLogAlone _ _ busy | note _ busy | configure _ busy => exact both rfl rfl (by simp) busy
    | serve next =>
      have server := h.server
      generalize known : p.server = σ, known' : q.server = τ at server
      cases server with
      | none => simp [Waits, step, Process.advance, here, there, known, known']
      | some same =>
        obtain ⟨a, rfl⟩ := same
        simp only [Waits, step, Process.advance, here, there, known, known', Option.bind_some,
          State.step_withAddress]
        rename_i s
        rw [show (s.withAddress a).result? = s.result? from rfl]
        cases s.result? <;> simp

/-- What the second one does, the first one does in so many turns. -/
theorem follow (h : Abreast told v w p q) (go : q.Advances w q') :
    ∃ k p', p.steps v (List.replicate k .own) = some p' ∧ Abreast told v w p' q' := by
  obtain ⟨k, r, turns, waits⟩ := exists_waits v p
  induction k generalizing p with
  | zero =>
    obtain rfl := Option.some.inj turns
    exact absurd go (Process.waits_iff.1 (h.waits_iff.1 waits) q')
  | succ k ih =>
    obtain ⟨p₁, first, rest⟩ := steps_cons_eq_some_iff.1 turns
    rcases h.advance (advance_eq_some_iff.1 first) with still | ⟨q₁, go', next⟩
    · obtain ⟨k', p', run, abreast⟩ := ih still rest
      exact ⟨k' + 1, p', steps_cons_eq_some_iff.2 ⟨p₁, first, run⟩, abreast⟩
    · obtain rfl := go.unique go'
      exact ⟨1, p₁, steps_cons_eq_some_iff.2 ⟨p₁, first, rfl⟩, next⟩

/-- What happens around one of them can happen around the other one. -/
theorem outside (h : Abreast told v w p q) (l : Label) :
    Option.Rel (Abreast told v w) (p.outside l) (q.outside l) := by
  have admits : q.admits l = p.admits l := by
    cases l <;> simp only [Process.admits, h.turnedAway]
  obtain ⟨stages, server, turnedAway, output⟩ := h
  unfold Process.outside
  rw [admits]
  cases p.admits l with
  | false => exact .none
  | true =>
    generalize p.server = σ, q.server = τ at server
    cases server with
    | none =>
      cases l with
      | connect c a =>
        exact .some ⟨stages, .none, congrArg (· ++ [c]) turnedAway, output⟩
      | _ => exact .none
    | @some s _ same =>
      obtain ⟨a, rfl⟩ := same
      simp only [Bool.not_true, Bool.false_eq_true, if_false, State.step_withAddress]
      cases s.step l with
      | none => exact .none
      | some u => exact .some ⟨stages, .some ⟨a, rfl⟩, turnedAway, output⟩

/-- For each run of the first one there is a run of the second one among the same others. -/
theorem steps (h : Abreast told v w p q) (run : p.steps v ts = some p') :
    ∃ us q', q.steps w us = some q' ∧ outsideOf us = outsideOf ts ∧ Abreast told v w p' q' := by
  induction ts generalizing p q with
  | nil =>
    obtain rfl := Option.some.inj run
    exact ⟨[], q, rfl, rfl, h⟩
  | cons t ts ih =>
    obtain ⟨r, first, rest⟩ := steps_cons_eq_some_iff.1 run
    cases t with
    | own =>
      rcases h.advance (advance_eq_some_iff.1 first) with still | ⟨r', go, next⟩
      · exact ih still rest
      · obtain ⟨us, q', run', same, abreast⟩ := ih next rest
        exact ⟨.own :: us, q', steps_cons_eq_some_iff.2 ⟨r', advance_eq_some_iff.2 go, run'⟩, same,
          abreast⟩
    | outside l =>
      obtain ⟨r', first', next⟩ := exists_of_rel_left (h.outside l) first
      obtain ⟨us, q', run', same, abreast⟩ := ih next rest
      exact ⟨.outside l :: us, q', steps_cons_eq_some_iff.2 ⟨r', first', run'⟩,
        congrArg (l :: ·) same, abreast⟩

/-- For each run of the second one there is a run of the first one among the same others. -/
theorem steps_back (h : Abreast told v w p q) (run : q.steps w us = some q') :
    ∃ ts p', p.steps v ts = some p' ∧ outsideOf ts = outsideOf us ∧ Abreast told v w p' q' := by
  induction us generalizing p q with
  | nil =>
    obtain rfl := Option.some.inj run
    exact ⟨[], p, rfl, rfl, h⟩
  | cons u us ih =>
    obtain ⟨r, first, rest⟩ := steps_cons_eq_some_iff.1 run
    cases u with
    | own =>
      obtain ⟨k, r', turns, next⟩ := h.follow (advance_eq_some_iff.1 first)
      obtain ⟨ts, p', run', same, abreast⟩ := ih next rest
      refine ⟨List.replicate k .own ++ ts, p', ?_, ?_, abreast⟩
      · rw [steps_append, turns]
        exact run'
      · rw [outsideOf_own, same]
        rfl
    | outside l =>
      obtain ⟨r', first', next⟩ := exists_of_rel_right (h.outside l) first
      obtain ⟨ts, p', run', same, abreast⟩ := ih next rest
      exact ⟨.outside l :: ts, p', steps_cons_eq_some_iff.2 ⟨r', first', run'⟩,
        congrArg (l :: ·) same, abreast⟩

end Abreast

end Process

end CannedReply.Program
