import CannedReply.Program.Process
import CannedReply.Proofs.Server.OnlyClient

/-!
What a turn of a program, or of what surrounds it, can change. Left to itself, every program comes
to a point where it waits or is over.
-/

namespace CannedReply.Program

open Server Log

variable {w : Surroundings} {p q r : Process} {t : Turn} {ts us : List Turn} {l : Label}
  {s u : State}

/-- Whether nothing is left to do for a program but to end as the verdict says, if it has not. -/
def Stage.Ends (stage : Stage) (v : Verdict) : Prop :=
  stage = .going (.exit v) ∨ stage = .finished v

namespace Process

theorem steps_cons_eq_some_iff :
    p.steps w (t :: ts) = some q ↔ ∃ r, p.step w t = some r ∧ r.steps w ts = some q := by
  simp only [steps, Option.bind_eq_some_iff]

/-- A run in two parts. -/
theorem steps_append (p : Process) (ts us : List Turn) :
    p.steps w (ts ++ us) = (p.steps w ts).bind fun q => q.steps w us := by
  induction ts generalizing p with
  | nil => rfl
  | cons t ts ih => simp only [List.cons_append, steps, ih, Option.bind_assoc]

/-- What every turn of a run keeps, the run keeps. -/
theorem steps_keep {P : Process → Prop}
    (keep : ∀ {t}, t ∈ ts → ∀ {p q}, p.step w t = some q → P p → P q)
    (run : p.steps w ts = some q) (h : P p) : P q := by
  induction ts generalizing p with
  | nil =>
    rw [← Option.some.inj run]
    exact h
  | cons t ts ih =>
    obtain ⟨r, first, rest⟩ := steps_cons_eq_some_iff.1 run
    exact ih (fun mem => keep (List.mem_cons_of_mem _ mem)) rest (keep List.mem_cons_self first h)

@[simp] theorem tell_frame (p : Process) (es : List Event) :
    (p.tell es).stage = p.stage ∧ (p.tell es).filter = p.filter ∧ (p.tell es).server = p.server ∧
    (p.tell es).turnedAway = p.turnedAway ∧ (p.tell es).output = p.output := by
  simp [tell]

/-- What can happen outside a program: something happens to its server, or a client comes too
early. -/
theorem outside_cases (h : p.outside l = some q) :
    (∃ s u, p.server = some s ∧ p.admits l = true ∧ s.step l = some u ∧
      q = { p with server := some u }.tell (s.events l)) ∨
    ∃ c a, p.server = none ∧ l = .connect c a ∧ c ∉ p.turnedAway ∧
      q = { p with turnedAway := p.turnedAway ++ [c] } := by
  unfold outside at h
  cases admitted : p.admits l with
  | false => simp [admitted] at h
  | true =>
    simp only [admitted, Bool.not_true, Bool.false_eq_true, if_false] at h
    split at h
    · next s found =>
      obtain ⟨u, step, rfl⟩ := Option.map_eq_some_iff.1 h
      exact .inl ⟨s, u, found, rfl, step, rfl⟩
    · next c a none' =>
      refine .inr ⟨c, a, none', rfl, ?_, (Option.some.inj h).symm⟩
      simpa [admits] using admitted
    · simp at h

/-- Nothing that happens outside changes where a program stands or what it has written. -/
theorem outside_frame (h : p.outside l = some q) :
    q.stage = p.stage ∧ q.filter = p.filter ∧ q.output = p.output := by
  rcases outside_cases h with ⟨s, u, -, -, -, rfl⟩ | ⟨c, a, -, -, -, rfl⟩ <;> simp

/-- Something that happens to a server of a program is not what the program itself does to it. -/
theorem ne_of_admits (h : p.admits l = true) :
    l ≠ .run ∧ l ≠ .abandon ∧ ∀ c a, l ≠ .adopt c a := by
  cases l <;> simp [admits] at h ⊢

/-- What a program comes to when it goes on. -/
inductive Advances (w : Surroundings) (p : Process) : Process → Prop where
  | exited {v : Verdict} (stage : p.stage = .going (.exit v)) :
      Advances w p { p with stage := .finished v, server := p.server.map leave }
  | logSetUp {next : Plan} {f : Filter} (stage : p.stage = .going (.setUpLog next))
      (set : w.filter = .ok f) : Advances w p { p with stage := .going next, filter := some f }
  | slipped {next : Plan} {slip : Text.Slip} (stage : p.stage = .going (.setUpLog next))
      (broken : w.filter = .error slip) :
      Advances w p { p with stage := .going (.exit (.crashed slip)) }
  | noted {e : Event} {next : Plan} (stage : p.stage = .going (.note e next)) :
      Advances w p ({ p with stage := .going next }.tell [e])
  | configured {s : CommandLine.Settings} {next : Except ConfigError Config → Plan}
      (stage : p.stage = .going (.configure s next)) :
      Advances w p { p with stage := .going (next (s.effective w.fileAt)) }
  | unopened {c : Config} {next : Except ListenerError SocketAddress → Plan} {e : ListenerError}
      (stage : p.stage = .going (.listen c next))
      (failed : Listener.bind w.machine c.listener = .error e) :
      Advances w p { p with stage := .going (next (.error e)) }
  | opened {c : Config} {next : Except ListenerError SocketAddress → Plan} {a : SocketAddress}
      (stage : p.stage = .going (.listen c next))
      (listens : Listener.bind w.machine c.listener = .ok ⟨a⟩) :
      Advances w p ({ p with
        stage := .going (next (.ok a))
        server := some (.start c.acceptMode a .fresh) }.tell [boundEvent a])
  | printed {text : String} {next : Option Failure → Plan}
      (stage : p.stage = .going (.print text next)) :
      Advances w p
        { p with stage := .going (next w.outputFault?), output := p.output ++ w.written text }
  | started {next : Except ListenerError Nat → Plan} {s : State}
      (stage : p.stage = .going (.serve next)) (server : p.server = some s)
      (bound : s.phase = .bound) :
      Advances w p ({ p with server := some { s with phase := .accepting } }.tell (s.events .run))
  | reported {next : Except ListenerError Nat → Plan} {s : State} {r : Except ListenerError Nat}
      (stage : p.stage = .going (.serve next)) (server : p.server = some s)
      (result : s.result? = some r) : Advances w p { p with stage := .going (next r) }

theorem advance_eq_some_iff : p.step w .own = some q ↔ p.Advances w q := by
  constructor
  · intro h
    simp only [step, advance] at h
    split at h
    · simp at h
    · next stage => exact Option.some.inj h ▸ .exited stage
    · next stage =>
      split at h
      · next set => exact Option.some.inj h ▸ .logSetUp stage set
      · next broken => exact Option.some.inj h ▸ .slipped stage broken
    · next stage => exact Option.some.inj h ▸ .noted stage
    · next stage => exact Option.some.inj h ▸ .configured stage
    · next stage =>
      split at h
      · next failed => exact Option.some.inj h ▸ .unopened stage failed
      · next listens => exact Option.some.inj h ▸ .opened stage listens
    · next stage => exact Option.some.inj h ▸ .printed stage
    · next stage =>
      obtain ⟨s, server, h⟩ := Option.bind_eq_some_iff.1 h
      split at h
      · next result => exact Option.some.inj h ▸ .reported stage server result
      · obtain ⟨u, run, rfl⟩ := Option.map_eq_some_iff.1 h
        cases happens_of_step run with
        | started bound => exact .started stage server bound
  · intro h
    cases h with
    | started stage server bound =>
      simp [step, advance, stage, server, State.result?, bound, State.step, State.run]
    | reported stage server result => simp [step, advance, stage, server, result]
    | unopened stage failed => simp [step, advance, stage, failed]
    | opened stage listens => simp [step, advance, stage, listens]
    | logSetUp stage set => simp [step, advance, stage, set]
    | slipped stage broken => simp [step, advance, stage, broken]
    | exited stage | noted stage | configured stage | printed stage =>
      simp [step, advance, stage]

/-- A program goes on in one way only. -/
theorem Advances.unique (h : p.Advances w q) (h' : p.Advances w r) : q = r :=
  Option.some.inj ((advance_eq_some_iff.2 h).symm.trans (advance_eq_some_iff.2 h'))

theorem waits_iff : p.Waits w ↔ ∀ q, ¬p.Advances w q := by
  simp only [Waits, Option.eq_none_iff_forall_ne_some, ne_eq, advance_eq_some_iff]

theorem waits_of_finished {v : Verdict} (h : p.stage = .finished v) : p.Waits w := by
  simp [Waits, step, advance, h]

/-- A program waits for a server that runs and has no result. -/
theorem waits_of_serve {next : Except ListenerError Nat → Plan}
    (stage : p.stage = .going (.serve next)) (server : p.server = some s)
    (result : s.result? = none) (running : s.phase ≠ .bound) : p.Waits w := by
  have stuck : s.step .run = none := by
    cases hp : s.phase <;> simp_all [State.step, State.run]
  simp [Waits, step, advance, stage, server, result, stuck]

/-- Whatever its plan is, a program comes by itself to where it waits or is over. -/
theorem exists_waits (w : Surroundings) (p : Process) :
    ∃ k q, p.steps w (List.replicate k .own) = some q ∧ q.Waits w := by
  have first : ∀ {p q : Process}, p.Advances w q →
      (∃ k r, q.steps w (List.replicate k .own) = some r ∧ r.Waits w) →
      ∃ k r, p.steps w (List.replicate k .own) = some r ∧ r.Waits w := by
    rintro p q step ⟨k, r, rest, waits⟩
    exact ⟨k + 1, r, steps_cons_eq_some_iff.2 ⟨q, advance_eq_some_iff.2 step, rest⟩, waits⟩
  cases stage : p.stage with
  | finished v => exact ⟨0, p, rfl, waits_of_finished stage⟩
  | going plan =>
    -- each turn leaves a part of the plan behind, but for the one that starts the server
    induction plan generalizing p with
    | exit v => exact first (.exited stage) ⟨0, _, rfl, waits_of_finished rfl⟩
    | setUpLog next ih =>
      cases set : w.filter with
      | ok f => exact first (.logSetUp stage set) (ih _ rfl)
      | error slip =>
        exact first (.slipped stage set) (first (.exited rfl) ⟨0, _, rfl, waits_of_finished rfl⟩)
    | note e next ih => exact first (.noted stage) (ih _ rfl)
    | configure s next ih => exact first (.configured stage) (ih _ _ rfl)
    | print text next ih => exact first (.printed stage) (ih _ _ rfl)
    | listen c next ih =>
      cases opened : Listener.bind w.machine c.listener with
      | error e => exact first (.unopened stage opened) (ih _ _ rfl)
      | ok l => exact first (.opened stage opened) (ih _ _ rfl)
    | serve next ih =>
      cases server : p.server with
      | none => exact ⟨0, p, rfl, by simp [Waits, step, advance, stage, server]⟩
      | some s =>
        cases result : s.result? with
        | some r => exact first (.reported stage server result) (ih r _ rfl)
        | none =>
          by_cases bound : s.phase = .bound
          · refine first (.started stage server bound) ⟨0, _, rfl, ?_⟩
            have same : ({ p with server := some { s with phase := .accepting } }.tell
                (s.events .run)).stage = .going (.serve next) := stage
            exact waits_of_serve same rfl rfl (by simp)
          · exact ⟨0, p, rfl, waits_of_serve stage server result bound⟩

/-- A program that has to end does nothing else. -/
theorem Advances.of_ends {v : Verdict} (go : p.Advances w q) (ends : p.stage.Ends v) :
    q.stage.Ends v ∧ q.server = p.server.map leave ∧ q.output = p.output ∧ q.log = p.log := by
  rcases ends with stage | stage
  · obtain rfl := go.unique (.exited stage)
    exact ⟨.inr rfl, rfl, rfl, rfl⟩
  · exact absurd go (waits_iff.1 (waits_of_finished stage) q)

end Process

end CannedReply.Program
