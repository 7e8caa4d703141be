import CannedReply.Proofs.Program.Turns

/-!
Programs whose log cannot be set up. They end before they have done anything, and all who come are
turned away.
-/

namespace CannedReply.Program

open Server

variable {w : Surroundings} {p q : Process} {ts : List Turn} {l : Label} {slip : Text.Slip}

/-- Whether a program has done nothing, and has nothing to do but to set up its log, or to break
off. -/
structure Process.Breaks (slip : Text.Slip) (p : Process) : Prop where
  stage : (∃ next, p.stage = .going (.setUpLog next)) ∨ p.stage.Ends (.crashed slip)
  server : p.server = none
  output : p.output = ""
  log : p.log = []

/-- Whether a program comes to nothing: it has no server, has written and logged nothing, and is
over with the status 101 and the report of what broke it off, or goes on to be. -/
structure Process.Fruitless (w : Surroundings) (slip : Text.Slip) (p : Process) : Prop where
  server : p.server = none
  output : p.output = ""
  clients : ∀ c, p.standing? c = none ∨ p.standing? c = some .refused
  written : ∀ c date, p.written c date = []
  ends : p.fate = .goesOn ∧ p.errorLines = [] ∧ ¬p.Waits w ∨
    p.fate = .exits 101 none ∧ p.errorLines = [slip.message ++ "\n"] ∧ p.Waits w

namespace Process.Breaks

theorem start (slip : Text.Slip) (next : Plan) : (Process.start (.setUpLog next)).Breaks slip :=
  ⟨.inl ⟨next, rfl⟩, rfl, rfl, rfl⟩

/-- All that is done is to break off, and then to end. -/
theorem advance (broken : w.filter = .error slip) (h : p.Breaks slip) (go : p.Advances w q) :
    q.Breaks slip := by
  rcases h.stage with ⟨next, stage⟩ | ends
  · obtain rfl := go.unique (.slipped stage broken)
    exact { h with stage := .inr (.inl rfl) }
  · obtain ⟨ends', server, output, log⟩ := go.of_ends ends
    exact ⟨.inr ends', by rw [server, h.server, Option.map_none], output.trans h.output,
      log.trans h.log⟩

/-- Those who come do not reach a server. -/
theorem outside (h : p.Breaks slip) (next : p.outside l = some q) : q.Breaks slip := by
  rcases outside_cases next with ⟨s, u, server, -⟩ | ⟨c, a, -, -, -, rfl⟩
  · exact nomatch h.server.symm.trans server
  · exact { h with }

theorem steps (broken : w.filter = .error slip) (h : p.Breaks slip)
    (run : p.steps w ts = some q) : q.Breaks slip := by
  refine steps_keep (fun {t} _ p q step h => ?_) run h
  cases t with
  | own => exact h.advance broken (advance_eq_some_iff.1 step)
  | outside l => exact h.outside step

theorem fruitless (broken : w.filter = .error slip) (h : p.Breaks slip) : p.Fruitless w slip where
  server := h.server
  output := h.output
  clients c := by
    unfold standing?
    split
    · exact .inr rfl
    · exact .inl (by rw [h.server, Option.bind_none])
  written c date := by rw [Process.written, h.server, Option.elim_none]
  ends := by
    have going : ∀ {plan}, p.stage = .going plan → p.fate = .goesOn ∧ p.errorLines = [] := by
      intro plan stage
      simp [fate, errorLines, report?, verdict?, stage, h.log]
    rcases h.stage with ⟨next, stage⟩ | stage | stage
    · have goes : ¬p.Waits w := fun waits => waits_iff.1 waits _ (.slipped stage broken)
      exact .inl ⟨(going stage).1, (going stage).2, goes⟩
    · have goes : ¬p.Waits w := fun waits => waits_iff.1 waits _ (.exited stage)
      exact .inl ⟨(going stage).1, (going stage).2, goes⟩
    · have ended : p.verdict? = some (.crashed slip) := by rw [verdict?, stage]
      refine .inr ⟨by simp [fate, ended, Verdict.fate], ?_, waits_of_finished stage⟩
      simp [errorLines, report?, ended, h.log, Verdict.report?]

end Process.Breaks

/-- The first turn breaks the program off, and the second one ends it. -/
theorem Process.exists_crash (broken : w.filter = .error slip) (plan : Plan) :
    ∃ q, (Process.start (.setUpLog plan)).steps w [.own, .own] = some q ∧
      q.fate = .exits 101 none := by
  refine ⟨{ Process.start plan with stage := .finished (.crashed slip) }, ?_, rfl⟩
  refine steps_cons_eq_some_iff.2 ⟨_, advance_eq_some_iff.2 (.slipped rfl broken), ?_⟩
  exact steps_cons_eq_some_iff.2 ⟨_, advance_eq_some_iff.2 (.exited rfl), rfl⟩

/-- Both programs break off where the log cannot be set up, whatever happens around them. -/
theorem Process.fruitless_of_slip {plan : Plan} (broken : w.filter = .error slip)
    (run : (Process.start (.setUpLog plan)).steps w ts = some p) : p.Fruitless w slip :=
  ((Breaks.start slip plan).steps broken run).fruitless broken

end CannedReply.Program
