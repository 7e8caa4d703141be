import CannedReply.Proofs.CommandLine.Spelling
import CannedReply.Proofs.CommandLine.Layers
import CannedReply.Proofs.Net.Binding
import CannedReply.Proofs.Program.ExitStatus
import CannedReply.Proofs.Program.LogSetting
import CannedReply.Proofs.Program.Matching

/-!
The program that is given a host and a port, and the one with flags for them: to the clients, on
standard output and in the end they are the same, if the log of the latter can be set up.
-/

namespace CannedReply.Program

open Server CommandLine Process

variable {v w : Surroundings} {host : String} {port free : UInt16} {chosen : Prop}
  {p q : Process} {ts us : List Turn} {f : Log.Filter}

/-- The same surroundings, in which the system chooses another port. -/
def Surroundings.withFreePort (w : Surroundings) (free : UInt16) (nonzero : free ≠ 0) :
    Surroundings :=
  { w with machine := w.machine.withFreePort free nonzero }

/-- Whether two outputs are the same, but for the number of a port if the system has chosen it. -/
def TellsAlike (chosen : Prop) (x y : String) : Prop :=
  x = y ∨ chosen ∧ ∃ (a : SocketAddress) (n : UInt16),
    x = readinessLine a ++ "\n" ∧ y = readinessLine (a.withPort n) ++ "\n"

/-- Whether two programs that serve one client have come to the same for all others. -/
structure Process.SameForOthers (v w : Surroundings) (chosen : Prop) (p q : Process) : Prop where
  verdict : p.verdict? = q.verdict?
  verdicts : ∀ x, p.verdict? = some x → x = .completed 1 ∨
    (∃ e, x = .failed (.listener e)) ∨ ∃ f, v.outputFault? = some f ∧ x = .failed (.announcement f)
  waits : p.Waits v ↔ q.Waits w
  standing : ∀ c, p.standing? c = q.standing? c
  written : ∀ c date, p.written c date = q.written c date
  output : TellsAlike chosen p.output q.output

/-- The flags lead to the configuration with the host and the port. -/
theorem configures_endpoint (isHost : IsHost host) (port : UInt16) :
    Configures v ["--host=" ++ host, "--port=" ++ Numeral.decimal port.toNat]
      ⟨⟨host, port⟩, .once⟩ :=
  ⟨_, parse_endpoint host port, effective_eq_ok_iff.2 ⟨.default, rfl, rfl, isHost⟩⟩

/-- What is told is the same, but for the number of the port. -/
theorem tellsAlike_written {a : SocketAddress} {n : UInt16} (same : ¬chosen → n = a.port)
    (fault : v.outputFault? = w.outputFault?) :
    TellsAlike chosen ("" ++ v.written (readinessLine a ++ "\n"))
      ("" ++ w.written (readinessLine (a.withPort n) ++ "\n")) := by
  simp only [String.empty_append, Surroundings.written, fault]
  by_cases h : chosen
  · cases w.outputFault? with
    | some f => exact .inl rfl
    | none => exact .inr ⟨h, a, n, rfl, rfl⟩
  · refine .inl ?_
    rw [same h, SocketAddress.withPort_self]

/-- Behind its settings, the program with the flags does what it takes to serve. -/
theorem matches_serving {settings : Settings} {setting : Option String}
    (laid : settings.effective v.fileAt = .ok ⟨⟨host, port⟩, .once⟩) (nonzero : free ≠ 0)
    (alike : port = 0 → ∀ a ∈ v.machine.listening, v.machine.freePort = a.port ↔ free = a.port) :
    Plan.Matches (TellsAlike (port = 0 ∧ v.machine.freePort ≠ free)) v
      ((v.withFreePort free nonzero).withLog setting) "" "" (.configure settings .configured)
      (.serving host port) := by
  refine .configure ?_ (by simp [Plan.serving])
  rw [laid]
  refine .note ?_ (by simp [Plan.serving])
  have there := Listener.bind_withFreePort (m := v.machine) (e := ⟨host, port⟩) nonzero alike
  cases here : Listener.bind v.machine ⟨host, port⟩ with
  | error e =>
    rw [here] at there
    exact .unopened here there (.exit _)
  | ok l =>
    rw [here] at there
    refine .opened here there (.print (tellsAlike_written ?_ rfl) ?_)
    · intro kept
      rw [Listener.port_of_bind here]
      by_cases zero : port = 0
      · have same : v.machine.freePort = free := by simpa [zero] using kept
        simp [same]
      · simp [zero]
    · cases fault : v.outputFault? with
      | some f =>
        have fault' : ((v.withFreePort free nonzero).withLog setting).outputFault? = some f := fault
        rw [fault']
        exact .exit _
      | none =>
        have fault' : ((v.withFreePort free nonzero).withLog setting).outputFault? = none := fault
        rw [fault']
        refine .serve fun r => ?_
        cases r with
        | error e => exact .exit _
        | ok n => exact .note (.exit _) (by simp)

/-- Programs that are abreast have come to the same for all others. -/
theorem Process.SameForOthers.of_abreast (h : Abreast (TellsAlike chosen) v w p q)
    (verdicts : ∀ x, p.verdict? = some x → x = .completed 1 ∨ (∃ e, x = .failed (.listener e)) ∨
      ∃ f, v.outputFault? = some f ∧ x = .failed (.announcement f)) :
    SameForOthers v w chosen p q where
  verdict := by
    have stages := h.stage
    unfold verdict?
    generalize p.stage = S, q.stage = T at stages
    cases stages <;> rfl
  verdicts := verdicts
  waits := h.waits_iff
  standing c := by
    have server := h.server
    unfold standing?
    rw [h.turnedAway]
    generalize p.server = σ, q.server = τ at server
    cases server with
    | none => rfl
    | some same =>
      obtain ⟨a, rfl⟩ := same
      rfl
  written c date := by
    have server := h.server
    unfold Process.written
    generalize p.server = σ, q.server = τ at server
    cases server with
    | none => rfl
    | some same =>
      obtain ⟨a, rfl⟩ := same
      rfl
  output := h.output

/-- How the program ends whose flags are a host and a port. -/
theorem verdicts_of_endpoint (set : v.filter = .ok f) (isHost : IsHost host)
    (run : (Process.start (.ofArguments
      ["--host=" ++ host, "--port=" ++ Numeral.decimal port.toNat])).steps v ts = some p)
    {x : Verdict} (ended : p.verdict? = some x) :
    x = .completed 1 ∨ (∃ e, x = .failed (.listener e)) ∨
      ∃ f, v.outputFault? = some f ∧ x = .failed (.announcement f) := by
  have configures := configures_endpoint (v := v) isHost port
  have reached := Reached.of_run set run
  unfold verdict? at ended
  generalize p.stage = S at ended reached
  cases S with
  | going plan => cases ended
  | finished y =>
    cases ended
    have closed := reached.closed_of_finished
    generalize p.server = σ, p.output = output at closed
    cases closed with
    | unusable parsed => exact absurd parsed (configures.not_error _)
    | helped parsed => exact absurd parsed configures.not_help
    | misconfigured parsed refused => exact absurd refused (configures.not_refused parsed)
    | unopened _ _ => exact .inr (.inl ⟨_, rfl⟩)
    | unannounced _ fault _ _ => exact .inr (.inr ⟨_, fault, rfl⟩)
    | @served _ _ _ r _ _ serves result =>
      cases r with
      | error e => exact .inr (.inl ⟨e, rfl⟩)
      | ok n =>
        obtain ⟨-, one, -⟩ := serves.hasServedOne result
        cases result.symm.trans one
        exact .inl rfl

/-- Once the log is set up, the program with the flags does what it takes to serve, whether the
program that serves sets up a log as well or not. -/
theorem matches_endpoint {plan : Plan} {setting : Option String} (set : v.filter = .ok f)
    (isHost : IsHost host) (nonzero : free ≠ 0)
    (alike : port = 0 → ∀ a ∈ v.machine.listening, v.machine.freePort = a.port ↔ free = a.port)
    (serves : plan = .serving host port ∨ plan = .ofEndpoint host port ∧
      ∃ g, ((v.withFreePort free nonzero).withLog setting).filter = .ok g) :
    Plan.Matches (TellsAlike (port = 0 ∧ v.machine.freePort ≠ free)) v
      ((v.withFreePort free nonzero).withLog setting) "" ""
      (.ofArguments ["--host=" ++ host, "--port=" ++ Numeral.decimal port.toNat]) plan := by
  obtain ⟨settings, parsed, laid⟩ := configures_endpoint (v := v) isHost port
  unfold Plan.ofArguments
  rw [parsed]
  rcases serves with rfl | ⟨rfl, g, set'⟩
  · exact .setUpLogAlone set (matches_serving laid nonzero alike) (by simp [Plan.serving])
  · exact .setUpLog set set' (matches_serving laid nonzero alike)

/-- To serve one client on a host and a port, and the program with flags for the two, are the same
for all others, if the log of the latter can be set up: whatever happens around the one can happen
around the other, and then both have written the same, every client stands where it does with the
other and has received the same, and both wait or have ended alike. A port that the system chooses
may be another one. To serve sets up no log, so what is set for it does not count there, unless the
program that serves sets one up before. Where its log cannot be set up, the program with the flags
comes to nothing. -/
theorem endpoint_and_flags_are_the_same_server {c : Config} {setting : Option String}
    (valid : Config.validate ⟨⟨host, port⟩, .once⟩ = .ok c) (nonzero : free ≠ 0)
    (alike : port = 0 → ∀ a ∈ v.machine.listening, v.machine.freePort = a.port ↔ free = a.port)
    (set : v.filter = .ok f) :
    let program := Process.start
      (.ofArguments ["--host=" ++ host, "--port=" ++ Numeral.decimal port.toNat])
    let w := (v.withFreePort free nonzero).withLog setting
    let chosen := port = 0 ∧ v.machine.freePort ≠ free
    (∀ plan, plan = .serving host port ∨ plan = .ofEndpoint host port ∧ (∃ g, w.filter = .ok g) →
      (∀ ts p, program.steps v ts = some p → ∃ us q, (Process.start plan).steps w us = some q ∧
        outsideOf us = outsideOf ts ∧ p.SameForOthers v w chosen q) ∧
      ∀ us q, (Process.start plan).steps w us = some q → ∃ ts p, program.steps v ts = some p ∧
        outsideOf ts = outsideOf us ∧ p.SameForOthers v w chosen q) ∧
    ∀ u slip, u.filter = .error slip → ∀ ts p, program.steps u ts = some p →
      p.Fruitless u slip := by
  intro program w chosen
  obtain ⟨-, isHost⟩ := Config.validate_eq_ok_iff.1 valid
  refine ⟨fun plan serves => ?_, fun u slip broken ts p run => fruitless_of_slip broken run⟩
  have start : Abreast (TellsAlike chosen) v w program (.start plan) :=
    ⟨.going (matches_endpoint set isHost nonzero alike serves), .none, rfl, .inl rfl⟩
  constructor
  · intro ts p run
    obtain ⟨us, q, run', same, abreast⟩ := start.steps run
    exact ⟨us, q, run', same, .of_abreast abreast fun x => verdicts_of_endpoint set isHost run⟩
  · intro us q run
    obtain ⟨ts, p, run', same, abreast⟩ := start.steps_back run
    exact ⟨ts, p, run', same, .of_abreast abreast fun x => verdicts_of_endpoint set isHost run'⟩

/-- A client that sends nothing is served by both, each on the port that its system chose. To serve
sets up no log, so it does not matter that this would not be possible. -/
theorem same_server_on_two_chosen_ports :
    let v : Surroundings :=
      ⟨.standalone, fun _ => .error .noSuchFile, none, none, fun _ => true⟩
    let w := (v.withFreePort 50000 (by decide)).withLog (some "\u00a0a=info")
    let client : SocketAddress := .v4 (.ofNat 0x7f000001) 40000
    let others : List Label :=
      [.connect 0 client, .accept, .close 0, .stopListening, .handle 0, .report]
    let program := Process.start
      (.ofArguments ["--host=" ++ "127.0.0.1", "--port=" ++ Numeral.decimal 0])
    let serving := Process.start (.serving "127.0.0.1" 0)
    ∃ us q ts p, serving.steps w us = some q ∧ outsideOf us = others ∧
      q.output = "Serving on 127.0.0.1:50000\n" ∧ q.fate = .exits 0 none ∧
      program.steps v ts = some p ∧ outsideOf ts = others ∧ p.verdict? = some (.completed 1) ∧
      p.written 0 "" = q.written 0 "" := by
  intro v w client others program serving
  have alike : (0 : UInt16) = 0 → ∀ a ∈ v.machine.listening,
      v.machine.freePort = a.port ↔ (50000 : UInt16) = a.port := by simp [v, Machine.standalone]
  have valid : Config.validate ⟨⟨"127.0.0.1", 0⟩, .once⟩ = .ok ⟨⟨"127.0.0.1", 0⟩, .once⟩ := by
    decide +kernel
  obtain ⟨same, -⟩ := endpoint_and_flags_are_the_same_server (f := .default) valid
    (by decide : (50000 : UInt16) ≠ 0) alike rfl
  obtain ⟨-, back⟩ := same _ (.inl rfl)
  let us : List Turn := List.replicate 3 .own ++ others.map .outside ++ List.replicate 2 .own
  have ends : (serving.steps w us).map (fun q => (q.output, q.fate, q.verdict?)) =
      some ("Serving on 127.0.0.1:50000\n", .exits 0 none, some (.completed 1)) := by
    decide +kernel
  obtain ⟨q, run, ended⟩ := Option.map_eq_some_iff.1 ends
  simp only [Prod.mk.injEq] at ended
  obtain ⟨ts, p, run', same, alike'⟩ := back us q run
  exact ⟨us, q, ts, p, run, rfl, ended.1, ended.2.1, run', same,
    alike'.verdict.trans ended.2.2, alike'.written 0 ""⟩

/-- Where the log cannot be set up, the program with the flags ends with 101 and writes nothing, and
to serve listens all the same. -/
theorem server_without_the_flags_alone :
    let w : Surroundings :=
      ⟨.standalone, fun _ => .error .noSuchFile, some "\u00a0a=info", none, fun _ => true⟩
    let outcome (plan : Plan) (turns : Nat) :=
      ((Process.start plan).steps w (List.replicate turns .own)).map
        fun p => ((p.step w .own).isNone, p.output, p.fate)
    outcome (.ofArguments ["--host=127.0.0.1", "--port=8080"]) 2 =
      some (true, "", .exits 101 none) ∧
    outcome (.serving "127.0.0.1" 8080) 3 =
      some (true, "Serving on 127.0.0.1:8080\n", .goesOn) := by
  decide +kernel

end CannedReply.Program
