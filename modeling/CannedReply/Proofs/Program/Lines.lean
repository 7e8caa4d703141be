import CannedReply.Proofs.CommandLine.Layers
import CannedReply.Proofs.Program.BrokenStart
import CannedReply.Proofs.Program.Course
import CannedReply.Proofs.Server.Lines

/-!
Nothing that is configured and nothing that clients send breaks a line of the log: on standard
error each event is one line, whatever is logged and whatever happens.
-/

namespace CannedReply.Program

open Server CommandLine Log Text

variable {w : Surroundings} {args : List String} {p q : Process} {ts : List Turn} {c : Config}
  {f : Filter}

/-- The lines that are logged for events, with the time of each of them. -/
def loggedLines (events : List Event) (times : Nat → Instant × Nat) : List String :=
  events.mapIdx fun i e => e.timedLine ((times i).1.logText (times i).2)

/-- What is on standard error: the log, each line of which is ended, and the report. -/
def Process.errorText (p : Process) (times : Nat → Instant × Nat) : String :=
  String.join ((loggedLines p.log times).map (· ++ "\n")) ++ p.report?.getD ""

/-- A host that is accepted breaks no line, nor does the port behind it. -/
theorem isLine_authority {e : Endpoint} (isHost : IsHost e.host) : IsLine e.authority := by
  have host : IsLine e.host := by
    intro c mem
    have solid := isHost.2.1 c mem
    rw [isBreak_eq_false_iff]
    constructor <;>
    · rintro rfl
      exact absurd solid (by decide)
  exact isLine_append_iff.2 ⟨isLine_append_iff.2 ⟨host, isLine_of_all rfl⟩, isLine_decimal _⟩

theorem Configures.isHost (h : Configures w args c) : IsHost c.listener.host := by
  obtain ⟨settings, -, laid⟩ := h
  obtain ⟨b, -, rfl, isHost⟩ := effective_eq_ok_iff.1 laid
  exact isHost

theorem staysOnLine_configuredEvent (isHost : IsHost c.listener.host) :
    (configuredEvent c).StaysOnLine := by
  have message : IsLine "Configuration loaded" := isLine_of_all rfl
  have account : IsLine c.acceptMode.account := by
    cases c.acceptMode <;> exact isLine_of_all rfl
  exact ⟨message, .cons (isLine_of_all rfl) (isLine_authority isHost)
    (.cons (isLine_of_all rfl) account .nil)⟩

theorem staysOnLine_completedEvent (n : Nat) : (completedEvent n).StaysOnLine := by
  have message : IsLine "Shutdown complete" := isLine_of_all rfl
  exact ⟨message, .cons (isLine_of_all rfl) (isLine_decimal n) .nil⟩

/-- The program notes an event when it is configured, and one in the end. -/
theorem Reached.staysOnLine {e : Event} {next : Plan} {server : Option State} {output : String}
    (h : Reached w args (.going (.note e next)) server output) : e.StaysOnLine := by
  cases h with
  | configured configures => exact staysOnLine_configuredEvent configures.isHost
  | completing => exact staysOnLine_completedEvent _
  | ending closed ends => rcases ends with ending | ending <;> cases ending

namespace Process

/-- Whether no event in the log breaks its line. -/
def LogsLines (p : Process) : Prop :=
  ∀ e ∈ p.log, e.StaysOnLine

theorem LogsLines.tell (h : p.LogsLines) {es : List Event} (new : ∀ e ∈ es, e.StaysOnLine) :
    (p.tell es).LogsLines :=
  List.forall_mem_append.2 ⟨h, fun e mem => new e (List.mem_of_mem_filter mem)⟩

theorem LogsLines.advance (h : p.LogsLines) (reached : Reached w args p.stage p.server p.output)
    (go : p.Advances w q) : q.LogsLines := by
  cases go with
  | exited | logSetUp | slipped | configured | unopened | printed | reported => exact h
  | noted stage =>
    rw [stage] at reached
    exact LogsLines.tell h (List.forall_mem_singleton.2 reached.staysOnLine)
  | opened => exact LogsLines.tell h (List.forall_mem_singleton.2 (staysOnLine_boundEvent _))
  | started => exact LogsLines.tell h (staysOnLine_events _ nofun)

theorem LogsLines.outside {l : Label} (h : p.LogsLines)
    (speaks : ∀ f, l = .failAccept f → f.SpeaksInLine) (next : p.outside l = some q) :
    q.LogsLines := by
  rcases outside_cases next with ⟨s, u, -, -, -, rfl⟩ | ⟨c, a, -, -, -, rfl⟩
  · exact LogsLines.tell h (staysOnLine_events s speaks)
  · exact h

theorem LogsLines.steps (set : w.filter = .ok f) (h : p.LogsLines)
    (reached : Reached w args p.stage p.server p.output)
    (speaks : ∀ f, Turn.outside (.failAccept f) ∈ ts → f.SpeaksInLine)
    (run : p.steps w ts = some q) : q.LogsLines := by
  have keep : ∀ {t}, t ∈ ts → ∀ {p q : Process}, p.step w t = some q →
      p.LogsLines ∧ Reached w args p.stage p.server p.output →
      q.LogsLines ∧ Reached w args q.stage q.server q.output := by
    intro t mem p q step ⟨h, reached⟩
    cases t with
    | own =>
      have go := advance_eq_some_iff.1 step
      exact ⟨h.advance reached go, reached.advance set go⟩
    | outside l =>
      have quiet : ∀ f, l = .failAccept f → f.SpeaksInLine := by
        rintro f rfl
        exact speaks f mem
      exact ⟨h.outside quiet step, reached.outside step⟩
  exact (steps_keep (P := fun p => p.LogsLines ∧ Reached w args p.stage p.server p.output) keep run
    ⟨h, reached⟩).1

end Process

/-- Whatever the arguments and the files say, whatever is set for the log, and whatever clients send
at whatever points: each event that is logged is one line of standard error, and none of its values
breaks it. Of the system it is asked that its own words for a failed attempt to accept are on one
line. -/
theorem no_event_breaks_its_line
    (run : (Process.start (.ofArguments args)).steps w ts = some p)
    (speaks : ∀ f, Turn.outside (.failAccept f) ∈ ts → f.SpeaksInLine)
    (times : Nat → Instant × Nat) :
    (∀ e ∈ p.log, IsLine e.line ∧ ∀ f ∈ e.fields, IsLine f.2) ∧
    lines (p.errorText times) = loggedLines p.log times ++ lines (p.report?.getD "") := by
  have logs : p.LogsLines := by
    cases set : w.filter with
    | ok f => exact Process.LogsLines.steps set (p := .start _) nofun .new speaks run
    | error slip =>
      have broken := (Process.Breaks.start slip _).steps set run
      rw [Process.LogsLines, broken.log]
      exact nofun
  constructor
  · intro e mem
    exact ⟨(logs e mem).line, fun f here => ((logs e mem).fields f here).2⟩
  · refine lines_join (fun s mem => ?_) _
    obtain ⟨i, inside, rfl⟩ := List.mem_mapIdx.1 mem
    exact (logs _ (List.getElem_mem _)).timedLine (Instant.isLine_logText _ _)

/-- An attempt to accept fails in words of the system, and then a client asks for a path that is a
line separator, which is no line break here. -/
theorem six_events_on_six_lines :
    let client : SocketAddress := .v4 (.ofNat 0x7f000001) 40000
    let args := ["--host=127.0.0.1", "--port=0", "--forever"]
    let w : Surroundings :=
      ⟨.standalone, fun _ => .error .noSuchFile, some "4", none, fun _ => true⟩
    let ts : List Turn := .own :: (List.replicate 5 .own ++ [
      .outside (.failAccept (.other 71 "Protocol error")), .outside (.pass 100), .outside .resume,
      .outside (.connect 0 client), .outside .accept,
      .outside (.send 0 (Bytes.ofText "GET /\u2028 HTTP/1.0\r\n\r\n")), .outside (.handle 0)])
    ∃ p, (Process.start (.ofArguments args)).steps w ts = some p ∧ p.log.length = 6 ∧
      (p.log.filter (·.source = .handler)).map Event.fields =
        [[("method", "GET"), ("path", "/\u2028"), ("version", "HTTP/1.0")]] ∧
      (∀ e ∈ p.log, IsLine e.line) ∧
      ∀ times, lines (p.errorText times) = loggedLines p.log times ++ [""] := by
  intro client args w ts
  have speaks : ∀ f, Turn.outside (.failAccept f) ∈ ts → f.SpeaksInLine := by
    intro f mem
    obtain rfl : f = .other 71 "Protocol error" := by simpa [ts] using mem
    show IsLine "Protocol error"
    exact isLine_of_all rfl
  have ends : ((Process.start (.ofArguments args)).steps w ts).map
      (fun p => (p.log.length, (p.log.filter (·.source = .handler)).map Event.fields, p.report?)) =
      some (6, [[("method", "GET"), ("path", "/\u2028"), ("version", "HTTP/1.0")]], none) := by
    decide +kernel
  obtain ⟨p, run, told⟩ := Option.map_eq_some_iff.1 ends
  simp only [Prod.mk.injEq] at told
  obtain ⟨length, fields, none'⟩ := told
  refine ⟨p, run, length, fields, ?_, fun times => ?_⟩
  · intro e mem
    exact ((no_event_breaks_its_line run speaks fun _ => (.ofSeconds 0, 0)).1 e mem).1
  · rw [(no_event_breaks_its_line run speaks times).2, none']
    rfl

end CannedReply.Program
