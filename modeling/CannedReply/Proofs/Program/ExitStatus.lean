import CannedReply.Proofs.Program.BrokenStart
import CannedReply.Proofs.Program.Course
import CannedReply.Proofs.Server.EveryClient

/-!
What standard output and the exit status of the program with a command line say about its run. The
line with the address is there just when the program listens, it is out before anybody is accepted,
and each status has its causes.
-/

namespace CannedReply.Program

open Server CommandLine Process

variable {w : Surroundings} {args : List String} {p q : Process} {ts : List Turn} {t : Turn}
  {s : State} {a a' : SocketAddress} {c c' : Config} {g : Log.Filter}

/-- What has gone wrong, and with which server, where the program ends with an error. -/
def Caused (w : Surroundings) (args : List String) (server : Option State) : ProgramError → Prop
  | .config e => ∃ settings,
      parse args = .ok (.serve settings) ∧ settings.effective w.fileAt = .error e
  | .listener e =>
    (∃ c, Configures w args c ∧ Listener.bind w.machine c.listener = .error e) ∨
    ∃ c a s ls f, Listens w args c a ∧ w.outputFault? = none ∧ c.acceptMode = .once ∧
      server = some s ∧ (State.start .once a .fresh).steps ls = some s ∧
      (State.start .once a .fresh).failed? ls = some f ∧ e = .accept f
  | .announcement f => (∃ c a, Listens w args c a) ∧ w.outputFault? = some f

/-- Whether the only client that a server takes has been accepted and its handler has ended. -/
def HasServedOne (s : State) : Prop :=
  s.mode = .once ∧ s.result? = some (.ok 1) ∧ ∃ c o, s.accepted = [c] ∧ s.outcome? c = some o

theorem Configures.unique (h : Configures w args c) (h' : Configures w args c') : c = c' := by
  obtain ⟨settings, parsed, laid⟩ := h
  obtain ⟨settings', parsed', laid'⟩ := h'
  cases parsed.symm.trans parsed'
  exact Except.ok.inj (laid.symm.trans laid')

theorem Listens.unique (h : Listens w args c a) (h' : Listens w args c' a') : c = c' ∧ a = a' := by
  obtain rfl := h.1.unique h'.1
  have same := h.2.symm.trans h'.2
  simp only [Except.ok.injEq, Listener.mk.injEq] at same
  exact ⟨rfl, same⟩

theorem Configures.not_error (h : Configures w args c) (e : UsageError) :
    parse args ≠ .error e := by
  obtain ⟨settings, parsed, -⟩ := h
  simp [parsed]

theorem Configures.not_help (h : Configures w args c) : parse args ≠ .ok .help := by
  obtain ⟨settings, parsed, -⟩ := h
  simp [parsed]

theorem Configures.not_refused (h : Configures w args c) {settings : Settings} {e : ConfigError}
    (parsed : parse args = .ok (.serve settings)) : settings.effective w.fileAt ≠ .error e := by
  obtain ⟨settings', parsed', laid⟩ := h
  cases parsed.symm.trans parsed'
  simp [laid]

/-- Where the address cannot be bound, nothing is listened on. -/
theorem Configures.deaf (h : Configures w args c) {e : ListenerError}
    (failed : Listener.bind w.machine c.listener = .error e) (c' : Config) (a : SocketAddress) :
    ¬Listens w args c' a := by
  intro listens
  obtain rfl := h.unique listens.1
  simp [listens.2] at failed

theorem Caused.serves {server : Option State} {e : ProgramError} (h : Caused w args server e) :
    ∃ settings, parse args = .ok (.serve settings) := by
  have configured : ∀ {c}, Configures w args c → ∃ settings, parse args = .ok (.serve settings) :=
    fun ⟨settings, parsed, _⟩ => ⟨settings, parsed⟩
  cases e with
  | config e =>
    obtain ⟨settings, parsed, -⟩ := h
    exact ⟨settings, parsed⟩
  | listener e =>
    rcases h with ⟨c, configures, -⟩ | ⟨c, a, s, ls, f, listens, -⟩
    · exact configured configures
    · exact configured listens.1
  | announcement f =>
    obtain ⟨⟨c, a, listens⟩, -⟩ := h
    exact configured listens.1

namespace Serves

/-- The result is an error just where the only attempt to accept has failed. -/
theorem error_iff {mode : AcceptMode} (h : Serves mode a s) (e : ListenerError) :
    s.result? = some (.error e) ↔
      mode = .once ∧ ∃ ls f, (State.start .once a .fresh).steps ls = some s ∧
        (State.start .once a .fresh).failed? ls = some f ∧ e = .accept f := by
  constructor
  · intro result
    cases mode with
    | forever => simp [(h.wellFormed.phase_of_forever h.mode_eq).1] at result
    | once =>
      obtain ⟨ls, run⟩ := h.run
      obtain ⟨f, failed, same⟩ := (error_iff_failed run e).1 result
      exact ⟨rfl, ls, f, run, failed, same.symm⟩
  · rintro ⟨rfl, ls, f, run, failed, rfl⟩
    exact (error_iff_failed run _).2 ⟨f, failed, rfl⟩

theorem hasServedOne {mode : AcceptMode} (h : Serves mode a s) {n : Nat}
    (result : s.result? = some (.ok n)) : HasServedOne s := by
  have once : s.mode = .once := by
    cases hm : s.mode with
    | once => rfl
    | forever => simp [(h.wellFormed.phase_of_forever hm).1] at result
  obtain ⟨rfl, c, o, client, ended⟩ := h.wellFormed.client_of_success once result
  exact ⟨once, result, c, o, client, ended⟩

end Serves

/-- Once the program listens, only two things can go wrong. -/
theorem caused_iff (listens : Listens w args c a) (serves : Serves c.acceptMode a s)
    (e : ProgramError) :
    Caused w args (some s) e ↔
      (∃ f, w.outputFault? = some f ∧ e = .announcement f) ∨
      w.outputFault? = none ∧ ∃ e', s.result? = some (.error e') ∧ e = .listener e' := by
  cases e with
  | config e =>
    constructor
    · rintro ⟨settings, parsed, refused⟩
      exact absurd refused (listens.1.not_refused parsed)
    · simp
  | listener e =>
    simp only [reduceCtorEq, and_false, exists_false, false_or, ProgramError.listener.injEq,
      exists_eq_right', serves.error_iff]
    constructor
    · rintro (⟨c', configures, failed⟩ | ⟨c', a', s', ls, f, same, writable, once, server, run⟩)
      · exact absurd listens (configures.deaf failed c a)
      · obtain ⟨rfl, rfl⟩ := listens.unique same
        cases server
        exact ⟨writable, once, ls, f, run⟩
    · rintro ⟨writable, once, ls, f, run⟩
      exact .inr ⟨c, a, s, ls, f, listens, writable, once, rfl, run⟩
  | announcement f =>
    constructor
    · rintro ⟨-, fault⟩
      exact .inl ⟨f, fault, rfl⟩
    · rintro (⟨f', fault, same⟩ | ⟨-, e', -, same⟩)
      · cases same
        exact ⟨⟨c, a, listens⟩, fault⟩
      · simp at same

theorem head_append {s : String} {c : Char} (h : s.toList.head? = some c) (t : String) :
    (s ++ t).toList.head? = some c := by
  rw [String.toList_append, List.head?_append, h, Option.some_or]

theorem head_line (a : SocketAddress) : (readinessLine a ++ "\n").toList.head? = some 'S' :=
  head_append (head_append (s := "Serving on ") rfl _) _

theorem head_helpText : helpText.toList.head? = some 'A' := by
  unfold helpText
  repeat apply head_append
  rfl

theorem line_ne_empty (a : SocketAddress) : readinessLine a ++ "\n" ≠ "" := by
  intro h
  have head := head_line a
  simp [h] at head

theorem line_ne_helpText (a : SocketAddress) : readinessLine a ++ "\n" ≠ helpText := by
  intro h
  have head := head_line a
  simp [h, head_helpText] at head

theorem helpText_ne_empty : helpText ≠ "" := by
  intro h
  have head := head_helpText
  simp [h] at head

/-- Whether something written is the help just where help is asked for, and a line with an address
just where there is one. -/
def Truthful (w : Surroundings) (args : List String) (output : String) : Prop :=
  (output = helpText ↔ parse args = .ok .help) ∧
  ((∃ a, output = readinessLine a ++ "\n") ↔ ∃ c a, Listens w args c a)

theorem truthful_silence (asked : parse args ≠ .ok .help) (deaf : ∀ c a, ¬Listens w args c a) :
    Truthful w args "" := by
  simp [Truthful, asked, deaf, helpText_ne_empty.symm, (line_ne_empty _).symm]

theorem truthful_help (asked : parse args = .ok .help) : Truthful w args helpText := by
  have deaf : ∀ c a, ¬Listens w args c a := fun c a listens => listens.1.not_help asked
  simp [Truthful, asked, deaf, (line_ne_helpText _).symm]

theorem truthful_line (listens : Listens w args c a) :
    Truthful w args (readinessLine a ++ "\n") := by
  simp only [Truthful, line_ne_helpText, listens.1.not_help, iff_self, true_and]
  exact ⟨fun _ => ⟨c, a, listens⟩, fun _ => ⟨a, rfl⟩⟩

namespace Reached

variable (h : Reached w args p.stage p.server p.output)

include h

/-- All that the program ever writes. -/
theorem output_cases (writable : w.outputFault? = none) :
    p.output = "" ∨ parse args = .ok .help ∧ p.output = helpText ∨
      ∃ c a, Listens w args c a ∧ p.output = readinessLine a ++ "\n" := by
  generalize p.stage = stage, p.server = server, p.output = output at h
  cases h with
  | new | helping _ | configuring _ | configured _ | listening _ | bound _ _ _ => exact .inl rfl
  | serving listens _ _ | completing listens _ _ _ => exact .inr (.inr ⟨_, _, listens, rfl⟩)
  | ending closed _ =>
    cases closed with
    | unusable _ | misconfigured _ _ | unopened _ _ | unannounced _ _ _ _ => exact .inl rfl
    | helped parsed => exact .inr (.inl ⟨parsed, by simp [Surroundings.written, writable]⟩)
    | served listens _ _ _ => exact .inr (.inr ⟨_, _, listens, rfl⟩)

/-- Where the program waits, it has written what there is to write. -/
theorem truthful (set : w.filter = .ok g) (writable : w.outputFault? = none) (waits : p.Waits w) :
    Truthful w args p.output := by
  rcases h.of_waits set waits with ⟨v, -, closed⟩ | ⟨c, a, s, -, listens, -, -, -, -, out⟩
  · generalize p.server = server, p.output = output at closed
    cases closed with
    | unusable parsed =>
      exact truthful_silence (by simp [parsed]) fun c a listens => listens.1.not_error _ parsed
    | helped parsed =>
      simpa [Surroundings.written, writable] using truthful_help parsed
    | misconfigured parsed refused =>
      exact truthful_silence (by simp [parsed]) fun c a listens =>
        listens.1.not_refused parsed refused
    | unopened configures failed =>
      exact truthful_silence configures.not_help (configures.deaf failed)
    | unannounced _ fault _ _ => simp [writable] at fault
    | served listens _ _ _ => exact truthful_line listens
  · rw [out]
    exact truthful_line listens

/-- When something new is written, it is the help, or the server listens and has accepted nobody. -/
theorem server_of_line (step : p.step w t = some q) (written : q.output ≠ p.output) :
    parse args = .ok .help ∧ q.output = helpText ∨
    ∃ s, q.server = some s ∧ s.isListening = true ∧ s.accepted = [] ∧
      q.output = readinessLine s.address ++ "\n" := by
  cases t with
  | outside l => exact absurd (outside_frame step).2.2 written
  | own =>
    cases advance_eq_some_iff.1 step with
    | printed stage =>
      rw [stage] at h
      have full : w.outputFault? = none := by
        by_contra fault
        simp [Surroundings.written, Option.isSome_iff_ne_none.2 fault] at written
      simp only [Surroundings.written, full, Option.isSome_none, Bool.false_eq_true, if_false]
      generalize p.server = server, p.output = output at h
      cases h with
      | helping parsed => exact .inl ⟨parsed, String.empty_append⟩
      | @bound c a s listens serves phase =>
        refine .inr ⟨s, rfl, by simp [State.isListening, phase],
          serves.accepted_of_unrun (.inl phase), ?_⟩
        rw [serves.address_eq, String.empty_append]
      | ending _ ends => rcases ends with stage | stage <;> simp at stage
    | started _ _ _ | opened _ _ | noted _ => simp at written
    | exited _ | logSetUp _ _ | slipped _ _ | configured _ | unopened _ _ | reported _ _ _ =>
      simp at written

/-- The status two is for an unusable command line. -/
theorem exits_two_iff (set : w.filter = .ok g) (waits : p.Waits w) :
    p.fate = .exits 2 none ↔ ∃ e, parse args = .error e := by
  rcases h.of_waits set waits with ⟨v, fate, closed⟩ | ⟨c, a, s, fate, listens, -⟩
  · rw [fate]
    generalize p.server = server, p.output = output at closed
    cases closed with
    | unusable parsed => simp [Verdict.fate, parsed]
    | helped parsed | misconfigured parsed _ => simp [Verdict.fate, parsed]
    | unopened configures _ => simp [Verdict.fate, configures.not_error]
    | unannounced listens _ _ _ => simp [Verdict.fate, listens.1.not_error]
    | @served _ _ _ r listens _ _ _ =>
      cases r <;> simp [Verdict.ofResult, Verdict.fate, listens.1.not_error]
  · simp [fate, listens.1.not_error]

/-- The status one is for what goes wrong behind the command line, and comes with what it is. -/
theorem exits_one_iff (set : w.filter = .ok g) (waits : p.Waits w) (e : ProgramError) :
    p.fate = .exits 1 (some e) ↔ Caused w args p.server e := by
  rcases h.of_waits set waits with
    ⟨v, fate, closed⟩ | ⟨c, a, s, fate, listens, writable, server, serves, result, -⟩
  · rw [fate]
    generalize p.server = server, p.output = output at closed
    cases closed with
    | unusable parsed | helped parsed =>
      have fine : ¬Caused w args none e := by
        intro cause
        obtain ⟨settings, asked⟩ := cause.serves
        simp [parsed] at asked
      simp [Verdict.fate, fine]
    | @misconfigured settings e' parsed refused =>
      have unset : ∀ c, ¬Configures w args c := fun c configures =>
        configures.not_refused parsed refused
      have deaf : ∀ c a, ¬Listens w args c a := fun c a listens => unset c listens.1
      cases e <;> simp [Caused, Verdict.fate, unset, deaf, parsed, refused]
    | @unopened c e' configures failed =>
      have deaf := configures.deaf failed
      have only : ∀ e, (∃ c, Configures w args c ∧ Listener.bind w.machine c.listener = .error e) ↔
          e' = e := by
        intro e
        constructor
        · rintro ⟨c', configures', failed'⟩
          obtain rfl := configures.unique configures'
          exact Except.error.inj (failed.symm.trans failed')
        · rintro rfl
          exact ⟨c, configures, failed⟩
      have laid : ∀ e, ¬∃ settings, parse args = .ok (.serve settings) ∧
          settings.effective w.fileAt = .error e := by
        rintro e ⟨settings, parsed, refused⟩
        exact configures.not_refused parsed refused
      cases e <;> simp only [Caused, Verdict.fate, deaf, only, laid] <;> simp
    | unannounced listens fault serves _ =>
      rw [caused_iff listens serves]
      simp [Verdict.fate, fault, eq_comm]
    | @served c a s r listens writable serves result =>
      rw [caused_iff listens serves]
      cases r <;> simp [Verdict.ofResult, Verdict.fate, writable, result, eq_comm]
  · rw [server, caused_iff listens serves]
    simp [fate, writable, result]

/-- The status zero is for the help, and for a server whose only client has been served. -/
theorem exits_zero_iff (set : w.filter = .ok g) (waits : p.Waits w) :
    p.fate = .exits 0 none ↔
      parse args = .ok .help ∨ ∃ s, p.server = some s ∧ HasServedOne s := by
  rcases h.of_waits set waits with
    ⟨v, fate, closed⟩ | ⟨c, a, s, fate, listens, -, server, serves, result, -⟩
  · rw [fate]
    generalize p.server = server, p.output = output at closed
    cases closed with
    | unusable parsed | misconfigured parsed _ => simp [Verdict.fate, parsed]
    | helped parsed => simp [Verdict.fate, parsed]
    | unopened configures _ => simp [Verdict.fate, configures.not_help]
    | unannounced listens _ serves unrun =>
      have nobody := serves.accepted_of_unrun unrun
      simp [Verdict.fate, listens.1.not_help, HasServedOne, nobody]
    | @served _ _ s r listens _ serves result =>
      cases r with
      | error e => simp [Verdict.ofResult, Verdict.fate, listens.1.not_help, HasServedOne, result]
      | ok n => simp [Verdict.ofResult, Verdict.fate, serves.hasServedOne result]
  · simp [fate, listens.1.not_help, server, HasServedOne, result]

/-- A server for any number of clients goes on for ever once it has been announced. -/
theorem goesOn_of_forever (set : w.filter = .ok g) (listens : Listens w args c a)
    (forever : c.acceptMode = .forever) (writable : w.outputFault? = none) :
    p.fate = .goesOn := by
  cases stage : p.stage with
  | going plan => simp [fate, verdict?, stage]
  | finished v =>
    rcases h.of_waits set (waits_of_finished stage) with ⟨v, -, closed⟩ | ⟨-, -, -, goesOn, -⟩
    · exfalso
      generalize p.server = server, p.output = output at closed
      cases closed with
      | unusable parsed => exact listens.1.not_error _ parsed
      | helped parsed => exact listens.1.not_help parsed
      | misconfigured parsed refused => exact listens.1.not_refused parsed refused
      | unopened configures failed => exact configures.deaf failed c a listens
      | unannounced _ fault _ _ => simp [writable] at fault
      | served listens' _ serves result =>
        obtain ⟨rfl, -⟩ := listens.unique listens'
        simp [(serves.wellFormed.phase_of_forever (serves.mode_eq.trans forever)).1] at result
    · exact goesOn

/-- Where the line cannot be written, a server that there is has not run. -/
theorem unrun_of_fault {f : Failure} (fault : w.outputFault? = some f)
    (server : p.server = some s) :
    ∃ mode a, Serves mode a s ∧ Unrun s := by
  generalize p.stage = stage, p.output = output at h
  rw [server] at h
  cases h with
  | bound _ serves phase => exact ⟨_, _, serves, .inl phase⟩
  | serving _ writable _ | completing _ writable _ _ => simp [fault] at writable
  | ending closed _ =>
    cases closed with
    | unannounced _ _ serves unrun => exact ⟨_, _, serves, unrun⟩
    | served _ writable _ _ => simp [fault] at writable

/-- Where the line cannot be written, nobody is ever accepted. -/
theorem nobody_of_fault {f : Failure} (fault : w.outputFault? = some f) (client : Nat) :
    (∀ x, p.standing? client ≠ some (.accepted x)) ∧ ∀ date, p.written client date = [] := by
  cases server : p.server with
  | none => simp [standing?, written, server]
  | some s =>
    obtain ⟨mode, a, serves, unrun⟩ := h.unrun_of_fault fault server
    have alone : ¬s.Attached client := by
      simp [State.Attached, serves.accepted_of_unrun unrun, serves.adopted]
    have none' := serves.wellFormed.connection_of_not_attached alone
    have out : ∀ x, s.standing? client ≠ some (.accepted x) := by
      intro x hx
      rw [← State.connection?_eq_some_iff, none'] at hx
      simp at hx
    refine ⟨fun x => ?_, fun date => ?_⟩
    · unfold standing?
      split
      · simp
      · simpa [server] using out x
    · simpa [written, server] using State.written_of_no_connection none' date

end Reached

/-- Once the log is set up, what is on standard output is the help, or a line with the address that
is listened on, or nothing; the line is there just when the configuration was accepted and the
address could be bound. When it comes out the server listens already and has accepted nobody. The
program ends with two just for an unusable command line, with one just for a rejected configuration,
an address that cannot be bound, a line that cannot be written, or a failure of the only attempt to
accept, and with zero only for the help or when its only client has been served. A server for any
number of clients does not end once it is announced, and one that cannot be announced never accepts
anybody. Where the log cannot be set up, the program writes nothing and ends with 101, whatever the
command line says. Left to itself it always comes to a point where it waits for its clients or is
over. -/
theorem output_and_status_tell_the_truth
    (run : (Process.start (.ofArguments args)).steps w ts = some p) :
    (∀ g, w.filter = .ok g →
      (w.outputFault? = none →
        (p.output = "" ∨ parse args = .ok .help ∧ p.output = helpText ∨
          ∃ c a, Listens w args c a ∧ p.output = readinessLine a ++ "\n") ∧
        (p.Waits w → (p.output = helpText ↔ parse args = .ok .help) ∧
          ((∃ a, p.output = readinessLine a ++ "\n") ↔ ∃ c a, Listens w args c a))) ∧
      (∀ t q, p.step w t = some q → q.output ≠ p.output →
        parse args = .ok .help ∧ q.output = helpText ∨
        ∃ s, q.server = some s ∧ s.isListening = true ∧ s.accepted = [] ∧
          q.output = readinessLine s.address ++ "\n") ∧
      (∀ code e, p.fate = .exits code e → p.Waits w ∧
        (code = 0 ∧ e = none ∨ code = 1 ∧ e.isSome ∨ code = 2 ∧ e = none)) ∧
      (p.Waits w →
        (p.fate = .exits 2 none ↔ ∃ e, parse args = .error e) ∧
        (∀ e, p.fate = .exits 1 (some e) ↔ Caused w args p.server e) ∧
        (p.fate = .exits 0 none ↔
          parse args = .ok .help ∨ ∃ s, p.server = some s ∧ HasServedOne s)) ∧
      (∀ c a, Listens w args c a → c.acceptMode = .forever → w.outputFault? = none →
        p.fate = .goesOn) ∧
      (∀ f, w.outputFault? = some f → ∀ client,
        (∀ x, p.standing? client ≠ some (.accepted x)) ∧ ∀ date, p.written client date = [])) ∧
    (∀ slip, w.filter = .error slip → p.Fruitless w slip) ∧
    ∃ k q, p.steps w (List.replicate k .own) = some q ∧ q.Waits w := by
  refine ⟨fun g set => ?_, fun slip broken => fruitless_of_slip broken run, exists_waits w p⟩
  have h := Reached.of_run set run
  refine ⟨fun writable => ⟨h.output_cases writable, h.truthful set writable⟩,
    fun t q => h.server_of_line, ?codes, fun waits =>
      ⟨h.exits_two_iff set waits, h.exits_one_iff set waits, h.exits_zero_iff set waits⟩,
    fun c a => h.goesOn_of_forever set, fun f => h.nobody_of_fault⟩
  case codes =>
    intro code e ended
    cases stage : p.stage with
    | going plan => simp [fate, verdict?, stage] at ended
    | finished v =>
      refine ⟨waits_of_finished stage, ?_⟩
      have same : v.fate = .exits code e := by simpa [fate, verdict?, stage] using ended
      cases v with
      | crashed slip => exact absurd rfl ((stage ▸ h).closed_of_finished.not_crashed slip)
      | _ => simp only [Verdict.fate, Fate.exits.injEq] at same; simp [← same.1, ← same.2]

/-- A client comes before the line is out and goes away in the middle of its request, and the
program ends with success. Where the line cannot be written, the client is not accepted. Where the
log cannot be set up, the client is refused and the program ends with 101. -/
theorem truth_about_a_broken_request_and_a_broken_output :
    let client : SocketAddress := .v4 (.ofNat 0x7f000001) 40000
    let w : Surroundings :=
      ⟨.standalone, fun _ => .error .noSuchFile, none, none, fun _ => true⟩
    let v : Surroundings := { w with outputFault? := some .noSpaceLeft }
    let u : Surroundings := { w with logSetting := some "\u00a0a=info" }
    let new := Process.start (.ofArguments ["--host=127.0.0.1", "--port=0"])
    let early : List Turn := List.replicate 4 .own ++ [.outside (.connect 0 client), .own, .own]
    let late : List Turn := [.outside .accept, .outside (.close 0), .outside .stopListening,
      .outside (.handle 0), .outside .report, .own, .own, .own]
    let only : List Turn := [.own, .outside (.connect 0 client), .own]
    ∃ p q r, new.steps w (early ++ late) = some p ∧ p.output = "Serving on 127.0.0.1:49152\n" ∧
      p.fate = .exits 0 none ∧ (∃ s, p.server = some s ∧ HasServedOne s) ∧
      new.steps v early = some q ∧ q.output = "" ∧
      q.fate = .exits 1 (some (.announcement .noSpaceLeft)) ∧
      (∀ x, q.standing? 0 ≠ some (.accepted x)) ∧
      new.steps u only = some r ∧ r.output = "" ∧ r.fate = .exits 101 none ∧
      r.standing? 0 = some .refused := by
  intro client w v u new early late only
  have first : (new.steps w (early ++ late)).isSome = true := by decide +kernel
  have second : (new.steps v early).isSome = true := by decide +kernel
  have third : (new.steps u only).isSome = true := by decide +kernel
  obtain ⟨p, served⟩ := Option.isSome_iff_exists.1 first
  obtain ⟨q, broken⟩ := Option.isSome_iff_exists.1 second
  obtain ⟨r, crashed⟩ := Option.isSome_iff_exists.1 third
  have told : (new.steps w (early ++ late)).map (fun p => (p.output, p.fate)) =
      some ("Serving on 127.0.0.1:49152\n", .exits 0 none) := by decide +kernel
  have untold : (new.steps v early).map (fun p => (p.output, p.fate)) =
      some ("", .exits 1 (some (.announcement .noSpaceLeft))) := by decide +kernel
  have left : (new.steps u only).map (fun p => (p.fate, p.standing? 0)) =
      some (.exits 101 none, some .refused) := by decide +kernel
  simp only [served, Option.map_some, Option.some.injEq, Prod.mk.injEq] at told
  simp only [broken, Option.map_some, Option.some.injEq, Prod.mk.injEq] at untold
  simp only [crashed, Option.map_some, Option.some.injEq, Prod.mk.injEq] at left
  obtain ⟨-, -, codes, statuses, -⟩ := (output_and_status_tell_the_truth served).1 .default rfl
  obtain ⟨-, -, -, -, -, nobody⟩ := (output_and_status_tell_the_truth broken).1 .default rfl
  have slipped : u.filter = .error ⟨.stop, 1, '\u00a0', 1⟩ := by decide +kernel
  have fruitless := (output_and_status_tell_the_truth crashed).2.1 _ slipped
  have one := ((statuses (codes _ _ told.2).1).2.2.1 told.2).resolve_left (by decide +kernel)
  exact ⟨p, q, r, served, told.1, told.2, one, broken, untold.1, untold.2, (nobody _ rfl 0).1,
    crashed, fruitless.output, left.1, left.2⟩

/-- An unusable command line does not always end the program with the status two: where the log
cannot be set up, the status is 101. -/
theorem unusable_arguments_without_their_status :
    let w : Surroundings :=
      ⟨.standalone, fun _ => .error .noSuchFile, some "\u00a0a=info", none, fun _ => true⟩
    parse ["--port"] = .error (.missingValue .port) ∧
    ∃ p, (Process.start (.ofArguments ["--port"])).steps w [.own, .own] = some p ∧ p.Waits w ∧
      p.output = "" ∧ p.fate = .exits 101 none ∧ p.fate ≠ .exits 2 none := by
  intro w
  have ends : ((Process.start (.ofArguments ["--port"])).steps w [.own, .own]).map
      (fun p => ((p.step w .own).isNone, p.output, p.fate)) =
      some (true, "", .exits 101 none) := by decide +kernel
  obtain ⟨p, run, ended⟩ := Option.map_eq_some_iff.1 ends
  simp only [Prod.mk.injEq] at ended
  obtain ⟨waits, output, fate⟩ := ended
  exact ⟨by decide +kernel, p, run, Option.isNone_iff_eq_none.1 waits, output, fate, by simp [fate]⟩

end CannedReply.Program
