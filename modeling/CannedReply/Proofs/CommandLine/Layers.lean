import CannedReply.Program.Launch
import CannedReply.Proofs.Config.Loading

/-!
The layers of the configuration: each setting is the flag's, else the file's, else the default. The
file has to be good on its own, and the only thing that flags can spoil is the host.
-/

namespace CannedReply.CommandLine

open Toml Config

/-- The document that the flags are laid over: that of the file, and the empty one without a file.
There is none if the file is not a document. -/
def Settings.document? (s : Settings) (fileAt : FileAccess) : Option Table :=
  match s.config with
  | none => some []
  | some path => do
    let bytes ← (fileAt path).toOption
    let text ← String.fromUTF8? bytes
    Toml.parse? text.toList

/-- Whether a value is the flag's, else what stands in its place in the document, else the
default. -/
def Layered {α : Type} (flag : Option α) (place : Option Node) (sets : Node → α → Prop)
    (default value : α) : Prop :=
  match flag with
  | some v => value = v
  | none => Chosen place sets default value

/-- Whether a configuration is what flags and a document say together. -/
structure Settings.Gives (s : Settings) (d : Table) (c : Config) : Prop where
  host : Layered s.host (hostNode? d) Node.IsText defaultHost c.listener.host
  port : Layered s.port (portNode? d) SetsPort defaultPort c.listener.port
  forever : c.acceptMode = .forever ↔
    s.forever = true ∨ ∃ n, modeNode? d = some n ∧ SetsMode n .forever

variable {s : Settings} {fileAt : FileAccess} {b c : Config} {d : Table} {e : ConfigError}

theorem base_eq_ok_iff :
    s.base fileAt = .ok b ↔
      ∃ d, s.document? fileAt = some d ∧ b.Follows d ∧ IsHost b.listener.host := by
  unfold Settings.base Settings.document?
  cases s.config with
  | some path =>
    simp only [load_eq_ok_iff, parse_eq_ok_iff, Option.bind_eq_bind, Option.bind_eq_some_iff]
    constructor
    · rintro ⟨bytes, text, content, decoded, d, document, good⟩
      exact ⟨d, ⟨bytes, by simp [content, Except.toOption], text, decoded, document⟩, good⟩
    · rintro ⟨d, ⟨bytes, content, text, decoded, document⟩, good⟩
      cases found : fileAt path with
      | error failure => simp [found, Except.toOption] at content
      | ok bytes' =>
        obtain rfl : bytes' = bytes := by simpa [found, Except.toOption] using content
        exact ⟨bytes', text, rfl, decoded, d, document, good⟩
  | none =>
    constructor
    · rintro ⟨⟩
      exact ⟨[], rfl, .nil, isHost_default⟩
    · rintro ⟨d, same, follows, -⟩
      cases same
      exact congrArg _ (Follows.nil.unique follows)

theorem layered_iff {α : Type} (flag : Option α) (value : α) {place : Option Node}
    {sets : Node → α → Prop} {default below : α} (unique : ∀ n a b, sets n a → sets n b → a = b)
    (chosen : Chosen place sets default below) :
    Layered flag place sets default value ↔ value = flag.getD below := by
  cases flag with
  | some v => rfl
  | none =>
    constructor
    · intro h
      exact chosen_unique unique h chosen
    · rintro rfl
      exact chosen

theorem override_forever_iff (h : b.Follows d) :
    (s.override b).acceptMode = .forever ↔
      s.forever = true ∨ ∃ n, modeNode? d = some n ∧ SetsMode n .forever := by
  rw [← h.forever_iff, Settings.override]
  cases s.forever <;> simp

/-- What flags and a document say together is what the document says, with the flags over it. -/
theorem gives_iff (h : b.Follows d) : s.Gives d c ↔ c = s.override b := by
  have host := layered_iff s.host c.listener.host isText_unique h.host
  have port := layered_iff s.port c.listener.port setsPort_unique h.port
  have mode := override_forever_iff (s := s) h
  constructor
  · intro given
    have sameHost := host.1 given.host
    have samePort := port.1 given.port
    have sameMode : c.acceptMode = .forever ↔ (s.override b).acceptMode = .forever :=
      given.forever.trans mode.symm
    obtain ⟨⟨h, p⟩, m⟩ := c
    cases sameHost
    cases samePort
    -- of two modes, to say which one is `forever` says both
    have : m = (s.override b).acceptMode := by
      generalize (s.override b).acceptMode = m' at sameMode
      cases m <;> cases m' <;> simp at sameMode ⊢
    rw [this]
    rfl
  · rintro rfl
    exact ⟨host.2 rfl, port.2 rfl, mode⟩

theorem effective_of_error (h : s.base fileAt = .error e) : s.effective fileAt = .error e := by
  simp only [Settings.effective, h]
  rfl

theorem effective_of_ok (h : s.base fileAt = .ok b) :
    s.effective fileAt = (s.override b).validate.mapError .invalid := by
  simp only [Settings.effective, h]
  rfl

theorem effective_eq_ok_iff :
    s.effective fileAt = .ok c ↔
      ∃ b, s.base fileAt = .ok b ∧ c = s.override b ∧ IsHost c.listener.host := by
  cases below : s.base fileAt with
  | error e => simp [effective_of_error below]
  | ok b =>
    rw [effective_of_ok below, mapError_eq_ok_iff, validate_eq_ok_iff]
    constructor
    · rintro ⟨rfl, host⟩
      exact ⟨b, rfl, rfl, host⟩
    · rintro ⟨b', same, rfl, host⟩
      cases same
      exact ⟨rfl, host⟩

/-- What comes out is what flags and document say together, where the document is good. -/
theorem effective_eq_ok_iff_gives :
    s.effective fileAt = .ok c ↔
      ∃ b d, s.base fileAt = .ok b ∧ s.document? fileAt = some d ∧ s.Gives d c ∧
        IsHost c.listener.host := by
  rw [effective_eq_ok_iff]
  constructor
  · rintro ⟨b, base, override, host⟩
    obtain ⟨d, document, follows, -⟩ := base_eq_ok_iff.1 base
    exact ⟨b, d, base, document, (gives_iff follows).2 override, host⟩
  · rintro ⟨b, d, base, document, gives, host⟩
    obtain ⟨d', document', follows, -⟩ := base_eq_ok_iff.1 base
    obtain rfl : d = d' := Option.some.inj (document.symm.trans document')
    exact ⟨b, base, (gives_iff follows).1 gives, host⟩

theorem effective_isOk_iff (base : s.base fileAt = .ok b) :
    (∃ c, s.effective fileAt = .ok c) ↔ IsHost (s.host.getD b.listener.host) := by
  simp only [effective_eq_ok_iff]
  constructor
  · rintro ⟨c, b', base', rfl, host⟩
    cases base.symm.trans base'
    exact host
  · intro host
    exact ⟨s.override b, b, base, rfl, host⟩

/-- With a good file, the command line is refused for what is wrong with its host alone. -/
theorem effective_eq_error_iff (h : s.base fileAt = .ok b) :
    s.effective fileAt = .error e ↔
      ∃ host, s.host = some host ∧ ¬IsHost host ∧ e = .invalid (hostProblems host) := by
  rw [effective_of_ok h]
  have fine : IsHost b.listener.host := by
    obtain ⟨-, -, -, fine⟩ := base_eq_ok_iff.1 h
    exact fine
  cases flag : s.host with
  | none =>
    have same : (s.override b).listener.host = b.listener.host := by simp [Settings.override, flag]
    rw [validate_of_isHost (same ▸ fine)]
    simp [Except.mapError]
  | some host =>
    have same : (s.override b).listener.host = host := by simp [Settings.override, flag]
    by_cases good : IsHost host
    · rw [validate_of_isHost (same.symm ▸ good)]
      simp [Except.mapError, good]
    · rw [validate_of_not_isHost (same.symm ▸ good), same]
      simp [Except.mapError, good, eq_comm]

open Program in
/-- A program that gets as far as to listen does so for the configuration of its flags. -/
theorem launch_cases (w : Surroundings) (args : List String) :
    (∃ slip, w.filter = .error slip ∧ launch w args = ⟨.crashed slip, "", []⟩) ∨
      (launch w args).launch = .helped ∨ (∃ e, (launch w args).launch = .unusable e) ∨
      (∃ e, (launch w args).launch = .failed (.config e)) ∨
      ∃ s c, parse args = .ok (.serve s) ∧ s.effective w.fileAt = .ok c ∧
        launch w args =
          { bringUp w c with events := configuredEvent c :: (bringUp w c).events } := by
  cases set : w.filter with
  | error slip => exact .inl ⟨slip, rfl, Surroundings.behindLog_of_error set _⟩
  | ok f =>
    refine .inr ?_
    rw [launch, Surroundings.behindLog_of_ok set]
    cases parsed : parse args with
    | error e => exact .inr (.inl ⟨e, rfl⟩)
    | ok r =>
      cases r with
      | help => exact .inl rfl
      | serve s =>
        cases laid : s.effective w.fileAt with
        | error e => exact .inr (.inr (.inl ⟨e, by simp only [laid]⟩))
        | ok c => exact .inr (.inr (.inr ⟨s, c, rfl, laid, by simp only [laid]⟩))

open Program in
/-- Flags come before the file and the file before the defaults, setting by setting. A bad file is
reported whatever the flags are, and a bad host flag is reported with all that is wrong with it;
nothing else is refused, and no program tries to listen on what is not a host. -/
theorem effective_layers_flags_file_and_defaults (s : Settings) (fileAt : FileAccess) :
    (∀ c, s.effective fileAt = .ok c ↔
      ∃ b d, s.base fileAt = .ok b ∧ s.document? fileAt = some d ∧ s.Gives d c ∧
        IsHost c.listener.host) ∧
    (∀ b, s.base fileAt = .ok b →
      ((∃ c, s.effective fileAt = .ok c) ↔ IsHost (s.host.getD b.listener.host))) ∧
    (∀ e, s.base fileAt = .error e → s.effective fileAt = .error e) ∧
    (∀ b e, s.base fileAt = .ok b → s.effective fileAt = .error e →
      ∃ host problems, s.host = some host ∧ e = .invalid problems ∧ problems ≠ [] ∧
        problems.Nodup ∧ ∀ p : HostProblem, p ∈ problems ↔ p.Found host) ∧
    ∀ (w : Surroundings) (args : List String),
      (∃ slip, w.filter = .error slip ∧ launch w args = ⟨.crashed slip, "", []⟩) ∨
        (launch w args).launch = .helped ∨ (∃ e, (launch w args).launch = .unusable e) ∨
        (∃ e, (launch w args).launch = .failed (.config e)) ∨
        ∃ s c, parse args = .ok (.serve s) ∧ s.effective w.fileAt = .ok c ∧
          IsHost c.listener.host ∧
          launch w args =
            { bringUp w c with events := configuredEvent c :: (bringUp w c).events } := by
  refine ⟨fun c => effective_eq_ok_iff_gives, fun b => effective_isOk_iff,
    fun e => effective_of_error, fun b e base failed => ?refused, fun w args => ?program⟩
  case refused =>
    obtain ⟨host, flag, bad, rfl⟩ := (effective_eq_error_iff base).1 failed
    refine ⟨host, _, flag, rfl, ?_, nodup_hostProblems, mem_hostProblems_iff⟩
    rwa [Ne, hostProblems_eq_nil_iff]
  case program =>
    rcases launch_cases w args with h | h | h | h | ⟨s, c, parsed, laid, started⟩
    · exact .inl h
    · exact .inr (.inl h)
    · exact .inr (.inr (.inl h))
    · exact .inr (.inr (.inr (.inl h)))
    · obtain ⟨-, -, -, host⟩ := effective_eq_ok_iff.1 laid
      exact .inr (.inr (.inr (.inr ⟨s, c, parsed, laid, host, started⟩)))

theorem effective_of_a_blank_host_flag :
    ∃ problems, Settings.effective ⟨none, some " ", none, true⟩ (fun _ => .error .noSuchFile)
        = .error (.invalid problems) ∧
      HostProblem.blank " " ∈ problems ∧ HostProblem.empty ∉ problems := by
  obtain ⟨-, accepted, -, refused, -⟩ := effective_layers_flags_file_and_defaults
    ⟨none, some " ", none, true⟩ fun _ => .error .noSuchFile
  cases laid : Settings.effective ⟨none, some " ", none, true⟩ fun _ => .error .noSuchFile with
  | ok c =>
    have solid := ((accepted .default rfl).1 ⟨c, laid⟩).2.1 ' '
    exact absurd (solid (by decide)) (by decide)
  | error e =>
    obtain ⟨host, problems, flag, rfl, -, -, exactly⟩ := refused .default e rfl laid
    cases flag
    refine ⟨problems, rfl, (exactly _).2 ⟨rfl, ' ', by decide, by decide⟩, ?_⟩
    rw [exactly]
    exact (by decide : ¬" " = "")

end CannedReply.CommandLine
