import CannedReply.Config.Load
import CannedReply.Proofs.Config.Settings

/-!
Hosts that pass all checks, what is said about those that do not, and what a text or a file is read
as: what its document says, with a host that passes.
-/

namespace CannedReply

/-- Whether a host is what may be looked up: not empty, without white space, not too long. -/
def IsHost (host : String) : Prop :=
  host ≠ "" ∧ (∀ c ∈ host.toList, Text.isBlank c = false) ∧ host.utf8ByteSize ≤ 253

/-- Whether something is wrong with a host, as a problem says. -/
def HostProblem.Found (host : String) : HostProblem → Prop
  | .empty => host = ""
  | .blank h => h = host ∧ ∃ c ∈ host.toList, Text.isBlank c = true
  | .tooLong n => n = host.utf8ByteSize ∧ 253 < host.utf8ByteSize

variable {host : String} {c : Config}

/-- Each check that a host fails is reported, and no other one is. -/
theorem mem_hostProblems_iff (p : HostProblem) : p ∈ hostProblems host ↔ p.Found host := by
  have empty : host.isEmpty = true ↔ host = "" := by simp
  have blank : host.toList.any Text.isBlank = true ↔ ∃ c ∈ host.toList, Text.isBlank c = true :=
    List.any_eq_true
  have long : maxHostLength < host.utf8ByteSize ↔ 253 < host.utf8ByteSize := Iff.rfl
  have one : ∀ (q : HostProblem) (failed : Prop) [Decidable failed],
      p ∈ (if failed then [q] else []) ↔ p = q ∧ failed := by
    intro q failed _
    split <;> simp [*]
  simp only [hostProblems, List.mem_append, one, empty, blank, long, or_assoc]
  cases p <;> simp [HostProblem.Found]

theorem nodup_hostProblems : (hostProblems host).Nodup := by
  unfold hostProblems
  split <;> split <;> split <;> simp

theorem isHost_iff : IsHost host ↔ ∀ p : HostProblem, ¬p.Found host := by
  constructor
  · rintro ⟨ink, solid, short⟩ (_ | h | n)
    · exact ink
    · rintro ⟨-, c, hc, blank⟩
      simp [solid c hc] at blank
    · rintro ⟨-, long⟩
      exact absurd short (Nat.not_le_of_lt long)
  · intro good
    refine ⟨good .empty, fun c hc => ?_, Nat.le_of_not_lt fun long => good (.tooLong _) ⟨rfl, long⟩⟩
    exact Bool.eq_false_iff.2 fun blank => good (.blank host) ⟨rfl, c, hc, blank⟩

theorem hostProblems_eq_nil_iff : hostProblems host = [] ↔ IsHost host := by
  simp only [List.eq_nil_iff_forall_not_mem, mem_hostProblems_iff, isHost_iff]

theorem isHost_default : IsHost defaultHost := by
  rw [← hostProblems_eq_nil_iff]
  decide +kernel

namespace Config

theorem validate_of_isHost (h : IsHost c.listener.host) : c.validate = .ok c := by
  rw [← hostProblems_eq_nil_iff] at h
  simp [validate, problems, h]

theorem validate_of_not_isHost (h : ¬IsHost c.listener.host) :
    c.validate = .error (hostProblems c.listener.host) := by
  rw [← hostProblems_eq_nil_iff] at h
  simp [validate, problems, h]

/-- What passes the checks has passed them as it is. -/
theorem validate_eq_ok_iff {c' : Config} :
    c.validate = .ok c' ↔ c = c' ∧ IsHost c.listener.host := by
  by_cases h : IsHost c.listener.host
  · simp [validate_of_isHost h, h]
  · simp [validate_of_not_isHost h, h]

theorem parse_of_follows {text : String} {d : Toml.Table}
    (document : Toml.parse? text.toList = some d) (follows : c.Follows d) :
    parse text = c.validate.mapError .invalid := by
  have decoded := (ofDocument_eq_ok_iff (Toml.distinct_of_parse document)).2 follows
  simp only [parse, document, decoded]

/-- A text is accepted for what its document says, if the host of that is a host. -/
theorem parse_eq_ok_iff {text : String} :
    parse text = .ok c ↔
      ∃ d, Toml.parse? text.toList = some d ∧ c.Follows d ∧ IsHost c.listener.host := by
  cases document : Toml.parse? text.toList with
  | none => simp [parse, document]
  | some d =>
    have read := ofDocument_eq_ok_iff (c := c) (Toml.distinct_of_parse document)
    have one : (∃ d', some d = some d' ∧ c.Follows d' ∧ IsHost c.listener.host) ↔
        c.Follows d ∧ IsHost c.listener.host := by simp
    rw [one, ← read]
    cases decoded : ofDocument d with
    | error r => simp [parse, document, decoded]
    | ok c' =>
      simp only [parse, document, decoded, mapError_eq_ok_iff, validate_eq_ok_iff, Except.ok.injEq]
      constructor
      · rintro ⟨rfl, host⟩
        exact ⟨rfl, host⟩
      · rintro ⟨rfl, host⟩
        exact ⟨rfl, host⟩

theorem load_eq_ok_iff {content : Except Failure ByteArray} :
    load content = .ok c ↔
      ∃ bytes text, content = .ok bytes ∧ String.fromUTF8? bytes = some text ∧
        parse text = .ok c := by
  cases content with
  | error failure => simp [load]
  | ok bytes =>
    cases decoded : String.fromUTF8? bytes with
    | none => simp [load, decoded]
    | some text => simp [load, decoded]

end Config

end CannedReply
