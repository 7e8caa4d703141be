import CannedReply.Config.Report
import CannedReply.Proofs.Config.Loading
import CannedReply.Proofs.Text.Quoted

/-!
A report on what is wrong with a host can be read back, whatever the host looks like, and stays on
one line.
-/

namespace CannedReply

open Reader Text

namespace HostProblem

theorem toList_empty :
    empty.message.toList = "listener.host ".toList ++ "must not be empty".toList := by
  rw [← String.toList_append]
  rfl

theorem toList_blank (host : String) :
    (blank host).message.toList = "listener.host ".toList ++
      ((quoted host).toList ++ " must not contain whitespace".toList) := by
  have said : (blank host).message =
      "listener.host " ++ quoted host ++ " must not contain whitespace" := rfl
  rw [said, String.toList_append, String.toList_append, List.append_assoc]

theorem toList_tooLong (length : Nat) :
    (tooLong length).message.toList = "listener.host ".toList ++ ("is ".toList ++
      (Numeral.digits 10 length ++
        (" bytes long, the limit is " ++ Numeral.decimal maxHostLength).toList)) := by
  have said : (tooLong length).message = "listener.host " ++ ("is " ++ (Numeral.decimal length ++
      (" bytes long, the limit is " ++ Numeral.decimal maxHostLength))) := by
    have words : "listener.host is " = "listener.host " ++ "is " := rfl
    have whole : (tooLong length).message = "listener.host is " ++ Numeral.decimal length ++
        " bytes long, the limit is " ++ Numeral.decimal maxHostLength := rfl
    rw [whole, words]
    simp only [String.append_assoc]
  have number : (Numeral.decimal length).toList = Numeral.digits 10 length := String.toList_ofList
  rw [said, String.toList_append, String.toList_append, String.toList_append, number]

theorem told_tooLong (length : Nat) (rest : List Char) :
    told ((tooLong length).message.toList ++ rest) = some (tooLong length, rest) := by
  unfold told
  rw [toList_tooLong, List.append_assoc, List.append_assoc, List.append_assoc, token_then]
  generalize words : (" bytes long, the limit is " ++ Numeral.decimal maxHostLength).toList = back
  have start : back.head? = some ' ' := by
    rw [← words]
    decide +kernel
  have front : ∀ s, ∀ c ∈ ("is ".toList ++ s).head?, c = 'i' := by
    intro s c hc
    exact (Option.some.inj hc).symm
  have other : ∀ s, token "must not be empty".toList ("is ".toList ++ s) = none := by
    intro s
    refine token_of_other_head (x := 'm') (by decide) fun c hc => ?_
    rw [front s c hc]
    decide
  have other' : ∀ s, quotedText ("is ".toList ++ s) = none := by
    intro s
    refine bind_of_none (token_of_head_ne fun c hc => ?_)
    rw [front s c hc]
    decide
  have digits : ∀ c ∈ Numeral.digits 10 length, Numeral.isDigit 10 c = true := fun c =>
    Numeral.isDigit_of_mem_digits (by decide) (by decide)
  have stop : ∀ c ∈ (back ++ rest).head?, Numeral.isDigit 10 c = false := by
    obtain ⟨tail, rfl⟩ := List.head?_eq_some_iff.1 start
    rintro c ⟨⟩
    decide
  rw [orElse_of_none (bind_of_none (other _)), orElse_of_none (bind_of_none (other' _)),
    token_then, bind_of (run_append digits stop), token_then,
    Numeral.number_digits (by decide) (by decide)]
  rfl

/-- Whatever stands behind it, what is wrong with a host is read from the words for it. -/
theorem told_message (p : HostProblem) (rest : List Char) :
    told (p.message.toList ++ rest) = some (p, rest) := by
  cases p with
  | empty =>
    have read : (do token "must not be empty".toList; return empty : Reader HostProblem)
        ("must not be empty".toList ++ rest) = some (empty, rest) := token_then _ rest (pure empty)
    rw [toList_empty, List.append_assoc, told, token_then, orElse_of read]
  | blank host =>
    have other : token "must not be empty".toList ((quoted host).toList ++
        (" must not contain whitespace".toList ++ rest)) = none := by
      refine token_of_other_head (x := 'm') (by decide) fun c hc => ?_
      rw [head_quoted host _ c hc]
      decide
    have read : (do
        let host ← quotedText
        token " must not contain whitespace".toList
        return blank host : Reader HostProblem) ((quoted host).toList ++
          (" must not contain whitespace".toList ++ rest)) = some (blank host, rest) :=
      (bind_of (quotedText_quoted host _)).trans (token_then _ rest (pure (blank host)))
    rw [toList_blank, List.append_assoc, List.append_assoc, told, token_then,
      orElse_of_none (bind_of_none other), orElse_of read]
  | tooLong length => exact told_tooLong length rest

theorem message_ne_nil (p : HostProblem) : p.message.toList ≠ [] := by
  cases p with
  | empty => decide
  | blank host =>
    rw [toList_blank]
    exact List.append_ne_nil_of_left_ne_nil (by decide) _
  | tooLong length =>
    rw [toList_tooLong]
    exact List.append_ne_nil_of_left_ne_nil (by decide) _

theorem staysInLine_message (p : HostProblem) : ∀ c ∈ p.message.toList, StaysInLine c := by
  have front : ∀ c ∈ "listener.host ".toList, StaysInLine c :=
    List.all_iff_forall_prop.1 (by decide)
  cases p with
  | empty => exact List.all_iff_forall_prop.1 (by decide)
  | blank host =>
    have back : ∀ c ∈ " must not contain whitespace".toList, StaysInLine c :=
      List.all_iff_forall_prop.1 (by decide)
    rw [toList_blank]
    exact List.forall_mem_append.2 ⟨front, List.forall_mem_append.2 ⟨staysInLine_quoted host, back⟩⟩
  | tooLong length =>
    have is : ∀ c ∈ "is ".toList, StaysInLine c :=
      List.all_iff_forall_prop.1 (by decide)
    have back : ∀ c ∈ (" bytes long, the limit is " ++ Numeral.decimal maxHostLength).toList,
        StaysInLine c := List.all_iff_forall_prop.1 (by decide +kernel)
    rw [toList_tooLong]
    refine List.forall_mem_append.2 ⟨front, List.forall_mem_append.2 ⟨is, ?_⟩⟩
    exact List.forall_mem_append.2 ⟨staysInLine_of_digits (by decide) (by decide), back⟩

end HostProblem

namespace ConfigError

variable {p : HostProblem} {ps : List HostProblem}

theorem toList_joined (p : HostProblem) (ps : List HostProblem) :
    (joined (p :: ps)).toList =
      p.message.toList ++ ps.flatMap fun q => ", ".toList ++ q.message.toList := by
  induction ps generalizing p with
  | nil => rw [List.flatMap_nil, List.append_nil]; rfl
  | cons q ps ih =>
    have step : joined (p :: q :: ps) = p.message ++ ", " ++ joined (q :: ps) :=
      String.intercalate_cons_cons
    rw [step, String.toList_append, String.toList_append, ih, List.flatMap_cons]
    simp only [List.append_assoc]

theorem toList_message (ps : List HostProblem) :
    (invalid ps).message.toList = "Validation failed: ".toList ++ (joined ps).toList := by
  have said : (invalid ps).message = "Validation failed: " ++ joined ps := rfl
  rw [said, String.toList_append]

theorem runs_told (ps : List HostProblem) :
    Runs (do token ", ".toList; HostProblem.told)
      (ps.flatMap fun q => ", ".toList ++ q.message.toList) ps [] := by
  induction ps with
  | nil => exact .stop rfl
  | cons p ps ih =>
    rw [List.flatMap_cons, List.append_assoc]
    refine .step ((token_then _ _ _).trans (p.told_message _)) ?_ ih
    have longer := List.length_pos_iff.2 p.message_ne_nil
    simp only [List.length_append]
    omega

/-- What a report names is read from it, as long as it names something. -/
theorem problems?_message (any : ps ≠ []) : problems? (invalid ps).message = some ps := by
  obtain ⟨p, ps, rfl⟩ := List.exists_cons_of_ne_nil any
  unfold problems?
  rw [toList_message, toList_joined, whole?, token_then, bind_of (p.told_message _),
    bind_of (runs_told ps).many]
  rfl

theorem staysInLine_report (ps : List HostProblem) :
    ∀ c ∈ (invalid ps).message.toList, StaysInLine c := by
  have front : ∀ c ∈ "Validation failed: ".toList, StaysInLine c :=
    List.all_iff_forall_prop.1 (by decide)
  have comma : ∀ c ∈ ", ".toList, StaysInLine c :=
    List.all_iff_forall_prop.1 (by decide)
  rw [toList_message, List.forall_mem_append]
  refine ⟨front, ?_⟩
  cases ps with
  | nil => nofun
  | cons p ps =>
    rw [toList_joined, List.forall_mem_append]
    refine ⟨p.staysInLine_message, fun c mem => ?_⟩
    obtain ⟨q, -, within⟩ := List.mem_flatMap.1 mem
    exact List.forall_mem_append.2 ⟨comma, q.staysInLine_message⟩ c within

end ConfigError

namespace Config

variable {c c' : Config} {ps ps' : List HostProblem}

theorem validate_eq_error_iff :
    c.validate = .error ps ↔ ps = hostProblems c.listener.host ∧ ps ≠ [] := by
  by_cases good : IsHost c.listener.host
  · have none := hostProblems_eq_nil_iff.2 good
    rw [validate_of_isHost good, none]
    constructor
    · nofun
    · rintro ⟨rfl, any⟩
      exact absurd rfl any
  · have any : hostProblems c.listener.host ≠ [] := fun none =>
      good (hostProblems_eq_nil_iff.1 none)
    rw [validate_of_not_isHost good, Except.error.injEq]
    constructor
    · rintro rfl
      exact ⟨rfl, any⟩
    · rintro ⟨rfl, -⟩
      rfl

/-- What is wrong with a host is listed in the order of the checks. -/
theorem sublist_hostProblems (host : String) :
    (hostProblems host).Sublist [.empty, .blank host, .tooLong host.utf8ByteSize] := by
  have one : ∀ (p : HostProblem) (failed : Prop) [Decidable failed],
      (if failed then [p] else []).Sublist [p] := by
    intro p failed _
    split
    · exact .refl _
    · exact List.nil_sublist _
  exact ((one _ _).append (one _ _)).append (one _ _)

/-- The words on a configuration that is refused tell what is wrong with it, so that they are equal
only if the same is wrong, and they take one line. What they tell is each check that the host fails,
once and in the order of the checks, whatever the other settings are. -/
theorem report_tells_what_is_wrong (refused : c.validate = .error ps)
    (refused' : c'.validate = .error ps') :
    ConfigError.problems? (ConfigError.invalid ps).message = some ps ∧
    ((ConfigError.invalid ps).message = (ConfigError.invalid ps').message → ps = ps') ∧
    (∀ x ∈ (ConfigError.invalid ps).message.toList,
      isControl x = false ∧ (isBlank x = true → x = ' ')) ∧
    ps ≠ [] ∧ ps.Nodup ∧
    ps.Sublist [.empty, .blank c.listener.host, .tooLong c.listener.host.utf8ByteSize] ∧
    (∀ p : HostProblem, p ∈ ps ↔ p.Found c.listener.host) ∧
    ∀ port mode, Config.validate ⟨⟨c.listener.host, port⟩, mode⟩ = .error ps := by
  obtain ⟨rfl, any⟩ := validate_eq_error_iff.1 refused
  obtain ⟨-, any'⟩ := validate_eq_error_iff.1 refused'
  have read := ConfigError.problems?_message any
  refine ⟨read, fun same => ?_, ConfigError.staysInLine_report _, any, nodup_hostProblems,
    sublist_hostProblems _, mem_hostProblems_iff, fun port mode => ?_⟩
  · have read' := ConfigError.problems?_message any'
    rw [← same, read] at read'
    exact Option.some.inj read'
  · exact validate_eq_error_iff.2 ⟨rfl, any⟩

theorem report_on_a_host_with_a_quotation_mark :
    (ConfigError.invalid [.blank "\", a"]).message =
      "Validation failed: listener.host \"\\\", a\" must not contain whitespace" ∧
    ConfigError.problems? (ConfigError.invalid [.blank "\", a"]).message =
      some [.blank "\", a"] ∧
    (ConfigError.invalid [.blank "\", a"]).message ≠
      (ConfigError.invalid [.blank " "]).message := by
  have refused : Config.validate ⟨⟨"\", a", 80⟩, .once⟩ =
      .error [.blank "\", a"] := by decide +kernel
  have refused' : Config.validate ⟨⟨" ", 0⟩, .forever⟩ = .error [.blank " "] := by decide +kernel
  obtain ⟨read, apart, -⟩ := report_tells_what_is_wrong refused refused'
  refine ⟨by decide +kernel, read, fun same => ?_⟩
  exact absurd (apart same) (by decide)

end Config

end CannedReply
