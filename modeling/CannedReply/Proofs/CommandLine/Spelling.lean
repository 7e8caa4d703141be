import CannedReply.Program.Run
import CannedReply.Proofs.CommandLine.Mentions

/-!
A command line of flags gives its settings whatever the order and the spelling of the flags: it
does what taking the flags one after the other does. A flag that is given twice makes it unusable.
-/

namespace CannedReply.CommandLine

theorem Flag.ofName?_name (f : Flag) : Flag.ofName? f.name = some f := by
  cases f <;> rfl

theorem Flag.ofLetter?_letter {f : Flag} {c : Char} (letter : f.letter? = some c) :
    Flag.ofLetter? c = some f := by
  cases f <;> cases letter <;> rfl

theorem Flag.plain_name (f : Flag) : '=' ∉ f.name.toList := by
  cases f <;> simp [name]

namespace Argument

theorem ofString_bare (f : Flag) : ofString ("--" ++ f.name) = .long f.name none := by
  cases f <;> rfl

theorem ofString_letter {f : Flag} {c : Char} (letter : f.letter? = some c) (r : List Char) :
    ofString (String.ofList ('-' :: c :: r)) = .short c r := by
  have other : c ≠ '-' := by
    cases f <;> cases letter <;> decide
  unfold ofString
  rw [String.toList_ofList]
  split
  · next same => cases same; exact absurd rfl other
  · next same => cases same; exact absurd rfl other
  · next same => cases same; rfl
  · next plain => exact absurd rfl (plain c r)

theorem ofString_plain {v : String} (plain : v.toList.head? ≠ some '-') :
    ofString v = .plain v := by
  unfold ofString
  split
  · next same => rw [same] at plain; exact absurd rfl plain
  · next same => rw [same] at plain; exact absurd rfl plain
  · next same => rw [same] at plain; exact absurd rfl plain
  · rfl

end Argument

theorem Mention.Spells.long_of {m : Mention} {f : Flag} {v text : String} (flag : m.flag = f)
    (value : m.value? = some v) (shown : "--" ++ f.name ++ "=" = text) : m.Spells [text ++ v] := by
  subst flag shown
  exact .long value

namespace Progress

variable {p q : Progress} {m : Mention} {f : Flag}

theorem settle_of_none (h : p.pending = none) : p.settle = .ok p := by
  simp [settle, h]

theorem pending_of_store {v : String} (h : p.store f v = .ok q) : q.pending = p.pending := by
  have known : ∀ {m : Mention}, p.take m = .ok q → q.pending = p.pending :=
    fun taken => (takes_of_take taken).pending
  cases f with
  | config => exact known (m := .config v) h
  | host => exact known (m := .host v) h
  | port => exact known (m := .port v) h
  | forever | help =>
    -- flags without a value store nothing
    simp only [store, Pure.pure, Except.pure] at h
    split at h
    · cases h
    · cases h
      rfl

/-- What has been settled waits for nothing. -/
theorem pending_of_settle (h : p.settle = .ok q) : q.pending = none := by
  unfold settle at h
  split at h
  · next none =>
    cases h
    exact none
  · cases h
  · exact pending_of_store h

theorem settle_of_value {v : String} (h : q.pending = none) (value : m.value? = some v) :
    settle { q with pending := some (m.flag, some v) } = q.take m := by
  have same : { q with pending := none } = q := by
    rw [← h]
  rw [take_of_value value]
  simp only [settle, same]

end Progress

section Parsing

variable {p : Progress} {m : Mention} {f : Flag} {v : String} {c : Char} {rest : List String}

/-- A flag without a value is turned on when what was before it has been settled. -/
theorem parseFrom_bare (none : m.value? = none) :
    parseFrom p (("--" ++ m.flag.name) :: rest) = (do
      let q ← p.settle
      let q ← q.take m
      parseFrom q rest) := by
  cases m with
  | config | host | port => cases none
  | forever =>
    rw [parseFrom.eq_def]
    simp only [Argument.ofString_bare]
    simp only [Flag.ofName?_name, Mention.flag]
    rfl

theorem parseFrom_long (value : m.value? = some v) :
    parseFrom p (("--" ++ m.flag.name ++ "=" ++ v) :: rest) = (do
      let q ← p.settle
      let q ← q.take m
      parseFrom q rest) := by
  have form := Argument.ofString_attached m.flag.name m.flag.plain_name v
  simp only [Progress.take_of_value value]
  rw [parseFrom.eq_def]
  simp only [form]
  simp only [Flag.ofName?_name]
  cases m with
  | forever => cases value
  | config | host | port => rfl

theorem parseFrom_letter (value : m.value? = some v) (letter : m.flag.letter? = some c)
    {r : List Char}
    (shape : r = '=' :: v.toList ∨ r = v.toList ∧ v ≠ "" ∧ v.toList.head? ≠ some '=') :
    parseFrom p (String.ofList ('-' :: c :: r) :: rest) = (do
      let q ← p.settle
      let q ← q.take m
      parseFrom q rest) := by
  simp only [Progress.take_of_value value]
  rw [parseFrom.eq_def]
  simp only [Argument.ofString_letter letter, Flag.ofLetter?_letter letter]
  have back : String.ofList v.toList = v := String.ofList_toList
  cases m with
  | forever => cases value
  | host => cases letter
  | config | port =>
    rcases shape with rfl | ⟨rfl, any, plain⟩
    · simp only [back]
      rfl
    · cases chars : v.toList with
      | nil => exact absurd (String.toList_eq_nil_iff.1 chars) any
      | cons d ds =>
        rw [chars] at plain back
        have other : d ≠ '=' := fun same => plain (same ▸ rfl)
        simp [other, back, Mention.flag]

/-- A flag that waits for its value gets the next argument, which is looked at later. -/
theorem parseFrom_apart (plain : v.toList.head? ≠ some '-') :
    parseFrom { p with pending := some (f, none) } (v :: rest) =
      parseFrom { p with pending := some (f, some v) } rest := by
  rw [parseFrom.eq_def]
  simp only [Argument.ofString_plain plain]

theorem parseFrom_longApart (value : m.value? = some v) (plain : v.toList.head? ≠ some '-') :
    parseFrom p (("--" ++ m.flag.name) :: v :: rest) = (do
      let q ← p.settle
      parseFrom { q with pending := some (m.flag, some v) } rest) := by
  rw [parseFrom.eq_def]
  simp only [Argument.ofString_bare, Flag.ofName?_name, ← parseFrom_apart plain]
  cases m with
  | forever => cases value
  | config | host | port => rfl

theorem parseFrom_shortApart (value : m.value? = some v) (letter : m.flag.letter? = some c)
    (plain : v.toList.head? ≠ some '-') :
    parseFrom p (String.ofList ['-', c] :: v :: rest) = (do
      let q ← p.settle
      parseFrom { q with pending := some (m.flag, some v) } rest) := by
  rw [parseFrom.eq_def]
  simp only [Argument.ofString_letter letter, Flag.ofLetter?_letter letter, ← parseFrom_apart plain]
  cases m with
  | forever => cases value
  | host => cases letter
  | config | port => rfl

end Parsing

/-- Flags on a command line are taken one after the other, in whatever spelling they stand there,
once what was there before them has been settled. -/
theorem parseFrom_of_spelled {ms : List Mention} {args : List String}
    (spelled : Mention.Spelled ms args) (p : Progress) :
    parseFrom p args = (do
      let q ← p.settle
      let r ← ms.foldlM Progress.take q
      return .serve r.settings) := by
  induction spelled generalizing p with
  | nil => simp [parseFrom]
  | @cons m ms piece args first rest ih =>
    -- a flag is taken at once, or it waits and is taken when it is settled
    have atOnce : (do
        let q ← p.settle
        let q ← q.take m
        parseFrom q args) = (do
        let q ← p.settle
        let r ← (m :: ms).foldlM Progress.take q
        return .serve r.settings) := by
      cases settled : p.settle with
      | error e => rfl
      | ok q =>
        cases taken : q.take m with
        | error e => simp [taken, Bind.bind, Except.bind]
        | ok q' =>
          have none : q'.pending = none := by
            rw [(Progress.takes_of_take taken).pending, Progress.pending_of_settle settled]
          simp [taken, ih, Progress.settle_of_none none, Bind.bind, Except.bind]
    have later : ∀ v, m.value? = some v → (do
        let q ← p.settle
        parseFrom { q with pending := some (m.flag, some v) } args) = (do
        let q ← p.settle
        let r ← (m :: ms).foldlM Progress.take q
        return .serve r.settings) := by
      intro v value
      cases settled : p.settle with
      | error e => rfl
      | ok q =>
        have waits := Progress.settle_of_value (Progress.pending_of_settle settled) value
        cases taken : q.take m <;> simp [ih, waits, taken, Bind.bind, Except.bind]
    cases first with
    | bare none => exact (parseFrom_bare none).trans atOnce
    | long value => exact (parseFrom_long value).trans atOnce
    | longApart value plain => exact (parseFrom_longApart value plain).trans (later _ value)
    | short value letter => exact (parseFrom_letter value letter (.inl rfl)).trans atOnce
    | shortAttached value letter any plain =>
      exact (parseFrom_letter value letter (.inr ⟨rfl, any, plain⟩)).trans atOnce
    | shortApart value letter plain =>
      exact (parseFrom_shortApart value letter plain).trans (later _ value)

/-- Flags alone are read as flags that are taken one after the other from nothing. -/
theorem parse_of_spelled {ms : List Mention} {args : List String}
    (spelled : Mention.Spelled ms args) :
    parse args = (do
      let p ← ms.foldlM Progress.take ⟨.empty, none⟩
      return .serve p.settings) :=
  parseFrom_of_spelled spelled ⟨.empty, none⟩

/-- Settings that are spelled out are the settings that are read. -/
theorem parse_of_spelledBy {s : Settings} {args : List String} (config : s.config ≠ some "")
    (spelled : s.SpelledBy args) : parse args = .ok (.serve s) := by
  obtain ⟨ms, perm, spelled⟩ := spelled
  have shown : ∀ m, m ∈ ms ↔ s.mention? m.flag = some m := by
    intro m
    rw [perm.mem_iff, Settings.mem_mentions_iff]
  have known : ∀ m ∈ ms, m.OfSettings := fun m mem => ⟨s, (shown m).1 mem⟩
  have fine : ∀ m ∈ ms, m.Fine := by
    intro m mem
    have given := (shown m).1 mem
    cases m with
    | config path =>
      obtain ⟨path', setting, same⟩ := Option.map_eq_some_iff.1 given
      cases same
      exact fun empty => config (empty ▸ setting)
    | port text =>
      obtain ⟨port, -, same⟩ := Option.map_eq_some_iff.1 given
      cases same
      exact ⟨port, readPort_decimal port⟩
    | host _ | forever => trivial
  have distinct : (ms.map Mention.flag).Nodup :=
    (perm.map Mention.flag).nodup_iff.2 s.nodup_mentions
  have nothing : ∀ f, Settings.empty.mention? f = none := by
    intro f
    cases f <;> rfl
  have free : ∀ m ∈ ms, Progress.has ⟨.empty, none⟩ m.flag = false := by
    intro m _
    rw [Progress.has_eq, nothing]
    rfl
  obtain ⟨q, taken, sets⟩ := Progress.exists_foldlM_take fine known distinct free
  have same : q.settings = s := by
    refine Settings.eq_of_mention? fun f => Option.ext fun m => ?_
    rw [sets, nothing, shown]
    constructor
    · rintro (⟨given, rfl⟩ | never)
      · exact given
      · cases never
    · intro given
      have named := Settings.flag_of_mention? given
      exact .inl ⟨named ▸ given, named⟩
  rw [parse_of_spelled spelled, taken, ← same]
  rfl

/-- A host and a port as flags are taken as they are. -/
theorem parse_endpoint (host : String) (port : UInt16) :
    parse ["--host=" ++ host, "--port=" ++ Numeral.decimal port.toNat] =
      .ok (.serve ⟨none, some host, some port, false⟩) := by
  have spelled : Mention.Spelled [.host host, .port (Numeral.decimal port.toNat)]
      ["--host=" ++ host, "--port=" ++ Numeral.decimal port.toNat] :=
    .cons (.long_of (f := .host) rfl rfl rfl) (.cons (.long_of (f := .port) rfl rfl rfl) .nil)
  exact parse_of_spelledBy nofun ⟨_, .refl _, spelled⟩

/-- Flags of which two are the same cannot be read. Nothing but that is reported, if nothing is
wrong with their values. -/
theorem parse_of_repeated {ms : List Mention} {args : List String}
    (spelled : Mention.Spelled ms args) (again : ¬(ms.map Mention.flag).Nodup) :
    ∃ e, parse args = .error e ∧
      ((∀ m ∈ ms, m.Fine) → ∃ f, e = .repeated f ∧ 2 ≤ (ms.map Mention.flag).count f) := by
  rw [parse_of_spelled spelled]
  cases taken : ms.foldlM Progress.take ⟨.empty, none⟩ with
  | ok q => exact absurd (Progress.nodup_of_foldlM_take taken).1 again
  | error e =>
    refine ⟨e, rfl, fun fine => ?_⟩
    obtain ⟨f, -, same, before | twice⟩ := Progress.repeated_of_foldlM_take fine taken
    · cases f <;> cases before
    · exact ⟨f, same, twice⟩

open Program in
/-- What a command line of flags asks for is told by its flags and their values, whatever their
order and their spelling: it is what they set. A flag that is given twice, alike or not, makes the
command line unusable, and the program ends with the status two if its log can be set up. -/
theorem order_and_spelling_make_no_difference :
    (∀ (s : Settings) (args : List String), s.config ≠ some "" → s.SpelledBy args →
      parse args = .ok (.serve s) ∧
      ∀ args', s.SpelledBy args' → ∀ w vs, run w args' vs = run w args vs) ∧
    ∀ (ms : List Mention) (args : List String), Mention.Spelled ms args →
      ¬(ms.map Mention.flag).Nodup →
      ∃ e, parse args = .error e ∧
        (∀ w f, w.filter = .ok f → ∀ vs, (run w args vs).fate = .exits 2 none) ∧
        ((∀ m ∈ ms, m.Fine) → ∃ f, e = .repeated f ∧ 2 ≤ (ms.map Mention.flag).count f) := by
  constructor
  · intro s args config spelled
    have parsed := parse_of_spelledBy config spelled
    refine ⟨parsed, fun args' spelled' w vs => ?_⟩
    have parsed' := parse_of_spelledBy config spelled'
    have started : launch w args' = launch w args := by
      simp only [launch, parsed, parsed']
    simp only [run, started]
  · intro ms args spelled again
    obtain ⟨e, refused, cause⟩ := parse_of_repeated spelled again
    refine ⟨e, refused, fun w f set vs => ?_, cause⟩
    have started : launch w args = ⟨.unusable e, "", []⟩ := by
      rw [launch, Surroundings.behindLog_of_ok set, refused]
    simp only [run, started, runStarted]

theorem four_flags_in_other_orders_and_spellings :
    parse ["-p80", "--host", "a=b", "--forever", "-c=-x"] =
      .ok (.serve ⟨some "-x", some "a=b", some 80, true⟩) ∧
    (∀ w vs, Program.run w ["--forever", "--config=-x", "--host=a=b", "-p", "80"] vs =
      Program.run w ["-p80", "--host", "a=b", "--forever", "-c=-x"] vs) ∧
    parse ["--host=-p", "-p", "80", "--host", ""] = .error (.repeated .host) ∧
    (Program.run ⟨.standalone, fun _ => .error .noSuchFile, none, none, fun _ => true⟩
      ["--host=-p", "-p", "80", "--host", ""] []).fate = .exits 2 none := by
  obtain ⟨different, repeated⟩ := order_and_spelling_make_no_difference
  have one : Mention.Spelled [.port "80", .host "a=b", .forever, .config "-x"]
      ["-p80", "--host", "a=b", "--forever", "-c=-x"] := by
    have spelled := Mention.Spelled.cons (.shortAttached (m := .port "80") rfl rfl (by decide)
      (by decide)) (.cons (.longApart (m := .host "a=b") rfl (by decide)) (.cons (.bare
      (m := .forever) rfl) (.cons (.short (m := .config "-x") rfl rfl) .nil)))
    exact spelled
  have two : Mention.Spelled [.forever, .config "-x", .host "a=b", .port "80"]
      ["--forever", "--config=-x", "--host=a=b", "-p", "80"] := by
    have spelled := Mention.Spelled.cons (.bare (m := .forever) rfl) (.cons (.long
      (m := .config "-x") rfl) (.cons (.long (m := .host "a=b") rfl) (.cons (.shortApart
      (m := .port "80") rfl rfl (by decide)) .nil)))
    exact spelled
  have again : Mention.Spelled [.host "-p", .port "80", .host ""]
      ["--host=-p", "-p", "80", "--host", ""] := by
    have spelled := Mention.Spelled.cons (.long (m := .host "-p") rfl) (.cons (.shortApart
      (m := .port "80") rfl rfl (by decide)) (.cons (.longApart (m := .host "") rfl (by decide))
      .nil))
    exact spelled
  obtain ⟨parsed, same⟩ := different ⟨some "-x", some "a=b", some 80, true⟩ _ (by decide)
    ⟨_, by decide +kernel, one⟩
  obtain ⟨e, refused, status, cause⟩ := repeated _ _ again (by decide)
  refine ⟨parsed, same _ ⟨_, by decide +kernel, two⟩, ?_, status _ .default rfl _⟩
  have fine : ∀ m ∈ [Mention.host "-p", .port "80", .host ""], m.Fine := by
    simp only [List.forall_mem_cons]
    exact ⟨trivial, ⟨80, by decide +kernel⟩, trivial, nofun⟩
  obtain ⟨f, rfl, twice⟩ := cause fine
  cases f <;> first | exact refused | exact absurd twice (by decide)

end CannedReply.CommandLine
