import CannedReply.Log.Filter
import Mathlib.Data.List.DropRight

/-!
Which settings of the log cannot be set up: a directive has to have white space in front of it and
a character of several bytes for a part of it to end inside of a character.
-/

namespace CannedReply.Log

variable {α β : Type} {isPattern : String → Bool} {text shown seen rest : List Char}

namespace Directive

/-- Whether reading comes to an end by itself, to something or to a refusal. -/
def Ends (x : Except Fault α) : Prop :=
  ∀ slip, x ≠ .error (.slipped slip)

theorem ends_ok (a : α) : Ends (.ok a) :=
  nofun

theorem ends_refused : Ends (α := α) (.error .refused) :=
  nofun

theorem Ends.bind {x : Except Fault α} {f : α → Except Fault β} (h : Ends x)
    (rest : ∀ a, Ends (f a)) : Ends (x >>= f) := by
  intro slip
  cases x with
  | error e =>
    intro slipped
    exact h slip (congrArg Except.error (Except.error.inj slipped))
  | ok a => exact rest a slip

theorem ends_mapM {f : α → Except Fault β} {as : List α} (each : ∀ a ∈ as, Ends (f a)) :
    Ends (as.mapM f) := by
  induction as with
  | nil => exact ends_ok []
  | cons a as ih =>
    rw [List.mapM_cons]
    exact (each a List.mem_cons_self).bind fun b =>
      (ih fun c mem => each c (List.mem_cons_of_mem _ mem)).bind fun bs => ends_ok (b :: bs)

/-- Whether a text can be cut where the text that is shown of it can. -/
def Agrees (text shown : List Char) : Prop :=
  ∀ front rest, shown = front ++ rest → Text.IsPlace text (Text.size front)

section reading

variable (agrees : Agrees text shown)

include agrees

theorem ends_part {before : List Char} (first : ∃ rest, shown = before ++ rest)
    (second : ∃ rest, shown = seen ++ rest) : Ends (part text before seen) := by
  obtain ⟨_, first⟩ := first
  obtain ⟨_, second⟩ := second
  obtain ⟨t, taken⟩ := Text.exists_part (agrees _ _ first) (agrees _ _ second)
  rw [part, taken]
  exact ends_ok t

theorem ends_withLevel (d : Directive) (whole : ∃ rest, shown = seen ++ rest) :
    Ends (withLevel text d seen) := by
  obtain ⟨_, whole⟩ := whole
  obtain ⟨t, taken⟩ := Text.exists_behind (agrees _ _ whole)
  rw [withLevel, taken]
  refine (ends_ok t).bind fun level => ?_
  split
  · exact ends_ok _
  · split
    · exact ends_ok _
    · exact ends_refused

theorem ends_readEnd (d : Directive) (whole : shown = seen ++ rest) :
    Ends (readEnd text d seen rest) := by
  unfold readEnd
  split
  · exact ends_ok d
  · next rest =>
    exact ends_withLevel agrees d ⟨rest, by simp [whole]⟩
  · exact ends_refused

theorem ends_readField (d : Directive) (whole : shown = seen ++ rest) :
    Ends (readField isPattern text d seen rest) := by
  have divided := List.takeWhile_append_dropWhile (p := fun c => c ≠ '\x7d') (l := rest)
  unfold readField
  generalize rest.takeWhile (fun c => c ≠ '\x7d') = field at divided ⊢
  split
  · exact ends_refused
  · next brace behind stop =>
    rw [stop] at divided
    refine (ends_part agrees ⟨rest, whole⟩ ⟨brace :: behind, by simp [whole, ← divided]⟩).bind
      fun value => ?_
    split
    · next bracket behind' _ =>
      split
      · exact ends_readEnd agrees _ (by simp [whole, ← divided])
      · exact ends_refused
    · exact ends_refused

theorem ends_readSpan (d : Directive) (whole : shown = seen ++ rest) :
    Ends (readSpan isPattern text d seen rest) := by
  have divided :=
    List.takeWhile_append_dropWhile (p := fun c => c ≠ ']' && c ≠ '\x7b') (l := rest)
  unfold readSpan
  generalize rest.takeWhile (fun c => c ≠ ']' && c ≠ '\x7b') = name at divided ⊢
  split
  · exact ends_refused
  · next stop behind found =>
    rw [found] at divided
    have whole' : shown = (seen ++ name ++ [stop]) ++ behind := by simp [whole, ← divided]
    refine (ends_part agrees ⟨rest, whole⟩ ⟨stop :: behind, by simp [whole']⟩).bind fun span => ?_
    simp only
    split
    · exact ends_readEnd agrees _ whole'
    · exact ends_readField agrees _ whole'

end reading

/-- Where the text can be cut as its trimmed form can, it is read or refused. -/
theorem ends_read (agrees : Agrees text (trimmed text)) : Ends (read isPattern text) := by
  unfold read
  generalize trimmed text = shown at agrees
  simp only
  split
  · exact ends_refused
  · exact ends_readSpan agrees _ rfl
  · next c rest _ =>
    split
    · exact ends_refused
    · have divided :=
        List.takeWhile_append_dropWhile (p := fun c => c ≠ '=' && c ≠ '[') (l := c :: rest)
      generalize (c :: rest).takeWhile (fun c => c ≠ '=' && c ≠ '[') = name at divided ⊢
      split
      · split <;> exact ends_ok _
      · next stop behind found =>
        rw [found] at divided
        refine (ends_part agrees ⟨c :: rest, rfl⟩ ⟨stop :: behind, divided.symm⟩).bind
          fun target => ?_
        have whole : c :: rest = (name ++ [stop]) ++ behind := by simp [← divided]
        split
        · exact ends_withLevel agrees _ ⟨behind, whole⟩
        · exact ends_readSpan agrees _ whole

theorem agrees_of_narrow (narrow : ∀ c ∈ text, c.utf8Size = 1) (shown : List Char) :
    Agrees text shown := fun _ _ _ => Text.isPlace_of_narrow narrow _

/-- Without white space in front, what is shown of a text stands at its own places. -/
theorem agrees_of_head (solid : ∀ c ∈ text.head?, Text.isBlank c = false) :
    Agrees text (trimmed text) := by
  have front : text.dropWhile Text.isBlank = text := by
    cases text with
    | nil => rfl
    | cons c cs => simp [solid c rfl]
  obtain ⟨behind, whole⟩ : trimmed text <+: text := by
    rw [trimmed, front]
    exact List.rdropWhile_prefix Text.isBlank text
  intro before rest cut
  have divided : text = before ++ (rest ++ behind) := by
    rw [← List.append_assoc, ← cut, whole]
  rw [divided]
  exact Text.isPlace_append before _

/-- A text that cannot be read or refused has white space in front, and a character of several
bytes. -/
theorem exists_of_slip {slip : Text.Slip} (slipped : read isPattern text = .error (.slipped slip)) :
    (∃ c ∈ text.head?, Text.isBlank c = true) ∧ ∃ c ∈ text, c.utf8Size ≠ 1 := by
  constructor
  · by_contra none
    refine ends_read (agrees_of_head fun c head => ?_) slip slipped
    exact Bool.eq_false_iff.2 fun blank => none ⟨c, head, blank⟩
  · by_contra none
    refine ends_read (agrees_of_narrow (fun c mem => ?_) _) slip slipped
    exact Decidable.byContradiction fun wide => none ⟨c, mem, wide⟩

end Directive

namespace Filter

theorem ofSetting_eq_error_iff {setting : Option String} {slip : Text.Slip} :
    ofSetting isPattern setting = .error slip ↔
      ∃ s, setting = some s ∧ ofText isPattern s = .error (.slipped slip) := by
  cases setting with
  | none => simp [ofSetting]
  | some s =>
    cases read : ofText isPattern s with
    | ok f => simp [ofSetting, read]
    | error e => cases e <;> simp [ofSetting, read]

/-- A setting that cannot be read counts as none. -/
theorem eq_default_of_refused {setting : Option String} {f : Filter}
    (set : ofSetting isPattern setting = .ok f)
    (refused : ∀ s ∈ setting, ∀ f, ofText isPattern s ≠ .ok f) : f = default := by
  cases setting with
  | none => exact (Except.ok.inj set).symm
  | some s =>
    cases read : ofText isPattern s with
    | ok f => exact absurd read (refused s rfl f)
    | error e => cases e <;> simp_all [ofSetting]

/-- A setting that cannot be set up has a directive with white space in front of it and a character
of several bytes. -/
theorem exists_of_slip {setting : Option String} {slip : Text.Slip}
    (slipped : ofSetting isPattern setting = .error slip) :
    ∃ s, setting = some s ∧ ∃ d ∈ s.toList.splitOn ',',
      (∃ c ∈ d.head?, Text.isBlank c = true) ∧ ∃ c ∈ d, c.utf8Size ≠ 1 := by
  obtain ⟨s, set, slipped⟩ := ofSetting_eq_error_iff.1 slipped
  refine ⟨s, set, ?_⟩
  by_contra none
  have ends : Directive.Ends
      (((s.toList.splitOn ',').filter fun d => !d.isEmpty).mapM (Directive.read isPattern)) :=
    Directive.ends_mapM fun d mem slip' slipped' =>
      none ⟨d, List.mem_of_mem_filter mem, Directive.exists_of_slip slipped'⟩
  unfold ofText at slipped
  generalize ((s.toList.splitOn ',').filter fun d => !d.isEmpty).mapM (Directive.read isPattern) = x
    at ends slipped
  cases x with
  | ok ds => cases slipped
  | error e => exact ends slip (congrArg Except.error (Except.error.inj slipped))

end Filter

end CannedReply.Log
