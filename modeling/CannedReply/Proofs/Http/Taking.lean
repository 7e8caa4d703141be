import CannedReply.Proofs.Http.Scanning

/-!
What scanners take. The bytes that a scanner has taken decide what it has found, whatever follows
them; and what a head takes ends with the end of a line and an empty line.
-/

namespace CannedReply.Http.Scanner

variable {ε α β : Type} {p : Scanner ε α} {f : α → Scanner ε β} {fits : α → Bytes → Prop}

/-- Whether what a scanner takes fits what it finds, and is found whatever follows. -/
def Takes (p : Scanner ε α) (fits : α → Bytes → Prop) : Prop :=
  ∀ ⦃s x rest⦄, p s = .done x rest →
    ∃ taken, s = taken ++ rest ∧ fits x taken ∧ ∀ more, p (taken ++ more) = .done x more

/-- Whether a scanner is stopped by a byte that it does not take, and finds the same whatever
follows that byte. -/
def StopsBefore (p : Scanner ε α) : Prop :=
  ∀ ⦃s x rest⦄, p s = .done x rest →
    ∃ taken b tail, rest = b :: tail ∧ s = taken ++ b :: tail ∧
      ∀ more, p (taken ++ b :: more) = .done x (b :: more)

/-- Whether bytes are the end of a line. -/
def IsLineEnd (t : Bytes) : Prop :=
  t = [cr, lf] ∨ t = [lf]

/-- Whether bytes end with a line that is empty, behind the end of another line. -/
def EndsEmpty (t : Bytes) : Prop :=
  ∃ u v, t = u ++ v ∧ [lf] <:+ u ∧ IsLineEnd v

theorem IsLineEnd.suffix {t : Bytes} (h : IsLineEnd t) : [lf] <:+ t := by
  rcases h with rfl | rfl
  · exact ⟨[cr], rfl⟩
  · exact List.suffix_rfl

theorem ne_nil_of_suffix {t : Bytes} (h : [lf] <:+ t) : t ≠ [] := by
  rintro rfl
  simp at h

theorem EndsEmpty.ne_nil {t : Bytes} (h : EndsEmpty t) : t ≠ [] := by
  obtain ⟨u, v, rfl, lines, -⟩ := h
  exact List.append_ne_nil_of_left_ne_nil (ne_nil_of_suffix lines) v

theorem EndsEmpty.prepend {t : Bytes} (h : EndsEmpty t) (front : Bytes) :
    EndsEmpty (front ++ t) := by
  obtain ⟨u, v, rfl, lines, last⟩ := h
  exact ⟨front ++ u, v, (List.append_assoc _ _ _).symm, lines.trans (List.suffix_append _ u), last⟩

/-- Behind the end of a line, an empty line makes an end. -/
theorem EndsEmpty.of_line {t t' : Bytes} (line : [lf] <:+ t) (h : IsLineEnd t' ∨ EndsEmpty t') :
    EndsEmpty (t ++ t') := by
  rcases h with last | more
  · exact ⟨t, t', rfl, line, last⟩
  · exact more.prepend t

namespace Takes

theorem pure (x : α) : Takes (Pure.pure x : Scanner ε α) fun y t => y = x ∧ t = [] := by
  intro s y rest h
  cases h
  exact ⟨[], rfl, ⟨rfl, rfl⟩, fun more => rfl⟩

theorem refuse (e : ε) : Takes (Scanner.refuse e : Scanner ε α) fits :=
  nofun

theorem bind {q : α → β → Bytes → Prop} {r : β → Bytes → Prop} (hp : Takes p fits)
    (hf : ∀ x, Takes (f x) (q x)) (join : ∀ x y t t', fits x t → q x y t' → r y (t ++ t')) :
    Takes (p >>= f) r := by
  intro s y rest h
  obtain ⟨x, mid, first, second⟩ := bind_eq_done_iff.1 h
  obtain ⟨t, rfl, ht, same⟩ := hp first
  obtain ⟨t', rfl, ht', same'⟩ := hf x second
  refine ⟨t ++ t', (List.append_assoc _ _ _).symm, join x y t t' ht ht', ?_⟩
  intro more
  rw [List.append_assoc, bind_of_done (same _)]
  exact same' more

theorem map {r : β → Bytes → Prop} (hp : Takes p fits) (g : α → β)
    (keep : ∀ x t, fits x t → r (g x) t) : Takes (p >>= fun x => Pure.pure (g x)) r := by
  refine bind hp (fun x => pure (g x)) ?_
  rintro x y t t' ht ⟨rfl, rfl⟩
  rw [List.append_nil]
  exact keep x t ht

theorem byte (q : UInt8 → Bool) (e : ε) :
    Takes (Scanner.byte q e) fun b t => t = [b] ∧ q b = true := by
  intro s b rest h
  cases s with
  | nil => cases h
  | cons c tail =>
    simp only [Scanner.byte] at h
    split at h
    · next holds =>
      cases h
      exact ⟨[b], rfl, ⟨rfl, holds⟩, fun more => by simp [Scanner.byte, holds]⟩
    · cases h

theorem token (e : ε) (word : Bytes) : Takes (Scanner.token e word) fun _ t => t = word := by
  induction word with
  | nil => exact map (p := Pure.pure ()) (pure ()) id fun _ _ h => h.2
  | cons b word ih =>
    refine bind (byte _ e) (fun _ => ih) ?_
    rintro c _ t t' ⟨rfl, same⟩ rfl
    rw [of_decide_eq_true same]
    rfl

theorem lineEnd (e : ε) : Takes (Scanner.lineEnd e) fun _ => IsLineEnd := by
  refine bind (byte _ e) (q := fun b _ t => t = if b = cr then [lf] else []) ?_ ?_
  · intro b
    split
    · exact token e _
    · exact map (p := Pure.pure ()) (pure ()) id fun _ _ h => h.2
  · rintro b _ t t' ⟨rfl, first⟩ rfl
    simp only [Bool.or_eq_true, decide_eq_true_eq] at first
    rcases first with rfl | rfl
    · exact .inl rfl
    · exact .inr rfl

end Takes

namespace StopsBefore

/-- What follows a scanner that is stopped has to take the byte that stopped it. -/
theorem bind {fits' : β → Bytes → Prop} (hp : StopsBefore p) (hf : ∀ x, Takes (f x) fits')
    (some' : ∀ y t, fits' y t → t ≠ []) (keep : ∀ y t t', fits' y t' → fits' y (t ++ t')) :
    Takes (p >>= f) fits' := by
  intro s y rest h
  obtain ⟨x, mid, first, second⟩ := bind_eq_done_iff.1 h
  obtain ⟨t, b, tail, rfl, rfl, same⟩ := hp first
  obtain ⟨t', split, ht', same'⟩ := hf x second
  obtain ⟨c, t', rfl⟩ := List.exists_cons_of_ne_nil (some' y t' ht')
  obtain ⟨rfl, rfl⟩ := List.cons_eq_cons.1 split
  refine ⟨t ++ b :: t', by simp, keep y t _ ht', ?_⟩
  intro more
  rw [List.append_assoc, List.cons_append, bind_of_done (same _)]
  exact same' more

theorem run (q : UInt8 → Bool) : StopsBefore (Scanner.run q : Scanner ε Bytes) := by
  intro s xs rest h
  obtain ⟨rfl, all, b, tail, rfl, other⟩ := run_eq_done h
  exact ⟨xs, b, tail, rfl, rfl, run_append all other⟩

theorem skipBlankLines : StopsBefore Scanner.skipBlankLines := by
  intro s x rest h
  fun_induction Scanner.skipBlankLines s with
  | case1 | case3 | case4 => cases h
  | case2 tail ih =>
    obtain ⟨t, b, tail, rfl, rfl, same⟩ := ih h
    exact ⟨cr :: lf :: t, b, tail, rfl, rfl, same⟩
  | case5 tail ih =>
    obtain ⟨t, b, tail, rfl, rfl, same⟩ := ih h
    exact ⟨lf :: t, b, tail, rfl, rfl, fun more => same more⟩
  | case6 s some' _ _ notCr notLf =>
    obtain ⟨-, rfl⟩ : () = x ∧ s = rest := by simpa using h
    obtain ⟨b, tail, rfl, hc, hl⟩ := exists_other some' notCr notLf
    exact ⟨[], b, tail, rfl, rfl, fun more => skipBlankLines_of_other hc hl more⟩

end StopsBefore

namespace Takes

/-- A word with a byte behind it that is no part of the word. -/
theorem word (q : UInt8 → Bool) (closes : Bytes → UInt8 → Bool) (e : ε) :
    Takes (Scanner.run q >>= fun w => Scanner.byte (closes w) e >>= fun _ => Pure.pure w)
      fun _ t => t ≠ [] := by
  refine StopsBefore.bind (StopsBefore.run q) (fun w => map (byte _ e) (fun _ => w) ?_)
    (fun _ _ => id) ?_
  · rintro b t ⟨rfl, -⟩
    exact List.cons_ne_nil _ _
  · intro _ t t' some'
    exact List.append_ne_nil_of_right_ne_nil t some'

theorem method : Takes Scanner.method fun _ t => t ≠ [] :=
  word _ _ _

theorem target : Takes Scanner.target fun _ t => t ≠ [] :=
  word _ _ _

theorem version : Takes Scanner.version fun _ _ => True :=
  bind (token _ _) (fun _ => map (r := fun _ _ => True) (byte _ _) _ fun _ _ _ => trivial)
    fun _ _ _ _ _ _ => trivial

/-- A field takes its line to the end. -/
theorem field : Takes Scanner.field fun _ t => [lf] <:+ t := by
  have keep : ∀ t t' : Bytes, [lf] <:+ t' → [lf] <:+ t ++ t' :=
    fun t t' ends => ends.trans (List.suffix_append t t')
  refine StopsBefore.bind (StopsBefore.run _) ?_ (fun _ _ => ne_nil_of_suffix) (fun _ => keep)
  intro name
  refine bind (byte _ _) (q := fun _ _ t => [lf] <:+ t) ?_ (fun _ _ t t' _ => keep t t')
  intro _
  refine StopsBefore.bind (StopsBefore.run _) ?_ (fun _ _ => ne_nil_of_suffix) (fun _ => keep)
  intro value
  exact map (lineEnd _) _ fun _ _ => IsLineEnd.suffix

theorem field? : Takes Scanner.field? fun f t => [lf] <:+ t ∧ (f = none → IsLineEnd t) := by
  have each : ∀ b : UInt8, Takes (if b = cr || b = lf
        then Scanner.lineEnd .field >>= fun _ => Pure.pure none
        else some <$> Scanner.field : Scanner Fault (Option Field))
      fun f t => [lf] <:+ t ∧ (f = none → IsLineEnd t) := by
    intro b
    split
    · exact map (lineEnd _) (fun _ => none) fun _ _ ends => ⟨ends.suffix, fun _ => ends⟩
    · exact map field some fun _ _ ends => ⟨ends, nofun⟩
  intro s x rest h
  cases s with
  | nil => cases h
  | cons b tail =>
    rw [field?_cons] at h
    obtain ⟨t, split, fits, same⟩ := each b h
    obtain ⟨c, t, rfl⟩ := List.exists_cons_of_ne_nil (ne_nil_of_suffix fits.1)
    obtain ⟨rfl, rfl⟩ := List.cons_eq_cons.1 split
    refine ⟨b :: t, rfl, fits, ?_⟩
    intro more
    rw [List.cons_append, field?_cons]
    exact same more

/-- What fields take is an empty line, or ends with one. -/
theorem fields (room : Nat) :
    Takes (Scanner.fields room) fun _ t => IsLineEnd t ∨ EndsEmpty t := by
  induction room with
  | zero =>
    refine bind field? (q := fun f _ t => f = none ∧ t = []) ?_ ?_
    · intro f
      cases f with
      | none => exact map (p := Pure.pure []) (pure []) id fun _ _ h => ⟨rfl, h.2⟩
      | some f => exact refuse _
    · rintro f _ t t' ⟨-, ends⟩ ⟨rfl, rfl⟩
      rw [List.append_nil]
      exact .inl (ends rfl)
  | succ room ih =>
    refine bind field?
      (q := fun f _ t => f = none ∧ t = [] ∨ IsLineEnd t ∨ EndsEmpty t) ?_ ?_
    · intro f
      cases f with
      | none => exact map (p := Pure.pure []) (pure []) id fun _ _ h => .inl ⟨rfl, h.2⟩
      | some f => exact map ih _ fun _ _ h => .inr h
    · rintro f _ t t' ⟨line, ends⟩ (⟨rfl, rfl⟩ | more)
      · rw [List.append_nil]
        exact .inl (ends rfl)
      · exact .inr (.of_line line more)

/-- What a head takes ends with an empty line. -/
theorem head : Takes Scanner.head fun _ => EndsEmpty := by
  have keep : ∀ t t' : Bytes, EndsEmpty t' → EndsEmpty (t ++ t') := fun t t' ends => ends.prepend t
  refine StopsBefore.bind StopsBefore.skipBlankLines (fun _ => ?_) (fun _ _ => EndsEmpty.ne_nil)
    (fun _ => keep)
  refine bind method (fun m => ?_) (fun _ _ t t' _ => keep t t')
  refine bind target (fun t => ?_) (fun _ _ t t' _ => keep t t')
  refine bind version (fun v => ?_) (fun _ _ t t' _ => keep t t')
  have rest := fun fs => map (r := fun (_ : Head) t => IsLineEnd t ∨ EndsEmpty t)
    (fields maxFields) (fun fs => ⟨m, t, v, fs⟩) fs
  exact bind (lineEnd _) (fun _ => rest fun _ _ => id) fun _ _ _ _ first => .of_line first.suffix

end Takes

end CannedReply.Http.Scanner
