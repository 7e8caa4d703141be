import CannedReply.Http.Head

/-!
Scanners and more bytes: what a scanner has found or found fault with stays when more bytes arrive
behind, and a run of bytes of a class is settled by the first byte of another class.
-/

namespace CannedReply.Http.Scanner

variable {ε α β : Type} {p : Scanner ε α} {f : α → Scanner ε β} {s rest : Bytes}

theorem bind_apply (p : Scanner ε α) (f : α → Scanner ε β) (s : Bytes) :
    (p >>= f) s = match p s with
      | .done x mid => f x mid
      | .more => .more
      | .fault e => .fault e := rfl

theorem bind_eq_done_iff {y : β} :
    (p >>= f) s = .done y rest ↔ ∃ x mid, p s = .done x mid ∧ f x mid = .done y rest := by
  rw [bind_apply]
  cases p s with
  | done x mid =>
    refine ⟨fun h => ⟨x, mid, rfl, h⟩, ?_⟩
    rintro ⟨x', mid', h, h'⟩
    cases h
    exact h'
  | more | fault => simp

theorem bind_eq_fault_iff {e : ε} :
    (p >>= f) s = .fault e ↔ p s = .fault e ∨ ∃ x mid, p s = .done x mid ∧ f x mid = .fault e := by
  rw [bind_apply]
  cases p s with
  | done x mid =>
    refine ⟨fun h => .inr ⟨x, mid, rfl, h⟩, ?_⟩
    rintro (h | ⟨x', mid', h, h'⟩)
    · cases h
    · cases h
      exact h'
  | more | fault => simp

theorem bind_of_done {x : α} {mid : Bytes} (h : p s = .done x mid) : (p >>= f) s = f x mid := by
  rw [bind_apply, h]

theorem run_append {q : UInt8 → Bool} {xs : Bytes} (all : ∀ x ∈ xs, q x = true) {b : UInt8}
    (other : q b = false) (tail : Bytes) :
    (run q : Scanner ε Bytes) (xs ++ b :: tail) = .done xs (b :: tail) := by
  simp only [run, List.takeWhile_append_of_pos all, List.dropWhile_append_of_pos all,
    List.takeWhile_cons, List.dropWhile_cons, other, Bool.false_eq_true, if_false, List.append_nil]

theorem run_eq_done {q : UInt8 → Bool} {xs : Bytes}
    (h : (run q : Scanner ε Bytes) s = .done xs rest) :
    s = xs ++ rest ∧ (∀ x ∈ xs, q x = true) ∧ ∃ b tail, rest = b :: tail ∧ q b = false := by
  have split := List.takeWhile_append_dropWhile (p := q) (l := s)
  have other := List.head?_dropWhile_not q s
  simp only [run] at h
  cases hd : s.dropWhile q with
  | nil => simp [hd] at h
  | cons b tail =>
    simp only [hd, Scan.done.injEq] at h
    obtain ⟨rfl, rfl⟩ := h
    rw [hd] at split
    refine ⟨split.symm, List.all_eq_true.1 List.all_takeWhile, b, tail, rfl, ?_⟩
    simpa [hd] using other

theorem skipBlankLines_of_cr {b : UInt8} (other : b ≠ lf) (tail : Bytes) :
    skipBlankLines (cr :: b :: tail) = .fault .field := by
  refine skipBlankLines.eq_4 _ ?_ nofun
  rintro rest h
  exact other (List.cons_eq_cons.1 h).1

/-- What starts with no line end has another byte in front, unless there is nothing. -/
theorem exists_other {s : Bytes} (some' : s ≠ []) (notCr : ∀ tail, s ≠ cr :: tail)
    (notLf : ∀ tail, s ≠ lf :: tail) : ∃ b tail, s = b :: tail ∧ b ≠ cr ∧ b ≠ lf := by
  obtain ⟨b, tail, rfl⟩ := List.exists_cons_of_ne_nil some'
  refine ⟨b, tail, rfl, ?_, ?_⟩
  · rintro rfl
    exact notCr tail rfl
  · rintro rfl
    exact notLf tail rfl

theorem skipBlankLines_of_other {b : UInt8} (hc : b ≠ cr) (hl : b ≠ lf) (tail : Bytes) :
    skipBlankLines (b :: tail) = .done () (b :: tail) := by
  unfold skipBlankLines
  split <;> simp_all [cr, lf]

theorem field?_cons (b : UInt8) (tail : Bytes) :
    field? (b :: tail) =
      (if b = cr || b = lf then lineEnd .field >>= fun _ => pure none
        else some <$> field : Scanner Fault (Option Field)) (b :: tail) := by
  rw [field?]
  split <;> rfl

/-- What a scanner makes of bytes stays when more bytes arrive, unless it needs them. -/
structure Stable (p : Scanner ε α) : Prop where
  done : ∀ {s x rest}, p s = .done x rest → ∀ more, p (s ++ more) = .done x (rest ++ more)
  fault : ∀ {s e}, p s = .fault e → ∀ more, p (s ++ more) = .fault e

namespace Stable

theorem pure (x : α) : Stable (Pure.pure x : Scanner ε α) where
  done h more := by
    cases h
    rfl
  fault h := nomatch h

theorem refuse (e : ε) : Stable (Scanner.refuse e : Scanner ε α) where
  done h := nomatch h
  fault h _ := h

theorem bind (hp : Stable p) (hf : ∀ x, Stable (f x)) : Stable (p >>= f) where
  done h more := by
    obtain ⟨x, mid, first, second⟩ := bind_eq_done_iff.1 h
    rw [bind_of_done (hp.done first more)]
    exact (hf x).done second more
  fault h more := by
    rcases bind_eq_fault_iff.1 h with first | ⟨x, mid, first, second⟩
    · exact bind_eq_fault_iff.2 (.inl (hp.fault first more))
    · rw [bind_of_done (hp.done first more)]
      exact (hf x).fault second more

theorem map (g : α → β) (hp : Stable p) : Stable (g <$> p) :=
  bind hp fun x => pure (g x)

theorem run (q : UInt8 → Bool) : Stable (Scanner.run q : Scanner ε Bytes) where
  done h more := by
    obtain ⟨rfl, all, b, tail, rfl, other⟩ := run_eq_done h
    rw [List.append_assoc]
    exact run_append all other _
  fault {s e} h := by
    unfold Scanner.run at h
    cases hd : s.dropWhile q <;> simp [hd] at h

theorem byte (q : UInt8 → Bool) (e : ε) : Stable (Scanner.byte q e) where
  done {s x rest} h more := by
    cases s with
    | nil => cases h
    | cons b tail =>
      simp only [Scanner.byte] at h
      cases hb : q b <;> simp [hb] at h
      obtain ⟨rfl, rfl⟩ := h
      simp [Scanner.byte, hb]
  fault {s e'} h more := by
    cases s with
    | nil => cases h
    | cons b tail =>
      simp only [Scanner.byte] at h
      cases hb : q b <;> simp [hb] at h
      simp [Scanner.byte, hb, h]

theorem token (e : ε) (word : Bytes) : Stable (Scanner.token e word) := by
  induction word with
  | nil => exact pure ()
  | cons b word ih => exact bind (byte _ e) fun _ => ih

theorem lineEnd (e : ε) : Stable (Scanner.lineEnd e) := by
  refine bind (byte _ e) ?_
  intro b
  split
  · exact token e _
  · exact pure ()

/-- A scanner that goes on as the first byte tells it is stable where each way is. -/
theorem of_first {q : UInt8 → Scanner ε α} (none' : p [] = .more)
    (first : ∀ b tail, p (b :: tail) = q b (b :: tail)) (hq : ∀ b, Stable (q b)) : Stable p where
  done {s x rest} h more := by
    cases s with
    | nil => simp [none'] at h
    | cons b tail =>
      rw [first] at h
      rw [List.cons_append, first]
      exact (hq b).done h more
  fault {s e} h more := by
    cases s with
    | nil => simp [none'] at h
    | cons b tail =>
      rw [first] at h
      rw [List.cons_append, first]
      exact (hq b).fault h more

theorem skipBlankLines : Stable Scanner.skipBlankLines where
  done {s x rest} h more := by
    fun_induction Scanner.skipBlankLines s with
    | case1 | case3 | case4 => cases h
    | case2 tail ih | case5 tail ih => exact ih h
    | case6 s some' _ _ notCr notLf =>
      obtain ⟨-, rfl⟩ : () = x ∧ s = rest := by simpa using h
      obtain ⟨b, tail, rfl, hc, hl⟩ := exists_other some' notCr notLf
      exact skipBlankLines_of_other hc hl _
  fault {s e} h more := by
    fun_induction Scanner.skipBlankLines s with
    | case1 | case3 | case6 => cases h
    | case2 tail ih | case5 tail ih => exact ih h
    | case4 tail notLf some' =>
      cases h
      obtain ⟨b, tail, rfl⟩ := List.exists_cons_of_ne_nil some'
      have hl : b ≠ lf := by
        rintro rfl
        exact notLf tail rfl
      exact skipBlankLines_of_cr hl _

theorem method : Stable Scanner.method :=
  bind (run _) fun _ => bind (byte _ _) fun _ => pure _

theorem target : Stable Scanner.target :=
  bind (run _) fun _ => bind (byte _ _) fun _ => pure _

theorem version : Stable Scanner.version :=
  bind (token _ _) fun _ => bind (byte _ _) fun _ => pure _

theorem field : Stable Scanner.field :=
  bind (run _) fun _ => bind (byte _ _) fun _ => bind (run _) fun _ => bind (lineEnd _) fun _ =>
    pure _

theorem field? : Stable Scanner.field? := by
  refine of_first rfl field?_cons ?_
  intro b
  split
  · exact bind (lineEnd _) fun _ => pure none
  · exact map some field

theorem fields (room : Nat) : Stable (Scanner.fields room) := by
  induction room with
  | zero =>
    refine bind field? ?_
    intro f
    cases f with
    | none => exact pure []
    | some f => exact refuse _
  | succ room ih =>
    refine bind field? ?_
    intro f
    cases f with
    | none => exact pure []
    | some f => exact bind ih fun fs => pure (f :: fs)

theorem head : Stable Scanner.head :=
  bind skipBlankLines fun _ => bind method fun _ => bind target fun _ => bind version fun _ =>
    bind (lineEnd _) fun _ => bind (fields _) fun _ => pure _

end Stable

end CannedReply.Http.Scanner
