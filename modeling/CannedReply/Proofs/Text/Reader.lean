import CannedReply.Text.Reader

/-!
What readers give: a property of all that a reader can give, put together as the reader is, and the
value that it gives for a text of which the parts are known.
-/

namespace CannedReply.Reader

variable {α β : Type} {r r' : Reader α} {f : α → Reader β} {P : α → Prop} {Q : β → Prop}

/-- Whether all that a reader gives has a property. -/
def Yields (r : Reader α) (P : α → Prop) : Prop :=
  ∀ s a t, r s = some (a, t) → P a

namespace Yields

theorem trivial (r : Reader α) : Yields r fun _ => True :=
  fun _ _ _ _ => True.intro

theorem pure {a : α} (h : P a) : Yields (Pure.pure a) P := by
  intro s b t done
  cases done
  exact h

theorem failure : Yields (failure : Reader α) P :=
  fun _ _ _ done => nomatch done

theorem bind (hr : Yields r P) (hf : ∀ a, P a → Yields (f a) Q) : Yields (r >>= f) Q := by
  intro s b t done
  obtain ⟨⟨a, u⟩, first, second⟩ := Option.bind_eq_some_iff.1 done
  exact hf a (hr s a u first) u b t second

/-- What is read first may be anything. -/
theorem behind (hf : ∀ a, Yields (f a) Q) : Yields (r >>= f) Q :=
  bind (trivial r) fun a _ => hf a

theorem map {g : α → β} (hr : Yields r P) (hg : ∀ a, P a → Q (g a)) : Yields (g <$> r) Q :=
  bind hr fun a ha => pure (hg a ha)

theorem orElse (hr : Yields r P) (hr' : Yields r' P) : Yields (r <|> r') P := by
  intro s a t done
  change (r s <|> r' s) = some (a, t) at done
  cases h : r s with
  | some x =>
    rw [h] at done
    cases done
    exact hr s a t h
  | none =>
    rw [h] at done
    exact hr' s a t done

theorem optional (hr : Yields r P) : Yields (optional r) fun a => ∀ x ∈ a, P x := by
  refine orElse (map hr ?_) (pure nofun)
  intro a ha x hx
  rw [← Option.some.inj hx]
  exact ha

theorem upTo (hr : Yields r P) (count : Nat) (s : List Char) :
    ∀ a ∈ (Reader.upTo r count s).1, P a := by
  induction count generalizing s with
  | zero => exact nofun
  | succ count ih =>
    unfold Reader.upTo
    cases h : r s with
    | none => exact nofun
    | some x =>
      simp only [List.forall_mem_cons]
      exact ⟨hr s x.1 x.2 h, ih x.2⟩

theorem many (hr : Yields r P) : Yields (many r) fun as => ∀ a ∈ as, P a := by
  intro s as t done
  unfold Reader.many at done
  cases h : r s with
  | none =>
    simp only [h, Option.some.injEq, Prod.mk.injEq] at done
    rw [← done.1]
    exact nofun
  | some x =>
    simp only [h, Option.some.injEq, Prod.mk.injEq] at done
    rw [← done.1, List.forall_mem_cons]
    exact ⟨hr s x.1 x.2 h, upTo hr _ _⟩

end Yields

variable {s t u : List Char} {a : α} {as : List α} {b : β}

theorem bind_of (h : r s = some (a, t)) : (r >>= f) s = f a t := by
  change (r s >>= fun x => f x.1 x.2) = f a t
  rw [h]
  rfl

theorem bind_of_none (h : r s = none) : (r >>= f) s = none := by
  change (r s >>= fun x => f x.1 x.2) = none
  rw [h]
  rfl

/-- To look at the next character only decides on how to go on. -/
theorem bind_peek {g : Option Char → Reader α} (h : g s.head? = r) : (peek >>= g) s = r s := by
  rw [← h]
  rfl

theorem map_of (g : α → β) (h : r s = some (a, t)) : (g <$> r) s = some (g a, t) :=
  bind_of (f := fun a => Pure.pure (g a)) h

theorem map_of_none (g : α → β) (h : r s = none) : (g <$> r) s = none :=
  bind_of_none (f := fun a => Pure.pure (g a)) h

theorem discard_of (h : r s = some (a, t)) : (discard r) s = some ((), t) :=
  map_of (fun _ => ()) h

theorem orElse_of (h : r s = some (a, t)) : (r <|> r') s = some (a, t) := by
  change (r s <|> r' s) = some (a, t)
  rw [h]
  rfl

theorem orElse_of_none (h : r s = none) : (r <|> r') s = r' s := by
  change (r s <|> r' s) = r' s
  rw [h]
  rfl

theorem optional_of (h : r s = some (a, t)) : (optional r) s = some (some a, t) :=
  orElse_of (map_of some h)

theorem optional_of_none (h : r s = none) : (optional r) s = some (none, s) :=
  orElse_of_none (map_of_none some h)

theorem token_append (w rest : List Char) : token w (w ++ rest) = some ((), rest) := by
  simp [token]

theorem token_then (w rest : List Char) (r : Reader α) : (do token w; r) (w ++ rest) = r rest :=
  bind_of (token_append w rest)

theorem token_cons (c : Char) (rest : List Char) : token [c] (c :: rest) = some ((), rest) :=
  token_append [c] rest

theorem token_of_head_ne {x : Char} {w : List Char} (h : ∀ c ∈ s.head?, c ≠ x) :
    token (x :: w) s = none := by
  cases s with
  | nil => rfl
  | cons c s =>
    have : ¬x = c := fun same => h c rfl same.symm
    simp [token, this]

theorem token_of_other_head {x : Char} {w : List Char} (head : w.head? = some x)
    (h : ∀ c ∈ s.head?, c ≠ x) : token w s = none := by
  obtain ⟨w, rfl⟩ := List.head?_eq_some_iff.1 head
  exact token_of_head_ne h

theorem token_cons_of_none {c d : Char} {w : List Char} (h : token w s = none) :
    token (c :: w) (d :: s) = none := by
  simp only [token, List.isPrefixOf_cons_cons, ite_eq_right_iff, reduceCtorEq, imp_false] at h ⊢
  simp [h]

theorem char_of_head {p : Char → Bool} (h : ∀ c ∈ s.head?, p c = false) : char p s = none := by
  cases s with
  | nil => rfl
  | cons c s => simp [char, h c rfl]

theorem run_append {p : Char → Bool} {w rest : List Char} (all : ∀ c ∈ w, p c = true)
    (stop : ∀ c ∈ rest.head?, p c = false) : run p (w ++ rest) = some (w, rest) := by
  have none' : rest.takeWhile p = [] ∧ rest.dropWhile p = rest := by
    cases rest with
    | nil => exact ⟨rfl, rfl⟩
    | cons c rest => simp [stop c rfl]
  rw [run, List.takeWhile_append_of_pos all, List.dropWhile_append_of_pos all, none'.1, none'.2,
    List.append_nil]

/-- A reader gives values one after the other, and then no more. -/
inductive Runs (r : Reader α) : List Char → List α → List Char → Prop where
  | stop {s : List Char} (h : r s = none) : Runs r s [] s
  | step {s t u : List Char} {a : α} {as : List α} (h : r s = some (a, t))
      (shorter : t.length < s.length) (rest : Runs r t as u) : Runs r s (a :: as) u

theorem Runs.upTo (h : Runs r s as t) {count : Nat} (enough : s.length ≤ count) :
    Reader.upTo r count s = (as, t) := by
  -- each value shortens the text, so the count lasts as long as the text does
  induction h generalizing count with
  | stop h =>
    cases count with
    | zero => rfl
    | succ count => simp only [Reader.upTo, h]
  | step h shorter rest ih =>
    cases count with
    | zero => omega
    | succ count =>
      have less : Reader.upTo r count _ = (_, _) := ih (by omega)
      simp only [Reader.upTo, h, less]

theorem Runs.many (h : Runs r s as t) : Reader.many r s = some (as, t) := by
  cases h with
  | stop h => simp only [Reader.many, h]
  | step h shorter rest => simp only [Reader.many, h, rest.upTo (Nat.le_refl _)]

end CannedReply.Reader
