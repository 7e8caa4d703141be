import CannedReply.Proofs.Text.Reader
import CannedReply.Proofs.Toml.Literals

/-!
Names without quotes are read back, alone or behind the name of a table and a dot, and so are the
values that are assigned to them.
-/

namespace CannedReply.Toml

open CannedReply.Reader

namespace Reader

variable {c x : Char} {s t u w rest : List Char} {name : BareName}

theorem spaces_append (white : ∀ c ∈ w, isSpace c = true)
    (ink : ∀ c ∈ rest.head?, isSpace c = false) : spaces (w ++ rest) = some ((), rest) :=
  discard_of (run_append white ink)

theorem spaces_of_head (ink : ∀ c ∈ s.head?, isSpace c = false) : spaces s = some ((), s) :=
  spaces_append (w := []) nofun ink

theorem spaces_cons (ink : ∀ c ∈ rest.head?, isSpace c = false) :
    spaces (' ' :: rest) = some ((), rest) :=
  spaces_append (w := [' ']) (List.forall_mem_singleton.2 rfl) ink

theorem head_bare (name : BareName) (rest : List Char) :
    ∃ c, (name.text.toList ++ rest).head? = some c ∧ isBare c = true := by
  obtain ⟨any, all⟩ := name.bare
  cases chars : name.text.toList with
  | nil => exact absurd chars any
  | cons c cs => exact ⟨c, rfl, List.all_eq_true.1 all c (chars ▸ List.mem_cons_self)⟩

theorem head_entry (name : BareName) (v rest : List Char) :
    ∃ c, (entry name v ++ rest).head? = some c ∧ isBare c = true := by
  rw [entry, List.append_assoc]
  exact head_bare _ _

/-- Other characters do not start a bare name. -/
theorem bare_head_ne (other : isBare x = false) :
    ∀ c ∈ (name.text.toList ++ rest).head?, c ≠ x := by
  obtain ⟨c, head, bare⟩ := head_bare name rest
  rintro c' same rfl
  cases head.symm.trans same
  rw [other] at bare
  cases bare

theorem keyPart_bare (stop : ∀ c ∈ rest.head?, isBare c = false) :
    keyPart (name.text.toList ++ rest) = some (name.text, rest) := by
  have parts := run_append (List.all_eq_true.1 name.bare.2) stop
  simp only [run, Option.some.injEq, Prod.mk.injEq] at parts
  unfold keyPart
  split
  · next same => exact absurd rfl (bare_head_ne (by decide) _ (congrArg List.head? same))
  · next same => exact absurd rfl (bare_head_ne (by decide) _ (congrArg List.head? same))
  · rw [parts.1, parts.2, if_neg (by simpa using name.bare.1), String.ofList_toList]

theorem isBare_of_isSpace (white : isSpace c = true) : isBare c = false := by
  rw [isSpace, Bool.or_eq_true, decide_eq_true_eq, decide_eq_true_eq] at white
  rcases white with rfl | rfl <;> decide

/-- A name with spaces around it. -/
theorem paddedPart_bare (name : BareName) (pre post rest : List Char)
    (before : ∀ c ∈ pre, isSpace c = true) (behind : ∀ c ∈ post, isSpace c = true)
    (stop : ∀ c ∈ rest.head?, isSpace c = false ∧ isBare c = false) :
    ∃ k, paddedPart (pre ++ (name.text.toList ++ (post ++ rest))) = some (k, rest) ∧
      k.name = name.text := by
  have inked : ∀ c ∈ (name.text.toList ++ (post ++ rest)).head?, isSpace c = false := by
    intro c hc
    refine Bool.eq_false_iff.2 fun white => ?_
    exact bare_head_ne (isBare_of_isSpace white) c hc rfl
  have stops : ∀ c ∈ (post ++ rest).head?, isBare c = false := by
    cases post with
    | nil => exact fun c hc => (stop c hc).2
    | cons c post =>
      rintro c' same
      cases same
      exact isBare_of_isSpace (behind c List.mem_cons_self)
  unfold paddedPart
  rw [bind_of (spaces_append before inked), bind_of (located_of (keyPart_bare stops))]
  dsimp only
  rw [bind_of (spaces_append behind fun c hc => (stop c hc).1)]
  exact ⟨_, rfl, rfl⟩

theorem key_of_paddedPart {k : Key} (read : paddedPart s = some (k, t))
    (last : ∀ c ∈ t.head?, c ≠ '.') : key s = some (([], k), t) := by
  have more : Runs (do token ['.']; paddedPart) t [] t :=
    .stop (bind_of_none (token_of_head_ne last))
  unfold key
  rw [bind_of read, bind_of more.many]
  rfl

theorem key_of_paddedParts {parent k : Key} (first : paddedPart s = some (parent, '.' :: t))
    (read : paddedPart t = some (k, u)) (shorter : u.length ≤ t.length)
    (last : ∀ c ∈ u.head?, c ≠ '.') : key s = some (([parent], k), u) := by
  have more : Runs (do token ['.']; paddedPart) ('.' :: t) [k] u :=
    .step ((bind_of (token_cons '.' t)).trans read) (Nat.lt_succ_of_le shorter)
      (.stop (bind_of_none (token_of_head_ne last)))
  unfold key
  rw [bind_of first, bind_of more.many]
  rfl

variable {element : CannedReply.Reader Node} {n : Node}

/-- Behind a key and an equals sign comes the value. -/
theorem assignment_key {path : List Key} {k : Key}
    (left : key s = some ((path, k), '=' :: ' ' :: t))
    (ink : ∀ c ∈ t.head?, isSpace c = false) :
    assignment element s = (do return ⟨path, k, ← element⟩ : CannedReply.Reader Assignment) t := by
  unfold assignment
  rw [bind_of left]
  dsimp only
  rw [bind_of (token_cons '=' _), bind_of (spaces_cons ink)]

theorem assignment_of {path : List Key} {k : Key} (left : key s = some ((path, k), '=' :: ' ' :: t))
    (ink : ∀ c ∈ t.head?, isSpace c = false) (right : element t = some (n, rest)) :
    assignment element s = some (⟨path, k, n⟩, rest) := by
  rw [assignment_key left ink, bind_of right]
  rfl

theorem key_entry (name : BareName) (pre v rest : List Char)
    (before : ∀ c ∈ pre, isSpace c = true) :
    ∃ k, key (pre ++ (entry name v ++ rest)) = some (([], k), '=' :: ' ' :: (v ++ rest)) ∧
      k.name = name.text := by
  obtain ⟨k, left, named⟩ := paddedPart_bare name pre [' '] ('=' :: ' ' :: (v ++ rest))
    before (List.forall_mem_singleton.2 rfl) (by simp [isSpace, isBare])
  have shape : entry name v ++ rest = name.text.toList ++ ([' '] ++ '=' :: ' ' :: (v ++ rest)) := by
    simp [entry]
  rw [shape]
  exact ⟨k, key_of_paddedPart left (by simp), named⟩

theorem assignment_entry (name : BareName) (pre : List Char) {v : List Char}
    (before : ∀ c ∈ pre, isSpace c = true)
    (ink : ∀ c ∈ (v ++ rest).head?, isSpace c = false)
    (right : element (v ++ rest) = some (n, rest)) :
    ∃ k, assignment element (pre ++ (entry name v ++ rest)) = some (⟨[], k, n⟩, rest) ∧
      k.name = name.text := by
  obtain ⟨k, left, named⟩ := key_entry name pre v rest before
  exact ⟨k, assignment_of left ink right, named⟩

/-- An assignment within the table of another name. -/
theorem assignment_within (parent name : BareName) {v : List Char}
    (ink : ∀ c ∈ (v ++ rest).head?, isSpace c = false)
    (right : element (v ++ rest) = some (n, rest)) :
    ∃ p k, assignment element (parent.text.toList ++ '.' :: (entry name v ++ rest))
        = some (⟨[p], k, n⟩, rest) ∧ p.name = parent.text ∧ k.name = name.text := by
  obtain ⟨p, first, same⟩ := paddedPart_bare parent [] [] ('.' :: (entry name v ++ rest))
    nofun nofun (by simp [isSpace, isBare])
  obtain ⟨k, left, named⟩ := paddedPart_bare name [] [' '] ('=' :: ' ' :: (v ++ rest))
    nofun (List.forall_mem_singleton.2 rfl) (by simp [isSpace, isBare])
  refine ⟨p, k, ?_, same, named⟩
  have shape : entry name v ++ rest = name.text.toList ++ ([' '] ++ '=' :: ' ' :: (v ++ rest)) := by
    simp [entry]
  rw [shape] at first ⊢
  exact assignment_of (key_of_paddedParts first left (by simp; omega) (by simp)) ink right

end Reader

end CannedReply.Toml
