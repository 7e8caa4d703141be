import CannedReply.Proofs.Toml.Distinct

/-!
What tables hold after assignments to different names: all that was assigned, and nothing else.
-/

namespace CannedReply.Toml.Table

variable {ι : Type} {R : ι → Key × Node → Prop} {name : ι → String} {xs : List ι} {x : ι}
  {t : Table}

theorem names_of_forall₂ (named : ∀ x e, R x e → e.1.name = name x) (h : List.Forall₂ R xs t) :
    t.names = xs.map name := by
  induction h with
  | nil => rfl
  | cons hx _ ih => rw [names, List.map_cons, List.map_cons, named _ _ hx, ← ih, names]

theorem get?_of_not_mem (named : ∀ x e, R x e → e.1.name = name x) (h : List.Forall₂ R xs t)
    {other : String} (none' : other ∉ xs.map name) : t.get? other = none := by
  rw [get?_eq_none_iff, names_of_forall₂ named h]
  exact none'

theorem get?_of_mem (named : ∀ x e, R x e → e.1.name = name x) (h : List.Forall₂ R xs t)
    (distinct : (xs.map name).Nodup) (mem : x ∈ xs) :
    ∃ k n, t.get? (name x) = some n ∧ R x (k, n) := by
  induction h with
  | nil => cases mem
  | @cons y e ys t' hy _ ih =>
    obtain ⟨key, node⟩ := e
    rw [List.map_cons, List.nodup_cons] at distinct
    have here : key.name = name y := named _ _ hy
    rcases List.mem_cons.1 mem with rfl | mem
    · exact ⟨key, node, by rw [get?_cons, if_pos here], hy⟩
    · obtain ⟨k, n, found, hx⟩ := ih distinct.2 mem
      have other : ¬key.name = name x := fun same =>
        distinct.1 (here.symm.trans same ▸ List.mem_map_of_mem mem)
      exact ⟨k, n, by rw [get?_cons, if_neg other, found], hx⟩

/-- Values for different names that are free are added in their order. -/
theorem assignAll_of_forall₂ {lines : List Assignment} (named : ∀ x e, R x e → e.1.name = name x)
    (h : List.Forall₂ (fun x line => line.path = [] ∧ R x (line.key, line.value)) xs lines)
    (distinct : (t.names ++ xs.map name).Nodup) :
    ∃ u, t.assignAll lines = some (t ++ u) ∧ List.Forall₂ R xs u := by
  induction h generalizing t with
  | nil => exact ⟨[], by simp [assignAll], .nil⟩
  | @cons x line xs lines hx _ ih =>
    obtain ⟨path, key, node⟩ := line
    obtain ⟨plain, hx⟩ := hx
    have here : key.name = name x := named _ _ hx
    have rest : (names (t ++ [(key, node)]) ++ xs.map name).Nodup := by
      simpa [names, here] using distinct
    obtain ⟨u, done, all⟩ := ih rest
    refine ⟨(key, node) :: u, ?_, .cons hx all⟩
    have free : t.get? key.name = none := by
      rw [get?_eq_none_iff, here]
      intro taken
      exact (List.disjoint_of_nodup_append distinct) taken (by simp)
    have first : t.assign path key node = some (t ++ [(key, node)]) := by
      cases plain
      simp [assign, insert?, free]
    rw [assignAll] at done ⊢
    rw [List.foldlM_cons, first]
    simpa using done

end CannedReply.Toml.Table
