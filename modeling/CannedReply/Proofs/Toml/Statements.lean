import CannedReply.Proofs.Toml.Written

/-!
Documents of written lines: values for different names, and below them one table with a header.
-/

namespace CannedReply.Toml

/-- The name that a line gives a value or a table to. -/
def Line.label : Line → String
  | assign _ name _ => name.text
  | header name => name.text

/-- Whether an entry of a table is what a line without a table of its own assigns. -/
def Line.Entry : Line → Key × Node → Prop
  | assign _ name value, x => x.1.name = name.text ∧ value.Stands x.2
  | header _, _ => False

/-- Whether a line gives a value to a name by itself. -/
def Line.Plain (l : Line) : Prop :=
  ∃ name value, l = .assign none name value

theorem Line.Plain.assigns {l : Line} (h : l.Plain) :
    ∃ parent name value, l = .assign parent name value := by
  obtain ⟨name, value, rfl⟩ := h
  exact ⟨none, name, value, rfl⟩

theorem Line.Entry.name {l : Line} {x : Key × Node} (h : l.Entry x) : x.1.name = l.label := by
  cases l with
  | assign parent name value => exact h.1
  | header name => cases h

/-- Statements that are read from assignments are assignments. -/
theorem assigns_of_forall₂ {lines : List Line} {statements : List Statement}
    (stand : List.Forall₂ Line.Stands lines statements)
    (plain : ∀ l ∈ lines, ∃ parent name value, l = .assign parent name value) :
    ∃ read, statements = read.map .assign ∧
      List.Forall₂ (fun l a => l.Stands (.assign a)) lines read := by
  induction stand with
  | nil => exact ⟨[], rfl, .nil⟩
  | @cons l st lines statements hl _ ih =>
    rw [List.forall_mem_cons] at plain
    obtain ⟨parent, name, value, rfl⟩ := plain.1
    obtain ⟨read, rfl, all⟩ := ih plain.2
    cases st with
    | assign a => exact ⟨a :: read, rfl, .cons hl all⟩
    | header repeated path key span => cases hl

theorem Section.split_assigns (read : List Assignment) (statements : List Statement) :
    split (read.map .assign ++ statements) =
      (read ++ (split statements).1, (split statements).2) := by
  induction read with
  | nil => rfl
  | cons a read ih => rw [List.map_cons, List.cons_append, split, ih]; rfl

theorem Table.ofStatements?_assigns (read : List Assignment) :
    Table.ofStatements? (read.map .assign) = Table.assignAll [] read := by
  have split := Section.split_assigns read []
  rw [List.append_nil] at split
  simp only [Table.ofStatements?, split, Section.split, List.append_nil, List.foldlM_nil]
  exact bind_pure _

/-- Values for different names are held, each under its name. -/
theorem Table.assignAll_plain {lines : List Line} {read : List Assignment}
    (plain : ∀ l ∈ lines, l.Plain) (distinct : (lines.map Line.label).Nodup)
    (stand : List.Forall₂ (fun l a => l.Stands (.assign a)) lines read) :
    ∃ t, assignAll [] read = some t ∧ List.Forall₂ Line.Entry lines t := by
  refine assignAll_of_forall₂ (t := []) (fun _ _ h => h.name) ?_ distinct
  refine ((List.forall₂_and_left _ _).2 ⟨plain, stand⟩).imp ?_
  rintro l a ⟨⟨name, value, rfl⟩, within, named, stands⟩
  exact ⟨List.map_eq_nil_iff.1 within, named, stands⟩

/-- Lines that give values to different names make a document of just these. -/
theorem Table.ofStatements?_plain {lines : List Line} {statements : List Statement}
    (plain : ∀ l ∈ lines, l.Plain) (distinct : (lines.map Line.label).Nodup)
    (stand : List.Forall₂ Line.Stands lines statements) :
    ∃ t, ofStatements? statements = some t ∧ List.Forall₂ Line.Entry lines t := by
  obtain ⟨read, rfl, all⟩ := assigns_of_forall₂ stand fun l hl => (plain l hl).assigns
  rw [ofStatements?_assigns]
  exact assignAll_plain plain distinct all

/-- A section that is no element of a series and whose name is free adds a table. -/
theorem Section.addTo_of_free {s : Section} {t e : Table} (single : s.repeated = false)
    (top : s.path = []) (free : t.get? s.key.name = none)
    (body : Table.assignAll [] s.lines = some e) :
    s.addTo t = some (t ++ [(s.key, .table (.header s.extent) e)]) := by
  simp [addTo, top, Table.within, free, body, single]

/-- A header with lines below it adds a table of just these. -/
theorem Table.ofStatements?_header {above below : List Line} {name : BareName}
    {statements : List Statement} (plain : ∀ l ∈ above ++ below, l.Plain)
    (distinct : (above.map Line.label).Nodup) (free : name.text ∉ above.map Line.label)
    (distinct' : (below.map Line.label).Nodup)
    (stand : List.Forall₂ Line.Stands (above ++ .header name :: below) statements) :
    ∃ t key span e, ofStatements? statements = some (t ++ [(key, .table (.header span) e)]) ∧
      key.name = name.text ∧ List.Forall₂ Line.Entry above t ∧
      List.Forall₂ Line.Entry below e := by
  rw [List.forall_mem_append] at plain
  -- the header parts what has been read just as it parts the lines
  have front := List.forall₂_take above.length stand
  have back := List.forall₂_drop above.length stand
  rw [List.take_left] at front
  rw [List.drop_left, List.forall₂_cons_left_iff] at back
  obtain ⟨header, more, title, back, rest⟩ := back
  obtain ⟨read, first, all⟩ := assigns_of_forall₂ front fun l hl => (plain.1 l hl).assigns
  obtain ⟨read', rfl, all'⟩ := assigns_of_forall₂ back fun l hl => (plain.2 l hl).assigns
  obtain ⟨t, done, entries⟩ := assignAll_plain plain.1 distinct all
  obtain ⟨e, body, entries'⟩ := assignAll_plain plain.2 distinct' all'
  cases header with
  | assign a => cases title
  | header repeated path key span =>
    obtain ⟨rfl, rfl, named⟩ := title
    have shape : statements =
        read.map .assign ++ .header false [] key span :: read'.map .assign := by
      rw [← first, ← rest, List.take_append_drop]
    have inner : Section.split (read'.map .assign) = (read', []) := by
      simpa [Section.split] using Section.split_assigns read' []
    have free' : t.get? key.name = none := by
      rw [named]
      exact get?_of_not_mem (fun _ _ h => h.name) entries free
    have added := Section.addTo_of_free (s := ⟨false, [], key, span, read'⟩) rfl rfl free' body
    refine ⟨t, key, Section.extent ⟨false, [], key, span, read'⟩, e, ?_, named, entries, entries'⟩
    simp only [ofStatements?, shape, Section.split_assigns, Section.split, inner, List.append_nil,
      done, Option.bind_eq_bind, Option.bind_some, List.foldlM_cons, List.foldlM_nil, added]
    rfl

end CannedReply.Toml
