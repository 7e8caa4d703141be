import CannedReply.Proofs.Text.Reader
import CannedReply.Toml.Parser
import Mathlib.Data.List.Nodup
import Mathlib.Data.Option.Basic

/-!
In a document every table names its entries differently, at any depth: what is assigned finds its
name free, and what is put in the place of something else keeps the name.
-/

namespace CannedReply.Toml

def Table.names (t : Table) : List String :=
  t.map fun entry => entry.1.name

/-- Whether no table within a value has a name twice. -/
inductive Node.Distinct : Node → Prop where
  | scalar (value : Scalar) (span : Span) : Distinct (.scalar value span)
  | array {items : List Node} {span : Span} (all : ∀ n ∈ items, Distinct n) :
      Distinct (.array items span)
  | table {origin : Origin} {entries : Table} (names : entries.names.Nodup)
      (all : ∀ e ∈ entries, Distinct e.2) : Distinct (.table origin entries)
  | series {items : List (Span × Table)} (names : ∀ i ∈ items, i.2.names.Nodup)
      (all : ∀ i ∈ items, ∀ e ∈ i.2, Distinct e.2) : Distinct (.series items)

/-- Whether a table, and each one within it, names its entries differently. -/
structure Table.Distinct (t : Table) : Prop where
  names : t.names.Nodup
  all : ∀ e ∈ t, e.2.Distinct

namespace Node

variable {origin : Origin} {entries : Table} {items : List (Span × Table)}

theorem distinct_table_iff : (Node.table origin entries).Distinct ↔ entries.Distinct := by
  constructor
  · rintro (_ | _ | ⟨names, all⟩ | _)
    exact ⟨names, all⟩
  · rintro ⟨names, all⟩
    exact .table names all

theorem distinct_series_iff : (Node.series items).Distinct ↔ ∀ i ∈ items, i.2.Distinct := by
  constructor
  · rintro (_ | _ | _ | ⟨names, all⟩) i hi
    exact ⟨names i hi, all i hi⟩
  · intro h
    exact .series (fun i hi => (h i hi).names) fun i hi => (h i hi).all

end Node

namespace Table

variable {t u : Table} {key : Key} {name : String} {node : Node}

theorem get?_nil (name : String) : Table.get? [] name = none := rfl

theorem get?_cons (key : Key) (node : Node) (t : Table) (name : String) :
    Table.get? ((key, node) :: t) name = if key.name = name then some node else t.get? name := by
  by_cases h : key.name = name <;> simp [get?, h]

theorem get?_append (t u : Table) (name : String) :
    Table.get? (t ++ u) name = (t.get? name).or (u.get? name) := by
  simp [get?, List.find?_append, Option.map_or]

theorem get?_add (t : Table) (key : Key) (node : Node) (name : String) :
    Table.get? (t ++ [(key, node)]) name =
      (t.get? name).or (if key.name = name then some node else none) := by
  rw [get?_append, get?_cons, get?_nil]

theorem get?_add_self (free : t.get? key.name = none) :
    Table.get? (t ++ [(key, node)]) key.name = some node := by
  rw [get?_add, free, if_pos rfl, Option.none_or]

theorem get?_add_of_ne (other : key.name ≠ name) :
    Table.get? (t ++ [(key, node)]) name = t.get? name := by
  rw [get?_add, if_neg other, Option.or_none]

theorem get?_eq_none_iff : t.get? name = none ↔ name ∉ t.names := by
  simp [get?, names]

theorem mem_of_get? (found : t.get? name = some node) :
    ∃ key, (key, node) ∈ t ∧ key.name = name := by
  obtain ⟨⟨key, node'⟩, first, rfl⟩ := Option.map_eq_some_iff.1 found
  exact ⟨key, List.mem_of_find?_eq_some first, by simpa using List.find?_some first⟩

theorem get?_replace (t : Table) (name other : String) (node : Node) :
    (t.replace name node).get? other =
      if other = name then (t.get? name).map fun _ => node else t.get? other := by
  induction t with
  | nil => simp [replace, get?]
  | cons e t ih =>
    obtain ⟨key, old⟩ := e
    simp only [replace, List.map_cons] at ih ⊢
    by_cases hk : key.name = name <;> by_cases ho : other = name <;>
      simp_all [get?_cons, eq_comm]

theorem get?_remove (t : Table) (name other : String) :
    (t.remove name).get? other = if other = name then none else t.get? other := by
  induction t with
  | nil => simp [remove, get?]
  | cons e t ih =>
    obtain ⟨key, old⟩ := e
    simp only [remove] at ih ⊢
    by_cases hk : key.name = name
    · rw [List.filter_cons_of_neg (by simpa using hk), ih, get?_cons, hk]
      by_cases ho : other = name
      · simp [ho]
      · simp [ho, Ne.symm ho]
    · rw [List.filter_cons_of_pos (by simpa using hk), get?_cons, get?_cons, ih]
      by_cases ho : other = name
      · simp [ho, hk]
      · simp [ho]

theorem names_replace (t : Table) (name : String) (node : Node) :
    (t.replace name node).names = t.names := by
  simp only [names, replace, List.map_map]
  apply List.map_congr_left
  intro e _
  by_cases h : e.1.name = name <;> simp [h]

theorem Distinct.nil : Table.Distinct [] :=
  ⟨List.nodup_nil, nofun⟩

theorem Distinct.get (h : t.Distinct) (found : t.get? name = some node) : node.Distinct := by
  obtain ⟨key, mem, -⟩ := mem_of_get? found
  exact h.all _ mem

theorem Distinct.add (h : t.Distinct) (free : t.get? key.name = none) (new : node.Distinct) :
    Table.Distinct (t ++ [(key, node)]) where
  names := by
    rw [Table.names, List.map_append, List.map_singleton, ← List.concat_eq_append,
      List.nodup_concat]
    exact ⟨get?_eq_none_iff.1 free, h.names⟩
  all := by
    rw [List.forall_mem_append, List.forall_mem_singleton]
    exact ⟨h.all, new⟩

theorem Distinct.replace (h : t.Distinct) (name : String) (new : node.Distinct) :
    (t.replace name node).Distinct where
  names := by
    rw [names_replace]
    exact h.names
  all e he := by
    obtain ⟨old, mem, rfl⟩ := List.mem_map.1 he
    split
    · exact new
    · exact h.all old mem

/-- A table that is put in the place of another one is as good as that one was. -/
theorem Distinct.replace_table {origin origin' : Origin} {entries entries' : Table}
    (h : t.Distinct) (found : t.get? name = some (.table origin entries))
    (keeps : entries.Distinct → entries'.Distinct) :
    (t.replace name (.table origin' entries')).Distinct := by
  have inner : entries.Distinct := Node.distinct_table_iff.1 (h.get found)
  exact h.replace name (Node.distinct_table_iff.2 (keeps inner))

theorem Distinct.replace_series {items items' : List (Span × Table)} (h : t.Distinct)
    (found : t.get? name = some (.series items))
    (keeps : (∀ i ∈ items, i.2.Distinct) → ∀ i ∈ items', i.2.Distinct) :
    (t.replace name (.series items')).Distinct := by
  have inner : ∀ i ∈ items, i.2.Distinct := Node.distinct_series_iff.1 (h.get found)
  exact h.replace name (Node.distinct_series_iff.2 (keeps inner))

theorem Distinct.remove (h : t.Distinct) (name : String) : (t.remove name).Distinct where
  names := h.names.sublist (List.filter_sublist.map _)
  all e he := h.all e (List.mem_of_mem_filter he)

theorem distinct_onLast {items items' : List (Span × Table)} {edit : Table → Option Table}
    (h : ∀ i ∈ items, i.2.Distinct) (keeps : ∀ {t u}, t.Distinct → edit t = some u → u.Distinct)
    (done : onLast items edit = some items') : ∀ i ∈ items', i.2.Distinct := by
  simp only [onLast, Option.bind_eq_bind, Option.bind_eq_some_iff, Option.pure_def,
    Option.some.injEq] at done
  obtain ⟨⟨span, last⟩, hl, u, hu, rfl⟩ := done
  rw [List.forall_mem_append, List.forall_mem_singleton]
  refine ⟨fun i hi => h i (List.dropLast_subset _ hi), ?_⟩
  exact keeps (h _ (List.mem_of_getLast? hl)) hu

theorem Distinct.assign {path : List Key} (h : t.Distinct) (new : node.Distinct)
    (done : assign path key node t = some u) : u.Distinct := by
  -- a table on the path keeps its names, and only the last one gets a new entry
  induction path generalizing t u with
  | nil =>
    simp only [Table.assign, insert?] at done
    split at done
    · cases done
    · next free =>
      rw [← Option.some.inj done]
      exact h.add (by simpa using free) new
  | cons step path ih =>
    simp only [Table.assign, Option.bind_eq_bind, Option.pure_def] at done
    split at done
    · next free =>
      obtain ⟨entries, below, same⟩ := Option.bind_eq_some_iff.1 done
      rw [← Option.some.inj same]
      exact h.add free (Node.distinct_table_iff.2 (ih .nil below))
    · next entries found =>
      obtain ⟨entries', below, same⟩ := Option.bind_eq_some_iff.1 done
      rw [← Option.some.inj same]
      exact h.replace_table found fun inner => ih inner below
    · next entries found =>
      obtain ⟨-, -, done⟩ := Option.bind_eq_some_iff.1 done
      obtain ⟨entries', below, same⟩ := Option.bind_eq_some_iff.1 done
      rw [← Option.some.inj same]
      exact h.replace_table found fun inner => ih inner below
    · next items found =>
      obtain ⟨-, -, done⟩ := Option.bind_eq_some_iff.1 done
      obtain ⟨items', below, same⟩ := Option.bind_eq_some_iff.1 done
      rw [← Option.some.inj same]
      exact h.replace_series found fun inner => distinct_onLast inner ih below
    · cases done

theorem Distinct.within {path : List Key} {edit : Table → Option Table} (h : t.Distinct)
    (keeps : ∀ {t u}, t.Distinct → edit t = some u → u.Distinct)
    (done : within path edit t = some u) : u.Distinct := by
  induction path generalizing t u with
  | nil => exact keeps h done
  | cons step path ih =>
    simp only [Table.within, Option.bind_eq_bind, Option.pure_def] at done
    split at done
    · next free =>
      obtain ⟨entries, below, same⟩ := Option.bind_eq_some_iff.1 done
      rw [← Option.some.inj same]
      exact h.add free (Node.distinct_table_iff.2 (ih .nil below))
    · cases done
    · next origin entries _ found =>
      obtain ⟨entries', below, same⟩ := Option.bind_eq_some_iff.1 done
      rw [← Option.some.inj same]
      exact h.replace_table found fun inner => ih inner below
    · next items found =>
      obtain ⟨items', below, same⟩ := Option.bind_eq_some_iff.1 done
      rw [← Option.some.inj same]
      exact h.replace_series found fun inner => distinct_onLast inner ih below
    · cases done

theorem Distinct.assignAll {lines : List Assignment} (h : t.Distinct)
    (all : ∀ l ∈ lines, l.value.Distinct) (done : t.assignAll lines = some u) : u.Distinct := by
  induction lines generalizing t with
  | nil =>
    rw [← Option.some.inj done]
    exact h
  | cons l lines ih =>
    simp only [Table.assignAll, List.foldlM_cons, Option.bind_eq_bind] at done
    obtain ⟨t', first, rest⟩ := Option.bind_eq_some_iff.1 done
    rw [List.forall_mem_cons] at all
    exact ih (h.assign all.1 first) all.2 rest

end Table

theorem Section.distinct_addTo {s : Section} {t u : Table} (h : t.Distinct)
    (all : ∀ l ∈ s.lines, l.value.Distinct) (done : s.addTo t = some u) : u.Distinct := by
  refine h.within ?_ done
  intro t u h done
  simp only [Option.bind_eq_bind, Option.pure_def] at done
  split at done
  · next free =>
    obtain ⟨body, below, same⟩ := Option.bind_eq_some_iff.1 done
    rw [← Option.some.inj same]
    have inner : body.Distinct := Table.Distinct.nil.assignAll all below
    refine h.add free ?_
    split
    · rw [Node.distinct_series_iff, List.forall_mem_singleton]
      exact inner
    · exact Node.distinct_table_iff.2 inner
  · next entries found =>
    obtain ⟨-, -, done⟩ := Option.bind_eq_some_iff.1 done
    obtain ⟨body, below, same⟩ := Option.bind_eq_some_iff.1 done
    rw [← Option.some.inj same]
    have inner := Node.distinct_table_iff.1 (h.get found)
    refine (h.remove _).add ?_ (Node.distinct_table_iff.2 (inner.assignAll all below))
    rw [Table.get?_remove, if_pos rfl]
  · next items found =>
    obtain ⟨-, -, done⟩ := Option.bind_eq_some_iff.1 done
    obtain ⟨body, below, same⟩ := Option.bind_eq_some_iff.1 done
    rw [← Option.some.inj same]
    refine h.replace_series found fun inner => ?_
    rw [List.forall_mem_append, List.forall_mem_singleton]
    exact ⟨inner, Table.Distinct.nil.assignAll all below⟩
  · cases done

/-- Whether what a statement assigns, if anything, names its entries differently. -/
def Statement.Distinct : Statement → Prop
  | .assign line => line.value.Distinct
  | .header .. => True

theorem Section.distinct_split {statements : List Statement} (h : ∀ s ∈ statements, s.Distinct) :
    (∀ l ∈ (split statements).1, l.value.Distinct) ∧
      ∀ x ∈ (split statements).2, ∀ l ∈ x.lines, l.value.Distinct := by
  induction statements with
  | nil => exact ⟨nofun, nofun⟩
  | cons s statements ih =>
    rw [List.forall_mem_cons] at h
    obtain ⟨lines, sections⟩ := ih h.2
    cases s with
    | assign line =>
      simp only [split, List.forall_mem_cons]
      exact ⟨⟨h.1, lines⟩, sections⟩
    | header repeated path key span =>
      simp only [split, List.forall_mem_cons]
      exact ⟨nofun, lines, sections⟩

theorem Table.distinct_ofStatements? {statements : List Statement} {t : Table}
    (h : ∀ s ∈ statements, s.Distinct) (done : ofStatements? statements = some t) :
    t.Distinct := by
  obtain ⟨lines, sections⟩ := Section.distinct_split h
  simp only [ofStatements?, Option.bind_eq_bind] at done
  obtain ⟨root, first, rest⟩ := Option.bind_eq_some_iff.1 done
  have start : root.Distinct := Distinct.nil.assignAll lines first
  -- each section keeps distinct what has come about before it
  generalize (Section.split statements).2 = xs at sections rest
  clear first
  induction xs generalizing root with
  | nil =>
    rw [← Option.some.inj rest]
    exact start
  | cons x xs ih =>
    rw [List.forall_mem_cons] at sections
    rw [List.foldlM_cons, Option.bind_eq_bind] at rest
    obtain ⟨root', next, rest⟩ := Option.bind_eq_some_iff.1 rest
    exact ih root' (Section.distinct_addTo start sections.1 next) sections.2 rest

namespace Reader

open CannedReply.Reader

variable {α : Type} {r : CannedReply.Reader α} {P : α → Prop} {element : CannedReply.Reader Node}

theorem yields_located (hr : Yields r P) : Yields (located r) fun a => P a.1 := by
  intro s a t done
  unfold located at done
  cases h : r s with
  | none => simp [h] at done
  | some x =>
    simp only [h, Option.some.injEq, Prod.mk.injEq] at done
    rw [← done.1]
    exact hr s x.1 x.2 h

theorem yields_listed (hr : Yields r P) : Yields (listed r) fun as => ∀ a ∈ as, P a := by
  refine Yields.bind (Yields.optional hr) ?_
  intro first h
  cases first with
  | none => exact Yields.pure nofun
  | some a =>
    refine Yields.bind (Yields.many (Yields.behind fun _ => hr)) ?_
    intro more all
    refine Yields.pure ?_
    rw [List.forall_mem_cons]
    exact ⟨h a rfl, all⟩

theorem yields_array (h : Yields element Node.Distinct) : Yields (array element) Node.Distinct := by
  refine Yields.bind (yields_located (P := fun items => ∀ n ∈ items, n.Distinct) ?_) ?_
  · refine Yields.behind fun _ => Yields.bind (yields_listed (P := Node.Distinct) ?_) ?_
    · exact Yields.behind fun _ => Yields.bind h fun _ hn => Yields.behind fun _ => Yields.pure hn
    · intro items all
      have rest : Yields (do filler; token [']']; return items) fun items =>
          ∀ n ∈ items, n.Distinct :=
        Yields.behind fun _ => Yields.behind fun _ => Yields.pure all
      split
      · exact Yields.behind fun _ => rest
      · exact rest
  · rintro ⟨items, span⟩ all
    exact Yields.pure (.array all)

theorem yields_assignment (h : Yields element Node.Distinct) :
    Yields (assignment element) fun line => line.value.Distinct :=
  Yields.behind fun _ => Yields.behind fun _ => Yields.behind fun _ =>
    Yields.bind h fun _ hn => Yields.pure hn

theorem yields_braces (h : Yields element Node.Distinct) :
    Yields (braces element) Node.Distinct := by
  refine Yields.bind (yields_located (P := Table.Distinct) ?_) ?_
  · refine Yields.behind fun _ =>
      Yields.bind (yields_listed (P := fun line => line.value.Distinct) ?_) ?_
    · exact Yields.bind (yields_assignment h) fun _ hl => Yields.behind fun _ => Yields.pure hl
    · intro lines all
      refine Yields.behind fun _ => Yields.behind fun _ => ?_
      split
      · next entries done => exact Yields.pure (Table.Distinct.nil.assignAll all done)
      · exact Yields.failure
  · rintro ⟨entries, span⟩ distinct
    exact Yields.pure (Node.distinct_table_iff.2 distinct)

theorem yields_scalar : Yields scalar Node.Distinct :=
  Yields.behind fun _ => Yields.pure (.scalar _ _)

theorem yields_value (depth : Nat) : Yields (value depth) Node.Distinct := by
  induction depth with
  | zero => exact yields_scalar
  | succ depth ih =>
    exact Yields.orElse (yields_array ih) (Yields.orElse (yields_braces ih) yields_scalar)

theorem yields_header : Yields header Statement.Distinct :=
  Yields.behind fun _ => Yields.pure True.intro

theorem forall_mem_some {s : Statement} (h : s.Distinct) : ∀ s' ∈ some s, s'.Distinct := by
  intro s' same
  rw [← Option.some.inj same]
  exact h

theorem yields_line : Yields line fun statement => ∀ s ∈ statement, s.Distinct := by
  have last : ∀ statement : Option Statement, (∀ s ∈ statement, s.Distinct) →
      Yields (do lineEnd; return statement) fun statement => ∀ s ∈ statement, s.Distinct :=
    fun _ h => Yields.behind fun _ => Yields.pure h
  have none' : ∀ s ∈ (none : Option Statement), s.Distinct := by simp
  have assigned := yields_assignment (yields_value depthLimit)
  refine Yields.behind fun next => ?_
  split
  case' isTrue => refine Yields.behind fun _ => Yields.behind fun _ => Yields.behind fun next => ?_
  case' isFalse => refine Yields.behind fun _ => Yields.behind fun next => ?_
  -- what is read from here on is the same in both, though behind a failure it is never reached
  all_goals
    split
    case h_5 => exact Yields.bind (Yields.map yields_header fun _ => forall_mem_some) last
    case h_6 =>
      exact Yields.bind (Yields.map assigned fun l h => forall_mem_some (s := .assign l) h) last
    all_goals exact Yields.bind (Yields.pure none') last

theorem yields_document : Yields document fun statements => ∀ s ∈ statements, s.Distinct := by
  refine Yields.behind fun _ => Yields.bind (Yields.many yields_line) ?_
  intro lines all
  refine Yields.behind fun _ => Yields.pure ?_
  intro s hs
  obtain ⟨line, mem, hl⟩ := List.mem_filterMap.1 hs
  exact all line mem s hl

end Reader

/-- Every table of a document names its entries differently. -/
theorem distinct_of_parse {text : List Char} {t : Table} (done : parse? text = some t) :
    t.Distinct := by
  obtain ⟨⟨statements, rest⟩, first, second⟩ := Option.bind_eq_some_iff.1 done
  exact Table.distinct_ofStatements? (Reader.yields_document _ _ _ first) second

end CannedReply.Toml
