import CannedReply.Config.Draft
import CannedReply.Config.Places
import CannedReply.Proofs.Config.Loading
import CannedReply.Proofs.Toml.Statements

/-!
Whatever the way in which settings are written, the document holds each of them in its place, and
nothing in the places of the others.
-/

namespace CannedReply.Config

open Toml

/-- What stands in a document in the place of a setting. -/
def Setting.place : Setting → Table → Option Node
  | host _, t => hostNode? t
  | port _, t => portNode? t
  | mode _, t => modeNode? t

theorem Setting.name_ne_listener (s : Setting) : s.name.text ≠ "listener" := by
  cases s <;> simp [name, hostName, portName, modeName]

namespace Draft

def settings (d : Draft) : List Setting :=
  d.listener ++ d.outer

/-- Whether a document holds the settings of a draft, and no others. -/
structure HeldBy (d : Draft) (t : Table) : Prop where
  listens : ∀ n, listenerNode? t = some n → CanListen n
  present : ∀ s ∈ d.settings, ∃ n, s.place t = some n ∧ s.literal.Stands n
  absent : ∀ s : Setting, (∀ s' ∈ d.settings, s'.name.text ≠ s.name.text) → s.place t = none

variable {d : Draft} {t u : Table}

theorem host_mem_settings {h : String} (given : d.host = some h) : .host h ∈ d.settings := by
  simp [settings, listener, given]

theorem port_mem_settings {p : UInt16} (given : d.port = some p) : .port p ∈ d.settings := by
  simp [settings, listener, given]

theorem mode_mem_settings {m : AcceptMode} (given : d.mode = some m) : .mode m ∈ d.settings := by
  simp [settings, outer, given]

theorem names_settings_nodup (d : Draft) : (d.settings.map (·.name.text)).Nodup := by
  obtain ⟨h, p, m⟩ := d
  cases h <;> cases p <;> cases m <;>
    simp [settings, listener, outer, Setting.name, hostName, portName, modeName]

theorem names_entries (ss : List Setting) :
    (ss.map Setting.entry).map (·.1.text) = ss.map (·.name.text) := by
  simp [Setting.entry]

theorem labels_lines (ss : List Setting) :
    (ss.map Setting.line).map Line.label = ss.map (·.name.text) := by
  simp [Setting.line, Line.label]

theorem names_nodup_of_perm {ss : List Setting} (order : ss.Perm d.listener) :
    (ss.map (·.name.text)).Nodup := by
  have all := names_settings_nodup d
  rw [settings, List.map_append] at all
  rw [(order.map _).nodup_iff]
  exact all.of_append_left

theorem chosen_of {α : Type} {place : Option Node} {sets : Node → α → Prop} {v? : Option α}
    {default : α} (present : ∀ v, v? = some v → ∃ n, place = some n ∧ sets n v)
    (absent : v? = none → place = none) : Chosen place sets default (v?.getD default) := by
  cases v? with
  | none =>
    rw [absent rfl]
    rfl
  | some v =>
    obtain ⟨n, found, sets⟩ := present v rfl
    rw [found]
    exact sets

namespace HeldBy

theorem host (h : d.HeldBy t) :
    Chosen (hostNode? t) Node.IsText defaultHost d.config.listener.host := by
  refine chosen_of (fun v given => h.present _ (host_mem_settings given)) fun missing => ?_
  refine h.absent (.host "") fun s hs => ?_
  cases s with
  | host v => simp [settings, listener, outer, missing] at hs
  | port p => exact (by decide : portName.text ≠ hostName.text)
  | mode m => exact (by decide : modeName.text ≠ hostName.text)

theorem port (h : d.HeldBy t) :
    Chosen (portNode? t) SetsPort defaultPort d.config.listener.port := by
  refine chosen_of (fun v given => h.present _ (port_mem_settings given)) fun missing => ?_
  refine h.absent (.port 0) fun s hs => ?_
  cases s with
  | host v => exact (by decide : hostName.text ≠ portName.text)
  | port p => simp [settings, listener, outer, missing] at hs
  | mode m => exact (by decide : modeName.text ≠ portName.text)

theorem mode (h : d.HeldBy t) :
    Chosen (modeNode? t) SetsMode .once d.config.acceptMode := by
  refine chosen_of (fun v given => ?_) fun missing => ?_
  · obtain ⟨n, found, stands⟩ := h.present _ (mode_mem_settings given)
    exact ⟨n, found, .inl stands⟩
  · refine h.absent (.mode .once) fun s hs => ?_
    cases s with
    | host v => exact (by decide : hostName.text ≠ modeName.text)
    | port p => exact (by decide : portName.text ≠ modeName.text)
    | mode m => simp [settings, listener, outer, missing] at hs

/-- A document that holds a draft says its configuration. -/
theorem follows (h : d.HeldBy t) : d.config.Follows t where
  listener := by
    have host := h.host
    have port := h.port
    unfold hostNode? at host
    unfold portNode? at port
    cases place : listenerNode? t with
    | none =>
      rw [place] at host port
      have host : d.config.listener.host = defaultHost := host
      have port : d.config.listener.port = defaultPort := port
      change d.config.listener = ⟨defaultHost, defaultPort⟩
      rw [← host, ← port]
    | some n =>
      rw [place] at host port
      exact ⟨h.listens n place, host, port⟩
  acceptMode := h.mode

end HeldBy

/-- Whether the listener of a document is open for names with dots: it is not there, or a table that
came about through such names. -/
def Open (t : Table) : Prop :=
  ∀ n, listenerNode? t = some n → ∃ e, n = .table .dotted e

/-- The entries of the listener's table, as far as there is one. -/
def inner (t : Table) : Table :=
  match listenerNode? t with
  | some (.table _ e) => e
  | _ => []

theorem member?_of_open (isOpen : Open t) (name : String) (place : Nat) :
    (listenerNode? t).bind (Node.member? name place) = (inner t).get? name := by
  unfold inner
  cases found : listenerNode? t with
  | none => rfl
  | some n =>
    obtain ⟨e, rfl⟩ := isOpen n found
    rfl

/-- The settings of the listener stand in its table, the others in the document. -/
theorem place_of_open (isOpen : Open t) (s : Setting) :
    s.place t = if s.parent.isSome then (inner t).get? s.name.text else t.get? s.name.text := by
  cases s with
  | host h => exact member?_of_open isOpen "host" 0
  | port p => exact member?_of_open isOpen "port" 1
  | mode m => rfl

/-- A value for a free name within an open listener is added to its table. -/
theorem assign_within {parent key : Key} {n : Node} (isOpen : Open t)
    (name : parent.name = "listener") (free : (inner t).get? key.name = none) :
    ∃ u, t.assign [parent] key n = some u ∧
      listenerNode? u = some (.table .dotted (inner t ++ [(key, n)])) ∧
      ∀ other, other ≠ "listener" → u.get? other = t.get? other := by
  unfold inner at *
  unfold listenerNode? at *
  cases found : t.get? "listener" with
  | none =>
    refine ⟨t ++ [(parent, .table .dotted [(key, n)])], ?_, ?_, ?_⟩
    · simp [Table.assign, name, found, Table.insert?, Table.get?_nil]
    · rw [← name] at found ⊢
      exact Table.get?_add_self found
    · intro other names
      exact Table.get?_add_of_ne fun same => names (same.symm.trans name)
  | some l =>
    obtain ⟨e, rfl⟩ := isOpen l found
    rw [found] at free
    refine ⟨t.replace parent.name (.table .dotted (e ++ [(key, n)])), ?_, ?_, ?_⟩
    · simp [Table.assign, name, found, Table.insert?, free]
    · rw [Table.get?_replace, if_pos name.symm, name, found]
      rfl
    · intro other names
      rw [Table.get?_replace, if_neg (fun same => names (same.trans name))]

/-- A value for a free name outside of the listener is added to the document. -/
theorem assign_outside {key : Key} {n : Node} (name : key.name ≠ "listener")
    (free : t.get? key.name = none) :
    ∃ u, t.assign [] key n = some u ∧ listenerNode? u = listenerNode? t ∧
      u.get? key.name = some n ∧ ∀ other, key.name ≠ other → u.get? other = t.get? other := by
  refine ⟨t ++ [(key, n)], ?_, ?_, ?_, ?_⟩
  · simp [Table.assign, Table.insert?, free]
  · exact Table.get?_add_of_ne name
  · exact Table.get?_add_self free
  · intro other different
    exact Table.get?_add_of_ne different

/-- A setting whose place is free is put there, and all others stay as they are. -/
theorem assign_dotted {s : Setting} {a : Assignment} (isOpen : Open t)
    (stands : s.dotted.Stands (.assign a)) (free : s.place t = none) :
    ∃ u, t.assign a.path a.key a.value = some u ∧ Open u ∧ s.place u = some a.value ∧
      ∀ s' : Setting, s'.name.text ≠ s.name.text → s'.place u = s'.place t := by
  obtain ⟨path, key, n⟩ := a
  obtain ⟨within, named, -⟩ := stands
  dsimp only at within named
  rw [place_of_open isOpen, ← named] at free
  cases parent : s.parent with
  | none =>
    -- the document gets one entry more, and the listener in it stays the same
    rw [parent] at within free
    obtain rfl : path = [] := List.map_eq_nil_iff.1 within
    have other : key.name ≠ "listener" := named ▸ s.name_ne_listener
    obtain ⟨u, done, same, found, rest⟩ := assign_outside (n := n) other free
    have stillOpen : Open u := by
      unfold Open
      rw [same]
      exact isOpen
    have inner' : inner u = inner t := by
      unfold inner
      rw [same]
    refine ⟨u, done, stillOpen, ?_, ?_⟩
    · rw [place_of_open stillOpen, parent, ← named]
      exact found
    · intro s' different
      rw [place_of_open stillOpen, place_of_open isOpen, inner', rest _ (named ▸ different.symm)]
  | some p =>
    obtain rfl : p = listenerName := by
      cases s <;> simp [Setting.parent] at parent <;> exact parent.symm
    -- the listener gets one entry more, and the rest of the document stays the same
    rw [parent] at within free
    obtain ⟨step, rfl, name⟩ := List.map_eq_singleton_iff.1 within
    obtain ⟨u, done, found, rest⟩ := assign_within (n := n) isOpen name free
    have stillOpen : Open u := by
      intro n' found'
      exact ⟨_, Option.some.inj (found'.symm.trans found)⟩
    have inner' : inner u = inner t ++ [(key, n)] := by
      rw [inner, found]
    refine ⟨u, done, stillOpen, ?_, ?_⟩
    · rw [place_of_open stillOpen, parent, ← named, inner']
      exact Table.get?_add_self free
    · intro s' different
      rw [place_of_open stillOpen, place_of_open isOpen, inner',
        Table.get?_add_of_ne (named ▸ different.symm), rest _ s'.name_ne_listener]

theorem assignAll_dotted {ss : List Setting} {lines : List Assignment} (isOpen : Open t)
    (stand : List.Forall₂ (fun s a => s.dotted.Stands (.assign a)) ss lines)
    (distinct : (ss.map (·.name.text)).Nodup) (free : ∀ s ∈ ss, s.place t = none) :
    ∃ u, t.assignAll lines = some u ∧ Open u ∧
      (∀ s ∈ ss, ∃ n, s.place u = some n ∧ s.literal.Stands n) ∧
      ∀ s' : Setting, (∀ s ∈ ss, s.name.text ≠ s'.name.text) → s'.place u = s'.place t := by
  induction stand generalizing t with
  | nil => exact ⟨t, rfl, isOpen, nofun, fun _ _ => rfl⟩
  | @cons s a ss lines hs _ ih =>
    rw [List.map_cons, List.nodup_cons] at distinct
    rw [List.forall_mem_cons] at free
    obtain ⟨u, first, isOpen, put, stay⟩ := assign_dotted isOpen hs free.1
    have other : ∀ s' ∈ ss, s'.name.text ≠ s.name.text := fun s' hs' same =>
      distinct.1 (same ▸ List.mem_map_of_mem hs')
    -- what comes later finds its place as free as before
    have still : ∀ s' ∈ ss, s'.place u = none := fun s' hs' =>
      (stay s' (other s' hs')).trans (free.2 s' hs')
    obtain ⟨v, rest, isOpen, held, stay'⟩ := ih isOpen distinct.2 still
    refine ⟨v, ?_, isOpen, ?_, ?_⟩
    · rw [Table.assignAll] at rest ⊢
      rw [List.foldlM_cons, first]
      exact rest
    · rw [List.forall_mem_cons]
      refine ⟨⟨a.value, (stay' s other).trans put, hs.2.2⟩, held⟩
    · intro s' names
      rw [List.forall_mem_cons] at names
      exact (stay' s' names.2).trans (stay s' names.1.symm)

theorem heldBy_dotted {ss : List Setting} {statements : List Statement}
    (order : ss.Perm d.settings)
    (stand : List.Forall₂ Line.Stands (ss.map Setting.dotted) statements) :
    ∃ t, Table.ofStatements? statements = some t ∧ d.HeldBy t := by
  obtain ⟨read, rfl, all⟩ := assigns_of_forall₂ stand fun l hl => by
    obtain ⟨s, -, rfl⟩ := List.mem_map.1 hl
    exact ⟨_, _, _, rfl⟩
  have distinct : (ss.map (·.name.text)).Nodup :=
    (order.map _).nodup_iff.2 (names_settings_nodup d)
  have nothing : ∀ s : Setting, s.place [] = none := fun s => by cases s <;> rfl
  obtain ⟨t, done, isOpen, held, others⟩ := assignAll_dotted (t := []) nofun
    (List.forall₂_map_left_iff.1 all) distinct fun s _ => nothing s
  refine ⟨t, (Table.ofStatements?_assigns read).trans done, ?_, ?_, ?_⟩
  · intro n found
    obtain ⟨e, rfl⟩ := isOpen n found
    trivial
  · exact fun s hs => held s (order.mem_iff.2 hs)
  · exact fun s names => (others s fun s' hs' => names s' (order.mem_iff.1 hs')).trans (nothing s)

/-- Whether a document holds the settings of a draft that belong to no table, and no others,
whatever it says of the listener. -/
structure OuterHeldBy (d : Draft) (t : Table) : Prop where
  present : ∀ s ∈ d.outer, ∃ n, t.get? s.name.text = some n ∧ s.literal.Stands n
  absent : ∀ name, name ≠ "listener" → (∀ s ∈ d.outer, s.name.text ≠ name) → t.get? name = none

theorem parent_of_mem_listener {s : Setting} (h : s ∈ d.listener) : s.parent.isSome = true := by
  simp only [listener, List.mem_append, Option.mem_toList, Option.map_eq_some_iff] at h
  rcases h with ⟨v, -, rfl⟩ | ⟨v, -, rfl⟩ <;> rfl

theorem parent_of_mem_outer {s : Setting} (h : s ∈ d.outer) : s.parent.isSome = false := by
  simp only [outer, Option.mem_toList, Option.map_eq_some_iff] at h
  obtain ⟨v, -, rfl⟩ := h
  rfl

/-- A draft is held with its listener in a table, whatever that came about from. -/
theorem heldBy_table {ss : List Setting} {origin : Origin} {e : Table} (outer : d.OuterHeldBy t)
    (found : listenerNode? t = some (.table origin e)) (order : ss.Perm d.listener)
    (stand : List.Forall₂ EntryStands (ss.map Setting.entry) e) : d.HeldBy t := by
  have place : ∀ s : Setting, s.place t =
      if s.parent.isSome then e.get? s.name.text else t.get? s.name.text := by
    intro s
    cases s with
    | host h => exact congrArg (·.bind (Node.member? "host" 0)) found
    | port p => exact congrArg (·.bind (Node.member? "port" 1)) found
    | mode m => rfl
  have named : ∀ x y, EntryStands x y → y.1.name = x.1.text := fun _ _ h => h.1
  have distinct : ((ss.map Setting.entry).map (·.1.text)).Nodup := by
    rw [names_entries]
    exact names_nodup_of_perm order
  refine ⟨?_, ?_, ?_⟩
  · intro n found'
    cases found.symm.trans found'
    trivial
  · intro s hs
    rw [place]
    rcases List.mem_append.1 hs with inside | outside
    · rw [parent_of_mem_listener inside]
      have mem : s.entry ∈ ss.map Setting.entry := List.mem_map_of_mem (order.mem_iff.2 inside)
      obtain ⟨k, n, found, -, stands⟩ := Table.get?_of_mem named stand distinct mem
      exact ⟨n, found, stands⟩
    · rw [parent_of_mem_outer outside]
      exact outer.present s outside
  · intro s missing
    rw [place]
    split
    · refine Table.get?_of_not_mem named stand fun mem => ?_
      rw [names_entries] at mem
      obtain ⟨s', hs', same⟩ := List.mem_map.1 mem
      exact missing s' (List.mem_append_left _ (order.mem_iff.1 hs')) same
    · exact outer.absent _ s.name_ne_listener fun s' hs' =>
        missing s' (List.mem_append_right _ hs')

/-- Of a list for the listener the first two places hold host and port, as far as they are
given. -/
theorem places_of_list {nodes : List Node} (complete : d.port.isSome → d.host.isSome)
    (stand : List.Forall₂ Literal.Stands (d.listener.map Setting.literal) nodes) :
    ((∀ h, d.host = some h → ∃ n, nodes[0]? = some n ∧ (Literal.text h).Stands n) ∧
      (d.host = none → nodes[0]? = none)) ∧
    (∀ p, d.port = some p → ∃ n, nodes[1]? = some n ∧ (Literal.number p).Stands n) ∧
      (d.port = none → nodes[1]? = none) := by
  obtain ⟨h?, p?, m?⟩ := d
  cases h? with
  | none =>
    cases p? with
    | none =>
      cases stand
      simp
    | some p => exact absurd (complete rfl) (by simp)
  | some h =>
    cases p? with
    | none =>
      obtain _ | ⟨first, _ | _⟩ := stand
      have first : (Literal.text h).Stands _ := first
      simp [first]
    | some p =>
      obtain _ | ⟨first, _ | ⟨second, _ | _⟩⟩ := stand
      have first : (Literal.text h).Stands _ := first
      have second : (Literal.number p).Stands _ := second
      simp [first, second]

/-- A draft is held with its listener as a list. -/
theorem heldBy_array {nodes : List Node} {span : Span} (outer : d.OuterHeldBy t)
    (found : listenerNode? t = some (.array nodes span)) (complete : d.port.isSome → d.host.isSome)
    (stand : List.Forall₂ Literal.Stands (d.listener.map Setting.literal) nodes) : d.HeldBy t := by
  have host : ∀ h, (Setting.host h).place t = nodes[0]? := fun _ =>
    congrArg (·.bind (Node.member? "host" 0)) found
  have port : ∀ p, (Setting.port p).place t = nodes[1]? := fun _ =>
    congrArg (·.bind (Node.member? "port" 1)) found
  obtain ⟨⟨hostHeld, hostFree⟩, portHeld, portFree⟩ := places_of_list complete stand
  refine ⟨?_, ?_, ?_⟩
  · intro n found'
    cases found.symm.trans found'
    trivial
  · intro s hs
    cases s with
    | host h =>
      rw [host]
      exact hostHeld h (by simpa [settings, listener, Draft.outer] using hs)
    | port p =>
      rw [port]
      exact portHeld p (by simpa [settings, listener, Draft.outer] using hs)
    | mode m => exact outer.present (.mode m) (by simpa [settings, listener, Draft.outer] using hs)
  · intro s missing
    cases s with
    | host h =>
      refine (host h).trans (hostFree (Option.eq_none_iff_forall_ne_some.2 fun v given => ?_))
      exact missing _ (host_mem_settings given) rfl
    | port p =>
      refine (port p).trans (portFree (Option.eq_none_iff_forall_ne_some.2 fun v given => ?_))
      exact missing _ (port_mem_settings given) rfl
    | mode m =>
      exact outer.absent _ (by decide) fun s' hs' => missing s' (List.mem_append_right _ hs')

theorem outerHeldBy_of_entries {lines : List Line} (stand : List.Forall₂ Line.Entry lines t)
    (distinct : (lines.map Line.label).Nodup) (all : ∀ s ∈ d.outer, s.line ∈ lines)
    (only : ∀ l ∈ lines, l.label = "listener" ∨ ∃ s ∈ d.outer, s.name.text = l.label) :
    d.OuterHeldBy t where
  present s hs := by
    obtain ⟨k, n, found, -, stands⟩ :=
      Table.get?_of_mem (fun _ _ h => h.name) stand distinct (all s hs)
    exact ⟨n, found, stands⟩
  absent name other missing := by
    refine Table.get?_of_not_mem (fun _ _ h => h.name) stand fun mem => ?_
    obtain ⟨l, hl, rfl⟩ := List.mem_map.1 mem
    rcases only l hl with same | ⟨s, hs, same⟩
    · exact other same
    · exact missing s hs same

theorem labels_outer (d : Draft) :
    ("listener" :: (d.outer.map Setting.line).map Line.label).Nodup := by
  obtain ⟨h, p, m⟩ := d
  cases m <;> simp [outer, Setting.line, Line.label, Setting.name, modeName]

/-- Of a value for the listener and the settings outside, in any order, each is held. -/
theorem held_of_lines {v : Written} {lines : List Line} {statements : List Statement}
    (order : lines.Perm (.assign none listenerName v :: d.outer.map Setting.line))
    (stand : List.Forall₂ Line.Stands lines statements) :
    ∃ t n, Table.ofStatements? statements = some t ∧ d.OuterHeldBy t ∧
      listenerNode? t = some n ∧ v.Stands n := by
  have distinct : (lines.map Line.label).Nodup := (order.map _).nodup_iff.2 (labels_outer d)
  have plain : ∀ l ∈ lines, l.Plain := by
    intro l hl
    rcases List.mem_cons.1 (order.mem_iff.1 hl) with rfl | hl
    · exact ⟨_, _, rfl⟩
    · obtain ⟨s, -, rfl⟩ := List.mem_map.1 hl
      exact ⟨_, _, rfl⟩
  obtain ⟨t, done, entries⟩ := Table.ofStatements?_plain plain distinct stand
  have mem : Line.assign none listenerName v ∈ lines := order.mem_iff.2 List.mem_cons_self
  obtain ⟨k, n, found, -, stands⟩ := Table.get?_of_mem (fun _ _ h => h.name) entries distinct mem
  refine ⟨t, n, done, outerHeldBy_of_entries entries distinct ?_ ?_, found, stands⟩
  · exact fun s hs => order.mem_iff.2 (List.mem_cons_of_mem _ (List.mem_map_of_mem hs))
  · intro l hl
    rcases List.mem_cons.1 (order.mem_iff.1 hl) with rfl | hl
    · exact .inl rfl
    · obtain ⟨s, hs, rfl⟩ := List.mem_map.1 hl
      exact .inr ⟨s, hs, rfl⟩

/-- A table for the listener behind the other settings leaves them as they are. -/
theorem OuterHeldBy.add {key : Key} {n : Node} (h : d.OuterHeldBy t)
    (name : key.name = "listener") : d.OuterHeldBy (t ++ [(key, n)]) := by
  have same : ∀ other, other ≠ "listener" →
      Table.get? (t ++ [(key, n)]) other = t.get? other := by
    intro other different
    exact Table.get?_add_of_ne fun same => different (same.symm.trans name)
  refine ⟨fun s hs => ?_, fun other different missing => ?_⟩
  · rw [same _ s.name_ne_listener]
    exact h.present s hs
  · rw [same _ different]
    exact h.absent other different missing

theorem heldBy_header {ss : List Setting} {statements : List Statement}
    (order : ss.Perm d.listener)
    (stand : List.Forall₂ Line.Stands
      (d.outer.map Setting.line ++ .header listenerName :: ss.map Setting.line) statements) :
    ∃ t, Table.ofStatements? statements = some t ∧ d.HeldBy t := by
  have labels := labels_outer d
  rw [List.nodup_cons] at labels
  have distinct' : ((ss.map Setting.line).map Line.label).Nodup := by
    rw [labels_lines]
    exact names_nodup_of_perm order
  have plain : ∀ l ∈ d.outer.map Setting.line ++ ss.map Setting.line, l.Plain := by
    intro l hl
    rw [← List.map_append] at hl
    obtain ⟨s, -, rfl⟩ := List.mem_map.1 hl
    exact ⟨_, _, rfl⟩
  obtain ⟨t, key, span, e, done, named, above, below⟩ :=
    Table.ofStatements?_header plain labels.2 labels.1 distinct' stand
  have named : key.name = "listener" := named
  have outer : d.OuterHeldBy t := by
    refine outerHeldBy_of_entries above labels.2 (fun s hs => List.mem_map_of_mem hs) ?_
    intro l hl
    obtain ⟨s, hs, rfl⟩ := List.mem_map.1 hl
    exact .inr ⟨s, hs, rfl⟩
  have free : Table.get? t "listener" = none :=
    Table.get?_of_not_mem (fun _ _ h => h.name) above labels.1
  have found : listenerNode? (t ++ [(key, .table (.header span) e)])
      = some (.table (.header span) e) := by
    rw [← named] at free
    rw [listenerNode?, ← named]
    exact Table.get?_add_self free
  have inside : List.Forall₂ EntryStands (ss.map Setting.entry) e := by
    rw [List.forall₂_map_left_iff] at below ⊢
    exact below.imp fun _ _ h => h
  exact ⟨_, done, heldBy_table (outer.add named) found order inside⟩

variable {lines : List Line}

theorem Spells.distinct (spells : d.Spells lines) : ∀ l ∈ lines, l.Distinct := by
  have single : ∀ s : Setting, s.line.Distinct ∧ s.dotted.Distinct := fun _ => ⟨trivial, trivial⟩
  intro l hl
  cases spells with
  | dotted order =>
    obtain ⟨s, -, rfl⟩ := List.mem_map.1 hl
    exact (single s).2
  | header order =>
    rcases List.mem_append.1 hl with hl | hl
    · obtain ⟨s, -, rfl⟩ := List.mem_map.1 hl
      exact (single s).1
    · rcases List.mem_cons.1 hl with rfl | hl
      · trivial
      · obtain ⟨s, -, rfl⟩ := List.mem_map.1 hl
        exact (single s).1
  | braces inner order =>
    rcases List.mem_cons.1 (order.mem_iff.1 hl) with rfl | hl
    · rw [Line.Distinct, Written.Distinct, names_entries]
      exact names_nodup_of_perm inner
    · obtain ⟨s, -, rfl⟩ := List.mem_map.1 hl
      exact (single s).1
  | array complete order =>
    rcases List.mem_cons.1 (order.mem_iff.1 hl) with rfl | hl
    · trivial
    · obtain ⟨s, -, rfl⟩ := List.mem_map.1 hl
      exact (single s).1

/-- However a draft is written, its text is a document that holds it. -/
theorem Spells.heldBy (spells : d.Spells lines) :
    ∃ t, Toml.parse? (written lines).toList = some t ∧ d.HeldBy t := by
  obtain ⟨statements, read, stand⟩ := parse?_written spells.distinct
  rw [read]
  cases spells with
  | dotted order => exact heldBy_dotted order stand
  | header order => exact heldBy_header order stand
  | braces inner order =>
    obtain ⟨t, n, done, outer, found, span, e, rfl, entries⟩ := held_of_lines order stand
    exact ⟨t, done, heldBy_table outer found inner entries⟩
  | array complete order =>
    obtain ⟨t, n, done, outer, found, nodes, span, rfl, items⟩ := held_of_lines order stand
    exact ⟨t, done, heldBy_array outer found complete items⟩

theorem Spells.parse (spells : d.Spells lines) :
    Config.parse (written lines) = d.config.validate.mapError .invalid := by
  obtain ⟨t, document, held⟩ := spells.heldBy
  exact parse_of_follows document held.follows

/-- However a draft is written, it is read as the configuration with its settings, and with the
defaults for the rest, or refused for all that is wrong with its host. -/
theorem parse_of_spells (d : Draft) {lines : List Line} (spells : d.Spells lines) :
    Config.parse (written lines) = d.config.validate.mapError .invalid ∧
    (IsHost d.config.listener.host → Config.parse (written lines) = .ok d.config) ∧
    (¬IsHost d.config.listener.host → ∃ problems,
      Config.parse (written lines) = .error (.invalid problems) ∧ problems ≠ [] ∧
        problems.Nodup ∧ ∀ p : HostProblem, p ∈ problems ↔ p.Found d.config.listener.host) ∧
    ∀ lines', d.Spells lines' → Config.parse (written lines') = Config.parse (written lines) := by
  refine ⟨spells.parse, fun good => ?_, fun bad => ?_, fun lines' spells' => ?_⟩
  · rw [spells.parse, validate_of_isHost good]
    rfl
  · refine ⟨_, ?_, ?_, nodup_hostProblems, mem_hostProblems_iff⟩
    · rw [spells.parse, validate_of_not_isHost bad]
      rfl
    · rwa [Ne, hostProblems_eq_nil_iff]
  · rw [spells.parse, spells'.parse]

theorem parse_of_a_list_behind_a_mode :
    Config.parse "accept_mode = \"forever\"\nlistener = [\"\\\"\\u0000é\"]\n"
      = .ok ⟨⟨"\"\x00é", 5000⟩, .forever⟩ := by
  have spells : Draft.Spells ⟨some "\"\x00é", none, some .forever⟩
      [.assign none modeName (.plain (.text "forever")),
        .assign none listenerName (.array [.text "\"\x00é"])] :=
    .array nofun (.swap _ _ _)
  have good : IsHost "\"\x00é" := hostProblems_eq_nil_iff.1 (by decide +kernel)
  exact (parse_of_spells _ spells).2.1 good

/-- Every configuration with a good host can be written. -/
theorem exists_written {c : Config} (good : IsHost c.listener.host) :
    ∃ lines, Config.parse (written lines) = .ok c := by
  let d : Draft := ⟨some c.listener.host, some c.listener.port, some c.acceptMode⟩
  have spells : d.Spells _ := .dotted (.refl _)
  have same : d.config = c := rfl
  refine ⟨_, spells.parse.trans ?_⟩
  rw [same, validate_of_isHost good]
  rfl

end Draft

end CannedReply.Config
