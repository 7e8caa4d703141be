import CannedReply.Config.Places
import CannedReply.Proofs.Outcome
import CannedReply.Proofs.Text.Numeral
import CannedReply.Proofs.Toml.Distinct

/-!
What a document is read as: just what stands in the places of the settings, and the defaults for
the rest. Nothing else in the document makes a difference.
-/

namespace CannedReply.Config

open Toml

variable {α β : Type} {n : Node} {key : Key} {host? port? : Option Node} {base e : Endpoint}

theorem placed_eq_ok_iff {x : Except Rejection α} {a : α} :
    placed key n x = .ok a ↔ x = .ok a := by
  cases x <;> simp [placed, Except.mapError]

theorem placed_bind_eq_ok_iff {x : Except Rejection α} {g : α → β} {b : β} :
    (do return g (← placed key n x)) = .ok b ↔ ∃ a, x = .ok a ∧ g a = b := by
  simp only [then_eq_ok_iff, placed_eq_ok_iff, Pure.pure, Except.pure, Except.ok.injEq]

theorem readHost_eq_ok_iff {s : String} : readHost n = .ok s ↔ n.IsText s := by
  unfold readHost Node.IsText
  split
  · next s' span => simp [eq_comm]
  · next other =>
    constructor
    · nofun
    · rintro ⟨span, rfl⟩
      exact absurd rfl (other s span)

theorem readPort_eq_ok_iff {p : UInt16} : readPort n = .ok p ↔ SetsPort n p := by
  unfold readPort SetsPort Node.IsInteger
  split
  · next k span =>
    have same : (∃ span', Node.scalar (.integer k) span = .scalar (.integer p.toNat) span') ↔
        k = p.toNat := by simp
    rw [same]
    split
    · next range =>
      rw [Except.ok.injEq]
      exact Numeral.ofNat_toNat_eq_iff range.1 range.2
    · next range =>
      have small : p.toNat < 65536 := p.toNat_lt
      constructor
      · nofun
      · rintro rfl
        exact absurd ⟨by omega, by omega⟩ range
  · next other =>
    constructor
    · nofun
    · rintro ⟨span, rfl⟩
      exact absurd rfl (other _ span)

theorem expectNothing_eq_ok_iff : expectNothing n = .ok () ↔ n.HoldsNothing := by
  cases n with
  | scalar v span => cases v <;> simp [expectNothing, Node.HoldsNothing]
  | array items span => cases items <;> simp [expectNothing, Node.HoldsNothing]
  | table origin entries => cases entries <;> simp [expectNothing, Node.HoldsNothing]
  | series items => cases items <;> simp [expectNothing, Node.HoldsNothing]

theorem modeNamed_eq_ok_iff {word : String} {span : Span} {m : AcceptMode} :
    modeNamed word span = .ok m ↔ word = m.word := by
  unfold modeNamed
  rw [← AcceptMode.ofWord?_eq_some_iff]
  split
  · next m' h => simp [h]
  · next h => simp [h]

theorem readMode_eq_ok_iff {m : AcceptMode} : readMode n = .ok m ↔ SetsMode n m := by
  unfold SetsMode Node.IsText
  cases n with
  | scalar v span =>
    cases v with
    | text s =>
      rw [readMode, modeNamed_eq_ok_iff]
      simp
    | _ => simp [readMode]
  | array items span => simp [readMode]
  | series items => simp [readMode]
  | table origin entries =>
    match entries with
    | [] => simp [readMode]
    | [(key, inner)] =>
      simp only [readMode, then_eq_ok_iff, modeNamed_eq_ok_iff]
      constructor
      · rintro ⟨m', named, ⟨⟩, nothing, same⟩
        cases same
        exact .inr ⟨origin, key, inner, rfl, named, expectNothing_eq_ok_iff.1 nothing⟩
      · rintro (⟨span, same⟩ | ⟨origin', key', inner', same, named, nothing⟩)
        · cases same
        · cases same
          exact ⟨m, named, (), expectNothing_eq_ok_iff.2 nothing, rfl⟩
    | _ :: _ :: _ => simp [readMode]

/-- Of two places of which one is empty, the other one counts. -/
theorem chosen_or_iff {p q : Option Node} {sets : Node → α → Prop} {before value : α}
    (one : p = none ∨ q = none) :
    (∃ between, Chosen p sets before between ∧ Chosen q sets between value) ↔
      Chosen (p.or q) sets before value := by
  cases p with
  | none => simp [Chosen]
  | some n =>
    obtain rfl : q = none := by simpa using one
    simp [Chosen]

/-- Where each entry sets one of two parts of a value, or none, the entries of a table set what
stands under the names of the parts. -/
theorem foldlM_eq_ok_iff {σ : Type} {step : σ → Key × Node → Except Rejection σ} {first : σ → α}
    {second : σ → β} {name name' : String} {sets : Node → α → Prop} {sets' : Node → β → Prop}
    (ext : ∀ s t, first s = first t → second s = second t → s = t)
    (pair : ∀ a b, ∃ s, first s = a ∧ second s = b) {entries : Table}
    (distinct : entries.names.Nodup)
    (entry : ∀ x ∈ entries, ∀ s t, step s x = .ok t ↔
      Chosen (Table.get? [x] name) sets (first s) (first t) ∧
        Chosen (Table.get? [x] name') sets' (second s) (second t)) (s t : σ) :
    entries.foldlM step s = .ok t ↔
      Chosen (entries.get? name) sets (first s) (first t) ∧
        Chosen (entries.get? name') sets' (second s) (second t) := by
  induction entries generalizing s with
  | nil =>
    simp only [List.foldlM_nil, Table.get?_nil, Chosen, Pure.pure, Except.pure, Except.ok.injEq]
    constructor
    · rintro rfl
      exact ⟨rfl, rfl⟩
    · rintro ⟨h, h'⟩
      exact (ext t s h h').symm
  | cons x entries ih =>
    rw [Table.names, List.map_cons, List.nodup_cons] at distinct
    rw [List.forall_mem_cons] at entry
    -- a name stands at the front or behind it, not in both places
    have one : ∀ name, Table.get? [x] name = none ∨ Table.get? entries name = none := by
      intro name
      obtain ⟨key, n⟩ := x
      by_cases h : key.name = name
      · rw [← h]
        exact .inr (Table.get?_eq_none_iff.2 distinct.1)
      · left
        rw [Table.get?_cons, if_neg h, Table.get?_nil]
    have split : ∀ name, Table.get? (x :: entries) name
        = (Table.get? [x] name).or (Table.get? entries name) := Table.get?_append [x] entries
    simp only [List.foldlM_cons, then_eq_ok_iff, ih distinct.2 entry.2, entry.1, split,
      ← chosen_or_iff (one _)]
    constructor
    · rintro ⟨u, ⟨h, h'⟩, k, k'⟩
      exact ⟨⟨first u, h, k⟩, ⟨second u, h', k'⟩⟩
    · rintro ⟨⟨a, h, k⟩, ⟨b, h', k'⟩⟩
      obtain ⟨u, rfl, rfl⟩ := pair a b
      exact ⟨u, ⟨h, h'⟩, k, k'⟩

theorem readListenerEntry_eq_ok_iff (x : Key × Node) (s t : Endpoint) :
    readListenerEntry s x = .ok t ↔
      Chosen (Table.get? [x] "host") Node.IsText s.host t.host ∧
        Chosen (Table.get? [x] "port") SetsPort s.port t.port := by
  obtain ⟨key, n⟩ := x
  obtain ⟨h, p⟩ := s
  obtain ⟨h', p'⟩ := t
  simp only [readListenerEntry, Table.get?_cons, Table.get?_nil]
  by_cases host : key.name = "host"
  · rw [if_pos host, placed_bind_eq_ok_iff]
    simp only [readHost_eq_ok_iff, Endpoint.mk.injEq, host, Chosen, if_true]
    constructor
    · rintro ⟨h', text, rfl, rfl⟩
      exact ⟨text, rfl⟩
    · rintro ⟨text, rfl⟩
      exact ⟨h', text, rfl, rfl⟩
  · by_cases port : key.name = "port"
    · rw [if_neg host, if_pos port, placed_bind_eq_ok_iff]
      simp only [readPort_eq_ok_iff, Endpoint.mk.injEq, port, Chosen, if_true]
      constructor
      · rintro ⟨p', number, rfl, rfl⟩
        exact ⟨rfl, number⟩
      · rintro ⟨rfl, number⟩
        exact ⟨p', number, rfl, rfl⟩
    · rw [if_neg host, if_neg port, if_neg host, if_neg port]
      simp [Chosen, Pure.pure, Except.pure, eq_comm]

theorem readListenerItems_eq_ok_iff (items : List Node) (e : Endpoint) :
    readListenerItems items = .ok e ↔
      Chosen items[0]? Node.IsText defaultHost e.host ∧
        Chosen items[1]? SetsPort defaultPort e.port := by
  obtain ⟨h, p⟩ := e
  match items with
  | [] => simp [readListenerItems, Chosen, Endpoint.default, Pure.pure, Except.pure, eq_comm]
  | [a] =>
    simp only [readListenerItems, then_eq_ok_iff, readHost_eq_ok_iff, Pure.pure, Except.pure,
      Except.ok.injEq, Endpoint.default, Endpoint.mk.injEq]
    constructor
    · rintro ⟨h', text, rfl, rfl⟩
      exact ⟨text, rfl⟩
    · rintro ⟨text, same⟩
      exact ⟨h, text, rfl, Eq.symm same⟩
  | a :: b :: _ =>
    simp only [readListenerItems, then_eq_ok_iff, readHost_eq_ok_iff, readPort_eq_ok_iff, Pure.pure,
      Except.pure, Except.ok.injEq, Endpoint.mk.injEq]
    constructor
    · rintro ⟨h', text, p', number, rfl, rfl⟩
      exact ⟨text, number⟩
    · rintro ⟨text, number⟩
      exact ⟨h, text, p, number, rfl, rfl⟩

/-- A value is read as an endpoint that it sets. -/
theorem readListener_eq_ok_iff (distinct : n.Distinct) :
    readListener n = .ok e ↔ SetsListener n e := by
  unfold SetsListener
  cases n with
  | table origin entries =>
    have entry : ∀ x ∈ entries, ∀ s t, readListenerEntry s x = .ok t ↔
        Chosen (Table.get? [x] "host") Node.IsText s.host t.host ∧
          Chosen (Table.get? [x] "port") SetsPort s.port t.port :=
      fun x _ => readListenerEntry_eq_ok_iff x
    have ext : ∀ s t : Endpoint, s.host = t.host → s.port = t.port → s = t := by
      rintro ⟨h, p⟩ ⟨h', p'⟩ rfl rfl
      rfl
    have pair : ∀ h p, ∃ s : Endpoint, s.host = h ∧ s.port = p := fun h p => ⟨⟨h, p⟩, rfl, rfl⟩
    rw [readListener, foldlM_eq_ok_iff ext pair
      (Node.distinct_table_iff.1 distinct).names entry]
    simp [CanListen, Node.member?, Endpoint.default]
  | array items span => simp [readListener, readListenerItems_eq_ok_iff, CanListen, Node.member?]
  | series items => simp [readListener, readListenerItems_eq_ok_iff, CanListen, Node.member?]
  | scalar v span =>
    cases v with
    | dateTime v =>
      obtain ⟨h, p⟩ := e
      simp [readListener, CanListen, Node.member?, Chosen, Endpoint.default, Pure.pure, Except.pure,
        eq_comm]
    | _ => simp [readListener, CanListen]

theorem readEntry_eq_ok_iff (x : Key × Node) (distinct : x.2.Distinct) (s t : Config) :
    readEntry s x = .ok t ↔
      Chosen (Table.get? [x] "listener") SetsListener s.listener t.listener ∧
        Chosen (Table.get? [x] "accept_mode") SetsMode s.acceptMode t.acceptMode := by
  obtain ⟨key, n⟩ := x
  obtain ⟨e, m⟩ := s
  obtain ⟨e', m'⟩ := t
  simp only [readEntry, Table.get?_cons, Table.get?_nil]
  by_cases listener : key.name = "listener"
  · rw [if_pos listener, placed_bind_eq_ok_iff]
    simp only [readListener_eq_ok_iff distinct, Config.mk.injEq, listener, Chosen, if_true]
    constructor
    · rintro ⟨e', sets, rfl, rfl⟩
      exact ⟨sets, rfl⟩
    · rintro ⟨sets, rfl⟩
      exact ⟨e', sets, rfl, rfl⟩
  · by_cases mode : key.name = "accept_mode"
    · rw [if_neg listener, if_pos mode, placed_bind_eq_ok_iff]
      simp only [readMode_eq_ok_iff, Config.mk.injEq, mode, Chosen, if_true]
      constructor
      · rintro ⟨m', sets, rfl, rfl⟩
        exact ⟨rfl, sets⟩
      · rintro ⟨rfl, sets⟩
        exact ⟨m', sets, rfl, rfl⟩
    · rw [if_neg listener, if_neg mode, if_neg listener, if_neg mode]
      simp [Chosen, Pure.pure, Except.pure, eq_comm]

/-- A document is read as the configuration that it says, and as no other. -/
theorem ofDocument_eq_ok_iff {d : Table} {c : Config} (distinct : d.Distinct) :
    ofDocument d = .ok c ↔ c.Follows d := by
  have ext : ∀ s t : Config, s.listener = t.listener → s.acceptMode = t.acceptMode → s = t := by
    rintro ⟨e, m⟩ ⟨e', m'⟩ rfl rfl
    rfl
  have pair : ∀ e m, ∃ s : Config, s.listener = e ∧ s.acceptMode = m :=
    fun e m => ⟨⟨e, m⟩, rfl, rfl⟩
  rw [ofDocument, foldlM_eq_ok_iff ext pair distinct.names
    (fun x hx => readEntry_eq_ok_iff x (distinct.all x hx))]
  exact ⟨fun ⟨listener, mode⟩ => ⟨listener, mode⟩, fun ⟨listener, mode⟩ => ⟨listener, mode⟩⟩

theorem isText_unique (n : Node) (s s' : String) (h : n.IsText s) (h' : n.IsText s') : s = s' :=
  Except.ok.inj ((readHost_eq_ok_iff.2 h).symm.trans (readHost_eq_ok_iff.2 h'))

theorem setsPort_unique (n : Node) (p p' : UInt16) (h : SetsPort n p) (h' : SetsPort n p') :
    p = p' :=
  Except.ok.inj ((readPort_eq_ok_iff.2 h).symm.trans (readPort_eq_ok_iff.2 h'))

theorem setsMode_unique (n : Node) (m m' : AcceptMode) (h : SetsMode n m) (h' : SetsMode n m') :
    m = m' :=
  Except.ok.inj ((readMode_eq_ok_iff.2 h).symm.trans (readMode_eq_ok_iff.2 h'))

theorem chosen_unique {place : Option Node} {sets : Node → α → Prop} {default a b : α}
    (unique : ∀ n a b, sets n a → sets n b → a = b) (ha : Chosen place sets default a)
    (hb : Chosen place sets default b) : a = b := by
  cases place with
  | none => exact Eq.trans ha (Eq.symm hb)
  | some n => exact unique n a b ha hb

namespace Follows

variable {d : Table} {c : Config}

theorem host (h : c.Follows d) :
    Chosen (hostNode? d) Node.IsText defaultHost c.listener.host := by
  have listener := h.listener
  unfold Chosen at listener
  unfold hostNode?
  cases place : listenerNode? d with
  | none =>
    rw [place] at listener
    rw [listener]
    rfl
  | some n =>
    rw [place] at listener
    exact listener.2.1

theorem port (h : c.Follows d) :
    Chosen (portNode? d) SetsPort defaultPort c.listener.port := by
  have listener := h.listener
  unfold Chosen at listener
  unfold portNode?
  cases place : listenerNode? d with
  | none =>
    rw [place] at listener
    rw [listener]
    rfl
  | some n =>
    rw [place] at listener
    exact listener.2.2

/-- A document says one configuration at most. -/
theorem unique {c' : Config} (h : c.Follows d) (h' : c'.Follows d) : c = c' := by
  have host : c.listener.host = c'.listener.host := chosen_unique isText_unique h.host h'.host
  have port : c.listener.port = c'.listener.port := chosen_unique setsPort_unique h.port h'.port
  have mode : c.acceptMode = c'.acceptMode :=
    chosen_unique setsMode_unique h.acceptMode h'.acceptMode
  obtain ⟨⟨_, _⟩, _⟩ := c
  obtain ⟨⟨_, _⟩, _⟩ := c'
  cases host
  cases port
  cases mode
  rfl

theorem forever_iff (h : c.Follows d) :
    c.acceptMode = .forever ↔ ∃ n, modeNode? d = some n ∧ SetsMode n .forever := by
  have mode := h.acceptMode
  unfold Chosen at mode
  cases place : modeNode? d with
  | none =>
    rw [place] at mode
    simp [mode]
  | some n =>
    rw [place] at mode
    have mode : SetsMode n c.acceptMode := mode
    constructor
    · intro forever
      exact ⟨n, rfl, forever ▸ mode⟩
    · rintro ⟨n', same, sets⟩
      cases same
      exact setsMode_unique n _ _ mode sets

/-- A document that says nothing leaves the defaults. -/
theorem nil : Follows .default [] :=
  ⟨rfl, rfl⟩

end Follows

end CannedReply.Config
