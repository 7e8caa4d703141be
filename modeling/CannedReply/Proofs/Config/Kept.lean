import CannedReply.Proofs.Config.Loading

/-!
A setting counts or is refused. What stands in a place is taken as it is or ends the reading, and
only an empty place leaves a default. Nothing but these places counts: two texts that say the same
there are read alike, whatever else is in them and wherever it stands.
-/

namespace CannedReply

namespace Toml

/-- What a value says, apart from where it stands and how it was written. -/
inductive Value where
  | scalar (value : Scalar)
  | list (items : List Value)
  | table (entries : List (String × Value))

theorem sizeOf_snd_lt_of_mem {α β : Type} [SizeOf α] [SizeOf β] {x : α × β} {xs : List (α × β)}
    (mem : x ∈ xs) : sizeOf x.2 < sizeOf xs := by
  have whole := List.sizeOf_lt_of_mem mem
  obtain ⟨a, b⟩ := x
  rw [Prod.mk.sizeOf_spec] at whole
  dsimp only
  omega

namespace Node

def value : Node → Value
  | scalar value _ => .scalar value
  | array items _ => .list (items.map value)
  | table _ entries => .table (entries.map fun e => (e.1.name, e.2.value))
  | series items => .list (items.map fun i => .table (i.2.map fun e => (e.1.name, e.2.value)))
decreasing_by
  · decreasing_tactic
  · next mem =>
    have entry := sizeOf_snd_lt_of_mem mem
    decreasing_tactic
  · next item mem =>
    have entry := sizeOf_snd_lt_of_mem mem
    have table := sizeOf_snd_lt_of_mem item
    decreasing_tactic

variable {n : Node}

theorem isText_iff_value {s : String} : n.IsText s ↔ n.value = .scalar (.text s) := by
  cases n <;> simp [IsText, value]

theorem isInteger_iff_value {k : Int} : n.IsInteger k ↔ n.value = .scalar (.integer k) := by
  cases n <;> simp [IsInteger, value]

theorem holdsNothing_iff_value :
    n.HoldsNothing ↔ n.value = .table [] ∨ n.value = .list [] := by
  cases n <;> simp [HoldsNothing, value]

theorem value_eq_table_singleton_iff {name : String} {v : Value} :
    n.value = .table [(name, v)] ↔
      ∃ origin key inner, n = .table origin [(key, inner)] ∧ key.name = name ∧ inner.value = v := by
  constructor
  · intro same
    cases n with
    | table origin entries =>
      match entries with
      | [(key, inner)] => exact ⟨origin, key, inner, rfl, by simpa [value] using same⟩
      | [] | _ :: _ :: _ => simp [value] at same
    | scalar | array | series => simp [value] at same
  · rintro ⟨origin, key, inner, rfl, rfl, rfl⟩
    simp [value]

end Node

end Toml

namespace Config

open Toml

variable {α : Type} {place place' : Option Node} {sets : Node → α → Prop} {default : α}
  {d d' : Table} {c : Config} {text : String}

theorem setsMode_iff_value {n : Node} {m : AcceptMode} :
    SetsMode n m ↔ n.value = .scalar (.text m.word) ∨ n.value = .table [(m.word, .table [])] ∨
      n.value = .table [(m.word, .list [])] := by
  simp only [SetsMode, Node.isText_iff_value, Node.holdsNothing_iff_value,
    Node.value_eq_table_singleton_iff, ← exists_or, ← and_or_left]

/-- Whether what a value sets can be told from what it says. -/
def TakesValues (sets : Node → α → Prop) : Prop :=
  ∀ n n' : Node, n.value = n'.value → ∀ a, sets n a ↔ sets n' a

theorem takesValues_isText : TakesValues Node.IsText := by
  intro n n' same s
  rw [Node.isText_iff_value, Node.isText_iff_value, same]

theorem takesValues_setsPort : TakesValues SetsPort := by
  intro n n' same p
  rw [SetsPort, SetsPort, Node.isInteger_iff_value, Node.isInteger_iff_value, same]

theorem takesValues_setsMode : TakesValues SetsMode := by
  intro n n' same m
  rw [setsMode_iff_value, setsMode_iff_value, same]

theorem chosen_congr (takes : TakesValues sets)
    (same : place.map Node.value = place'.map Node.value) (a : α) :
    Chosen place sets default a ↔ Chosen place' sets default a := by
  cases place with
  | none =>
    obtain rfl : place' = none := by simpa using same.symm
    rfl
  | some n =>
    obtain ⟨n', rfl, alike⟩ : ∃ n', place' = some n' ∧ n'.value = n.value := by
      simpa using same.symm
    exact takes n n' alike.symm a

theorem exists_chosen_iff (default : α) :
    (∃ a, Chosen place sets default a) ↔ ∀ n, place = some n → ∃ a, sets n a := by
  cases place with
  | none => simp [Chosen]
  | some n => simp [Chosen]

/-- Whether a document's listener, if there is one, is a value that can hold its settings. -/
def Listens (d : Table) : Prop :=
  ∀ n, listenerNode? d = some n → CanListen n

/-- A document says a configuration with what stands in each of the places. -/
theorem follows_iff :
    c.Follows d ↔ Listens d ∧
      Chosen (hostNode? d) Node.IsText defaultHost c.listener.host ∧
      Chosen (portNode? d) SetsPort defaultPort c.listener.port ∧
      Chosen (modeNode? d) SetsMode .once c.acceptMode := by
  have listener : Chosen (listenerNode? d) SetsListener .default c.listener ↔ Listens d ∧
      Chosen (hostNode? d) Node.IsText defaultHost c.listener.host ∧
        Chosen (portNode? d) SetsPort defaultPort c.listener.port := by
    obtain ⟨⟨h, p⟩, m⟩ := c
    unfold Listens hostNode? portNode?
    cases listenerNode? d with
    | none => simp [Chosen, Endpoint.default]
    | some n => simp [Chosen, SetsListener]
  constructor
  · rintro ⟨sets, mode⟩
    obtain ⟨listens, host, port⟩ := listener.1 sets
    exact ⟨listens, host, port, mode⟩
  · rintro ⟨listens, host, port, mode⟩
    exact ⟨listener.2 ⟨listens, host, port⟩, mode⟩

/-- A document says a configuration if none of the places holds what does not belong there. -/
theorem exists_follows_iff :
    (∃ c : Config, c.Follows d) ↔ Listens d ∧
      (∀ n, hostNode? d = some n → ∃ s, n.IsText s) ∧
      (∀ n, portNode? d = some n → ∃ p, SetsPort n p) ∧
      ∀ n, modeNode? d = some n → ∃ m, SetsMode n m := by
  rw [← exists_chosen_iff defaultHost, ← exists_chosen_iff defaultPort,
    ← exists_chosen_iff AcceptMode.once]
  constructor
  · rintro ⟨c, follows⟩
    obtain ⟨listens, host, port, mode⟩ := follows_iff.1 follows
    exact ⟨listens, ⟨_, host⟩, ⟨_, port⟩, ⟨_, mode⟩⟩
  · rintro ⟨listens, ⟨h, host⟩, ⟨p, port⟩, ⟨m, mode⟩⟩
    exact ⟨⟨⟨h, p⟩, m⟩, follows_iff.2 ⟨listens, host, port, mode⟩⟩

theorem misfit_iff (document : Toml.parse? text.toList = some d) :
    (∃ report, parse text = .error (.misfit report)) ↔ ¬∃ c : Config, c.Follows d := by
  have read := fun c => ofDocument_eq_ok_iff (c := c) (Toml.distinct_of_parse document)
  simp only [← read, parse, document]
  cases ofDocument d with
  | error r => simp
  | ok c => cases checked : c.validate <;> simp [checked, Except.mapError]

/-- Whether two documents say the same in the places of the settings. -/
structure SameSettings (d d' : Table) : Prop where
  listens : Listens d ↔ Listens d'
  host : (hostNode? d).map Node.value = (hostNode? d').map Node.value
  port : (portNode? d).map Node.value = (portNode? d').map Node.value
  mode : (modeNode? d).map Node.value = (modeNode? d').map Node.value

theorem SameSettings.follows_iff (same : SameSettings d d') : c.Follows d ↔ c.Follows d' := by
  rw [Config.follows_iff, Config.follows_iff, same.listens,
    chosen_congr takesValues_isText same.host, chosen_congr takesValues_setsPort same.port,
    chosen_congr takesValues_setsMode same.mode]

theorem toOption_eq_of_iff {ε ε' : Type} {x : Except ε α} {y : Except ε' α}
    (same : ∀ a, x = .ok a ↔ y = .ok a) : x.toOption = y.toOption := by
  cases x with
  | ok a => rw [(same a).1 rfl]; rfl
  | error e =>
    cases y with
    | ok a => exact absurd ((same a).2 rfl) nofun
    | error e' => rfl

/-- A setting is taken as it stands or the text is refused for it, and only where nothing stands
is there a default. Apart from the settings nothing counts. What slips through is a date or a time
for the listener: it is taken for a table with nothing in it. -/
theorem settings_are_kept_or_refused {text : String} {d : Table}
    (document : Toml.parse? text.toList = some d) :
    (∀ c, parse text = .ok c ↔ Listens d ∧
      Chosen (hostNode? d) Node.IsText defaultHost c.listener.host ∧
      Chosen (portNode? d) SetsPort defaultPort c.listener.port ∧
      Chosen (modeNode? d) SetsMode .once c.acceptMode ∧ IsHost c.listener.host) ∧
    ((∃ report, parse text = .error (.misfit report)) ↔
      (∃ n, listenerNode? d = some n ∧ ¬CanListen n) ∨
      (∃ n, hostNode? d = some n ∧ ∀ s, ¬n.IsText s) ∨
      (∃ n, portNode? d = some n ∧ ∀ p, ¬SetsPort n p) ∨
      ∃ n, modeNode? d = some n ∧ ∀ m, ¬SetsMode n m) ∧
    (∀ v span c, listenerNode? d = some (.scalar (.dateTime v) span) → parse text = .ok c →
      c.listener = .default) ∧
    ∀ text' d', Toml.parse? text'.toList = some d' → SameSettings d d' →
      (parse text').toOption = (parse text).toOption := by
  have accepted : ∀ {text d}, Toml.parse? text.toList = some d → ∀ c,
      parse text = .ok c ↔ c.Follows d ∧ IsHost c.listener.host := by
    intro text d document c
    rw [parse_eq_ok_iff, document]
    simp
  refine ⟨fun c => ?_, ?_, fun v span c date ok => ?_, fun text' d' document' same => ?_⟩
  · rw [accepted document, follows_iff]
    simp only [and_assoc]
  · rw [misfit_iff document, exists_follows_iff]
    simp only [Listens, not_and_or, not_forall, not_exists, exists_prop]
  · have follows : c.Follows d := ((accepted document c).1 ok).1
    have listener : Chosen (listenerNode? d) SetsListener .default c.listener := follows.listener
    rw [date] at listener
    have host : c.listener.host = defaultHost := listener.2.1
    have port : c.listener.port = defaultPort := listener.2.2
    calc c.listener = ⟨c.listener.host, c.listener.port⟩ := rfl
      _ = .default := by rw [host, port]; rfl
  · refine toOption_eq_of_iff fun c => ?_
    rw [accepted document, accepted document', same.follows_iff]

theorem kept_from_a_list_and_a_table_of_one_name :
    ∃ d, Toml.parse? "listener = ['h', 80, 1]\naccept_mode.forever = []\n".toList = some d ∧
      Chosen (hostNode? d) Node.IsText defaultHost "h" ∧
      Chosen (portNode? d) SetsPort defaultPort 80 ∧
      Chosen (modeNode? d) SetsMode .once .forever := by
  have reads : (Toml.parse?
      "listener = ['h', 80, 1]\naccept_mode.forever = []\n".toList).isSome = true := by
    decide +kernel
  obtain ⟨d, document⟩ := Option.isSome_iff_exists.1 reads
  obtain ⟨accepted, -, -, -⟩ := settings_are_kept_or_refused document
  obtain ⟨-, host, port, mode, -⟩ := (accepted ⟨⟨"h", 80⟩, .forever⟩).1 (by decide +kernel)
  exact ⟨d, document, host, port, mode⟩

/-- Whether a value is a date, a time of day, or both. -/
def isDateTime : Toml.Node → Bool
  | .scalar (.dateTime _) _ => true
  | _ => false

/-- Dates are not for listening, and yet the text counts as one without settings. -/
theorem date_for_a_listener_leaves_the_default :
    ∃ d v span, Toml.parse? "listener = 1979-05-27\n".toList = some d ∧
      listenerNode? d = some (.scalar (.dateTime v) span) ∧
      parse "listener = 1979-05-27\n" = .ok .default := by
  have date : ((Toml.parse? "listener = 1979-05-27\n".toList).bind listenerNode?).any
      isDateTime = true := by decide +kernel
  obtain ⟨n, found, isDate⟩ := (Option.any_eq_true _ _).1 date
  obtain ⟨d, document, listener⟩ := Option.bind_eq_some_iff.1 found
  unfold isDateTime at isDate
  split at isDate
  · exact ⟨d, _, _, document, listener, by decide +kernel⟩
  · cases isDate

end Config

end CannedReply
