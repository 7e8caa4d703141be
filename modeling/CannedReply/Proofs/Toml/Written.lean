import CannedReply.Proofs.Toml.Keys
import CannedReply.Proofs.Toml.Tables

/-!
A document that is written is read back, line by line: the same names, and values that hold the
same.
-/

namespace CannedReply.Toml

open CannedReply.Reader

/-- Whether a value is a literal that is read. -/
def Literal.Stands (l : Literal) (n : Node) : Prop :=
  ∃ span, n = .scalar l.scalar span

/-- Whether an entry of a table is a name and a literal that are read. -/
def EntryStands (e : BareName × Literal) (x : Key × Node) : Prop :=
  x.1.name = e.1.text ∧ e.2.Stands x.2

/-- Whether a value is a written one that is read. -/
def Written.Stands : Written → Node → Prop
  | plain l, n => l.Stands n
  | array items, n => ∃ nodes span, n = .array nodes span ∧ List.Forall₂ Literal.Stands items nodes
  | braces entries, n =>
    ∃ span t, n = .table (.braces span) t ∧ List.Forall₂ EntryStands entries t

/-- Whether a statement is a line that is read. -/
def Line.Stands : Line → Statement → Prop
  | assign parent name value, .assign a =>
    a.path.map Key.name = parent.toList.map BareName.text ∧ a.key.name = name.text ∧
      value.Stands a.value
  | header name, .header repeated path key _ =>
    repeated = false ∧ path = [] ∧ key.name = name.text
  | _, _ => False

/-- Whether no table in braces has a name twice. -/
def Written.Distinct : Written → Prop
  | braces entries => (entries.map fun e => e.1.text).Nodup
  | _ => True

def Line.Distinct : Line → Prop
  | assign _ _ value => value.Distinct
  | header _ => True

namespace Reader

variable {x : Char} {s w rest : List Char} {element : CannedReply.Reader Node}

theorem lineBreak_of_head (h : ∀ c ∈ s.head?, c ≠ '\n' ∧ c ≠ '\r') : lineBreak s = none := by
  have : afterBreak? s = none := by
    unfold afterBreak?
    split
    · exact absurd rfl (h '\n' rfl).1
    · exact absurd rfl (h '\r' rfl).2
    · rfl
  simp only [lineBreak, this, Option.map_none]

theorem comment_of_head (h : ∀ c ∈ s.head?, c ≠ '#') : comment s = none :=
  bind_of_none (token_of_head_ne h)

/-- What ends the filler between the elements of an array. -/
theorem filler_append (white : ∀ c ∈ w, isSpace c = true)
    (ink : ∀ c ∈ rest.head?, isSpace c = false ∧ c ≠ '#' ∧ c ≠ '\n' ∧ c ≠ '\r') :
    filler (w ++ rest) = some ((), rest) := by
  have space := spaces_append white fun c hc => (ink c hc).1
  have no : comment rest = none := comment_of_head fun c hc => (ink c hc).2.1
  have stop : Runs (do spaces; discard (optional comment); lineBreak) (w ++ rest) [] (w ++ rest) :=
    .stop <| by
      rw [bind_of space, bind_of (discard_of (optional_of_none no))]
      exact lineBreak_of_head fun c hc => (ink c hc).2.2
  unfold filler
  rw [bind_of (discard_of stop.many)]
  exact space

theorem filler_of_head
    (ink : ∀ c ∈ rest.head?, isSpace c = false ∧ c ≠ '#' ∧ c ≠ '\n' ∧ c ≠ '\r') :
    filler rest = some ((), rest) :=
  filler_append (w := []) nofun ink

theorem array_of_head (h : ∀ c ∈ s.head?, c ≠ '[') : array element s = none :=
  bind_of_none (located_of_none (bind_of_none (token_of_head_ne h)))

theorem braces_of_head (h : ∀ c ∈ s.head?, c ≠ '\x7b') : braces element s = none :=
  bind_of_none (located_of_none (bind_of_none (token_of_head_ne h)))

/-- What starts neither an array nor a table in braces is a value without parts. -/
theorem value_of_head (depth : Nat) (h : ∀ c ∈ s.head?, c ≠ '[' ∧ c ≠ '\x7b') :
    value depth s = scalar s := by
  cases depth with
  | zero => rfl
  | succ depth =>
    rw [value, orElse_of_none (array_of_head fun c hc => (h c hc).1),
      orElse_of_none (braces_of_head fun c hc => (h c hc).2)]

theorem head_literal (l : Literal) (rest : List Char) :
    ∃ c, (l.written ++ rest).head? = some c ∧ (c = '"' ∨ Numeral.isDigit 10 c = true) := by
  cases l with
  | text s => exact ⟨'"', rfl, .inl rfl⟩
  | number k =>
    cases digits : Numeral.digits 10 k.toNat with
    | nil => exact absurd digits (Numeral.digits_ne_nil 10 _)
    | cons d ds =>
      have digit : Numeral.isDigit 10 d = true :=
        Numeral.isDigit_of_mem_digits (by decide) (by decide) (digits ▸ List.mem_cons_self)
      refine ⟨d, ?_, .inr digit⟩
      simp [Literal.written, digits]

/-- Other characters do not start a literal. -/
theorem literal_head_ne {l : Literal} (quote : x ≠ '"') (digit : Numeral.isDigit 10 x = false) :
    ∀ c ∈ (l.written ++ rest).head?, c ≠ x := by
  obtain ⟨c, head, shape⟩ := head_literal l rest
  intro c' same
  cases head.symm.trans same
  rintro rfl
  rcases shape with shape | shape
  · exact quote shape
  · rw [digit] at shape
    cases shape

theorem isSpace_literal_head {l : Literal} :
    ∀ c ∈ (l.written ++ rest).head?, isSpace c = false := by
  intro c hc
  have tab := literal_head_ne (x := '\t') (by decide) (by decide) c hc
  have space := literal_head_ne (x := ' ') (by decide) (by decide) c hc
  simp [isSpace, tab, space]

theorem value_literal (depth : Nat) (l : Literal) (h : Closes rest) :
    ∃ n, value depth (l.written ++ rest) = some (n, rest) ∧ l.Stands n := by
  obtain ⟨span, read⟩ := scalar_written l h
  refine ⟨_, ?_, span, rfl⟩
  rw [value_of_head depth fun c hc => ⟨literal_head_ne (by decide) (by decide) c hc,
    literal_head_ne (by decide) (by decide) c hc⟩]
  exact read

section Listed

variable {ι α : Type} {P : ι → α → Prop} {write : ι → List Char} {item : CannedReply.Reader α}
  {mark : Char}

/-- Whether a reader takes what is written for each thing, in front of a comma or a mark. -/
def Takes (item : CannedReply.Reader α) (write : ι → List Char) (mark : Char)
    (P : ι → α → Prop) : Prop :=
  ∀ i pre rest, (∀ c ∈ pre, isSpace c = true) → (∃ c ∈ [',', mark], rest.head? = some c) →
    ∃ a, item (pre ++ (write i ++ rest)) = some (a, rest) ∧ P i a

/-- What follows the first of several pieces starts with a comma or is what closes the list. -/
theorem head_separated (pieces : List (List Char)) (rest : List Char) :
    ∃ c ∈ [',', mark],
      ((pieces.flatMap fun piece => ',' :: ' ' :: piece) ++ mark :: rest).head? = some c := by
  cases pieces with
  | nil => exact ⟨mark, by simp, rfl⟩
  | cons piece pieces => exact ⟨',', by simp, rfl⟩

theorem runs_separated (other : mark ≠ ',') (takes : Takes item write mark P) (is : List ι)
    (rest : List Char) :
    ∃ as, Runs (do token [',']; item)
        (((is.map write).flatMap fun piece => ',' :: ' ' :: piece) ++ mark :: rest) as
        (mark :: rest) ∧
      List.Forall₂ P is as := by
  induction is with
  | nil => exact ⟨[], .stop (bind_of_none (token_of_head_ne (by simpa using other))), .nil⟩
  | cons i is ih =>
    obtain ⟨as, rest', all⟩ := ih
    obtain ⟨a, first, holds⟩ :=
      takes i [' '] _ (List.forall_mem_singleton.2 rfl) (head_separated (is.map write) rest)
    refine ⟨a :: as, .step ?_ ?_ rest', .cons holds all⟩
    · rw [List.map_cons, List.flatMap_cons, List.append_assoc]
      exact (bind_of (token_cons ',' _)).trans first
    · simp
      omega

/-- Pieces with commas between them are read one after the other. -/
theorem listed_separated (other : mark ≠ ',') (takes : Takes item write mark P)
    (is : List ι) (rest : List Char) (nothing : item (mark :: rest) = none) :
    ∃ as, listed item (separated (is.map write) ++ mark :: rest) = some (as, mark :: rest) ∧
      List.Forall₂ P is as := by
  unfold listed
  cases is with
  | nil =>
    rw [List.map_nil, separated, List.nil_append, bind_of (optional_of_none nothing)]
    exact ⟨[], rfl, .nil⟩
  | cons i is =>
    obtain ⟨as, rest', all⟩ := runs_separated other takes is rest
    obtain ⟨a, first, holds⟩ := takes i [] _ nofun (head_separated (is.map write) rest)
    rw [List.nil_append] at first
    rw [List.map_cons, separated, List.append_assoc, bind_of (optional_of first)]
    dsimp only
    rw [bind_of rest'.many]
    exact ⟨a :: as, rfl, .cons holds all⟩

end Listed

/-- Nothing starts with a closing bracket. -/
theorem scalar_bracket (rest : List Char) : scalar (']' :: rest) = none := by
  have quotes : text (']' :: rest) = none := text_of_head (by rintro c ⟨⟩; decide)
  have moment : dateTime (']' :: rest) = none := dateTime_of_head (by rintro c ⟨⟩; decide)
  -- the other alternatives fail at the bracket whatever follows it
  have alternatives : (Scalar.text <$> text <|> Scalar.dateTime <$> dateTime
      <|> Scalar.float <$> float <|> Scalar.integer <$> integer
      <|> (do token ['t', 'r', 'u', 'e']; return .boolean true)
      <|> (do token ['f', 'a', 'l', 's', 'e']; return .boolean false)) (']' :: rest) = none := by
    rw [orElse_of_none (map_of_none _ quotes), orElse_of_none (map_of_none _ moment),
      orElse_of_none rfl, orElse_of_none rfl, orElse_of_none rfl]
    rfl
  exact bind_of_none (located_of_none alternatives)

theorem value_bracket (depth : Nat) (rest : List Char) : value depth (']' :: rest) = none :=
  (value_of_head depth (by simp)).trans (scalar_bracket rest)

/-- An element of an array is read to the comma or the bracket behind it. -/
theorem takes_item (depth : Nat) :
    Takes (do filler; let item ← value depth; filler; return item) Literal.written ']'
      Literal.Stands := by
  intro l pre rest white next
  obtain ⟨c, mark, head⟩ := next
  have known : ∀ c ∈ [',', ']'],
      c ∈ closers ∧ isSpace c = false ∧ c ≠ '#' ∧ c ≠ '\n' ∧ c ≠ '\r' :=
    List.all_iff_forall_prop.1 (by decide)
  obtain ⟨n, read, stands⟩ := value_literal depth l ⟨c, (known c mark).1, head⟩
  refine ⟨n, ?_, stands⟩
  rw [bind_of (filler_append white ?_), bind_of read, bind_of (filler_of_head ?_)]
  · rfl
  · intro c' same
    cases head.symm.trans same
    exact (known c mark).2
  · intro c hc
    exact ⟨isSpace_literal_head c hc, literal_head_ne (by decide) (by decide) c hc,
      literal_head_ne (by decide) (by decide) c hc, literal_head_ne (by decide) (by decide) c hc⟩

/-- An entry of a table in braces is read to the comma or the brace behind it. -/
theorem takes_entry (depth : Nat) :
    Takes (do let line ← assignment (value depth); spaces; return line)
      (fun e : BareName × Literal => entry e.1 e.2.written) '\x7d'
      (fun e line => line.path = [] ∧ EntryStands e (line.key, line.value)) := by
  intro e pre rest white next
  obtain ⟨c, mark, head⟩ := next
  have known : ∀ c ∈ [',', '\x7d'], c ∈ closers ∧ isSpace c = false :=
    List.all_iff_forall_prop.1 (by decide)
  obtain ⟨n, right, stands⟩ := value_literal depth e.2 ⟨c, (known c mark).1, head⟩
  obtain ⟨k, read, named⟩ := assignment_entry e.1 pre white isSpace_literal_head right
  refine ⟨⟨[], k, n⟩, ?_, rfl, named, stands⟩
  rw [bind_of read, bind_of (spaces_of_head ?_)]
  · rfl
  · intro c' same
    cases head.symm.trans same
    exact (known c mark).2

theorem array_written (depth : Nat) (items : List Literal) (rest : List Char) :
    ∃ n, array (value depth) ((Written.array items).chars ++ rest) = some (n, rest) ∧
      (Written.array items).Stands n := by
  have nothing : (do filler; let item ← value depth; filler; return item) (']' :: rest) = none := by
    rw [bind_of (filler_of_head (by simp [isSpace]))]
    exact bind_of_none (value_bracket depth rest)
  obtain ⟨nodes, listed, all⟩ := listed_separated (by decide) (takes_item depth) items rest nothing
  have chars : (Written.array items).chars ++ rest
      = '[' :: (separated (items.map Literal.written) ++ ']' :: rest) := by
    simp [Written.chars]
  unfold array
  rw [chars, bind_of (located_of (a := nodes) (t := rest) ?_)]
  · exact ⟨_, rfl, nodes, _, rfl, all⟩
  · rw [bind_of (token_cons '[' _), bind_of listed]
    have closing : (do filler; token [']']; return nodes) (']' :: rest) = some (nodes, rest) := by
      rw [bind_of (filler_of_head (by simp [isSpace])), bind_of (token_cons ']' rest)]
      rfl
    have comma : token [','] (']' :: rest) = none := token_of_head_ne (by simp)
    -- only behind an element is a last comma looked for, and there is none
    cases nodes with
    | nil => exact closing
    | cons node nodes =>
      exact (bind_of (discard_of (optional_of_none comma))).trans closing

theorem braces_written (depth : Nat) (entries : List (BareName × Literal))
    (distinct : (entries.map fun e => e.1.text).Nodup) (rest : List Char) :
    ∃ n, braces (value depth) ((Written.braces entries).chars ++ rest) = some (n, rest) ∧
      (Written.braces entries).Stands n := by
  have nothing : (do let line ← assignment (value depth); spaces; return line) ('\x7d' :: rest)
      = none := by
    have noKey : paddedPart ('\x7d' :: rest) = none :=
      (bind_of (spaces_of_head (by simp [isSpace]))).trans (bind_of_none (located_of_none rfl))
    exact bind_of_none (bind_of_none (bind_of_none noKey))
  obtain ⟨lines, listed, all⟩ :=
    listed_separated (by decide) (takes_entry depth) entries rest nothing
  have chars : (Written.braces entries).chars ++ rest
      = '\x7b' :: (separated (entries.map fun e => entry e.1 e.2.written) ++ '\x7d' :: rest) := by
    simp [Written.chars]
  obtain ⟨t, assigned, stand⟩ :=
    Table.assignAll_of_forall₂ (t := []) (fun _ _ h => h.1) all distinct
  rw [List.nil_append] at assigned
  unfold braces
  rw [chars, bind_of (located_of (a := t) (t := rest) ?_)]
  · exact ⟨_, rfl, _, t, rfl, stand⟩
  · rw [bind_of (token_cons '\x7b' _), bind_of listed,
      bind_of (spaces_of_head (by simp [isSpace])), bind_of (token_cons '\x7d' rest), assigned]
    rfl

/-- A value is read as what was written. -/
theorem value_written {v : Written} (distinct : v.Distinct) (h : Closes rest) :
    ∃ n, value depthLimit (v.chars ++ rest) = some (n, rest) ∧ v.Stands n := by
  -- an array or a table takes one of the levels that the limit leaves
  have levels : depthLimit = 78 + 1 := rfl
  rw [levels, value]
  cases v with
  | plain l => exact value_literal (78 + 1) l h
  | array items =>
    obtain ⟨n, read, stands⟩ := array_written 78 items rest
    exact ⟨n, orElse_of read, stands⟩
  | braces entries =>
    obtain ⟨n, read, stands⟩ := braces_written 78 entries distinct rest
    have other : array (value 78) ((Written.braces entries).chars ++ rest) = none :=
      array_of_head (by simp [Written.chars])
    exact ⟨n, (orElse_of_none other).trans (orElse_of read), stands⟩

theorem isSpace_written_head {v : Written} : ∀ c ∈ (v.chars ++ rest).head?, isSpace c = false := by
  cases v with
  | plain l => exact isSpace_literal_head
  | array items => simp [Written.chars, isSpace]
  | braces entries => simp [Written.chars, isSpace]

theorem lineEnd_break (rest : List Char) : lineEnd ('\n' :: rest) = some ((), rest) := by
  have no : comment ('\n' :: rest) = none := comment_of_head (by simp)
  unfold lineEnd
  rw [bind_of (spaces_of_head (by simp [isSpace])), bind_of (discard_of (optional_of_none no)),
    orElse_of (a := ()) (t := rest) rfl]

theorem header_written (name : BareName) (rest : List Char) :
    ∃ statement, header ((Line.header name).chars ++ rest) = some (statement, rest) ∧
      (Line.header name).Stands statement := by
  obtain ⟨k, part, named⟩ := paddedPart_bare name [] [] (']' :: rest)
    nofun nofun (by simp [isSpace, isBare])
  have key := key_of_paddedPart part (by simp)
  have chars : (Line.header name).chars ++ rest = '[' :: (name.text.toList ++ ']' :: rest) := by
    simp [Line.chars]
  have single : token ['[', '['] ('[' :: (name.text.toList ++ ']' :: rest)) = none :=
    token_cons_of_none (token_of_head_ne (bare_head_ne (by decide)))
  unfold header
  rw [chars, bind_of (located_of (a := (false, [], k)) (t := rest) ?_)]
  · exact ⟨_, rfl, rfl, rfl, named⟩
  · rw [orElse_of_none (bind_of_none single), bind_of (token_cons '[' _)]
    exact (bind_of key).trans (bind_of (token_cons ']' rest))

theorem line_header (name : BareName) (rest : List Char) :
    ∃ statement, line ((Line.header name).chars ++ '\n' :: rest) = some (some statement, rest) ∧
      (Line.header name).Stands statement := by
  obtain ⟨statement, read, stands⟩ := header_written name ('\n' :: rest)
  refine ⟨statement, ?_, stands⟩
  unfold line
  refine (bind_peek (if_neg (by simp [Line.chars]))).trans ?_
  dsimp only
  rw [bind_of (spaces_of_head (by simp [Line.chars, isSpace]))]
  refine (bind_peek (r := do
    let statement ← some <$> header
    lineEnd
    return statement) rfl).trans ?_
  rw [bind_of (map_of some read), bind_of (lineEnd_break rest)]
  rfl

/-- A line that starts with a bare name is an assignment. -/
theorem line_bare {s : List Char} (head : ∃ c, s.head? = some c ∧ isBare c = true) :
    line s = (do
      let a ← assignment (value depthLimit)
      lineEnd
      return some (Statement.assign a)) s := by
  obtain ⟨c, head, bare⟩ := head
  have ink : isSpace c = false := by
    refine Bool.eq_false_iff.2 fun white => ?_
    rw [isBare_of_isSpace white] at bare
    cases bare
  have plain : ∀ x, isBare x = false → some c ≠ some x := by
    rintro x other ⟨⟩
    rw [other] at bare
    cases bare
  unfold line
  refine (bind_peek (if_neg (by simp [head]))).trans ?_
  dsimp only
  rw [bind_of (spaces_of_head (by simpa [head] using ink))]
  refine (bind_peek (r := do
    let statement ← (some ∘ Statement.assign) <$> assignment (value depthLimit)
    lineEnd
    return statement) ?_).trans ?_
  · rw [head]
    -- what starts another kind of line is not bare
    split
    · next same => cases same
    · next same => exact absurd same (plain _ (by decide))
    · next same => exact absurd same (plain _ (by decide))
    · next same => exact absurd same (plain _ (by decide))
    · next same => exact absurd same (plain _ (by decide))
    · rfl
  · cases read : assignment (value depthLimit) s with
    | none => rw [bind_of_none (map_of_none _ read), bind_of_none read]
    | some a => rw [bind_of (map_of _ read), bind_of read]; rfl

theorem line_assign {s : List Char} {a : Assignment}
    (head : ∃ c, s.head? = some c ∧ isBare c = true)
    (read : assignment (value depthLimit) s = some (a, '\n' :: rest)) :
    line s = some (some (.assign a), rest) := by
  rw [line_bare head, bind_of read, bind_of (lineEnd_break rest)]
  rfl

theorem line_of_none {s : List Char} (head : ∃ c, s.head? = some c ∧ isBare c = true)
    (read : assignment (value depthLimit) s = none) : line s = none :=
  (line_bare head).trans (bind_of_none read)

/-- A line is read as what was written, with the break behind it. -/
theorem line_written {l : Line} (distinct : l.Distinct) (rest : List Char) :
    ∃ statement, line (l.chars ++ '\n' :: rest) = some (some statement, rest) ∧
      l.Stands statement := by
  have closes : Closes ('\n' :: rest) := ⟨'\n', by decide, rfl⟩
  match l with
  | .header name => exact line_header name rest
  | .assign none name v =>
    obtain ⟨n, right, stands⟩ := value_written distinct closes
    obtain ⟨k, read, named⟩ := assignment_entry name [] nofun isSpace_written_head right
    exact ⟨_, line_assign (head_entry _ _ _) read, rfl, named, stands⟩
  | .assign (some parent) name v =>
    obtain ⟨n, right, stands⟩ := value_written distinct closes
    obtain ⟨p, k, read, same, named⟩ :=
      assignment_within parent name isSpace_written_head right
    rw [Line.chars, List.append_assoc, List.cons_append]
    exact ⟨_, line_assign (head_bare _ _) read, congrArg (fun name => [name]) same, named, stands⟩

theorem head_line (l : Line) (rest : List Char) :
    ∃ c, (l.chars ++ rest).head? = some c ∧ (c = '[' ∨ isBare c = true) := by
  match l with
  | .header name => exact ⟨'[', rfl, .inl rfl⟩
  | .assign none name v =>
    obtain ⟨c, head, bare⟩ := head_entry name v.chars rest
    exact ⟨c, head, .inr bare⟩
  | .assign (some parent) name v =>
    rw [Line.chars, List.append_assoc]
    obtain ⟨c, head, bare⟩ := head_bare parent ('.' :: entry name v.chars ++ rest)
    exact ⟨c, head, .inr bare⟩

/-- What is written starts without a byte order mark. -/
theorem token_mark_written (lines : List Line) :
    token ['\ufeff'] (lines.flatMap fun l => l.chars ++ ['\n']) = none := by
  cases lines with
  | nil => rfl
  | cons l lines =>
    refine token_of_head_ne ?_
    rw [List.flatMap_cons, List.append_assoc]
    obtain ⟨c, head, shape⟩ := head_line l (['\n'] ++ lines.flatMap fun l => l.chars ++ ['\n'])
    rw [head]
    rintro c' ⟨⟩ rfl
    rcases shape with shape | shape
    · exact absurd shape (by decide)
    · exact absurd shape (by decide)

theorem runs_written {lines : List Line} (distinct : ∀ l ∈ lines, l.Distinct) :
    ∃ statements, Runs line (lines.flatMap fun l => l.chars ++ ['\n']) (statements.map some) [] ∧
      List.Forall₂ Line.Stands lines statements := by
  induction lines with
  | nil => exact ⟨[], .stop rfl, .nil⟩
  | cons l lines ih =>
    rw [List.forall_mem_cons] at distinct
    obtain ⟨statements, runs, all⟩ := ih distinct.2
    obtain ⟨statement, first, stands⟩ :=
      line_written distinct.1 (lines.flatMap fun l => l.chars ++ ['\n'])
    refine ⟨statement :: statements, ?_, .cons stands all⟩
    rw [List.flatMap_cons, List.append_assoc]
    refine .step first ?_ runs
    simp
    omega

end Reader

/-- A text of which lines are read up to some point is a document if that is its end. -/
theorem Reader.document_of_runs {s t : List Char} {lines : List (Option Statement)}
    (mark : token ['\ufeff'] s = none) (runs : Runs line s lines t) :
    document s = if t.isEmpty then some (lines.filterMap id, t) else none := by
  unfold document
  rw [bind_of (discard_of (optional_of_none mark)), bind_of runs.many]
  cases t <;> rfl

/-- A document is read as the statements that were written. -/
theorem parse?_written {lines : List Line} (distinct : ∀ l ∈ lines, l.Distinct) :
    ∃ statements, parse? (written lines).toList = Table.ofStatements? statements ∧
      List.Forall₂ Line.Stands lines statements := by
  obtain ⟨statements, runs, all⟩ := Reader.runs_written distinct
  refine ⟨statements, ?_, all⟩
  have said : (statements.map some).filterMap id = statements := by simp [List.filterMap_map]
  have document := Reader.document_of_runs (Reader.token_mark_written lines) runs
  rw [List.isEmpty_nil, if_pos rfl, said] at document
  simp only [parse?, written, String.toList_ofList, document]
  rfl

end CannedReply.Toml
