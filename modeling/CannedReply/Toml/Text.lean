import CannedReply.Text.Numeral
import CannedReply.Toml.Reader

/-!
The four written forms of a text: in double quotes with escapes or in single quotes without, on
one line or, with the mark three times, on several.
-/

namespace CannedReply.Toml

open CannedReply.Reader

/-- The character with the code point that the first `n` hexadecimal digits give. -/
def scalar? (n : Nat) (s : List Char) : Option (Char × List Char) :=
  let ds := s.take n
  let code := Numeral.number 16 ds
  if ds.length = n ∧ ds.all (Numeral.isDigit 16) ∧ code.isValidChar then
    some (Char.ofNat code, s.drop n)
  else none

/-- The character that the text behind a backslash stands for. -/
def escaped? : List Char → Option (Char × List Char)
  | 'b' :: r => some ('\x08', r)
  | 't' :: r => some ('\t', r)
  | 'n' :: r => some ('\n', r)
  | 'f' :: r => some ('\x0c', r)
  | 'r' :: r => some ('\r', r)
  | '"' :: r => some ('"', r)
  | '\\' :: r => some ('\\', r)
  | 'u' :: r => scalar? 4 r
  | 'U' :: r => scalar? 8 r
  | _ => none

theorem length_scalar? {n : Nat} {s r : List Char} {c : Char} (h : scalar? n s = some (c, r)) :
    r.length ≤ s.length := by
  simp only [scalar?] at h
  split at h
  · cases h; simp
  · simp at h

theorem length_escaped? {s r : List Char} {c : Char} (h : escaped? s = some (c, r)) :
    r.length < s.length := by
  unfold escaped? at h
  split at h
  all_goals first
    | (cases h; simp)
    | (have hr := length_scalar? h; simp; omega)
    | simp at h

/-- What is left when the white space and the line breaks in front are gone. -/
def skipLines : List Char → List Char
  | ' ' :: r => skipLines r
  | '\t' :: r => skipLines r
  | '\n' :: r => skipLines r
  | '\r' :: '\n' :: r => skipLines r
  | s => s

theorem length_skipLines (s : List Char) : (skipLines s).length ≤ s.length := by
  fun_induction skipLines s <;> grind

/-- What a backslash at the end of a line continues with: the next text that is no white space. -/
def continued? (s : List Char) : Option (List Char) :=
  (afterBreak? (s.dropWhile isSpace)).map skipLines

theorem length_continued? {s r : List Char} (h : continued? s = some r) :
    r.length < s.length := by
  obtain ⟨t, ht, rfl⟩ := Option.map_eq_some_iff.1 h
  have := length_afterBreak? ht
  have := length_skipLines t
  have := (s.dropWhile_sublist isSpace).length_le
  omega

/-- A text in double quotes on one line, from behind its first mark to behind its last one. -/
def quotedLine (s : List Char) : Option (List Char × List Char) :=
  match s with
  | [] => none
  | c :: r =>
    if c = '"' then some ([], r)
    else if c = '\\' then
      match h : escaped? r with
      | some (d, t) =>
        have := length_escaped? h
        (quotedLine t).map fun (cs, u) => (d :: cs, u)
      | none => none
    else if isOrdinary c then (quotedLine r).map fun (cs, u) => (c :: cs, u)
    else none
termination_by s.length

/-- A text in single quotes on one line, from behind its first mark to behind its last one. -/
def literalLine : List Char → Option (List Char × List Char)
  | [] => none
  | c :: r =>
    if c = '\x27' then some ([], r)
    else if isOrdinary c then (literalLine r).map fun (cs, u) => (c :: cs, u)
    else none

/-- A text on several lines, from behind its first three marks to behind its last three. One or
two marks are text, and up to two may stand in front of the closing ones. Line breaks are read
as line feeds, and escapes only between double quotes. -/
def block (mark : Char) (s : List Char) : Option (List Char × List Char) :=
  match s with
  | [] => none
  | c :: r =>
    if c = mark then
      let marks := c :: r.takeWhile (· = mark)
      have := (r.dropWhile_sublist (· = mark)).length_le
      if marks.length < 3 then
        (block mark (r.dropWhile (· = mark))).map fun (cs, u) => (marks ++ cs, u)
      else if marks.length ≤ 5 then some (marks.drop 3, r.dropWhile (· = mark))
      else none
    else if c = '\\' ∧ mark = '"' then
      match h : continued? r with
      | some t =>
        have := length_continued? h
        block mark t
      | none =>
        match h : escaped? r with
        | some (d, t) =>
          have := length_escaped? h
          (block mark t).map fun (cs, u) => (d :: cs, u)
        | none => none
    else
      match h : afterBreak? (c :: r) with
      | some t =>
        have := length_afterBreak? h
        (block mark t).map fun (cs, u) => ('\n' :: cs, u)
      | none =>
        if isOrdinary c then (block mark r).map fun (cs, u) => (c :: cs, u) else none
termination_by s.length
decreasing_by all_goals (simp only [List.length_cons] at *; omega)

/-- A line break right behind the opening marks does not belong to the text. -/
def dropBreak (s : List Char) : List Char :=
  (afterBreak? s).getD s

/-- A text in any of its four forms, opening mark included. -/
def written? : List Char → Option (List Char × List Char)
  | '"' :: '"' :: '"' :: r => block '"' (dropBreak r)
  | '\x27' :: '\x27' :: '\x27' :: r => block '\x27' (dropBreak r)
  | '"' :: r => quotedLine r
  | '\x27' :: r => literalLine r
  | _ => none

namespace Reader

def text : Reader String := fun s =>
  (written? s).map fun (cs, r) => (String.ofList cs, r)

def isBare (c : Char) : Bool :=
  c.isAlphanum || c = '-' || c = '_'

/-- One part of a key: bare, or in quotes on one line. -/
def keyPart : Reader String := fun s =>
  match s with
  | '"' :: r => (quotedLine r).map fun (cs, u) => (String.ofList cs, u)
  | '\x27' :: r => (literalLine r).map fun (cs, u) => (String.ofList cs, u)
  | _ =>
    let cs := s.takeWhile isBare
    if cs.isEmpty then none else some (String.ofList cs, s.dropWhile isBare)

end Reader

end CannedReply.Toml
