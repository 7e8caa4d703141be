import CannedReply.Text.Reader

/-!
What the grammar of documents is made of: stretches of the text, white space, line breaks and
comments.
-/

namespace CannedReply.Toml

open CannedReply.Reader

/-- A stretch of a text, given by what is left of the text at its two ends. -/
structure Span where
  start : List Char
  stop : List Char
  deriving DecidableEq, Repr

/-- The value of the reader with the stretch of text that it took. -/
def Reader.located {α : Type} (r : Reader α) : Reader (α × Span) := fun s =>
  match r s with
  | some (a, t) => some ((a, ⟨s, t⟩), t)
  | none => none

/-- The white space within a line: tab and space. -/
def isSpace (c : Char) : Bool :=
  c = '\t' || c = ' '

/-- What may stand in a comment, and unescaped in a text: no control character but the tab. -/
def isOrdinary (c : Char) : Bool :=
  c = '\t' || 0x20 ≤ c.toNat && c.toNat ≠ 0x7f

def afterBreak? : List Char → Option (List Char)
  | '\n' :: r => some r
  | '\r' :: '\n' :: r => some r
  | _ => none

theorem length_afterBreak? {s r : List Char} (h : afterBreak? s = some r) :
    r.length < s.length := by
  unfold afterBreak? at h
  split at h
  · cases h
    exact Nat.lt_add_one _
  · cases h
    exact Nat.lt_succ_of_lt (Nat.lt_add_one _)
  · contradiction

namespace Reader

def spaces : Reader Unit :=
  discard (run isSpace)

def lineBreak : Reader Unit := fun s =>
  (afterBreak? s).map fun r => ((), r)

/-- A comment, up to the end of its line. -/
def comment : Reader Unit := do
  token ['#']
  discard (run isOrdinary)

/-- The rest of a line: spaces, a comment if there is one, and the break or the end of the text. -/
def lineEnd : Reader Unit := do
  spaces
  discard (optional comment)
  lineBreak <|> finish

/-- Spaces, comments and line breaks between the elements of an array. -/
def filler : Reader Unit := do
  discard (many do
    spaces
    discard (optional comment)
    lineBreak)
  spaces

end Reader

end CannedReply.Toml
