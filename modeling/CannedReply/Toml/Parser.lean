import CannedReply.Toml.Document

/-!
The grammar of documents: keys, values, lines, and the document as a whole.
-/

namespace CannedReply.Toml

open CannedReply.Reader

/-- The number of parts that a key may have, and of arrays and tables that may stand one inside
the other. -/
def depthLimit : Nat := 79

namespace Reader

/-- A part of a key, with white space around it. -/
def paddedPart : Reader Key := do
  spaces
  let (name, span) ← located keyPart
  spaces
  return { name, span }

/-- A key: its parts before the last one, and the last one. -/
def key : Reader (List Key × Key) := do
  let first ← paddedPart
  let more ← many do
    token ['.']
    paddedPart
  guard (more.length < depthLimit)
  match more.getLast? with
  | some last => return (first :: more.dropLast, last)
  | none => return ([], first)

def scalar : Reader Node := do
  let (value, span) ← located
    (Scalar.text <$> text <|> Scalar.dateTime <$> dateTime <|> Scalar.float <$> float
      <|> Scalar.integer <$> integer
      <|> (do token ['t', 'r', 'u', 'e']; return .boolean true)
      <|> (do token ['f', 'a', 'l', 's', 'e']; return .boolean false))
  return .scalar value span

def listed {α : Type} (element : Reader α) : Reader (List α) := do
  match ← optional element with
  | none => return []
  | some first =>
    let more ← many do
      token [',']
      element
    return first :: more

/-- An array over any number of lines; a comma may follow the last element. -/
def array (element : Reader Node) : Reader Node := do
  let (items, span) ← located do
    token ['[']
    let items ← listed do
      filler
      let item ← element
      filler
      return item
    if !items.isEmpty then discard (optional (token [',']))
    filler
    token [']']
    return items
  return .array items span

def assignment (element : Reader Node) : Reader Assignment := do
  let (path, key) ← key
  token ['=']
  spaces
  let value ← element
  return { path, key, value }

/-- A table in braces, on one line and without a comma behind its last entry. -/
def braces (element : Reader Node) : Reader Node := do
  let (entries, span) ← located do
    token ['\x7b']
    let lines ← listed do
      let line ← assignment element
      spaces
      return line
    spaces
    token ['\x7d']
    match Table.assignAll [] lines with
    | some entries => return entries
    | none => failure
  return .table (.braces span) entries

/-- A value with at most `depth` arrays and tables one inside the other. -/
def value : (depth : Nat) → Reader Node
  | 0 => scalar
  | depth + 1 => array (value depth) <|> braces (value depth) <|> scalar

/-- The header of a table, or of one more element of a series in doubled brackets. -/
def header : Reader Statement := do
  let ((repeated, path, key), span) ← located
    ((do
      token ['[', '[']
      let (path, key) ← key
      token [']', ']']
      return (true, path, key))
    <|> (do
      token ['[']
      let (path, key) ← key
      token [']']
      return (false, path, key)))
  return .header repeated path key span

/-- One line, which may say nothing. -/
def line : Reader (Option Statement) := do
  if (← peek).isNone then failure
  spaces
  let statement ← match ← peek with
    | none => pure none
    | some '#' => pure none
    | some '\n' => pure none
    | some '\r' => pure none
    | some '[' => some <$> header
    | some _ => (some ∘ Statement.assign) <$> assignment (value depthLimit)
  lineEnd
  return statement

/-- The lines of a whole text, which may start with a byte order mark. -/
def document : Reader (List Statement) := do
  discard (optional (token ['\ufeff']))
  let lines ← many line
  finish
  return lines.filterMap id

end Reader

/-- The document that a text holds, if it is one. -/
def parse? (text : List Char) : Option Table := do
  let (statements, _) ← Reader.document text
  Table.ofStatements? statements

end CannedReply.Toml
