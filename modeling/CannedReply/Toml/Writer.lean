import CannedReply.Toml.Text

/-!
Documents as they are written by hand: names without quotes, texts in double quotes, numbers, and
arrays and tables of those, one assignment or header a line.
-/

namespace CannedReply.Toml

/-- A name that needs no quotes. -/
structure BareName where
  text : String
  bare : text.toList ≠ [] ∧ text.toList.all Reader.isBare = true

/-- A character between double quotes, escaped if it cannot stand there as it is. -/
def escape (c : Char) : List Char :=
  if c = '"' then ['\\', '"']
  else if c = '\\' then ['\\', '\\']
  else if c = '\x08' then ['\\', 'b']
  else if c = '\n' then ['\\', 'n']
  else if c = '\x0c' then ['\\', 'f']
  else if c = '\r' then ['\\', 'r']
  else if isOrdinary c then [c]
  else ['\\', 'u', '0', '0', Numeral.digit (c.toNat / 16), Numeral.digit (c.toNat % 16)]

/-- A value without parts, as it is written. -/
inductive Literal where
  | text (value : String)
  | number (value : UInt16)

def Literal.written : Literal → List Char
  | text value => '"' :: (value.toList.flatMap escape ++ ['"'])
  | number value => Numeral.digits 10 value.toNat

/-- Pieces of a text with commas between them. -/
def separated : List (List Char) → List Char
  | [] => []
  | first :: more => first ++ more.flatMap fun piece => ',' :: ' ' :: piece

/-- An entry of a table: its name and its value. -/
def entry (name : BareName) (value : List Char) : List Char :=
  name.text.toList ++ ' ' :: '=' :: ' ' :: value

/-- A value as it is written: without parts, as an array, or as a table in braces. -/
inductive Written where
  | plain (literal : Literal)
  | array (items : List Literal)
  | braces (entries : List (BareName × Literal))

def Written.chars : Written → List Char
  | plain literal => literal.written
  | array items => '[' :: (separated (items.map Literal.written) ++ [']'])
  | braces entries =>
    '\x7b' :: (separated (entries.map fun e => entry e.1 e.2.written) ++ ['\x7d'])

/-- A line as it is written: a value for a name, perhaps within the table of another name, or the
header of a table. -/
inductive Line where
  | assign (parent : Option BareName) (name : BareName) (value : Written)
  | header (name : BareName)

def Line.chars : Line → List Char
  | assign none name value => entry name value.chars
  | assign (some parent) name value => parent.text.toList ++ '.' :: entry name value.chars
  | header name => '[' :: (name.text.toList ++ [']'])

/-- The text of a document. -/
def written (lines : List Line) : String :=
  String.ofList (lines.flatMap fun line => line.chars ++ ['\n'])

end CannedReply.Toml
