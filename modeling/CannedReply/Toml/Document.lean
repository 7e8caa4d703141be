import CannedReply.Toml.DateTime

/-!
Documents: values with their places in the text, and the tables that assignments and headers
build up. A name is given once, and how a table came about decides what may still be added to it.
-/

namespace CannedReply.Toml

/-- One part of a key, and where it stands. -/
structure Key where
  name : String
  span : Span

/-- A value without parts. -/
inductive Scalar where
  | text (value : String)
  | integer (value : Int)
  | float (value : Binary64)
  | boolean (value : Bool)
  | dateTime (value : DateTime)
  deriving DecidableEq, Repr

/-- How a table came about: written in braces, under a header of its own, as a parent of such a
table, or through a key with dots. -/
inductive Origin where
  | braces (span : Span)
  | header (span : Span)
  | implied
  | dotted
  deriving DecidableEq, Repr

/-- A value of a document. A series is an array whose elements have a header each. -/
inductive Node where
  | scalar (value : Scalar) (span : Span)
  | array (items : List Node) (span : Span)
  | table (origin : Origin) (entries : List (Key × Node))
  | series (items : List (Span × List (Key × Node)))

/-- The entries of a table, in the order in which they came about. -/
abbrev Table := List (Key × Node)

/-- Where a value stands. Tables that come from keys alone stand nowhere, and a series reaches
from its first element to its last. -/
def Node.span? : Node → Option Span
  | scalar _ span => some span
  | array _ span => some span
  | table (.braces span) _ => some span
  | table (.header span) _ => some span
  | table .implied _ => none
  | table .dotted _ => none
  | series items =>
    match items.head?, items.getLast? with
    | some (first, _), some (last, _) => some ⟨first.start, last.stop⟩
    | _, _ => none

namespace Table

def get? (t : Table) (name : String) : Option Node :=
  (t.find? fun entry => entry.1.name = name).map (·.2)

/-- The table with a new entry behind the others, unless its name is taken. -/
def insert? (t : Table) (key : Key) (node : Node) : Option Table :=
  if (t.get? key.name).isSome then none else some (t ++ [(key, node)])

/-- The table with another value under a name that it holds. -/
def replace (t : Table) (name : String) (node : Node) : Table :=
  t.map fun entry => if entry.1.name = name then (entry.1, node) else entry

def remove (t : Table) (name : String) : Table :=
  t.filter fun entry => entry.1.name ≠ name

def onLast (items : List (Span × Table)) (edit : Table → Option Table) :
    Option (List (Span × Table)) := do
  let (span, last) ← items.getLast?
  return items.dropLast ++ [(span, ← edit last)]

/-- Adds a value under a key with dots. The parts before the last one name tables that are made
here, or were by such keys; on the way to those, parents of headers and series are passed. -/
def assign : (path : List Key) → (key : Key) → Node → Table → Option Table
  | [], key, node, t => t.insert? key node
  | step :: path, key, node, t =>
    match t.get? step.name with
    | none => do return t ++ [(step, .table .dotted (← assign path key node []))]
    | some (.table .dotted entries) => do
      return t.replace step.name (.table .dotted (← assign path key node entries))
    | some (.table .implied entries) => do
      guard (!path.isEmpty)
      return t.replace step.name (.table .implied (← assign path key node entries))
    | some (.series items) => do
      guard (!path.isEmpty)
      return t.replace step.name (.series (← onLast items (assign path key node)))
    | some _ => none

/-- Changes the table that a header's path leads to. Missing parents are made, a series stands
for its last element, and a table in braces is closed. -/
def within : (path : List Key) → (edit : Table → Option Table) → Table → Option Table
  | [], edit, t => edit t
  | step :: path, edit, t =>
    match t.get? step.name with
    | none => do return t ++ [(step, .table .implied (← within path edit []))]
    | some (.table (.braces _) _) => none
    | some (.table origin entries) => do
      return t.replace step.name (.table origin (← within path edit entries))
    | some (.series items) => do
      return t.replace step.name (.series (← onLast items (within path edit)))
    | some _ => none

end Table

/-- A value for a key; `path` holds the parts of the key before the last. -/
structure Assignment where
  path : List Key
  key : Key
  value : Node

/-- A line that says something: a value for a key, or the header of a table or of one more
element of a series. -/
inductive Statement where
  | assign (assignment : Assignment)
  | header (repeated : Bool) (path : List Key) (key : Key) (span : Span)

/-- A header with the assignments below it. -/
structure Section where
  repeated : Bool
  path : List Key
  key : Key
  span : Span
  lines : List Assignment

/-- The assignments in front of the first header, and the sections. -/
def Section.split : List Statement → List Assignment × List Section
  | [] => ([], [])
  | .assign line :: rest =>
    let (lines, sections) := split rest
    (line :: lines, sections)
  | .header repeated path key span :: rest =>
    let (lines, sections) := split rest
    ([], { repeated, path, key, span, lines } :: sections)

/-- The table with the assignments added one after the other. -/
def Table.assignAll (t : Table) (lines : List Assignment) : Option Table :=
  lines.foldlM (fun t line => t.assign line.path line.key line.value) t

namespace Section

/-- A section stands from its header to its last value. -/
def extent (s : Section) : Span :=
  match s.lines.getLast?.bind (·.value.span?) with
  | some last => ⟨s.span.start, last.stop⟩
  | none => s.span

/-- Adds a section to a document. A table gets one header, which may come after those of tables
below it, and then it moves behind its neighbours. -/
def addTo (s : Section) (root : Table) : Option Table :=
  root.within s.path fun t =>
    match t.get? s.key.name with
    | none => do
      let body ← Table.assignAll [] s.lines
      return t ++ [(s.key, if s.repeated then .series [(s.extent, body)]
        else .table (.header s.extent) body)]
    | some (.table .implied entries) => do
      guard (!s.repeated)
      return t.remove s.key.name
        ++ [(s.key, .table (.header s.extent) (← Table.assignAll entries s.lines))]
    | some (.series items) => do
      guard s.repeated
      return t.replace s.key.name
        (.series (items ++ [(s.extent, ← Table.assignAll [] s.lines)]))
    | some _ => none

end Section

def Table.ofStatements? (statements : List Statement) : Option Table := do
  let (lines, sections) := Section.split statements
  sections.foldlM (fun t s => s.addTo t) (← Table.assignAll [] lines)

end CannedReply.Toml
