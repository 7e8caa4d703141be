import CannedReply.Log.Directive

/-!
Filters: which events are logged. Of the directives that speak of an event, the most specific one
decides.
-/

namespace CannedReply.Log

/-- A directive about events alone. -/
structure Rule where
  target : Option String
  fields : List String
  level : Threshold
  deriving DecidableEq, Repr

namespace Rule

/-- The rule that a directive states, if it needs no span. -/
def ofDirective? (d : Directive) : Option Rule :=
  if d.isStatic then some ⟨d.target, d.fields.map FieldMatch.name, d.level⟩ else none

def text (r : Rule) : String :=
  let fields := if r.fields.isEmpty then "" else "[\x7b" ++ ",".intercalate r.fields ++ "\x7d]"
  let isLimited := r.target.isSome || !r.fields.isEmpty
  r.target.getD "" ++ fields ++ (if isLimited then "=" else "") ++ r.level.text

end Rule

/-- The order of series in which the first difference counts. -/
def compareSeries {α : Type} (cmp : α → α → Ordering) : List α → List α → Ordering
  | [], [] => .eq
  | [], _ :: _ => .lt
  | _ :: _, [] => .gt
  | a :: as, b :: bs => (cmp a b).then (compareSeries cmp as bs)

def compareOption {α : Type} (cmp : α → α → Ordering) : Option α → Option α → Ordering
  | none, none => .eq
  | none, some _ => .lt
  | some _, none => .gt
  | some a, some b => cmp a b

/-- The order of texts by the code points of their characters. -/
def compareText (s t : String) : Ordering :=
  compareSeries (fun c d : Nat => compare c d) (s.toList.map Char.toNat) (t.toList.map Char.toNat)

def compareLength : Option String → Option String → Ordering :=
  compareOption fun s t => compare s.utf8ByteSize t.utf8ByteSize

/-- The more specific rule comes first: the one with the longer target, and then the one with more
fields. Between others the order of the texts decides, the last one first. -/
def Rule.order (a b : Rule) : Ordering :=
  ((compareLength a.target b.target).then <|
    (compare a.fields.length b.fields.length).then <|
    (compareOption compareText a.target b.target).then <|
    compareSeries compareText a.fields b.fields).swap

/-- The place of the kind of a value among the kinds. What is no number is a kind of its own. -/
def MatchValue.kind : MatchValue → Nat
  | boolean _ => 0
  | float .nan => 2
  | float _ => 1
  | unsigned _ => 3
  | signed _ => 4
  | pattern _ => 5

/-- The order of values: by their kinds, and within one of them by what they are. -/
def MatchValue.order (a b : MatchValue) : Ordering :=
  match a, b with
  | boolean x, boolean y => compare x.toNat y.toNat
  | float x, float y => (compare a.kind b.kind).then (compare x.rank y.rank)
  | unsigned x, unsigned y => compare x y
  | signed x, signed y => compare x y
  | pattern x, pattern y => compareText x y
  | _, _ => compare a.kind b.kind

/-- The order of fields: those with a value last. -/
def FieldMatch.order (a b : FieldMatch) : Ordering :=
  (compare a.value.isSome.toNat b.value.isSome.toNat).then <|
  (compareText a.name b.name).then <|
  compareOption MatchValue.order a.value b.value

/-- The more specific directive comes first; one with a span is more specific than one without. -/
def Directive.order (a b : Directive) : Ordering :=
  ((compareLength a.target b.target).then <|
    (compare a.span.isSome.toNat b.span.isSome.toNat).then <|
    (compare a.fields.length b.fields.length).then <|
    (compareOption compareText a.target b.target).then <|
    (compareOption compareText a.span b.span).then <|
    compareSeries FieldMatch.order a.fields b.fields).swap

/-- Puts a value in its place in an ordered series, where it replaces one of the same place. -/
def place {α : Type} (order : α → α → Ordering) (a : α) : List α → List α
  | [] => [a]
  | b :: rest =>
    match order a b with
    | .lt => a :: b :: rest
    | .eq => a :: rest
    | .gt => b :: place order a rest

/-- The values in order; of those with the same place the last one counts. -/
def inOrder {α : Type} (order : α → α → Ordering) (as : List α) : List α :=
  as.foldl (fun placed a => place order a placed) []

/-- Which events are logged: the rules, and what depends on spans. -/
structure Filter where
  rules : List Rule
  inSpans : List Directive
  deriving DecidableEq, Repr

namespace Filter

def ofDirectives (ds : List Directive) : Filter :=
  let inSpans := ds.filter Directive.isDynamic
  { rules := inOrder Rule.order
      (((ds.filter fun d => !d.isDynamic) ++ inSpans).filterMap Rule.ofDirective?)
    inSpans := inOrder Directive.order inSpans }

/-- The filter that a text states: directives with commas between them. -/
def ofText (isPattern : String → Bool) (s : String) : Except Directive.Fault Filter :=
  (((s.toList.splitOn ',').filter fun d => !d.isEmpty).mapM (Directive.read isPattern)).map
    ofDirectives

def text (f : Filter) : String :=
  ",".intercalate (f.rules.map Rule.text ++ f.inSpans.map Directive.text)

def defaultText : String := "fixture_server=info"

/-- The filter that is used where none, or none that can be read, is set. -/
def default : Filter :=
  { rules := [⟨some "fixture_server", [], ⟨some .info⟩⟩], inSpans := [] }

example : (ofText (fun _ => false) defaultText).toOption = some default := by decide +kernel

/-- The filter for a setting. One that cannot be read counts as none, unless the reading itself
breaks off. -/
def ofSetting (isPattern : String → Bool) : Option String → Except Text.Slip Filter
  | none => .ok default
  | some s =>
    match ofText isPattern s with
    | .ok f => .ok f
    | .error .refused => .ok default
    | .error (.slipped slip) => .error slip

end Filter

end CannedReply.Log
