import CannedReply.Log.Level
import CannedReply.Number.Reading
import CannedReply.Number.Shortest
import CannedReply.Text.Blank
import CannedReply.Text.Places
import CannedReply.Text.Word

/-!
Directives: which events are wanted up to which level. A directive may be limited to the targets
that start with a text, and to events inside of a span or with a field.
-/

namespace CannedReply.Log

/-- What the value of a field is compared with. -/
inductive MatchValue where
  | boolean (value : Bool)
  | float (value : Binary64)
  | unsigned (value : Nat)
  | signed (value : Int)
  | pattern (text : String)
  deriving DecidableEq, Repr

namespace MatchValue

/-- The whole number of 64 bits that a text names. With a minus sign it is a signed one, zero
included. -/
def integer? (s : List Char) : Option MatchValue :=
  let (negative, digits) := Binary64.splitSign s
  let n := Numeral.number 10 digits
  if digits.isEmpty || !digits.all (Numeral.isDigit 10) then none
  else if negative then if n ≤ 0x8000000000000000 then some (signed (-(n : Int))) else none
  else if n < UInt64.size then some (unsigned n) else none

/-- The value that a text names. What names no other value has to be a pattern. -/
def ofText? (isPattern : String → Bool) (s : List Char) : Option MatchValue :=
  if s = ['t', 'r', 'u', 'e'] then some (boolean true)
  else if s = ['f', 'a', 'l', 's', 'e'] then some (boolean false)
  else
    match integer? s, Binary64.ofText? s with
    | some value, _ => some value
    | none, some x => some (float x)
    | none, none => if isPattern (String.ofList s) then some (pattern (String.ofList s)) else none

def floatText (x : Binary64) : String :=
  let s := x.text.toList
  String.ofList (if ['0', '.'].isPrefixOf s.reverse then s.take (s.length - 2) else s)

def text : MatchValue → String
  | boolean value => if value then "true" else "false"
  | float value => floatText value
  | unsigned value => Numeral.decimal value
  | signed value =>
    if value < 0 then "-" ++ Numeral.decimal value.natAbs else Numeral.decimal value.natAbs
  | pattern text => text

end MatchValue

/-- A field that an event or a span has to have, perhaps with a value. -/
structure FieldMatch where
  name : String
  value : Option MatchValue
  deriving DecidableEq, Repr

namespace FieldMatch

/-- The field that a text asks for; what follows a second equals sign is not looked at. -/
def ofText? (isPattern : String → Bool) (s : List Char) : Option FieldMatch :=
  if s.isEmpty then none
  else
    match s.splitOn '=' with
    | name :: value :: _ =>
      (MatchValue.ofText? isPattern value).map fun v => ⟨String.ofList name, some v⟩
    | _ => some ⟨String.ofList s, none⟩

def text (f : FieldMatch) : String :=
  match f.value with
  | some value => f.name ++ "=" ++ value.text
  | none => f.name

end FieldMatch

/-- A directive. -/
structure Directive where
  target : Option String
  span : Option String
  fields : List FieldMatch
  level : Threshold
  deriving DecidableEq, Repr

namespace Directive

/-- Why no directive is read. -/
inductive Fault where
  /-- The text is none. -/
  | refused
  /-- A part of it was to be taken that ends inside of a character. -/
  | slipped (slip : Text.Slip)
  deriving DecidableEq, Repr

def trimmed (s : List Char) : List Char :=
  ((s.dropWhile Text.isBlank).reverse.dropWhile Text.isBlank).reverse

section reading

-- A directive is read from its text without the white space around it, but its parts are taken from
-- the same places of the whole text, which need not lie between characters.
variable (isPattern : String → Bool) (text : List Char)

/-- What the text has at the places from behind some characters of the trimmed one to behind
others. -/
def part (before seen : List Char) : Except Fault (List Char) :=
  (Text.part text (Text.size before) (Text.size seen)).mapError .slipped

/-- Takes the level, which is all that is left; none is the fullest one. -/
def withLevel (d : Directive) (seen : List Char) : Except Fault Directive := do
  let level ← (Text.behind text (Text.size seen)).mapError .slipped
  if level.isEmpty then return { d with level := .full }
  match Threshold.ofText? level with
  | some level => return { d with level }
  | none => throw .refused

def readEnd (d : Directive) (seen rest : List Char) : Except Fault Directive :=
  match rest with
  | [] => .ok d
  | '=' :: _ => withLevel text d (seen ++ ['='])
  | _ => .error .refused

/-- Reads on behind the brace that opens a field, up to behind the bracket of its span. -/
def readField (d : Directive) (seen rest : List Char) : Except Fault Directive :=
  let shown := rest.takeWhile fun c => c ≠ '\x7d'
  match rest.dropWhile fun c => c ≠ '\x7d' with
  | [] => .error .refused
  | brace :: rest => do
    let field ← part text seen (seen ++ shown)
    match FieldMatch.ofText? isPattern field, rest with
    | some asked, bracket :: rest =>
      if bracket = ']' then
        readEnd text { d with fields := [asked] } (seen ++ shown ++ [brace, bracket]) rest
      else throw .refused
    | _, _ => throw .refused

/-- Reads on behind the bracket that opens a span: its name, and a field in braces. -/
def readSpan (d : Directive) (seen rest : List Char) : Except Fault Directive :=
  let shown := rest.takeWhile fun c => c ≠ ']' && c ≠ '\x7b'
  match rest.dropWhile fun c => c ≠ ']' && c ≠ '\x7b' with
  | [] => .error .refused
  | stop :: rest => do
    let span ← part text seen (seen ++ shown)
    let seen := seen ++ shown ++ [stop]
    if stop = ']' then readEnd text { d with span := some (String.ofList span) } seen rest
    else
      let span := if span.isEmpty then none else some (String.ofList span)
      readField isPattern text { d with span } seen rest

def startsTarget (c : Char) : Bool :=
  c = '-' || c = ':' || c = '_' || Text.isWordChar c

/-- The directive that a text holds. A text that is no level is a target, of which everything is
wanted. -/
def read : Except Fault Directive :=
  let d : Directive := { target := none, span := none, fields := [], level := .full }
  match trimmed text with
  | [] => .error .refused
  | '[' :: rest => readSpan isPattern text d ['['] rest
  | c :: rest =>
    if !startsTarget c then .error .refused
    else
      let target := (c :: rest).takeWhile fun c => c ≠ '=' && c ≠ '['
      match (c :: rest).dropWhile fun c => c ≠ '=' && c ≠ '[' with
      | [] =>
        match Threshold.ofText? text with
        | some level => .ok { d with level }
        | none => .ok { d with target := some (String.ofList text) }
      | stop :: rest => do
        let name ← part text [] target
        let d := { d with target := some (String.ofList name) }
        if stop = '=' then withLevel text d (target ++ [stop])
        else readSpan isPattern text d (target ++ [stop]) rest

end reading

/-- Whether what it asks for is known from an event alone. -/
def isStatic (d : Directive) : Bool :=
  d.span.isNone && d.fields.all (·.value.isNone)

def isDynamic (d : Directive) : Bool :=
  d.span.isSome || !d.fields.isEmpty

def text (d : Directive) : String :=
  let fields := if d.fields.isEmpty then ""
    else "\x7b" ++ ",".intercalate (d.fields.map FieldMatch.text) ++ "\x7d"
  let scope := if d.isDynamic then "[" ++ d.span.getD "" ++ fields ++ "]" else ""
  let subject := d.target.getD "" ++ scope
  let isLimited := d.target.isSome || d.isDynamic
  subject ++ (if isLimited then "=" else "") ++ d.level.text

end Directive

end CannedReply.Log
