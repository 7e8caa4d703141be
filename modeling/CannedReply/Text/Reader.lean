/-!
Readers: functions that take what they recognise from the front of a text. A text without the
wanted form gives `none`, and nothing is said about why.
-/

namespace CannedReply

/-- Takes a value from the front of a text. -/
abbrev Reader := StateT (List Char) Option

namespace Reader

variable {α : Type}

def char (p : Char → Bool) : Reader Char := fun s =>
  match s with
  | c :: r => if p c then some (c, r) else none
  | [] => none

def token (t : List Char) : Reader Unit := fun s =>
  if t.isPrefixOf s then some ((), s.drop t.length) else none

def run (p : Char → Bool) : Reader (List Char) := fun s =>
  some (s.takeWhile p, s.dropWhile p)

/-- The next character, which stays where it is. -/
def peek : Reader (Option Char) := fun s =>
  some (s.head?, s)

def finish : Reader Unit := fun s =>
  if s.isEmpty then some ((), s) else none

/-- What the reader gives when it is applied as long as it applies, but at most `count` times. -/
def upTo (r : Reader α) : (count : Nat) → List Char → List α × List Char
  | 0, s => ([], s)
  | count + 1, s =>
    match r s with
    | none => ([], s)
    | some (a, t) =>
      let (as, u) := upTo r count t
      (a :: as, u)

/-- As many values as there are. Each one takes a character at least, so that behind the first one
there are no more values than characters. -/
def many (r : Reader α) : Reader (List α) := fun s =>
  match r s with
  | none => some ([], s)
  | some (a, t) =>
    let (as, u) := upTo r t.length t
    some (a :: as, u)

def whole? (r : Reader α) (s : List Char) : Option α :=
  match r s with
  | some (a, []) => some a
  | _ => none

end Reader

end CannedReply
