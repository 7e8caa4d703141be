/-!
What a plain terminal shows of a text: control sequences are left out whole, and so are control
characters that are not white space.
-/

namespace CannedReply.Text

/-- Where one stands in a control sequence. -/
inductive Sequence where
  | outside
  | escape
  | parameters
  | string
  deriving DecidableEq, Repr

def isLayout (c : Char) : Bool :=
  c = '\t' || c = '\n' || c = '\x0c' || c = '\r'

/-- Where one stands after a character, and whether it shows. -/
def Sequence.next (at' : Sequence) (c : Char) : Sequence × Bool :=
  let n := c.toNat
  if n = 0x1b then (.escape, false)
  else match at' with
  | .outside => (.outside, isLayout c || 0x20 ≤ n && n ≠ 0x7f)
  | .escape =>
    if n < 0x20 then (.escape, isLayout c)
    else if c = '[' then (.parameters, false)
    else if c = ']' || c = 'P' || c = 'X' || c = '^' || c = '_' then (.string, false)
    else if n < 0x30 then (.escape, false)
    else (.outside, 0x7f < n)
  | .parameters =>
    if n < 0x20 then (.parameters, isLayout c)
    else if 0x40 ≤ n && n ≠ 0x7f then (.outside, 0x7f < n)
    else (.parameters, false)
  | .string => if n = 0x07 then (.outside, false) else (.string, false)

/-- The characters that show, from a place in a control sequence on. -/
def visibleFrom (at' : Sequence) : List Char → List Char
  | [] => []
  | c :: r =>
    let (next, shows) := at'.next c
    if shows then c :: visibleFrom next r else visibleFrom next r

def visible (s : String) : String :=
  String.ofList (visibleFrom .outside s.toList)

end CannedReply.Text
