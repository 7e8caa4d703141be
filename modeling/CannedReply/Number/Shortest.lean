import CannedReply.Number.Binary64
import CannedReply.Text.Numeral

/-!
The decimal text of a double: the fewest digits that read back as it, nearest to it among those,
written without an exponent and with at least one place after the point.
-/

namespace CannedReply.Binary64

/-- The power of ten just below the positive quotient `n / d < 1`, as a count of places. -/
def leadingPlaces (n d : Nat) : Nat :=
  if 0 < n ∧ n < d then leadingPlaces (10 * n) d + 1 else 0
termination_by d - n

/-- The exponent of the leading decimal digit of the positive quotient `n / d`. -/
def leadingExponent (n d : Nat) : Int :=
  if n < d then -(leadingPlaces n d : Int) else ((Numeral.digits 10 (n / d)).length : Int) - 1

/-- A positive double with the ends of the interval of reals that round to it, all three over
the denominator `unit`. -/
structure Bracket where
  low : Nat
  value : Nat
  high : Nat
  unit : Nat
  closed : Bool

/-- Half way to the next double on either side; below a power of two the doubles lie twice as
close. -/
def bracket (m : Nat) (q : Int) : Bracket :=
  let below := if m = 1 <<< (precision - 1) ∧ leastExponent < q then 1 else 2
  { low := (4 * m - below) <<< (q - 2).toNat
    value := (4 * m) <<< (q - 2).toNat
    high := (4 * m + 2) <<< (q - 2).toNat
    unit := 1 <<< (2 - q).toNat
    closed := m % 2 = 0 }

/-- Whether `c * 10 ^ e` rounds to the bracketed double. -/
def Bracket.holds (b : Bracket) (c : Nat) (e : Int) : Bool :=
  let x := c * tenTo e.toNat * b.unit
  let low := b.low * tenTo (-e).toNat
  let high := b.high * tenTo (-e).toNat
  if b.closed then low ≤ x && x ≤ high else low < x && x < high

/-- The decimal with `k` digits that reads back, if there is one: one of the two neighbours of
the value on the grid of `k` digits, the nearer one if both do, and the upper one of a tie. -/
def Bracket.withDigits? (b : Bracket) (k : Nat) : Option (Nat × Int) :=
  let e := leadingExponent b.value b.unit + 1 - k
  let n := b.value * tenTo (-e).toNat
  let d := b.unit * tenTo e.toNat
  let c := n / d
  match b.holds c e, b.holds (c + 1) e with
  | true, true => some (if 2 * (n % d) < d then c else c + 1, e)
  | true, false => some (c, e)
  | false, true => some (c + 1, e)
  | false, false => none

/-- The shortest decimal that reads back; seventeen digits always do. Rounded up to the next power
of ten, a single digit leaves a zero behind, which is dropped. -/
def shortest (m : Nat) (q : Int) : Nat × Int :=
  let b := bracket m q
  let (c, e) := ((List.range 17).findSome? fun k => b.withDigits? (k + 1)).getD (m, q)
  if c % 10 = 0 then (c / 10, e + 1) else (c, e)

/-- The digits of `c * 10 ^ e` written out, with a point and at least one place after it. -/
def positional (c : Nat) (e : Int) : List Char :=
  let ds := Numeral.digits 10 c
  if 0 ≤ e then ds ++ List.replicate e.toNat '0' ++ ['.', '0']
  else
    let places := (-e).toNat
    let ds := List.replicate (places + 1 - ds.length) '0' ++ ds
    ds.take (ds.length - places) ++ '.' :: ds.drop (ds.length - places)

def text : Binary64 → String
  | nan => "NaN"
  | infinite negative => if negative then "-inf" else "inf"
  | finite negative m q =>
    let digits := if m = 0 then ['0', '.', '0'] else let (c, e) := shortest m q; positional c e
    String.ofList (if negative then '-' :: digits else digits)

example : (ofDecimal false 801 3 (-1)).text = "80.1" := by decide +kernel
example : (ofDecimal true 5 1 (-1)).text = "-0.5" := by decide +kernel
example : (ofDecimal false 1 1 16).text = "10000000000000000.0" := by decide +kernel

end CannedReply.Binary64
