/-!
Numbers of the IEEE double format, and the nearest one to a decimal.
-/

namespace CannedReply

/-- A double: `finite s m q` is `m * 2 ^ q` with the sign `s`, zero included. -/
inductive Binary64 where
  | nan
  | infinite (negative : Bool)
  | finite (negative : Bool) (mantissa : Nat) (exponent : Int)
  deriving DecidableEq, Repr

namespace Binary64

def precision : Nat := 53

/-- The exponent of the last place of the smallest doubles. -/
def leastExponent : Int := -1074

/-- The exponent of the last place of the largest doubles. -/
def greatestExponent : Int := 971

/-- The whole number nearest to `n / d`; of two equally near the even one. -/
def roundDiv (n d : Nat) : Nat :=
  if 2 * (n % d) < d ∨ 2 * (n % d) = d ∧ n / d % 2 = 0 then n / d else n / d + 1

/-- The exponent of the last place that a double near the positive quotient `n / d` has. -/
def lastPlace (n d : Nat) : Int :=
  let k : Int := (n.log2 : Int) - d.log2
  let top := if d <<< k.toNat ≤ n <<< (-k).toNat then k else k - 1
  max (top - (precision - 1)) leastExponent

/-- The double nearest to `n / d`. -/
def ofQuotient (negative : Bool) (n d : Nat) : Binary64 :=
  if n = 0 then finite negative 0 leastExponent
  else
    let q := lastPlace n d
    let m := roundDiv (n <<< (-q).toNat) (d <<< q.toNat)
    let (m, q) := if m = 1 <<< precision then (1 <<< (precision - 1), q + 1) else (m, q)
    if greatestExponent < q then infinite negative else finite negative m q

/-- A whole number that grows with the double: how often it holds the smallest positive one, and
more than that of any double for what is infinite. -/
def rank : Binary64 → Int
  | nan => 0
  | infinite negative => if negative then -(1 <<< 2100 : Nat) else (1 <<< 2100 : Nat)
  | finite negative m q =>
    let n := m <<< (q - leastExponent).toNat
    if negative then -(n : Int) else n

def tenTo (k : Nat) : Nat :=
  Nat.pow 10 k

/-- The double nearest to `m * 10 ^ e`, where `m` has `length` digits. What lies outside of
`10 ^ ±400` is out of range whatever its digits are. -/
def ofDecimal (negative : Bool) (m length : Nat) (e : Int) : Binary64 :=
  if m = 0 then finite negative 0 leastExponent
  else if e < -(400 + length : Int) then finite negative 0 leastExponent
  else if 400 < e then infinite negative
  else ofQuotient negative (m * tenTo e.toNat) (tenTo (-e).toNat)

example : ofDecimal false 1 1 0 = finite false 0x10000000000000 (-52) := by decide +kernel
example : ofDecimal false 5 1 (-324) = finite false 1 (-1074) := by decide +kernel
example : ofDecimal true 17976931348623159 17 292 = infinite true := by decide +kernel

end Binary64

end CannedReply
