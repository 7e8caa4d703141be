import CannedReply.Number.Binary64
import CannedReply.Text.Numeral

/-!
Doubles from their usual text: a decimal with or without places and power of ten, or a name.
-/

namespace CannedReply.Binary64

/-- Whether a minus sign stands in front, and what stands behind the sign. -/
def splitSign : List Char → Bool × List Char
  | '-' :: r => (true, r)
  | '+' :: r => (false, r)
  | r => (false, r)

/-- The power of ten that a text names, which may be empty. -/
def power? (s : List Char) : Option Int :=
  match s with
  | [] => some 0
  | e :: r =>
    let (negative, digits) := splitSign r
    if (e = 'e' || e = 'E') && !digits.isEmpty && digits.all (Numeral.isDigit 10) then
      some (if negative then -(Numeral.number 10 digits : Int) else Numeral.number 10 digits)
    else none

/-- The double of a decimal without sign. There is at least one digit before or behind the
point. -/
def ofDecimalText? (negative : Bool) (s : List Char) : Option Binary64 := do
  let whole := s.takeWhile (Numeral.isDigit 10)
  let rest := s.dropWhile (Numeral.isDigit 10)
  let behind := if rest.head? = some '.' then rest.drop 1 else []
  let places := behind.takeWhile (Numeral.isDigit 10)
  guard (!(whole ++ places).isEmpty)
  let exponent ← power? (if rest.head? = some '.' then behind.drop places.length else rest)
  let digits := whole ++ places
  return ofDecimal negative (Numeral.number 10 digits) digits.length (exponent - places.length)

def ofText? (s : List Char) : Option Binary64 :=
  let (negative, rest) := splitSign s
  let name := String.ofList (rest.map Char.toLower)
  if name = "inf" ∨ name = "infinity" then some (.infinite negative)
  else if name = "nan" then some .nan
  else ofDecimalText? negative rest

end CannedReply.Binary64
