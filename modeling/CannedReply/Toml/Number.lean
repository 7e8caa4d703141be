import CannedReply.Number.Binary64
import CannedReply.Toml.Text

/-!
Whole and floating-point numbers. Underscores may separate digits, and only the decimal forms
take a sign.
-/

namespace CannedReply.Toml

open CannedReply.Reader

/-- The digits in front of the text, single underscores between them left out. -/
def moreDigits (base : Nat) : List Char → List Char × List Char
  | [] => ([], [])
  | '_' :: c :: r =>
    if Numeral.isDigit base c then
      let (ds, t) := moreDigits base r
      (c :: ds, t)
    else ([], '_' :: c :: r)
  | c :: r =>
    if Numeral.isDigit base c then
      let (ds, t) := moreDigits base r
      (c :: ds, t)
    else ([], c :: r)

namespace Reader

def digits (base : Nat) : Reader (List Char) := fun s =>
  match s with
  | c :: r =>
    if Numeral.isDigit base c then
      let (ds, t) := moreDigits base r
      some (c :: ds, t)
    else none
  | [] => none

/-- The digits of a decimal: a leading zero stands alone. -/
def decimalDigits : Reader (List Char) := do
  if (← peek) = some '0' then
    token ['0']
    return ['0']
  else digits 10

/-- Whether a minus sign stands in front; a plus sign may stand there too. -/
def sign : Reader Bool := do
  match ← peek with
  | some '-' => token ['-']; return true
  | some '+' => token ['+']; return false
  | _ => return false

/-- The range of whole numbers: 64 bits, signed. -/
def inRange (n : Int) : Bool :=
  -0x8000000000000000 ≤ n && n < 0x8000000000000000

/-- A whole number: decimal, or without a sign hexadecimal, octal or binary. -/
def integer : Reader Int := do
  let value ← (do token ['0', 'x']; return (Numeral.number 16 (← digits 16) : Int))
    <|> (do token ['0', 'o']; return (Numeral.number 8 (← digits 8) : Int))
    <|> (do token ['0', 'b']; return (Numeral.number 2 (← digits 2) : Int))
    <|> (do
      let negative ← sign
      let n := Numeral.number 10 (← decimalDigits)
      return if negative then -(n : Int) else n)
  guard (inRange value)
  return value

def power : Reader Int := do
  discard (char fun c => c = 'e' || c = 'E')
  let negative ← sign
  let n := Numeral.number 10 (← digits 10)
  return if negative then -(n : Int) else n

/-- A floating-point number: decimal with places, a power of ten or both, or a named one. What
rounds to positive infinity is refused. -/
def float : Reader Binary64 := do
  let negative ← sign
  (do token ['i', 'n', 'f']; return .infinite negative)
    <|> (do token ['n', 'a', 'n']; return .nan)
    <|> (do
      let whole ← decimalDigits
      let places ← optional (do token ['.']; digits 10)
      let exponent ← optional power
      guard (places.isSome || exponent.isSome)
      let places := places.getD []
      let ds := whole ++ places
      let value := Binary64.ofDecimal negative (Numeral.number 10 ds) ds.length
        (exponent.getD 0 - places.length)
      guard (value ≠ .infinite false)
      return value)

end Reader

end CannedReply.Toml
