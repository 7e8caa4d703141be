import CannedReply.Text.Numeral

/-!
The port as a value on the command line: a decimal with or without a sign, read as a signed
number of 64 bits and then held against the range of ports.
-/

namespace CannedReply.CommandLine

/-- Why a value is no port. -/
inductive PortFault where
  | empty
  | badDigit
  | tooLarge
  | tooSmall
  | outOfRange (value : Int)
  deriving DecidableEq, Repr

/-- Why a value is no port, in words. -/
def PortFault.message : PortFault → String
  | empty => "cannot parse integer from empty string"
  | badDigit => "invalid digit found in string"
  | tooLarge => "number too large to fit in target type"
  | tooSmall => "number too small to fit in target type"
  | outOfRange value =>
    (if value < 0 then "-" else "") ++ Numeral.decimal value.natAbs ++ " is not in 0..=65535"

/-- Reads digits behind those that give `n`. What comes first decides between a character that is
no digit and a digit that makes the number exceed the limit. -/
def readDigits (limit : Nat) (overflow : PortFault) (n : Nat) : List Char → Except PortFault Nat
  | [] => .ok n
  | c :: r =>
    if Numeral.isDigit 10 c then
      let n := 10 * n + (Numeral.value? c).getD 0
      if limit < n then .error overflow else readDigits limit overflow n r
    else .error .badDigit

/-- A signed number of 64 bits. A sign alone is no number. -/
def readInteger (s : List Char) : Except PortFault Int :=
  match s with
  | [] => .error .empty
  | ['-'] | ['+'] => .error .badDigit
  | '-' :: r => (readDigits 0x8000000000000000 .tooSmall 0 r).map fun n => -(n : Int)
  | '+' :: r => (readDigits 0x7fffffffffffffff .tooLarge 0 r).map fun n => (n : Int)
  | r => (readDigits 0x7fffffffffffffff .tooLarge 0 r).map fun n => (n : Int)

def readPort (s : String) : Except PortFault UInt16 := do
  let n ← readInteger s.toList
  if 0 ≤ n ∧ n < 65536 then return UInt16.ofNat n.toNat else throw (.outOfRange n)

end CannedReply.CommandLine
