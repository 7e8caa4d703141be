import CannedReply.Net.Address
import CannedReply.Text.Reader

/-!
Reading addresses. The grammar is wider than what is written: zeros may lead in a group and in a
port, any run of zero groups may be left out, and the last two groups may stand as an IPv4 address.
-/

namespace CannedReply

namespace Reader

/-- A number below the limit with at most as many digits as allowed, if there is such a bound. -/
def numeral (base : Nat) (most : Option Nat) (limit : Nat) : Reader Nat := fun s =>
  let digits := s.takeWhile (Numeral.isDigit base)
  let n := Numeral.number base digits
  if digits.isEmpty ∨ most.any (· < digits.length) ∨ limit ≤ n then none
  else some (n, s.dropWhile (Numeral.isDigit base))

/-- An octet in decimal, without leading zeros. -/
def octet : Reader UInt8 := fun s =>
  match numeral 10 (some 3) UInt8.size s with
  | some (n, r) =>
    if s.head? = some '0' ∧ r.length + 1 < s.length then none else some (UInt8.ofNat n, r)
  | none => none

/-- An IPv4 address: four octets with points between them. -/
def ipv4 : Reader IPv4 := do
  let b ← octet
  token ['.']
  let c ← octet
  token ['.']
  let d ← octet
  token ['.']
  let e ← octet
  return { octets := [b, c, d, e] }

/-- A group of an IPv6 address: up to four hexadecimal digits. -/
def group : Reader UInt16 := do
  return UInt16.ofNat (← numeral 16 (some 4) UInt16.size)

/-- A value behind the colon that divides it from the one before it. -/
def divided {α : Type} (first : Bool) (r : Reader α) : Reader α := do
  if !first then token [':']
  r

/-- As many groups as there are, up to a number, the last two possibly as an IPv4 address. Tells
also whether they were. -/
def groups : (room : Nat) → (first : Bool) → List Char → (List UInt16 × Bool) × List Char
  | 0, _, s => (([], false), s)
  | room + 1, first, s =>
    match if room = 0 then none else divided first ipv4 s with
    | some (a, r) => ((a.groups, true), r)
    | none =>
      match divided first group s with
      | some (g, r) =>
        let ((gs, embedded), t) := groups room false r
        ((g :: gs, embedded), t)
      | none => (([], false), s)

/-- An IPv6 address: eight groups, or fewer with a double colon for the zero groups that are
missing. An IPv4 address stands at the end only. -/
def ipv6 : Reader IPv6 := fun s =>
  let ((front, embedded), r) := groups 8 true s
  match IPv6.ofList? front with
  | some a => some (a, r)
  | none =>
    if embedded then none
    else
      match r with
      | ':' :: ':' :: t =>
        let ((back, _), u) := groups (7 - front.length) true t
        (IPv6.ofList? (front ++ List.replicate (8 - front.length - back.length) 0 ++ back)).map
          fun a => (a, u)
      | _ => none

def port : Reader UInt16 := do
  token [':']
  return UInt16.ofNat (← numeral 10 none UInt16.size)

def scope : Reader UInt32 := do
  token ['%']
  return UInt32.ofNat (← numeral 10 none UInt32.size)

def socketAddress4 : Reader SocketAddress := do
  let a ← ipv4
  return .v4 a (← port)

/-- An IPv6 address in brackets, perhaps with a scope, and its port. -/
def socketAddress6 : Reader SocketAddress := do
  token ['[']
  let a ← ipv6
  let link ← optional scope
  token [']']
  return .v6 a (← port) 0 (link.getD 0)

end Reader

def SocketAddress.ofText? (s : String) : Option SocketAddress :=
  (Reader.socketAddress4 <|> Reader.socketAddress6).whole? s.toList

end CannedReply
