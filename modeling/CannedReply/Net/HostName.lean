import CannedReply.Net.AddressReader

/-!
Hosts that are numbers. An IPv4 host has one to four numbers, each decimal, octal behind a zero, or
hexadecimal behind `0x`; the last one fills the octets that the others leave.
-/

namespace CannedReply.HostName

open CannedReply.Reader

def digitsFrom (base : Nat) (s : List Char) : Nat × List Char :=
  (Numeral.number base (s.takeWhile (Numeral.isDigit base)), s.dropWhile (Numeral.isDigit base))

def number : Reader Nat := fun s =>
  match s with
  | '0' :: x :: r =>
    if (x = 'x' ∨ x = 'X') ∧ r.head?.any (Numeral.isDigit 16) then some (digitsFrom 16 r)
    else some (digitsFrom 8 (x :: r))
  | '0' :: r => some (digitsFrom 8 r)
  | c :: r => if Numeral.isDigit 10 c then some (digitsFrom 10 (c :: r)) else none
  | [] => none

def ofNumbers? (ns : List Nat) : Option IPv4 :=
  match ns.getLast? with
  | none => none
  | some last =>
    let octets := ns.dropLast
    let room := 1 <<< (8 * (4 - octets.length))
    if octets.length < 4 ∧ octets.all (· < 256) ∧ last < room then
      some (IPv4.ofNat (octets.foldl (fun n b => 256 * n + b) 0 * room + last))
    else none

def ipv4? (host : List Char) : Option IPv4 := do
  let r : Reader (List Nat) := do
    let first ← number
    let more ← many do
      token ['.']
      number
    return first :: more
  ofNumbers? (← r.whole? host)

/-- The scope behind the percent sign of an IPv6 host: the name of an interface, where the address
has a meaning on one link only, or a number. -/
def scope? (interfaces : List (String × UInt32)) (a : IPv6) (text : List Char) : Option UInt32 :=
  let named := if a.isLinkLocal || a.isLinkMulticast then interfaces.lookup (String.ofList text)
    else none
  named <|> (UInt32.ofNat <$> (numeral 10 none UInt32.size).whole? text)

def ipv6? (interfaces : List (String × UInt32)) (host : List Char) : Option IPAddress := do
  let a ← ipv6.whole? (host.takeWhile (· ≠ '%'))
  match host.dropWhile (· ≠ '%') with
  | [] => return .v6 a 0
  | _ :: scope => return .v6 a (← scope? interfaces a scope)

def numeric? (interfaces : List (String × UInt32)) (host : String) : Option IPAddress :=
  IPAddress.v4 <$> ipv4? host.toList <|> ipv6? interfaces host.toList

end CannedReply.HostName
