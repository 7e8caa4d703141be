import CannedReply.Text.Numeral

/-!
Network addresses and their text. The text of an IPv6 address leaves out its first longest run of
at least two zero groups, and shows an IPv4 address that it stands for in the IPv4 way.
-/

namespace CannedReply

/-- An IPv4 address. -/
structure IPv4 where
  octets : List UInt8
  length_octets : octets.length = 4 := by rfl
  deriving DecidableEq, Repr

/-- An IPv6 address, in groups of two octets. -/
structure IPv6 where
  groups : List UInt16
  length_groups : groups.length = 8 := by rfl
  deriving DecidableEq, Repr

namespace IPv4

/-- The address with the four octets of a number; what exceeds them is dropped. -/
def ofNat (n : Nat) : IPv4 :=
  { octets := [UInt8.ofNat (n >>> 24), UInt8.ofNat (n >>> 16), UInt8.ofNat (n >>> 8),
      UInt8.ofNat n] }

/-- The address with these octets, if there are four. -/
def ofList? (octets : List UInt8) : Option IPv4 :=
  if h : octets.length = 4 then some ⟨octets, h⟩ else none

def unspecified : IPv4 :=
  ofNat 0

/-- The octets in decimal, with points between them. -/
def written (a : IPv4) : List Char :=
  ['.'].intercalate (a.octets.map fun b => Numeral.digits 10 b.toNat)

def groups (a : IPv4) : List UInt16 :=
  match a.octets with
  | [b, c, d, e] => [b.toUInt16 <<< 8 ||| c.toUInt16, d.toUInt16 <<< 8 ||| e.toUInt16]
  | _ => []

end IPv4

namespace IPv6

/-- The address with these groups, if there are eight. -/
def ofList? (groups : List UInt16) : Option IPv6 :=
  if h : groups.length = 8 then some ⟨groups, h⟩ else none

def unspecified : IPv6 :=
  { groups := [0, 0, 0, 0, 0, 0, 0, 0] }

def isMulticast (a : IPv6) : Bool :=
  a.groups.head?.any (0xff00 ≤ ·)

def isLinkLocal (a : IPv6) : Bool :=
  a.groups.head?.any fun g => g &&& 0xffc0 = 0xfe80

/-- Whether the address names a group of receivers on one link. -/
def isLinkMulticast (a : IPv6) : Bool :=
  a.groups.head?.any fun g => g &&& 0xff0f = 0xff02

def mapped? (a : IPv6) : Option IPv4 :=
  match a.groups with
  | [0, 0, 0, 0, 0, 0xffff, g, h] =>
    some { octets := [(g >>> 8).toUInt8, g.toUInt8, (h >>> 8).toUInt8, h.toUInt8] }
  | _ => none

def zeros (groups : List UInt16) : Nat :=
  (groups.takeWhile (· = 0)).length

/-- The place and the length of the first longest run of zero groups. -/
def longestZeros (groups : List UInt16) : Nat × Nat :=
  ((List.range groups.length).map fun i => (i, zeros (groups.drop i))).foldl
    (fun best run => if best.2 < run.2 then run else best) (0, 0)

/-- Groups in hexadecimal, with colons between them. -/
def writtenGroups (groups : List UInt16) : List Char :=
  [':'].intercalate (groups.map fun g => Numeral.digits 16 g.toNat)

def written (a : IPv6) : List Char :=
  match a.mapped? with
  | some b => [':', ':', 'f', 'f', 'f', 'f', ':'] ++ b.written
  | none =>
    let (start, length) := longestZeros a.groups
    if 2 ≤ length then
      writtenGroups (a.groups.take start) ++ [':', ':']
        ++ writtenGroups (a.groups.drop (start + length))
    else writtenGroups a.groups

end IPv6

/-- An address of the network layer. The scope tells the link of an address with a meaning on one
link only. -/
inductive IPAddress where
  | v4 (address : IPv4)
  | v6 (address : IPv6) (scope : UInt32)
  deriving DecidableEq, Repr

/-- The address without its scope, as a text. -/
def IPAddress.text : IPAddress → String
  | v4 a => String.ofList a.written
  | v6 a _ => String.ofList a.written

/-- An address with a port; those of IPv6 carry a flow label and a scope too. -/
inductive SocketAddress where
  | v4 (address : IPv4) (port : UInt16)
  | v6 (address : IPv6) (port : UInt16) (flow scope : UInt32)
  deriving DecidableEq, Repr

namespace SocketAddress

def port : SocketAddress → UInt16
  | v4 _ p => p
  | v6 _ p _ _ => p

def ip : SocketAddress → IPAddress
  | v4 a _ => .v4 a
  | v6 a _ _ scope => .v6 a scope

def ofIP (a : IPAddress) (port : UInt16) : SocketAddress :=
  match a with
  | .v4 a => v4 a port
  | .v6 a scope => v6 a port 0 scope

/-- Address and port with a colon between them. An IPv6 address stands in brackets, with its scope
unless that is zero; the flow label is not shown. -/
def written : SocketAddress → List Char
  | v4 a p => a.written ++ ':' :: Numeral.digits 10 p.toNat
  | v6 a p _ scope =>
    '[' :: (a.written ++ (if scope = 0 then [] else '%' :: Numeral.digits 10 scope.toNat)
      ++ ']' :: ':' :: Numeral.digits 10 p.toNat)

def text (a : SocketAddress) : String :=
  String.ofList a.written

end SocketAddress

end CannedReply
