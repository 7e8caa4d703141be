import CannedReply.Http.Grammar

/-!
Targets of requests: a path with a query, a whole address with scheme and authority, an authority
alone, or an asterisk.
-/

namespace CannedReply.Http

/-- Why bytes are no target. -/
inductive TargetFault where
  | tooLong
  | empty
  | schemeTooLong
  | badAuthority
  | badByte
  | badForm
  deriving DecidableEq, Repr

/-- Why bytes are no target, in words. -/
def TargetFault.message : TargetFault → String
  | tooLong => "uri too long"
  | empty => "empty string"
  | schemeTooLong => "scheme too long"
  | badAuthority => "invalid authority"
  | badByte => "invalid uri character"
  | badForm => "invalid format"

/-- The target of a request. What stands behind a number sign does not belong to it. -/
structure Target where
  scheme : Option Bytes
  authority : Option Bytes
  path : Bytes
  query : Option Bytes
  deriving DecidableEq, Repr

/-- The longest target, in bytes. -/
def maxTargetLength : Nat := 65534

/-- The longest scheme, in bytes. -/
def maxSchemeLength : Nat := 64

namespace Target

/-- The bytes that may stand in a scheme, colon apart. -/
def isSchemeByte (b : UInt8) : Bool :=
  isLetter b || isDigit b || (Bytes.ofText "+-.~").contains b

def isAuthorityByte (b : UInt8) : Bool :=
  isLetter b || isDigit b || (Bytes.ofText "!$&'()*+,-.:;=@[]_~").contains b

def endsAuthority (b : UInt8) : Bool :=
  (Bytes.ofText "/?#").contains b

/-- The bytes that may stand in a path: those of ASCII that need no escape, three more that are
often not escaped, and all that are not ASCII. -/
def isPathByte (b : UInt8) : Bool :=
  b = 0x21 || 0x24 ≤ b && b ≤ 0x3b || b = 0x3d || 0x40 ≤ b && b ≤ 0x5f || 0x61 ≤ b && b ≤ 0x7a
    || b = 0x7c || b = 0x7e || 0x80 ≤ b || (Bytes.ofText "\"\x7b\x7d").contains b

def isQueryByte (b : UInt8) : Bool :=
  b = 0x21 || 0x24 ≤ b && b ≤ 0x3b || b = 0x3d || 0x3f ≤ b && b ≤ 0x7e || 0x80 ≤ b

/-- What has been seen of an authority: the colons and whether there was a percent sign since the
last sign that explains them, and the brackets. -/
structure AuthorityView where
  colons : Nat
  percent : Bool
  opened : Bool
  closed : Bool
  deriving DecidableEq, Repr

/-- The view with one more byte. A closing bracket and an at sign explain the colons and percent
signs in front of them. -/
def AuthorityView.see (v : AuthorityView) (b : UInt8) : Except TargetFault AuthorityView :=
  if b = 0x25 then .ok { v with percent := true }
  else if !isAuthorityByte b then .error .badByte
  else if b = colon then
    if v.colons < 8 then .ok { v with colons := v.colons + 1 } else .error .badAuthority
  else if b = 0x5b then
    if v.percent || v.opened then .error .badAuthority else .ok { v with opened := true }
  else if b = 0x5d then
    if !v.opened || v.closed then .error .badAuthority
    else .ok { v with closed := true, colons := 0, percent := false }
  else if b = 0x40 then .ok { v with colons := 0, percent := false }
  else .ok v

/-- Splits off an authority, which may be empty. At most the port follows a colon, brackets come in
pairs, and something stands behind an at sign. -/
def splitAuthority (s : Bytes) : Except TargetFault (Bytes × Bytes) := do
  let authority := s.takeWhile fun b => !endsAuthority b
  let v ← authority.foldlM AuthorityView.see ⟨0, false, false, false⟩
  if v.opened != v.closed || 1 < v.colons || authority.getLast? = some 0x40 || v.percent then
    throw .badAuthority
  return (authority, s.dropWhile fun b => !endsAuthority b)

/-- Splits off a scheme with its colon and slashes, if there is one. Colon and slashes alone are
not looked at as an empty scheme. -/
def splitScheme (s : Bytes) : Except TargetFault (Option Bytes × Bytes) :=
  let scheme := s.takeWhile isSchemeByte
  if 3 < s.length && (Bytes.ofText "://").isPrefixOf (s.drop scheme.length) then
    if maxSchemeLength < scheme.length then .error .schemeTooLong
    else .ok (some scheme, s.drop (scheme.length + 3))
  else .ok (none, s)

/-- A target with the path and the query that the bytes hold. -/
def withPath (scheme authority : Option Bytes) (s : Bytes) : Except TargetFault Target := do
  let endsPath := fun b => b = 0x3f || b = 0x23
  let path := s.takeWhile fun b => !endsPath b
  let rest := s.dropWhile fun b => !endsPath b
  let query := if rest.head? = some 0x3f then some ((rest.drop 1).takeWhile (· ≠ 0x23)) else none
  if !path.all isPathByte || !(query.getD []).all isQueryByte then throw .badByte
  if (Bytes.toText? path).isNone || (Bytes.toText? (query.getD [])).isNone then throw .badByte
  return { scheme, authority, path, query }

/-- A target that does not start with a slash and is longer than one byte. -/
def readFull (s : Bytes) : Except TargetFault Target := do
  let (scheme, rest) ← splitScheme s
  if rest.isEmpty then throw .empty
  let (authority, rest) ← splitAuthority rest
  match scheme with
  | none => if rest.isEmpty then return ⟨none, some authority, [], none⟩ else throw .badForm
  | some _ => if authority.isEmpty then throw .badForm else withPath scheme (some authority) rest

def read (s : Bytes) : Except TargetFault Target :=
  if maxTargetLength < s.length then .error .tooLong
  else match s with
  | [] => .error .empty
  | [0x2a] => .ok ⟨none, none, [0x2a], none⟩
  | 0x2f :: _ => withPath none none s
  | [b] => do
    let (authority, rest) ← splitAuthority [b]
    if rest.isEmpty then return ⟨none, some authority, [], none⟩ else throw .badByte
  | s => readFull s

/-- The path as it is shown: that of a whole address is never empty. -/
def shownPath (t : Target) : Bytes :=
  if t.path.isEmpty && t.scheme.isSome then [0x2f] else t.path

end Target

end CannedReply.Http
