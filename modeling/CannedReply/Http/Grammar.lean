import CannedReply.Text.Bytes

/-!
The classes of bytes that the grammar of HTTP tells apart, and its two line ends.
-/

namespace CannedReply.Http

@[match_pattern] def cr : UInt8 := 0x0d

@[match_pattern] def lf : UInt8 := 0x0a

@[match_pattern] def space : UInt8 := 0x20

def tab : UInt8 := 0x09

@[match_pattern] def colon : UInt8 := 0x3a

def isDigit (b : UInt8) : Bool :=
  0x30 ≤ b && b ≤ 0x39

def isLetter (b : UInt8) : Bool :=
  0x41 ≤ b && b ≤ 0x5a || 0x61 ≤ b && b ≤ 0x7a

def tokenSigns : Bytes :=
  Bytes.ofText "!#$%&'*+-.^_`|~"

/-- Whether the byte may stand in a token: in a method or the name of a field. -/
def isToken (b : UInt8) : Bool :=
  isLetter b || isDigit b || tokenSigns.contains b

/-- Whether the byte may stand in the target of a request. -/
def isTargetByte (b : UInt8) : Bool :=
  0x21 ≤ b && b ≠ 0x7f

def isBlankByte (b : UInt8) : Bool :=
  b = space || b = tab

/-- Whether the byte may stand in the value of a field: no control but the tab. -/
def isValueByte (b : UInt8) : Bool :=
  0x20 ≤ b && b ≠ 0x7f || b = tab

def trim (b : Bytes) : Bytes :=
  ((b.dropWhile isBlankByte).reverse.dropWhile isBlankByte).reverse

/-- Whether bytes are a token; there is no empty one. -/
def isTokenText (b : Bytes) : Bool :=
  !b.isEmpty && b.all isToken

end CannedReply.Http
