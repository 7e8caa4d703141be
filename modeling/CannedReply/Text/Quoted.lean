import CannedReply.Text.Extending
import CannedReply.Text.Numeral
import CannedReply.Text.Unprintable

/-!
Text in double quotes on one line: quotation marks and backslashes get a backslash, and what
would not show, or would join its neighbour, is written as an escape.
-/

namespace CannedReply.Text

/-- Whether a quoted text shows the character by its code point. -/
def isHidden (c : Char) : Bool :=
  isUnprintable c || isExtending c

def escape (c : Char) : List Char :=
  if c = '"' ∨ c = '\\' then ['\\', c]
  else if c = '\x00' then ['\\', '0']
  else if c = '\t' then ['\\', 't']
  else if c = '\n' then ['\\', 'n']
  else if c = '\r' then ['\\', 'r']
  else if isHidden c then '\\' :: 'u' :: '\x7b' :: (Numeral.digits 16 c.toNat ++ ['\x7d'])
  else [c]

def quoted (s : String) : String :=
  String.ofList ('"' :: (s.toList.flatMap escape ++ ['"']))

end CannedReply.Text
