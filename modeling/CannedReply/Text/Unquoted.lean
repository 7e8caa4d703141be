import CannedReply.Text.Blank
import CannedReply.Text.Quoted
import CannedReply.Text.Reader

/-!
Quoted texts as they are read back, and the characters that leave a text on its line.
-/

namespace CannedReply.Text

open CannedReply.Reader

/-- A character of a quoted text, escaped or not. The quotation mark that ends the text is none. -/
def quotedChar : Reader Char := fun s =>
  match s with
  | '\\' :: 'u' :: '\x7b' :: r =>
    match r.dropWhile (Numeral.isDigit 16) with
    | '\x7d' :: t => some (Char.ofNat (Numeral.number 16 (r.takeWhile (Numeral.isDigit 16))), t)
    | _ => none
  | '\\' :: '0' :: r => some ('\x00', r)
  | '\\' :: 't' :: r => some ('\t', r)
  | '\\' :: 'n' :: r => some ('\n', r)
  | '\\' :: 'r' :: r => some ('\r', r)
  | '\\' :: '"' :: r => some ('"', r)
  | '\\' :: '\\' :: r => some ('\\', r)
  | '\\' :: _ => none
  | '"' :: _ => none
  | c :: r => some (c, r)
  | [] => none

def quotedText : Reader String := do
  token ['"']
  let cs ← many quotedChar
  token ['"']
  return String.ofList cs

/-- The control characters, which Unicode has in two blocks. -/
def controlRanges : Ranges :=
  [(0x00, 0x1f), (0x7f, 0x9f)]

def isControl (c : Char) : Bool :=
  controlRanges.holds c

/-- Whether a character leaves a text on its line: it is no control character, and no white space
but the space. -/
def StaysInLine (c : Char) : Prop :=
  isControl c = false ∧ (isBlank c = true → c = ' ')

instance (c : Char) : Decidable (StaysInLine c) :=
  inferInstanceAs (Decidable (_ ∧ _))

end CannedReply.Text
