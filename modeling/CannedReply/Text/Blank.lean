import CannedReply.Text.Ranges

/-!
White space as the Unicode property White_Space has it: twenty-five characters, the line breaks
U+0085, U+2028 and U+2029 and the no-break spaces among them.
-/

namespace CannedReply.Text

def blankRanges : Ranges :=
  [(0x09, 0x0d), (0x20, 0x20), (0x85, 0x85), (0xa0, 0xa0), (0x1680, 0x1680), (0x2000, 0x200a),
   (0x2028, 0x2029), (0x202f, 0x202f), (0x205f, 0x205f), (0x3000, 0x3000)]

def isBlank (c : Char) : Bool :=
  blankRanges.holds c

example : (blankRanges.map fun r => r.2 + 1 - r.1).sum = 25 := by decide

/-- White space of ASCII is white space. -/
theorem isBlank_of_isWhitespace {c : Char} (h : c.isWhitespace) : isBlank c := by
  change (c = ' ' || c = '\t' || c = '\r' || c = '\n') = true at h
  simp only [Bool.or_eq_true, decide_eq_true_eq] at h
  rcases h with ((rfl | rfl) | rfl) | rfl <;> rfl

end CannedReply.Text
