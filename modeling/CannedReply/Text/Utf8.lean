import CannedReply.Text.Bytes
import CannedReply.Text.Ranges

/-!
UTF-8 as the standard has it: the ranges of the bytes of one character, place by place, and the
texts that bytes are well formed for.
-/

namespace CannedReply.Utf8

open Text

/-- The forms that the bytes of a character may have. They leave out what is longer than need be,
the halves of surrogate pairs, and what lies behind the last character. -/
def forms : List Ranges :=
  [[(0x00, 0x7f)],
   [(0xc2, 0xdf), (0x80, 0xbf)],
   [(0xe0, 0xe0), (0xa0, 0xbf), (0x80, 0xbf)],
   [(0xe1, 0xec), (0x80, 0xbf), (0x80, 0xbf)],
   [(0xed, 0xed), (0x80, 0x9f), (0x80, 0xbf)],
   [(0xee, 0xef), (0x80, 0xbf), (0x80, 0xbf)],
   [(0xf0, 0xf0), (0x90, 0xbf), (0x80, 0xbf), (0x80, 0xbf)],
   [(0xf1, 0xf3), (0x80, 0xbf), (0x80, 0xbf), (0x80, 0xbf)],
   [(0xf4, 0xf4), (0x80, 0x8f), (0x80, 0xbf), (0x80, 0xbf)]]

/-- Whether bytes are of a form, each in the range of its place. -/
def HasForm : Bytes → Ranges → Prop
  | [], [] => True
  | b :: bs, r :: rs => r.1 ≤ b.toNat ∧ b.toNat ≤ r.2 ∧ HasForm bs rs
  | _, _ => False

/-- Whether bytes are those of one character. -/
def IsCharacter (b : Bytes) : Prop :=
  ∃ form ∈ forms, HasForm b form

/-- The part of the first byte of a character that tells how many bytes follow it. -/
def mark : Nat → Nat
  | 0 => 0x00
  | 1 => 0xc0
  | 2 => 0xe0
  | _ => 0xf0

/-- The code point that the bytes of a character stand for: the rest of the first byte, and six
binary digits from each byte that follows it. -/
def codePoint : Bytes → Nat
  | [] => 0
  | b :: tail =>
    tail.foldl (fun n b => 0x40 * n + (b.toNat - 0x80)) (b.toNat - mark tail.length)

/-- Whether bytes are those of characters, one behind the other. -/
inductive WellFormed : Bytes → Prop where
  | nil : WellFormed []
  | cons {front rest : Bytes} (character : IsCharacter front) (more : WellFormed rest) :
      WellFormed (front ++ rest)

/-- Whether bytes are those of the characters of a text. -/
inductive Decodes : Bytes → List Char → Prop where
  | nil : Decodes [] []
  | cons {front rest : Bytes} {c : Char} {cs : List Char} (character : IsCharacter front)
      (point : codePoint front = c.toNat) (more : Decodes rest cs) :
      Decodes (front ++ rest) (c :: cs)

end CannedReply.Utf8
