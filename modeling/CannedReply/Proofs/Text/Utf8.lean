import CannedReply.Text.Utf8
import Mathlib.Data.List.Basic

/-!
Bytes are well formed just where they are the bytes of a text. Each code point has bytes of one of
the forms, and bytes of a form are those of the code point that they stand for.
-/

namespace CannedReply

namespace Utf8

open Text

variable {b front rest : Bytes} {c : Char} {cs : List Char}

theorem codePoint_one (a : UInt8) : codePoint [a] = a.toNat := rfl

theorem codePoint_two (a b : UInt8) :
    codePoint [a, b] = 0x40 * (a.toNat - 0xc0) + (b.toNat - 0x80) := rfl

theorem codePoint_three (a b c : UInt8) :
    codePoint [a, b, c] =
      0x40 * (0x40 * (a.toNat - 0xe0) + (b.toNat - 0x80)) + (c.toNat - 0x80) := rfl

theorem codePoint_four (a b c d : UInt8) :
    codePoint [a, b, c, d] =
      0x40 * (0x40 * (0x40 * (a.toNat - 0xf0) + (b.toNat - 0x80)) + (c.toNat - 0x80)) +
        (d.toNat - 0x80) := rfl

theorem isCharacter_iff : IsCharacter b ↔ HasForm b [(0x00, 0x7f)] ∨
    HasForm b [(0xc2, 0xdf), (0x80, 0xbf)] ∨
    HasForm b [(0xe0, 0xe0), (0xa0, 0xbf), (0x80, 0xbf)] ∨
    HasForm b [(0xe1, 0xec), (0x80, 0xbf), (0x80, 0xbf)] ∨
    HasForm b [(0xed, 0xed), (0x80, 0x9f), (0x80, 0xbf)] ∨
    HasForm b [(0xee, 0xef), (0x80, 0xbf), (0x80, 0xbf)] ∨
    HasForm b [(0xf0, 0xf0), (0x90, 0xbf), (0x80, 0xbf), (0x80, 0xbf)] ∨
    HasForm b [(0xf1, 0xf3), (0x80, 0xbf), (0x80, 0xbf), (0x80, 0xbf)] ∨
    HasForm b [(0xf4, 0xf4), (0x80, 0x8f), (0x80, 0xbf), (0x80, 0xbf)] := by
  simp only [IsCharacter, forms, List.exists_mem_cons_iff, List.not_mem_nil, false_and,
    exists_false, or_false]

/-- The bytes of a code point. -/
def encoded (n : Nat) : Bytes :=
  if n ≤ 0x7f then [.ofNat n]
  else if n ≤ 0x7ff then [.ofNat (n / 0x40 % 0x20 + 0xc0), .ofNat (n % 0x40 + 0x80)]
  else if n ≤ 0xffff then
    [.ofNat (n / 0x1000 % 0x10 + 0xe0), .ofNat (n / 0x40 % 0x40 + 0x80), .ofNat (n % 0x40 + 0x80)]
  else
    [.ofNat (n / 0x40000 % 0x08 + 0xf0), .ofNat (n / 0x1000 % 0x40 + 0x80),
      .ofNat (n / 0x40 % 0x40 + 0x80), .ofNat (n % 0x40 + 0x80)]

theorem utf8EncodeChar_eq (c : Char) : String.utf8EncodeChar c = encoded c.toNat := rfl

/-- The bytes of a code point are those of one character, and stand for it. -/
theorem isCharacter_encoded {n : Nat} (valid : n.isValidChar) :
    IsCharacter (encoded n) ∧ codePoint (encoded n) = n := by
  unfold Nat.isValidChar at valid
  simp only [encoded, isCharacter_iff]
  by_cases one : n ≤ 0x7f
  · simp only [if_pos one, HasForm, codePoint_one, UInt8.toNat_ofNat', and_true, and_false,
      or_false]
    omega
  rw [if_neg one]
  by_cases two : n ≤ 0x7ff
  · simp only [if_pos two, HasForm, codePoint_two, UInt8.toNat_ofNat', and_true, and_false,
      or_false, false_or]
    omega
  rw [if_neg two]
  by_cases three : n ≤ 0xffff
  · simp only [if_pos three, HasForm, codePoint_three, UInt8.toNat_ofNat', and_true, and_false,
      or_false, false_or]
    omega
  · simp only [if_neg three, HasForm, codePoint_four, UInt8.toNat_ofNat', and_true, and_false,
      false_or]
    omega

/-- The bytes of one character stand for a code point whose bytes they are. -/
theorem encoded_codePoint (character : IsCharacter b) :
    encoded (codePoint b) = b ∧ (codePoint b).isValidChar := by
  unfold Nat.isValidChar
  rw [isCharacter_iff] at character
  match b with
  | [] => simp [HasForm] at character
  | [a] =>
    simp only [HasForm, and_true, and_false, or_false] at character
    rw [codePoint_one, encoded, if_pos (by omega)]
    simp only [← UInt8.toNat_inj, UInt8.toNat_ofNat', List.cons.injEq, and_true]
    omega
  | [a, b] =>
    simp only [HasForm, and_true, and_false, or_false, false_or] at character
    rw [codePoint_two, encoded, if_neg (by omega), if_pos (by omega)]
    simp only [← UInt8.toNat_inj, UInt8.toNat_ofNat', List.cons.injEq, and_true]
    omega
  | [a, b, c] =>
    simp only [HasForm, and_true, and_false, or_false, false_or] at character
    rw [codePoint_three, encoded, if_neg (by omega), if_neg (by omega), if_pos (by omega)]
    simp only [← UInt8.toNat_inj, UInt8.toNat_ofNat', List.cons.injEq, and_true]
    omega
  | [a, b, c, d] =>
    simp only [HasForm, and_true, and_false, false_or] at character
    rw [codePoint_four, encoded, if_neg (by omega), if_neg (by omega), if_neg (by omega)]
    simp only [← UInt8.toNat_inj, UInt8.toNat_ofNat', List.cons.injEq, and_true]
    omega
  | _ :: _ :: _ :: _ :: _ :: _ => simp [HasForm] at character

theorem isCharacter_utf8EncodeChar (c : Char) :
    IsCharacter (String.utf8EncodeChar c) ∧ codePoint (String.utf8EncodeChar c) = c.toNat :=
  isCharacter_encoded c.valid

theorem utf8EncodeChar_of_codePoint (character : IsCharacter b) (point : codePoint b = c.toNat) :
    String.utf8EncodeChar c = b := by
  rw [utf8EncodeChar_eq, ← point]
  exact (encoded_codePoint character).1

theorem exists_char_of_valid {n : Nat} (valid : n.isValidChar) : ∃ c : Char, c.toNat = n := by
  refine ⟨.ofNat n, ?_⟩
  unfold Char.ofNat
  rw [dif_pos valid]
  rfl

/-- Bytes are decoded as the characters whose bytes they are. -/
theorem decodes_iff : Decodes b cs ↔ cs.flatMap String.utf8EncodeChar = b := by
  constructor
  · intro h
    induction h with
    | nil => rfl
    | cons character point _ ih =>
      rw [List.flatMap_cons, utf8EncodeChar_of_codePoint character point, ih]
  · rintro rfl
    induction cs with
    | nil => exact .nil
    | cons c cs ih =>
      obtain ⟨character, point⟩ := isCharacter_utf8EncodeChar c
      exact .cons character point ih

theorem wellFormed_iff : WellFormed b ↔ ∃ cs, Decodes b cs := by
  constructor
  · intro h
    induction h with
    | nil => exact ⟨[], .nil⟩
    | @cons front rest character _ ih =>
      obtain ⟨cs, decodes⟩ := ih
      obtain ⟨c, point⟩ := exists_char_of_valid (encoded_codePoint character).2
      exact ⟨c :: cs, .cons character point.symm decodes⟩
  · rintro ⟨cs, h⟩
    induction h with
    | nil => exact .nil
    | cons character _ _ ih => exact .cons character ih

end Utf8

namespace Bytes

theorem ofText_eq (s : String) : ofText s = s.toList.flatMap String.utf8EncodeChar := by
  rw [← ofText_ofList, String.ofList_toList]

theorem ofText_injective {s t : String} (same : ofText s = ofText t) : s = t := by
  apply String.toByteArray_inj.1
  apply ByteArray.ext
  exact Array.toList_inj.1 same

theorem decodes_ofText (s : String) : Utf8.Decodes (ofText s) s.toList :=
  Utf8.decodes_iff.2 (ofText_eq s).symm

/-- Bytes are decoded as one text at most. -/
theorem decodes_unique {b : Bytes} {s t : String} (h : Utf8.Decodes b s.toList)
    (h' : Utf8.Decodes b t.toList) : s = t := by
  apply ofText_injective
  rw [ofText_eq, ofText_eq, Utf8.decodes_iff.1 h, Utf8.decodes_iff.1 h']

theorem fromUTF8?_ofText (s : String) : String.fromUTF8? ⟨(ofText s).toArray⟩ = some s := by
  have whole : (⟨(ofText s).toArray⟩ : ByteArray) = s.toByteArray := by
    apply ByteArray.ext
    exact Array.toArray_toList
  rw [whole, String.fromUTF8?, dif_pos s.isValidUTF8]
  rfl

theorem ofText_of_fromUTF8? {b : ByteArray} {s : String} (h : String.fromUTF8? b = some s) :
    ofText s = b.data.toList := by
  unfold String.fromUTF8? at h
  split at h
  · cases h
    rfl
  · cases h

/-- Bytes that are decoded are decoded as the text that they are well formed for. -/
theorem fromUTF8?_eq_some_iff {b : ByteArray} {s : String} :
    String.fromUTF8? b = some s ↔ Utf8.Decodes b.data.toList s.toList := by
  rw [Utf8.decodes_iff, ← ofText_eq]
  constructor
  · exact ofText_of_fromUTF8?
  · intro same
    rw [← fromUTF8?_ofText s, same]

theorem wellFormed_iff {b : Bytes} :
    Utf8.WellFormed b ↔ ∃ s : String, Utf8.Decodes b s.toList := by
  rw [Utf8.wellFormed_iff]
  constructor
  · rintro ⟨cs, decodes⟩
    exact ⟨String.ofList cs, by rwa [String.toList_ofList]⟩
  · rintro ⟨s, decodes⟩
    exact ⟨s.toList, decodes⟩

theorem fromUTF8?_eq_none_iff {b : ByteArray} :
    String.fromUTF8? b = none ↔ ¬Utf8.WellFormed b.data.toList := by
  simp only [Option.eq_none_iff_forall_ne_some, wellFormed_iff, not_exists, ne_eq,
    fromUTF8?_eq_some_iff]

end Bytes

end CannedReply
