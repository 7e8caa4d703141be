import CannedReply.Proofs.Text.Numeral
import CannedReply.Proofs.Text.Reader
import CannedReply.Text.Unquoted
import Mathlib.Data.Bool.AllAny

/-!
Quoted texts are read back, whatever they hold and whatever stands behind them, and they stay on one
line.
-/

namespace CannedReply.Text

open CannedReply.Reader

variable {c : Char}

/-- The escape by the code of a character. -/
theorem quotedChar_code (c : Char) (rest : List Char) :
    quotedChar ('\\' :: 'u' :: '\x7b' :: (Numeral.digits 16 c.toNat ++ '\x7d' :: rest)) =
      some (c, rest) := by
  have digits : ∀ d ∈ Numeral.digits 16 c.toNat, Numeral.isDigit 16 d = true :=
    fun d => Numeral.isDigit_of_mem_digits (by decide) (by decide)
  have stop : ∀ d ∈ ('\x7d' :: rest).head?, Numeral.isDigit 16 d = false := by
    rintro d ⟨⟩
    decide
  have code := run_append digits stop
  simp only [run, Option.some.injEq, Prod.mk.injEq] at code
  have value : Numeral.number 16 (Numeral.digits 16 c.toNat) = c.toNat :=
    Numeral.number_digits (by decide) (by decide) c.toNat
  simp only [quotedChar, code.1, code.2, value, Char.ofNat_toNat]

theorem quotedChar_plain (quote : c ≠ '"') (escape : c ≠ '\\') (rest : List Char) :
    quotedChar (c :: rest) = some (c, rest) := by
  unfold quotedChar
  split <;> simp_all

/-- A character is read as itself, escaped or not. -/
theorem quotedChar_escape (c : Char) (rest : List Char) :
    quotedChar (escape c ++ rest) = some (c, rest) := by
  unfold escape
  split
  · next mark => rcases mark with rfl | rfl <;> rfl
  split
  · next same => rw [same]; rfl
  split
  · next same => rw [same]; rfl
  split
  · next same => rw [same]; rfl
  split
  · next same => rw [same]; rfl
  split
  · have shape : '\\' :: 'u' :: '\x7b' :: (Numeral.digits 16 c.toNat ++ ['\x7d']) ++ rest =
        '\\' :: 'u' :: '\x7b' :: (Numeral.digits 16 c.toNat ++ '\x7d' :: rest) := by simp
    rw [shape]
    exact quotedChar_code c rest
  · next plain _ _ _ _ _ =>
    rw [not_or] at plain
    exact quotedChar_plain plain.1 plain.2 rest

theorem escape_ne_nil (c : Char) : escape c ≠ [] := by
  unfold escape
  repeat' split
  all_goals exact List.cons_ne_nil _ _

theorem quotedChar_mark (rest : List Char) : quotedChar ('"' :: rest) = none := rfl

/-- The characters of a quoted text are read one after the other, up to the mark that ends it. -/
theorem runs_escape (cs rest : List Char) :
    Runs quotedChar (cs.flatMap escape ++ '"' :: rest) cs ('"' :: rest) := by
  induction cs with
  | nil => exact .stop (quotedChar_mark rest)
  | cons c cs ih =>
    rw [List.flatMap_cons, List.append_assoc]
    have longer : 0 < (escape c).length := List.length_pos_iff.2 (escape_ne_nil c)
    refine .step (quotedChar_escape c _) ?_ ih
    simp only [List.length_append]
    omega

theorem head_quoted (s : String) (rest : List Char) :
    ∀ c ∈ ((quoted s).toList ++ rest).head?, c = '"' := by
  rw [quoted, String.toList_ofList, List.cons_append, List.head?_cons]
  rintro c ⟨⟩
  rfl

theorem quotedText_quoted (s : String) (rest : List Char) :
    quotedText ((quoted s).toList ++ rest) = some (s, rest) := by
  have shape : (quoted s).toList ++ rest = '"' :: (s.toList.flatMap escape ++ '"' :: rest) := by
    simp [quoted]
  unfold quotedText
  rw [shape, bind_of (token_cons '"' _), bind_of (runs_escape s.toList rest).many,
    bind_of (token_cons '"' rest), String.ofList_toList]
  rfl

theorem staysInLine_of_ranges (control : isControl c = false)
    (blank : ∀ r ∈ blankRanges, r ≠ (0x20, 0x20) → ¬(r.1 ≤ c.toNat ∧ c.toNat ≤ r.2)) :
    StaysInLine c := by
  refine ⟨control, fun white => ?_⟩
  obtain ⟨r, mem, within⟩ := (blankRanges.holds_iff c).1 white
  by_cases space : r = (0x20, 0x20)
  · rw [space] at within
    have code : c.toNat = ' '.toNat := Nat.le_antisymm within.2 within.1
    exact Char.toNat_inj.1 code
  · exact absurd within (blank r mem space)

/-- What is printed as it is stays in its line. -/
theorem staysInLine_of_printable (printable : isUnprintable c = false) : StaysInLine c := by
  have hides : ∀ r : Nat × Nat, (∃ r' ∈ unprintableRanges, r'.1 ≤ r.1 ∧ r.2 ≤ r'.2) →
      ¬(r.1 ≤ c.toNat ∧ c.toNat ≤ r.2) := by
    rintro r ⟨r', mem, below, above⟩ ⟨low, high⟩
    have hidden : isUnprintable c = true :=
      (unprintableRanges.holds_iff c).2 ⟨r', mem, by omega, by omega⟩
    rw [hidden] at printable
    cases printable
  have controls : ∀ r ∈ controlRanges, ∃ r' ∈ unprintableRanges, r'.1 ≤ r.1 ∧ r.2 ≤ r'.2 := by
    decide +kernel
  -- of the white space, only the space is printable
  have blanks : ∀ r ∈ blankRanges, r ≠ (0x20, 0x20) →
      ∃ r' ∈ unprintableRanges, r'.1 ≤ r.1 ∧ r.2 ≤ r'.2 := by
    decide +kernel
  apply staysInLine_of_ranges
  · refine Bool.eq_false_iff.2 fun control => ?_
    obtain ⟨r, mem, within⟩ := (controlRanges.holds_iff c).1 control
    exact hides r (controls r mem) within
  · intro r mem other
    exact hides r (blanks r mem other)

theorem staysInLine_of_ascii (low : 0x20 ≤ c.toNat) (high : c.toNat ≤ 0x7e) : StaysInLine c := by
  have controls : ∀ r ∈ controlRanges, r.2 < 0x20 ∨ 0x7e < r.1 := by decide
  have blanks : ∀ r ∈ blankRanges, r ≠ (0x20, 0x20) → r.2 < 0x20 ∨ 0x7e < r.1 := by decide
  apply staysInLine_of_ranges
  · refine Bool.eq_false_iff.2 fun control => ?_
    obtain ⟨r, mem, within⟩ := (controlRanges.holds_iff c).1 control
    have := controls r mem
    omega
  · intro r mem other within
    have := blanks r mem other
    omega

theorem staysInLine_of_digits {base n : Nat} (hb : 2 ≤ base) (hs : base ≤ 16) :
    ∀ c ∈ Numeral.digits base n, StaysInLine c := by
  intro c mem
  obtain ⟨low, high⟩ := Numeral.ascii_of_mem_digits hb hs mem
  exact staysInLine_of_ascii low high

theorem staysInLine_escape (c : Char) : ∀ d ∈ escape c, StaysInLine d := by
  unfold escape
  split
  · next mark => rcases mark with rfl | rfl <;> exact List.all_iff_forall_prop.1 (by decide)
  split
  · exact List.all_iff_forall_prop.1 (by decide)
  split
  · exact List.all_iff_forall_prop.1 (by decide)
  split
  · exact List.all_iff_forall_prop.1 (by decide)
  split
  · exact List.all_iff_forall_prop.1 (by decide)
  split
  · have digits : ∀ d ∈ Numeral.digits 16 c.toNat, StaysInLine d :=
      staysInLine_of_digits (by decide) (by decide)
    have front : ∀ d ∈ ['\\', 'u', '\x7b'], StaysInLine d :=
      List.all_iff_forall_prop.1 (by decide)
    have back : ∀ d ∈ ['\x7d'], StaysInLine d :=
      List.all_iff_forall_prop.1 (by decide)
    exact List.forall_mem_append.2 ⟨front, List.forall_mem_append.2 ⟨digits, back⟩⟩
  · next shown =>
    rw [List.forall_mem_singleton]
    rw [isHidden, Bool.or_eq_true, not_or] at shown
    exact staysInLine_of_printable (Bool.eq_false_iff.2 shown.1)

theorem staysInLine_quoted (s : String) : ∀ c ∈ (quoted s).toList, StaysInLine c := by
  have mark : StaysInLine '"' := by decide
  rw [quoted, String.toList_ofList, List.forall_mem_cons, List.forall_mem_append]
  refine ⟨mark, fun d mem => ?_, List.forall_mem_singleton.2 mark⟩
  obtain ⟨c, -, within⟩ := List.mem_flatMap.1 mem
  exact staysInLine_escape c d within

end CannedReply.Text
