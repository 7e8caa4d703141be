import CannedReply.Proofs.Text.Numeral
import CannedReply.Proofs.Text.Reader
import CannedReply.Toml.Parser
import CannedReply.Toml.Writer
import Mathlib.Data.Bool.AllAny

/-!
What is written without parts is read back: texts in double quotes, whatever they hold, and numbers.
-/

namespace CannedReply

namespace Toml

open CannedReply.Reader
open Numeral (signed signedNumber)

variable {c d : Char} {cs r t rest : List Char}

theorem quotedLine_quote (rest : List Char) : quotedLine ('"' :: rest) = some ([], rest) := by
  rw [quotedLine, if_pos rfl]

theorem quotedLine_escaped (h : escaped? r = some (d, t)) :
    quotedLine ('\\' :: r) = (quotedLine t).map fun (cs, u) => (d :: cs, u) := by
  rw [quotedLine, if_neg (by decide), if_pos rfl]
  split
  · next d' t' h' =>
    cases h.symm.trans h'
    rfl
  · next h' => cases h.symm.trans h'

theorem quotedLine_ordinary (quote : c ≠ '"') (escape : c ≠ '\\') (h : isOrdinary c = true) :
    quotedLine (c :: r) = (quotedLine r).map fun (cs, u) => (c :: cs, u) := by
  rw [quotedLine, if_neg quote, if_neg escape, if_pos h]

theorem toNat_of_not_isOrdinary (h : isOrdinary c = false) : c.toNat < 0x80 := by
  simp [isOrdinary] at h
  omega

/-- The two last hexadecimal digits of a code are enough below the first 256. -/
theorem scalar?_digits (h : c.toNat < 0x100) :
    scalar? 4 ('0' :: '0' :: Numeral.digit (c.toNat / 16) :: Numeral.digit (c.toNat % 16) :: rest)
      = some (c, rest) := by
  have zero : Numeral.value? '0' = some 0 ∧ Numeral.isDigit 16 '0' = true := by decide
  have high := Numeral.value?_digit (show c.toNat / 16 < 16 by omega)
  have low := Numeral.value?_digit (show c.toNat % 16 < 16 by omega)
  have code : Numeral.number 16 ['0', '0', Numeral.digit (c.toNat / 16),
      Numeral.digit (c.toNat % 16)] = c.toNat := by
    simp [Numeral.number, zero.1, high, low]
    omega
  have hex : ∀ n < 16, Numeral.isDigit 16 (Numeral.digit n) = true := fun n h =>
    Numeral.isDigit_digit (Nat.le_refl _) h
  have all : ['0', '0', Numeral.digit (c.toNat / 16), Numeral.digit (c.toNat % 16)].all
      (Numeral.isDigit 16) = true := by
    simp only [List.all_cons, List.all_nil, zero.2, hex _ (show c.toNat / 16 < 16 by omega),
      hex _ (show c.toNat % 16 < 16 by omega), Bool.and_true]
  simp only [scalar?, List.take_succ_cons, List.take_zero, code, all]
  rw [if_pos ⟨rfl, trivial, c.valid⟩]
  simp

/-- A character is read as itself, escaped or not. -/
theorem quotedLine_escape (c : Char) (rest : List Char) :
    quotedLine (escape c ++ rest) = (quotedLine rest).map fun (cs, u) => (c :: cs, u) := by
  unfold escape
  split
  · next h => rw [h]; exact quotedLine_escaped rfl
  split
  · next h => rw [h]; exact quotedLine_escaped rfl
  split
  · next h => rw [h]; exact quotedLine_escaped rfl
  split
  · next h => rw [h]; exact quotedLine_escaped rfl
  split
  · next h => rw [h]; exact quotedLine_escaped rfl
  split
  · next h => rw [h]; exact quotedLine_escaped rfl
  split
  · next quote escape _ _ _ _ ordinary => exact quotedLine_ordinary quote escape ordinary
  · next ordinary =>
    have low := toNat_of_not_isOrdinary (Bool.eq_false_iff.2 ordinary)
    exact quotedLine_escaped (scalar?_digits (by omega))

theorem quotedLine_flatMap_escape (cs rest : List Char) :
    quotedLine (cs.flatMap escape ++ '"' :: rest) = some (cs, rest) := by
  induction cs with
  | nil => exact quotedLine_quote rest
  | cons c cs ih =>
    rw [List.flatMap_cons, List.append_assoc, quotedLine_escape, ih]
    rfl

theorem written?_quote (h : ∀ u, t ≠ '"' :: '"' :: u) : written? ('"' :: t) = quotedLine t := by
  unfold written?
  split
  · next u same =>
    cases same
    exact absurd rfl (h u)
  · next same => cases same
  · next u _ same =>
    cases same
    rfl
  · next same => cases same
  · next other _ => exact absurd rfl (other t)

theorem escape_ne (c : Char) (t u : List Char) : escape c ++ t ≠ '"' :: u := by
  unfold escape
  split
  · simp
  next quote =>
  repeat' split
  all_goals simp [quote]

/-- What may stand behind a value without parts. -/
def closers : List Char :=
  ['\n', ',', ']', '\x7d']

/-- Whether a text starts with what may stand behind a value without parts. -/
def Closes (rest : List Char) : Prop :=
  ∃ c ∈ closers, rest.head? = some c

theorem Closes.head {p : Char → Prop} [DecidablePred p] (h : Closes rest)
    (hp : closers.all (fun c => p c) = true) : ∀ c ∈ rest.head?, p c := by
  obtain ⟨c, hc, same⟩ := h
  intro c' same'
  cases same.symm.trans same'
  exact List.all_iff_forall_prop.1 hp c hc

namespace Reader

theorem text_written (s : String) (h : Closes rest) :
    text ((Literal.text s).written ++ rest) = some (s, rest) := by
  have single : ∀ u, s.toList.flatMap escape ++ '"' :: rest ≠ '"' :: '"' :: u := by
    cases s.toList with
    | nil =>
      intro u same
      have no : ∀ c ∈ rest.head?, c ≠ '"' := h.head (by decide)
      cases same
      exact no '"' rfl rfl
    | cons c cs =>
      intro u
      rw [List.flatMap_cons, List.append_assoc]
      exact escape_ne c _ _
  have read : written? ((Literal.text s).written ++ rest) = some (s.toList, rest) := by
    simp only [Literal.written, List.cons_append, List.append_assoc, List.nil_append]
    rw [written?_quote single, quotedLine_flatMap_escape]
  simp only [text, read, Option.map_some, String.ofList_toList]

theorem text_of_head (h : ∀ c ∈ r.head?, c ≠ '"' ∧ c ≠ '\x27') : text r = none := by
  have none' : written? r = none := by
    unfold written?
    split
    · exact absurd rfl (h '"' rfl).1
    · exact absurd rfl (h '\x27' rfl).2
    · exact absurd rfl (h '"' rfl).1
    · exact absurd rfl (h '\x27' rfl).2
    · rfl
  simp only [text, none', Option.map_none]

theorem field_of_head (h : ∀ c ∈ r.head?, Numeral.isDigit 10 c = false) (n low high : Nat) :
    field (n + 1) low high r = none := by
  unfold field
  refine if_neg ?_
  rintro ⟨long, digits, -⟩
  cases r with
  | nil => cases long
  | cons c r =>
    rw [List.take_succ_cons, List.all_cons, h c rfl] at digits
    cases digits

/-- Dates and times start with a digit. -/
theorem dateTime_of_head (h : ∀ c ∈ r.head?, Numeral.isDigit 10 c = false) :
    dateTime r = none := by
  have day : date r = none := bind_of_none (field_of_head h 3 _ _)
  have moment : time r = none := bind_of_none (field_of_head h 1 _ _)
  unfold dateTime
  rw [orElse_of_none (bind_of_none day)]
  exact bind_of_none moment

/-- Whether a text starts with digits, and then with something else that is no part of a number. -/
structure Digits (ds rest : List Char) : Prop where
  any : ds ≠ []
  digits : ∀ c ∈ ds, Numeral.isDigit 10 c = true
  closes : Closes rest

variable {ds : List Char} {x : Char}

/-- What may stand within digits or behind them. -/
theorem Digits.head_drop (h : Digits ds rest) {n : Nat} (short : n ≤ ds.length) :
    ∀ c ∈ ((ds ++ rest).drop n).head?, Numeral.isDigit 10 c = true ∨ c ∈ closers := by
  rw [List.drop_append_of_le_length short]
  cases left : ds.drop n with
  | nil =>
    rw [List.nil_append]
    obtain ⟨c, closer, same⟩ := h.closes
    intro c' same'
    cases same.symm.trans same'
    exact .inr closer
  | cons d left' =>
    intro c same
    cases same
    exact .inl (h.digits d (List.mem_of_mem_drop (left ▸ List.mem_cons_self)))

/-- Other characters stand neither within digits nor behind them. -/
theorem Digits.token_drop (h : Digits ds rest) {n : Nat} {w : List Char} (short : n ≤ ds.length)
    (digit : Numeral.isDigit 10 x = false) (closer : x ∉ closers) :
    token (x :: w) ((ds ++ rest).drop n) = none := by
  refine token_of_head_ne fun c hc same => ?_
  subst same
  rcases h.head_drop short c hc with h | h
  · rw [digit] at h
    cases h
  · exact closer h

theorem Digits.token (h : Digits ds rest) {w : List Char} (digit : Numeral.isDigit 10 x = false)
    (closer : x ∉ closers) : Reader.token (x :: w) (ds ++ rest) = none :=
  h.token_drop (Nat.zero_le _) digit closer

/-- A field of digits ends within the digits. -/
theorem Digits.field (h : Digits ds rest) {n low high v : Nat}
    (read : field n low high (ds ++ rest) = some (v, t)) :
    t = (ds ++ rest).drop n ∧ n ≤ ds.length := by
  simp only [Reader.field] at read
  split at read
  case isFalse => cases read
  next fits =>
    obtain ⟨-, digits, -⟩ := fits
    refine ⟨(Prod.mk.inj (Option.some.inj read)).2.symm, Nat.le_of_not_lt fun long => ?_⟩
    -- a longer field takes what stands behind the digits, which is no digit
    obtain ⟨c, closer, head⟩ := h.closes
    have taken : c ∈ (ds ++ rest).take n := by
      obtain ⟨k, hk⟩ := Nat.exists_eq_add_of_lt long
      obtain ⟨r, rfl⟩ := List.head?_eq_some_iff.1 head
      rw [List.take_append, hk, Nat.add_assoc, Nat.add_sub_cancel_left]
      simp
    have no : ∀ c ∈ closers, Numeral.isDigit 10 c = false := List.all_iff_forall_prop.1 (by decide)
    have digit : Numeral.isDigit 10 c = true := List.all_eq_true.1 digits c taken
    rw [no c closer] at digit
    cases digit

/-- A field of digits is not followed by something else. -/
theorem Digits.field_bind {α : Type} (h : Digits ds rest) {n low high : Nat}
    (digit : Numeral.isDigit 10 x = false) (closer : x ∉ closers)
    (f : Nat → CannedReply.Reader α) :
    (do let v ← Reader.field n low high; Reader.token [x]; f v) (ds ++ rest) = none := by
  cases read : Reader.field n low high (ds ++ rest) with
  | none => exact bind_of_none read
  | some r =>
    obtain ⟨v, t⟩ := r
    obtain ⟨rfl, short⟩ := h.field read
    rw [bind_of read]
    exact bind_of_none (h.token_drop short digit closer)

theorem Digits.dateTime (h : Digits ds rest) : Reader.dateTime (ds ++ rest) = none := by
  have date : Reader.date (ds ++ rest) = none := h.field_bind (by decide) (by decide) _
  have time : Reader.time (ds ++ rest) = none := h.field_bind (by decide) (by decide) _
  unfold Reader.dateTime
  rw [orElse_of_none (bind_of_none date)]
  exact bind_of_none time

theorem Digits.sign (h : Digits ds rest) : Reader.sign (ds ++ rest) = some (false, ds ++ rest) := by
  have plain : ∀ c ∈ (ds ++ rest).head?, c ≠ '-' ∧ c ≠ '+' := by
    intro c hc
    rcases h.head_drop (Nat.zero_le _) c hc with digit | closer
    · constructor
      · rintro rfl
        revert digit
        decide
      · rintro rfl
        revert digit
        decide
    · have no : ∀ c ∈ closers, c ≠ '-' ∧ c ≠ '+' := List.all_iff_forall_prop.1 (by decide)
      exact no c closer
  unfold Reader.sign
  refine (bind_peek (r := Pure.pure false) ?_).trans rfl
  split
  · next same => exact absurd rfl (plain '-' same).1
  · next same => exact absurd rfl (plain '+' same).2
  · rfl

theorem Digits.moreDigits (digits : ∀ c ∈ ds, Numeral.isDigit 10 c = true) (closes : Closes rest) :
    moreDigits 10 (ds ++ rest) = (ds, rest) := by
  induction ds with
  | nil =>
    have no : ∀ c ∈ rest.head?, c ≠ '_' ∧ Numeral.isDigit 10 c = false := closes.head (by decide)
    rw [List.nil_append]
    unfold Toml.moreDigits
    split
    · rfl
    · exact absurd rfl (no '_' rfl).1
    · next c r _ => rw [if_neg (by simp [(no c rfl).2])]
  | cons d ds ih =>
    rw [List.forall_mem_cons] at digits
    rw [List.cons_append, Toml.moreDigits, if_pos digits.1, ih digits.2]
    rintro c r same
    cases same
    exact absurd digits.1 (by decide)

/-- A decimal without needless zeros in front is read to its end. -/
theorem Digits.decimalDigits (h : Digits ds rest) (zero : ds.head? = some '0' → ds = ['0']) :
    decimalDigits (ds ++ rest) = some (ds, rest) := by
  obtain ⟨d, ds', rfl⟩ := List.exists_cons_of_ne_nil h.any
  unfold Reader.decimalDigits
  by_cases leading : d = '0'
  · obtain rfl : ds' = [] := (List.cons.inj (zero (congrArg some leading))).2
    subst leading
    exact (bind_peek (r := do Reader.token ['0']; return ['0']) (if_pos rfl)).trans rfl
  · have plain : ¬(d :: ds' ++ rest).head? = some '0' := fun same => leading (Option.some.inj same)
    refine (bind_peek (r := Reader.digits 10) (if_neg plain)).trans ?_
    rw [List.cons_append, Reader.digits, if_pos (h.digits d List.mem_cons_self),
      Digits.moreDigits (fun c hc => h.digits c (List.mem_cons_of_mem _ hc)) h.closes]

/-- Digits alone are no floating-point number, whatever their sign. -/
theorem Digits.float_of_sign (h : Digits ds rest) (zero : ds.head? = some '0' → ds = ['0'])
    {negative : Bool} (front : Reader.sign r = some (negative, ds ++ rest)) :
    Reader.float r = none := by
  have places : (do Reader.token ['.']; Reader.digits 10) rest = none :=
    bind_of_none (token_of_head_ne (h.closes.head (by decide)))
  have exponent : Reader.power rest = none :=
    bind_of_none (map_of_none _ (char_of_head (h.closes.head (by decide))))
  unfold Reader.float
  rw [bind_of front, orElse_of_none (bind_of_none (h.token (by decide) (by decide))),
    orElse_of_none (bind_of_none (h.token (by decide) (by decide))),
    bind_of (h.decimalDigits zero), bind_of (optional_of_none places),
    bind_of (optional_of_none exponent)]
  exact bind_of_none rfl

theorem inRange_iff (n : Int) :
    inRange n = true ↔ -0x8000000000000000 ≤ n ∧ n < 0x8000000000000000 := by
  rw [inRange, Bool.and_eq_true, decide_eq_true_eq, decide_eq_true_eq]

/-- Digits with their sign are a whole number as far as the range goes. -/
theorem Digits.integer_of_sign (h : Digits ds rest) (zero : ds.head? = some '0' → ds = ['0'])
    {negative : Bool} (front : Reader.sign r = some (negative, ds ++ rest))
    (decimal : ∀ x ∈ ['x', 'o', 'b'], Reader.token ['0', x] r = none) :
    Reader.integer r = if inRange (signedNumber negative ds) = true
      then some (signedNumber negative ds, rest) else none := by
  simp only [List.forall_mem_cons] at decimal
  unfold Reader.integer
  rw [bind_of (a := signedNumber negative ds) (t := rest)]
  · cases inRange (signedNumber negative ds) <;> rfl
  · rw [orElse_of_none (bind_of_none decimal.1), orElse_of_none (bind_of_none decimal.2.1),
      orElse_of_none (bind_of_none decimal.2.2.1), bind_of front, bind_of (h.decimalDigits zero)]
    rfl

theorem Digits.token_base (h : Digits ds rest) :
    ∀ x ∈ ['x', 'o', 'b'], Reader.token ['0', x] (ds ++ rest) = none := by
  intro x mem
  have other : ∀ x ∈ ['x', 'o', 'b'], Numeral.isDigit 10 x = false ∧ x ∉ closers :=
    List.all_iff_forall_prop.1 (by decide)
  obtain ⟨digit, closer⟩ := other x mem
  have second := h.token_drop (w := []) (List.length_pos_iff.2 h.any) digit closer
  obtain ⟨d, ds', rfl⟩ := List.exists_cons_of_ne_nil h.any
  exact token_cons_of_none second

end Reader

/-- The value that is written. -/
def Literal.scalar : Literal → Scalar
  | text value => .text value
  | number value => .integer value.toNat

namespace Reader

theorem located_of {α : Type} {r : CannedReply.Reader α} {s : List Char} {a : α}
    (h : r s = some (a, t)) : located r s = some ((a, ⟨s, t⟩), t) := by
  simp only [located, h]

theorem located_of_none {α : Type} {r : CannedReply.Reader α} {s : List Char} (h : r s = none) :
    located r s = none := by
  simp only [located, h]

theorem digits_written (n : Nat) (h : Closes rest) : Digits (Numeral.digits 10 n) rest where
  any := Numeral.digits_ne_nil 10 n
  digits c hc := Numeral.isDigit_of_mem_digits (by decide) (by decide) hc
  closes := h

theorem head_signed (h : Digits ds rest) (negative : Bool) :
    ∀ c ∈ (signed negative ds ++ rest).head?, c = '-' ∨ Numeral.isDigit 10 c = true := by
  cases negative with
  | true =>
    rintro c ⟨⟩
    exact .inl rfl
  | false =>
    obtain ⟨d, ds', rfl⟩ := List.exists_cons_of_ne_nil h.any
    rintro c ⟨⟩
    exact .inr (h.digits d List.mem_cons_self)

/-- Other characters do not start a number. -/
theorem signed_head_ne (h : Digits ds rest) {negative : Bool} (minus : x ≠ '-')
    (digit : Numeral.isDigit 10 x = false) :
    ∀ c ∈ (signed negative ds ++ rest).head?, c ≠ x := by
  rintro c hc rfl
  rcases head_signed h negative c hc with same | same
  · exact minus same
  · rw [digit] at same
    cases same

/-- A number is read as what it is, if that is in the range; nothing else is. -/
theorem scalar_signed (h : Digits ds rest) (zero : ds.head? = some '0' → ds = ['0'])
    (negative : Bool) :
    scalar (signed negative ds ++ rest) = if inRange (signedNumber negative ds) = true
      then some (.scalar (.integer (signedNumber negative ds)) ⟨signed negative ds ++ rest, rest⟩,
        rest)
      else none := by
  have quotes : text (signed negative ds ++ rest) = none := text_of_head fun c hc =>
    ⟨signed_head_ne h (by decide) (by decide) c hc, signed_head_ne h (by decide) (by decide) c hc⟩
  have moment : dateTime (signed negative ds ++ rest) = none := by
    cases negative with
    | true => exact dateTime_of_head (by rintro c ⟨⟩; decide)
    | false => exact h.dateTime
  have sign : sign (signed negative ds ++ rest) = some (negative, ds ++ rest) := by
    cases negative with
    | true => rfl
    | false => exact h.sign
  have decimal : ∀ x ∈ ['x', 'o', 'b'], token ['0', x] (signed negative ds ++ rest) = none := by
    cases negative with
    | true => exact fun x _ => token_of_head_ne (by rintro c ⟨⟩; decide)
    | false => exact h.token_base
  have whole := h.integer_of_sign zero sign decimal
  have words : ∀ w, (w = 't' ∨ w = 'f') → ∀ ws,
      token (w :: ws) (signed negative ds ++ rest) = none := by
    rintro w (rfl | rfl) ws
    · exact token_of_head_ne (signed_head_ne h (by decide) (by decide))
    · exact token_of_head_ne (signed_head_ne h (by decide) (by decide))
  unfold scalar
  split at whole
  · next range =>
    rw [if_pos range]
    refine bind_of (located_of ?_)
    rw [orElse_of_none (map_of_none _ quotes), orElse_of_none (map_of_none _ moment),
      orElse_of_none (map_of_none _ (h.float_of_sign zero sign)), orElse_of (map_of _ whole)]
  · next range =>
    rw [if_neg range]
    refine bind_of_none (located_of_none ?_)
    rw [orElse_of_none (map_of_none _ quotes), orElse_of_none (map_of_none _ moment),
      orElse_of_none (map_of_none _ (h.float_of_sign zero sign)),
      orElse_of_none (map_of_none _ whole), orElse_of_none (bind_of_none (words 't' (.inl rfl) _))]
    exact bind_of_none (words 'f' (.inr rfl) _)

/-- A value without parts is read as what was written. -/
theorem scalar_written (l : Literal) (h : Closes rest) :
    ∃ span, scalar (l.written ++ rest) = some (.scalar l.scalar span, rest) := by
  cases l with
  | text s =>
    unfold scalar
    rw [bind_of (located_of (orElse_of (map_of Scalar.text (text_written s h))))]
    exact ⟨_, rfl⟩
  | number k =>
    have ds := digits_written k.toNat h
    have zero : (Numeral.digits 10 k.toNat).head? = some '0' → Numeral.digits 10 k.toNat = ['0'] :=
      Numeral.eq_zero_of_head?_digits (by decide) (by decide)
    have value : signedNumber false (Numeral.digits 10 k.toNat) = k.toNat :=
      congrArg Int.ofNat (Numeral.number_digits (by decide) (by decide) _)
    have range : inRange k.toNat = true := by
      have := k.toNat_lt
      rw [inRange_iff]
      omega
    have read := scalar_signed ds zero false
    rw [value, if_pos range] at read
    exact ⟨_, read⟩

end Reader

end Toml

end CannedReply
