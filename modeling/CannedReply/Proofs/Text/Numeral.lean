import CannedReply.Text.Numeral
import Mathlib.Algebra.Group.Nat.Defs

/-!
What the digits of a number look like: there are as few as possible, and each is a digit or a small
letter.
-/

namespace CannedReply.Numeral

theorem digits_ne_nil (base n : Nat) : digits base n ≠ [] := by
  unfold digits
  split <;> simp

/-- Only zero starts with a zero. -/
theorem eq_zero_of_head?_digits {base n : Nat} (hb : 2 ≤ base) (hs : base ≤ 16)
    (h : (digits base n).head? = some '0') : digits base n = ['0'] := by
  induction n using Nat.strongRecOn with
  | ind n ih =>
    rw [digits] at h ⊢
    split at h
    · next large =>
      have positive : 0 < n / base := Nat.div_pos large.2 (by omega)
      rw [List.head?_append, Option.or_of_isSome (by simp [digits_ne_nil])] at h
      have value := number_digits hb hs (n / base)
      rw [ih _ (Nat.div_lt_self (by omega) (by omega)) h] at value
      have : number base ['0'] = 0 := by simp [number, value?]
      omega
    · next small =>
      rw [if_neg small]
      simpa using h

/-- A number below a power of the base has no more digits than the power says. -/
theorem length_digits_le {base n k : Nat} (positive : 0 < k) (small : n < base ^ k) :
    (digits base n).length ≤ k := by
  induction k generalizing n with
  | zero => omega
  | succ k ih =>
    rw [digits]
    split
    · next large =>
      have less : n / base < base ^ k :=
        Nat.div_lt_of_lt_mul (by rwa [Nat.pow_succ, Nat.mul_comm] at small)
      -- a quotient that is not zero leaves something to the power
      have more : 0 < k := by
        refine Nat.pos_of_ne_zero fun none => ?_
        have : 0 < n / base := Nat.div_pos large.2 (by omega)
        rw [none, Nat.pow_zero] at less
        omega
      have := ih more less
      simp
      omega
    · simp

theorem isDigit_of_le {base base' : Nat} (le : base ≤ base') {c : Char}
    (h : isDigit base c = true) : isDigit base' c = true := by
  unfold isDigit at h ⊢
  cases value : value? c with
  | none => simp [value] at h
  | some v =>
    simp only [value, Option.any_some, decide_eq_true_eq] at h ⊢
    omega

/-- Digits and letters for digits stand between the nought and the small F. -/
theorem toNat_le_of_isDigit {base : Nat} {c : Char} (h : isDigit base c = true) :
    0x30 ≤ c.toNat ∧ c.toNat ≤ 0x66 := by
  unfold isDigit value? at h
  split at h
  · omega
  · split at h
    · omega
    · split at h
      · omega
      · simp at h

theorem ascii_of_mem_digits {base n : Nat} (hb : 2 ≤ base) (hs : base ≤ 16) {c : Char}
    (mem : c ∈ digits base n) : 0x20 ≤ c.toNat ∧ c.toNat ≤ 0x7e := by
  have bounds := toNat_le_of_isDigit (isDigit_of_mem_digits hb hs mem)
  omega

/-- Digits with a minus sign in front, or without one. -/
def signed (negative : Bool) (ds : List Char) : List Char :=
  if negative then '-' :: ds else ds

/-- What digits behind a sign stand for. -/
def signedNumber (negative : Bool) (ds : List Char) : Int :=
  if negative then -(number 10 ds : Int) else number 10 ds

theorem signedNumber_digits (n : Int) :
    signedNumber (decide (n < 0)) (digits 10 n.natAbs) = n := by
  unfold signedNumber
  rw [number_digits (by decide) (by decide)]
  by_cases negative : n < 0
  · rw [decide_eq_true negative, if_pos rfl]
    omega
  · rw [decide_eq_false negative, if_neg (by decide)]
    omega

/-- A number of sixteen bits is cut to itself. -/
theorem ofNat_toNat_eq_iff {k : Int} (low : 0 ≤ k) (high : k < 65536) {p : UInt16} :
    UInt16.ofNat k.toNat = p ↔ k = p.toNat := by
  rw [← UInt16.toNat_inj, UInt16.toNat_ofNat_of_lt' (by simp [UInt16.size]; omega)]
  omega

end CannedReply.Numeral
