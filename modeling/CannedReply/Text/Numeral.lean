/-!
Numerals of a base up to sixteen: the digits of a number, and the number that digits stand for.
-/

namespace CannedReply.Numeral

/-- The digit for `d`, in lower case from ten on. -/
def digit (d : Nat) : Char :=
  if d < 10 then Char.ofNat (0x30 + d) else Char.ofNat (0x57 + d)

/-- The value of a digit, in either case. -/
def value? (c : Char) : Option Nat :=
  if 0x30 ≤ c.toNat ∧ c.toNat ≤ 0x39 then some (c.toNat - 0x30)
  else if 0x61 ≤ c.toNat ∧ c.toNat ≤ 0x66 then some (c.toNat - 0x57)
  else if 0x41 ≤ c.toNat ∧ c.toNat ≤ 0x46 then some (c.toNat - 0x37)
  else none

def isDigit (base : Nat) (c : Char) : Bool :=
  (value? c).any (· < base)

/-- The digits of `n`, the leading one first, without leading zeros. -/
def digits (base n : Nat) : List Char :=
  if 2 ≤ base ∧ base ≤ n then digits base (n / base) ++ [digit (n % base)] else [digit n]
termination_by n
decreasing_by exact Nat.div_lt_self (by omega) (by omega)

/-- The number that digits stand for; other characters count as zero. -/
def number (base : Nat) (cs : List Char) : Nat :=
  cs.foldl (fun n c => base * n + (value? c).getD 0) 0

def decimal (n : Nat) : String :=
  String.ofList (digits 10 n)

theorem value?_digit {d : Nat} (h : d < 16) : value? (digit d) = some d := by
  have : ∀ d : Fin 16, value? (digit d) = some d.val := by decide
  exact this ⟨d, h⟩

theorem number_append_singleton (base : Nat) (cs : List Char) (c : Char) :
    number base (cs ++ [c]) = base * number base cs + (value? c).getD 0 := by
  simp [number]

theorem number_digits {base : Nat} (hb : 2 ≤ base) (hs : base ≤ 16) (n : Nat) :
    number base (digits base n) = n := by
  induction n using Nat.strongRecOn with
  | ind n ih =>
    rw [digits]
    split
    · rename_i h
      rw [number_append_singleton, ih _ (Nat.div_lt_self (by omega) (by omega)),
        value?_digit (Nat.lt_of_lt_of_le (Nat.mod_lt _ (by omega)) hs)]
      exact Nat.div_add_mod n base
    · simp [number, value?_digit (show n < 16 by omega)]

/-- Numbers with the same digits are equal. -/
theorem digits_injective {base : Nat} (hb : 2 ≤ base) (hs : base ≤ 16) {m n : Nat}
    (h : digits base m = digits base n) : m = n := by
  rw [← number_digits hb hs m, h, number_digits hb hs n]

theorem isDigit_digit {base d : Nat} (hs : base ≤ 16) (h : d < base) :
    isDigit base (digit d) := by
  simp [isDigit, value?_digit (Nat.lt_of_lt_of_le h hs), h]

theorem isDigit_of_mem_digits {base : Nat} (hb : 2 ≤ base) (hs : base ≤ 16) {n : Nat} {c : Char}
    (h : c ∈ digits base n) : isDigit base c := by
  induction n using Nat.strongRecOn with
  | ind n ih =>
    rw [digits] at h
    split at h
    · rcases List.mem_append.1 h with h | h
      · exact ih _ (Nat.div_lt_self (by omega) (by omega)) h
      · rw [List.mem_singleton.1 h]
        exact isDigit_digit hs (Nat.mod_lt _ (by omega))
    · rw [List.mem_singleton.1 h]
      exact isDigit_digit hs (by omega)

theorem toNat_of_isDigit {c : Char} (h : isDigit 10 c = true) :
    0x30 ≤ c.toNat ∧ c.toNat ≤ 0x39 := by
  unfold isDigit value? at h
  split at h
  · assumption
  · split at h
    · simp at h
      omega
    · split at h
      · simp at h
        omega
      · simp at h

end CannedReply.Numeral
