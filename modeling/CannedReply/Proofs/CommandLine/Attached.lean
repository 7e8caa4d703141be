import CannedReply.CommandLine.Parser
import CannedReply.Config.Decode
import CannedReply.Proofs.Toml.Literals

/-!
Values that are attached to their flags: such an argument stands for the value, whatever the value
is, and a number that is shown in decimal is read as the port that it is, if it is one.
-/

namespace CannedReply

open Numeral

theorem Config.toList_integerText (n : Int) :
    (Config.integerText n).toList = signed (decide (n < 0)) (digits 10 n.natAbs) := by
  unfold Config.integerText signed decimal
  by_cases negative : n < 0 <;> simp [negative]

namespace CommandLine

/-- An argument with an equals sign behind its name has all that follows it for its value. -/
theorem Argument.ofString_attached (name : String) (plain : '=' ∉ name.toList) (value : String) :
    ofString ("--" ++ name ++ "=" ++ value) = .long name (some value) := by
  have whole : ("--" ++ name ++ "=" ++ value).toList =
      '-' :: '-' :: (name.toList ++ '=' :: value.toList) := by simp
  have before : ∀ c ∈ name.toList, decide (c ≠ '=') = true := by
    intro c mem
    simpa using fun same : c = '=' => plain (same ▸ mem)
  have taken : (name.toList ++ '=' :: value.toList).takeWhile (· ≠ '=') = name.toList := by
    rw [List.takeWhile_append_of_pos before]
    simp
  have left : (name.toList ++ '=' :: value.toList).dropWhile (· ≠ '=') = '=' :: value.toList := by
    rw [List.dropWhile_append_of_pos before]
    simp
  unfold ofString
  cases shown : name.toList ++ '=' :: value.toList with
  | nil => simp at shown
  | cons c r =>
    rw [shown] at whole taken left
    rw [whole]
    simp only [taken, left, String.ofList_toList]

theorem le_foldl_digits (cs : List Char) (n : Nat) :
    n ≤ cs.foldl (fun n c => 10 * n + (value? c).getD 0) n := by
  induction cs generalizing n with
  | nil => exact Nat.le_refl n
  | cons c cs ih => exact Nat.le_trans (show n ≤ 10 * n + _ by omega) (ih _)

/-- Digits are read as their number if that does not exceed the limit, however many there are. -/
theorem readDigits_of_digits {limit n : Nat} {fault : PortFault} {cs : List Char}
    (digits : ∀ c ∈ cs, isDigit 10 c = true) (small : n ≤ limit) :
    readDigits limit fault n cs =
      if cs.foldl (fun n c => 10 * n + (value? c).getD 0) n ≤ limit
      then .ok (cs.foldl (fun n c => 10 * n + (value? c).getD 0) n) else .error fault := by
  induction cs generalizing n with
  | nil => exact (if_pos small).symm
  | cons c cs ih =>
    rw [List.forall_mem_cons] at digits
    simp only [readDigits, digits.1, if_true]
    split
    · next large =>
      -- more digits do not make the number smaller again
      have grows := le_foldl_digits cs (10 * n + (value? c).getD 0)
      exact (if_neg (Nat.not_le_of_lt (Nat.lt_of_lt_of_le large grows))).symm
    · next fits => exact ih digits.2 (Nat.le_of_not_lt fits)

theorem readDigits_digits (limit n : Nat) (fault : PortFault) :
    readDigits limit fault 0 (digits 10 n) = if n ≤ limit then .ok n else .error fault := by
  have all : ∀ c ∈ digits 10 n, isDigit 10 c = true :=
    fun c => isDigit_of_mem_digits (by decide) (by decide)
  have value : (digits 10 n).foldl (fun n c => 10 * n + (value? c).getD 0) 0 = n :=
    number_digits (by decide) (by decide) n
  rw [readDigits_of_digits all (Nat.zero_le limit), value]

theorem readInteger_of_digits (n : Nat) :
    readInteger (digits 10 n) = (readDigits 0x7fffffffffffffff .tooLarge 0 (digits 10 n)).map
      fun n => (n : Int) := by
  have all : ∀ c ∈ digits 10 n, isDigit 10 c = true :=
    fun c => isDigit_of_mem_digits (by decide) (by decide)
  cases shown : digits 10 n with
  | nil => exact absurd shown (digits_ne_nil 10 n)
  | cons c cs =>
    have digit := all c (shown ▸ List.mem_cons_self)
    have minus : c ≠ '-' := by
      rintro rfl
      exact absurd digit (by decide)
    have plus : c ≠ '+' := by
      rintro rfl
      exact absurd digit (by decide)
    simp [readInteger, minus, plus]

theorem readInteger_of_minus (n : Nat) :
    readInteger ('-' :: digits 10 n) = (readDigits 0x8000000000000000 .tooSmall 0 (digits 10 n)).map
      fun n => -(n : Int) := by
  cases shown : digits 10 n with
  | nil => exact absurd shown (digits_ne_nil 10 n)
  | cons c cs => simp [readInteger]

/-- A number as it is shown is read as what it is, if 64 bits are enough for it. -/
theorem readInteger_integerText (n : Int) :
    readInteger (Config.integerText n).toList = if Toml.Reader.inRange n = true then .ok n
      else .error (if n < 0 then .tooSmall else .tooLarge) := by
  have range := Toml.Reader.inRange_iff n
  rw [Config.toList_integerText]
  by_cases negative : n < 0
  · rw [decide_eq_true negative, signed, if_pos rfl, readInteger_of_minus, readDigits_digits]
    by_cases fits : n.natAbs ≤ 0x8000000000000000
    · have value : -(n.natAbs : Int) = n := by omega
      rw [if_pos fits, if_pos (range.2 (by omega))]
      exact congrArg Except.ok value
    · have outside : ¬Toml.Reader.inRange n = true := by
        rw [range]
        omega
      rw [if_neg fits, if_neg outside, if_pos negative]
      rfl
  · rw [decide_eq_false negative, signed, if_neg (by decide), readInteger_of_digits,
      readDigits_digits]
    by_cases fits : n.natAbs ≤ 0x7fffffffffffffff
    · have value : (n.natAbs : Int) = n := by omega
      rw [if_pos fits, if_pos (range.2 (by omega))]
      exact congrArg Except.ok value
    · have outside : ¬Toml.Reader.inRange n = true := by
        rw [range]
        omega
      rw [if_neg fits, if_neg outside, if_neg negative]
      rfl

/-- A number as it is shown is read as the port that it is, and refused if it is none. -/
theorem readPort_integerText (n : Int) (p : UInt16) :
    readPort (Config.integerText n) = .ok p ↔ (p.toNat : Int) = n := by
  have small := p.toNat_lt
  simp only [readPort, readInteger_integerText, Toml.Reader.inRange_iff]
  by_cases port : 0 ≤ n ∧ n < 65536
  · rw [if_pos (by omega)]
    change (if 0 ≤ n ∧ n < 65536 then Except.ok (UInt16.ofNat n.toNat) else _) = _ ↔ _
    rw [if_pos port, Except.ok.injEq, ofNat_toNat_eq_iff port.1 port.2, eq_comm]
  · constructor
    · intro read
      split at read
      · change (if 0 ≤ n ∧ n < 65536 then _ else Except.error _) = _ at read
        rw [if_neg port] at read
        cases read
      · cases read
    · intro same
      omega

theorem readPort_decimal (port : UInt16) : readPort (decimal port.toNat) = .ok port :=
  (readPort_integerText port.toNat port).2 rfl

end CommandLine

end CannedReply
