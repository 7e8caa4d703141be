import CannedReply.Proofs.Text.Numeral
import CannedReply.Proofs.Text.Utf8
import CannedReply.Text.Instant
import CannedReply.Text.Lines

/-!
What stays on one line: texts put together from texts that do, numbers, points of time, and what
bytes without line breaks are decoded as.
-/

namespace CannedReply

namespace Text

variable {s t : String} {c : Char} {cs : List Char}

theorem isBreak_eq_false_iff : isBreak c = false ↔ c ≠ '\n' ∧ c ≠ '\r' := by
  simp [isBreak]

theorem isBreak_of_space_le (h : 0x20 ≤ c.toNat) : isBreak c = false := by
  rw [isBreak_eq_false_iff]
  constructor <;>
  · rintro rfl
    exact absurd h (by decide)

theorem isLine_ofList : IsLine (String.ofList cs) ↔ ∀ c ∈ cs, isBreak c = false := by
  rw [IsLine, String.toList_ofList]

/-- For a text that is written out this is checked in one go, on its characters. -/
theorem isLine_of_all (solid : cs.all (!isBreak ·) = true) : IsLine (String.ofList cs) :=
  isLine_ofList.2 fun c mem => Bool.not_eq_true' _ ▸ List.all_eq_true.1 solid c mem

theorem isLine_append_iff : IsLine (s ++ t) ↔ IsLine s ∧ IsLine t := by
  rw [IsLine, String.toList_append]
  exact List.forall_mem_append

theorem isLine_join {ss : List String} (all : ∀ s ∈ ss, IsLine s) : IsLine (String.join ss) := by
  rw [IsLine, String.toList_join]
  intro c mem
  obtain ⟨s, within, here⟩ := List.mem_flatMap.1 mem
  exact all s within c here

theorem isLine_decimal (n : Nat) : IsLine (Numeral.decimal n) :=
  isLine_ofList.2 fun _ mem =>
    isBreak_of_space_le (Numeral.ascii_of_mem_digits (by decide) (by decide) mem).1

/-- A line that is ended is the first one of a text. -/
theorem lines_append (h : IsLine s) (t : String) : lines (s ++ "\n" ++ t) = s :: lines t := by
  have shape : (s ++ "\n" ++ t).toList = s.toList ++ '\n' :: t.toList := by simp
  have solid : ∀ c ∈ s.toList, (c == '\n') = false := fun c mem =>
    beq_eq_false_iff_ne.2 (isBreak_eq_false_iff.1 (h c mem)).1
  have feed : ('\n' == '\n') = true := rfl
  rw [lines, lines, shape, List.splitOn_eq_splitOnP, List.splitOn_eq_splitOnP,
    List.splitOnP_append_cons (p := (· == '\n')) _ _ feed, List.splitOnP_eq_singleton solid]
  simp

/-- Lines that are ended are the first ones of a text, and do not reach into what follows. -/
theorem lines_join {ss : List String} (all : ∀ s ∈ ss, IsLine s) (t : String) :
    lines (String.join (ss.map (· ++ "\n")) ++ t) = ss ++ lines t := by
  induction ss with
  | nil => simp
  | cons s ss ih =>
    rw [List.forall_mem_cons] at all
    have shape : String.join ((s :: ss).map (· ++ "\n")) ++ t =
        s ++ "\n" ++ (String.join (ss.map (· ++ "\n")) ++ t) := by
      simp [String.append_assoc]
    rw [shape, lines_append all.1, ih all.2, List.cons_append]

end Text

open Text

/-- What is decoded has a line break only where there is one among the bytes. -/
theorem Bytes.isLine_of_toText? {b : Bytes} {s : String} (decoded : b.toText? = some s)
    (solid : ∀ x ∈ b, x ≠ 0x0a ∧ x ≠ 0x0d) : IsLine s := by
  have bytes : s.toList.flatMap String.utf8EncodeChar = b := by
    rw [← ofText_eq, ofText_of_fromUTF8? decoded]
  have absent : ∀ c ∈ s.toList, ∀ x ∈ String.utf8EncodeChar c, x ≠ 0x0a ∧ x ≠ 0x0d := by
    intro c mem x within
    exact solid x (bytes ▸ List.mem_flatMap.2 ⟨c, mem, within⟩)
  intro c mem
  rw [isBreak_eq_false_iff]
  constructor
  · rintro rfl
    exact (absent _ mem 0x0a (by decide)).1 rfl
  · rintro rfl
    exact (absent _ mem 0x0d (by decide)).2 rfl

namespace Instant

theorem isLine_padded (places n : Nat) : IsLine (padded places n) := by
  refine isLine_ofList.2 (List.forall_mem_append.2 ⟨?_, ?_⟩)
  · intro c mem
    rw [List.eq_of_mem_replicate mem]
    decide
  · exact isLine_ofList.1 (isLine_decimal n)

theorem isLine_logText (t : Instant) (micros : Nat) : IsLine (t.logText micros) := by
  simp only [logText, timeText, isLine_append_iff, isLine_padded, true_and, and_true]
  decide

end Instant

end CannedReply
