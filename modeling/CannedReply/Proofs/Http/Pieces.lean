import CannedReply.Proofs.Http.Reading
import CannedReply.Proofs.Http.Taking

/-!
Requests in pieces. Where all lines of a head end with a carriage return and a line feed, it makes
no difference how the bytes of a request are cut: nothing is written before the last byte of the
head, and with it comes the answer that the request gets in one piece.
-/

namespace CannedReply.Http

variable {s t head rest more sent piece : Bytes} {a : Arrival} {i : Intake} {looked : Nat}

/-- Whether each line of the bytes ends with a carriage return and a line feed. -/
def LinesEndInPairs (s : Bytes) : Prop :=
  ∀ n < s.length, s[n]? = some lf → [cr] <:+ s.take n

instance : DecidablePred LinesEndInPairs := fun s =>
  inferInstanceAs (Decidable (∀ n < s.length, s[n]? = some lf → [cr] <:+ s.take n))

theorem LinesEndInPairs.before {s t : Bytes} (h : LinesEndInPairs (s ++ lf :: t)) : [cr] <:+ s := by
  simpa using h s.length (by simp) (by simp)

/-- An empty line that ends in a pair has a pair in front of it. -/
theorem EndsAlike.of_pairs (empty : Scanner.EndsEmpty s) (pairs : LinesEndInPairs s) :
    EndsAlike s := by
  obtain ⟨u, v, rfl, ⟨w, rfl⟩, last⟩ := empty
  rcases last with rfl | rfl
  · rw [List.append_assoc] at pairs
    obtain ⟨x, rfl⟩ := pairs.before
    exact .inl ⟨x, by simp⟩
  · -- the line feed of the empty line would stand right behind another one
    obtain ⟨x, same⟩ := pairs.before
    exact absurd (List.append_inj_right' same rfl) (by decide)

/-- What has been found was found in the bytes in front of the rest, whatever the rest is. -/
theorem look_taken (found : look s = .arrived a rest) :
    ∃ head, s = head ++ rest ∧ Scanner.EndsEmpty head ∧
      ∀ more, look (head ++ more) = .arrived a more := by
  obtain ⟨h, scan, within, arrival⟩ := look_eq_arrived_iff.1 found
  obtain ⟨head, split, ends, same⟩ := Scanner.Takes.head scan
  exact ⟨head, split, ends, fun more => look_eq_arrived_iff.2 ⟨h, same more, within, arrival⟩⟩

/-- A part of a head comes to nothing. -/
theorem look_of_part (whole : look (s ++ t) = .arrived a []) (missing : t ≠ []) :
    look s = .more := by
  cases seen : look s with
  | more => rfl
  | arrived a' rest' =>
    have found := look_append seen t
    rw [whole] at found
    simp [missing] at found
  | faulty f left =>
    obtain ⟨left', found⟩ := look_append_of_faulty seen t
    rw [whole] at found
    cases found

theorem lookAgain_of_more (none' : look s = .more) (looked : Nat) : lookAgain s looked = .more := by
  unfold lookAgain
  rw [none', ite_self]

/-- A second look finds as little as the first one, if nothing has come. -/
theorem lookAgain_length (seen : lookAgain s looked = .more) (within : looked ≤ s.length) :
    lookAgain s s.length = .more := by
  unfold lookAgain at seen ⊢
  split at seen
  · next waits =>
    simp only [Bool.and_eq_true, Bool.not_eq_true', decide_eq_true_eq] at waits
    obtain ⟨some', nothing⟩ := waits
    have later : s.drop (s.length - 3) =
        (s.drop (looked - 3)).drop (s.length - 3 - (looked - 3)) := by
      rw [List.drop_drop]
      congr 1
      omega
    have nothing' : endsHead (s.drop (s.length - 3)) = false := by
      rw [← Bool.not_eq_true, later]
      intro found
      have before := endsHead_append_right
        ((s.drop (looked - 3)).take (s.length - 3 - (looked - 3))) found
      rw [List.take_append_drop, nothing] at before
      cases before
    rw [nothing', if_pos]
    simp only [Bool.not_false, Bool.and_true, decide_eq_true_eq]
    omega
  · rw [seen, ite_self]

namespace Exchange

/-- Whether an exchange has read these bytes without finding anything, and waits for others. -/
def Awaits (e : Exchange) (sent : Bytes) : Prop :=
  ∃ i looked, e = .reading i looked ∧ i.buffer = sent ∧ looked ≤ sent.length ∧
    lookAgain sent looked = .more

theorem awaits_start : start.Awaits [] :=
  ⟨.empty, 0, rfl, rfl, Nat.le_refl 0, rfl⟩

/-- Nothing is written while bytes are awaited. -/
theorem Awaits.silent {e : Exchange} (h : e.Awaits sent) :
    e.outcome? = none ∧ ∀ date, e.written date = [] := by
  obtain ⟨i, looked, rfl, -, -⟩ := h
  exact ⟨rfl, fun _ => rfl⟩

/-- What has been read is either not enough, or has something at its front that ends the exchange,
or is too much. -/
theorem settle_cases (unread : Bytes) (within : looked ≤ i.buffer.length) :
    (settle i looked unread false).Awaits (i.buffer ++ unread) ∨
    ∃ o front l, settle i looked unread false = .closed o ∧ front <+: i.buffer ++ unread ∧
      (lookAgain front l ≠ .more ∨ headLimit ≤ front.length) := by
  fun_induction settle i looked unread false with
  | case1 i looked unread a rest seen =>
    refine .inr ⟨_, i.buffer, looked, rfl, List.prefix_append _ _, .inl fun more => ?_⟩
    cases seen.symm.trans more
  | case2 i looked unread f left seen =>
    refine .inr ⟨_, i.buffer, looked, rfl, List.prefix_append _ _, .inl fun more => ?_⟩
    cases seen.symm.trans more
  | case3 i looked unread _ full =>
    exact .inr ⟨_, i.buffer, looked, rfl, List.prefix_append _ _, .inr full⟩
  | case4 => contradiction
  | case5 i looked seen =>
    rw [List.append_nil]
    exact .inl ⟨i, _, rfl, rfl, Nat.le_refl _, lookAgain_length seen within⟩
  | case6 i looked _ _ b bs _ ih =>
    rw [Intake.buffer_take_append_drop] at ih
    refine ih ?_
    rw [Intake.buffer_take, List.length_append]
    exact Nat.le_add_right _ _

theorem Awaits.receive {e : Exchange} (h : e.Awaits sent) (piece : Bytes) :
    (e.receive piece false).Awaits (sent ++ piece) ∨
    ∃ o front l, e.receive piece false = .closed o ∧ front <+: sent ++ piece ∧
      (lookAgain front l ≠ .more ∨ headLimit ≤ front.length) := by
  obtain ⟨i, looked, rfl, rfl, within, -⟩ := h
  exact settle_cases piece within

/-- Reading a part of a head leaves the exchange where it is. -/
theorem Awaits.part {e : Exchange} (h : e.Awaits sent)
    (whole : look (sent ++ piece ++ t) = .arrived a [])
    (short : (sent ++ piece ++ t).length ≤ headLimit) (missing : t ≠ []) :
    (e.receive piece false).Awaits (sent ++ piece) := by
  rcases h.receive piece with waits | ⟨o, front, l, -, ⟨u, split⟩, some' | full⟩
  · exact waits
  · rw [← split, List.append_assoc] at whole
    have none' := look_of_part whole (List.append_ne_nil_of_right_ne_nil u missing)
    exact absurd (lookAgain_of_more none' l) some'
  · have less := List.length_pos_iff.2 missing
    rw [← split] at short
    simp only [List.length_append] at short
    omega

/-- The piece with the end of the head in it gets the answer, whatever else is in it. -/
theorem Awaits.last {e : Exchange} (h : e.Awaits sent) (whole : look head = .arrived a [])
    (alike : EndsAlike head) (short : head.length ≤ headLimit) (before : sent.length < head.length)
    (split : sent ++ piece = head ++ more) :
    e.receive piece false = .closed (.answered a.request) := by
  obtain ⟨i, looked, rfl, rfl, within, -⟩ := h
  obtain ⟨t, rfl⟩ : i.buffer <+: head :=
    List.prefix_of_prefix_length_le ⟨piece, split⟩ (List.prefix_append head more)
      (Nat.le_of_lt before)
  obtain rfl : piece = t ++ more := by simpa using split
  exact settle_of_readHead
    (readHead_append (readHead_of_look whole alike short (by omega)) more)

theorem Awaits.parts {e : Exchange} {pieces : List Bytes} (h : e.Awaits sent)
    (whole : look (sent ++ pieces.flatten ++ t) = .arrived a [])
    (short : (sent ++ pieces.flatten ++ t).length ≤ headLimit) (missing : t ≠ []) :
    (e.receiveAll pieces).Awaits (sent ++ pieces.flatten) := by
  induction pieces generalizing e sent with
  | nil => simpa [receiveAll] using h
  | cons p pieces ih =>
    rw [List.flatten_cons, ← List.append_assoc] at whole short ⊢
    rw [List.append_assoc] at whole short
    have first := h.part whole short (List.append_ne_nil_of_right_ne_nil _ missing)
    rw [← List.append_assoc] at whole short
    exact ih first whole short

/-- Some piece brings the end of the head, and those behind it find the exchange over. -/
theorem Awaits.answers {e : Exchange} {pieces : List Bytes} (h : e.Awaits sent)
    (whole : look head = .arrived a []) (alike : EndsAlike head) (short : head.length ≤ headLimit)
    (before : sent.length < head.length) (split : sent ++ pieces.flatten = head ++ more) :
    e.receiveAll pieces = .closed (.answered a.request) := by
  induction pieces generalizing e sent with
  | nil =>
    have := congrArg List.length split
    simp only [List.flatten_nil, List.length_append, List.length_nil] at this
    omega
  | cons p pieces ih =>
    rw [List.flatten_cons, ← List.append_assoc] at split
    change (e.receive p false).receiveAll pieces = _
    by_cases later : (sent ++ p).length < head.length
    · obtain ⟨t, rfl⟩ : sent ++ p <+: head :=
        List.prefix_of_prefix_length_le ⟨_, split⟩ (List.prefix_append head more)
          (Nat.le_of_lt later)
      have missing : t ≠ [] := by
        rintro rfl
        simp at later
      exact ih (h.part whole short missing) later split
    · obtain ⟨behind, here⟩ : head <+: sent ++ p :=
        List.prefix_of_prefix_length_le (List.prefix_append head more) ⟨_, split⟩
          (Nat.le_of_not_lt later)
      rw [h.last whole alike short before here.symm]
      exact receiveAll_closed _ pieces

/-- A request that is answered when it arrives in one piece, with a head that is not too long and
has all its lines end in pairs: in whatever pieces it arrives, and whatever follows it, nothing is
written while its head is not complete. When it is, the exchange is over, nothing has gone wrong,
and the answer is the one that the request gets in one piece. -/
theorem cuts_make_no_difference {h : Head} {r : Request} {pieces : List Bytes}
    (alone : (start.receive (head ++ rest) false).outcome? = some (.answered r))
    (scan : Scanner.head (head ++ rest) = .done h rest) (pairs : LinesEndInPairs head)
    (short : head.length ≤ headLimit) (cut : pieces.flatten = head ++ rest ++ more) (n : Nat) :
    ((pieces.take n).flatten.length < head.length →
      (start.receiveAll (pieces.take n)).outcome? = none ∧
      ∀ date, (start.receiveAll (pieces.take n)).written date = []) ∧
    (head.length ≤ (pieces.take n).flatten.length →
      (∃ o, (start.receiveAll (pieces.take n)).outcome? = some o ∧ o.error? = none) ∧
      (∀ date, (start.receiveAll (pieces.take n)).written date =
        (start.receive (head ++ rest) false).written date) ∧
      start.receiveAll (pieces.take n) = start.receive (head ++ rest) false) := by
  have whole := eq_closed_of_outcome alone
  obtain ⟨a, rest', behind, room, found, rfl, -⟩ := settle_of_answered whole
  generalize rest' ++ behind = rest' at found
  obtain ⟨h', scan', -, -⟩ := look_eq_arrived_iff.1 found
  obtain rfl : rest = rest' := (Scan.done.inj (scan.symm.trans scan')).2
  obtain ⟨head', split, ends, same⟩ := look_taken found
  obtain rfl : head = head' := List.append_cancel_right split
  have complete : look head = .arrived a [] := by simpa using same []
  have alike := EndsAlike.of_pairs ends pairs
  have cut' : (pieces.take n).flatten ++ (pieces.drop n).flatten = head ++ (rest ++ more) := by
    rw [← List.flatten_append, List.take_append_drop, cut, List.append_assoc]
  generalize pieces.take n = before at cut' ⊢
  constructor
  · intro part
    obtain ⟨t, rfl⟩ : before.flatten <+: head :=
      List.prefix_of_prefix_length_le ⟨_, cut'⟩ (List.prefix_append head _) (Nat.le_of_lt part)
    have missing : t ≠ [] := by
      rintro rfl
      simp at part
    exact (awaits_start.parts complete short missing).silent
  · intro all
    obtain ⟨behind, here⟩ : head <+: before.flatten :=
      List.prefix_of_prefix_length_le (List.prefix_append head _) ⟨_, cut'⟩ all
    have answered : start.receiveAll before = .closed (.answered a.request) :=
      awaits_start.answers complete alike short (List.length_pos_iff.2 ends.ne_nil) here.symm
    rw [answered, whole]
    exact ⟨⟨_, rfl, rfl⟩, fun _ => rfl, rfl⟩

/-- A request with a blank line in front, a body behind it and more behind that, cut into single
bytes. -/
theorem cuts_between_all_bytes :
    let head := Bytes.ofText "\r\nPOST / HTTP/1.1\r\nContent-Length: 2\r\n\r\n"
    let request := head ++ Bytes.ofText "ab"
    let pieces := (request ++ Bytes.ofText "GET").map ([·])
    (∃ r, (start.receive request false).outcome? = some (.answered r)) ∧ LinesEndInPairs head ∧
    (start.receiveAll (pieces.take 39)).outcome? = none ∧
    start.receiveAll (pieces.take 40) = start.receive request false := by
  intro head request pieces
  have lines : LinesEndInPairs head := by decide +kernel
  obtain ⟨r, alone⟩ := answered_of_ok (e := start.receive request false) (by decide +kernel)
  obtain ⟨h, scan⟩ : ∃ h, Scanner.head request = .done h (Bytes.ofText "ab") := ⟨_, rfl⟩
  have cut : pieces.flatten = request ++ Bytes.ofText "GET" := by decide +kernel
  have all := cuts_make_no_difference alone scan lines (by decide +kernel) cut
  exact ⟨⟨r, alone⟩, lines, ((all 39).1 (by decide +kernel)).1,
    ((all 40).2 (by decide +kernel)).2.2⟩

end Exchange

end CannedReply.Http
