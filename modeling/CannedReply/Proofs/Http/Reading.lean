import CannedReply.Proofs.Http.OneAnswer

/-!
How a head is read from what arrives at once: in parts, with a look at all that has been read after
each part. A head that is found is found as well when more bytes follow it, and a head whose last
two lines end alike is found wherever the parts begin.
-/

namespace CannedReply.Http

variable {s t rest more : Bytes} {a : Arrival} {f : Fault} {i : Intake} {looked : Nat}

/-- What reading bytes that have arrived comes to, part by part, with a look after each part. What
has not been read when a head is there is left with the rest. -/
def readHead (i : Intake) (looked : Nat) (unread : Bytes) : Look :=
  match lookAgain i.buffer looked with
  | .arrived a rest => .arrived a (rest ++ unread)
  | .faulty f left => .faulty f left
  | .more =>
    if headLimit ≤ i.buffer.length then .faulty .headTooLarge i.buffer
    else
      match unread with
      | [] => .more
      | b :: bs =>
        have := i.room_pos
        readHead (i.take ((b :: bs).take i.room)) i.buffer.length ((b :: bs).drop i.room)
termination_by unread.length
decreasing_by
  simp only [List.length_drop, List.length_cons]
  omega

/-- Whether bytes are the head of a request from the first to the last, as a connection reads
them. A head beyond the limit is none, nor is one of several parts whose last two lines end
differently: the connection goes on waiting for it. -/
def IsHead (head : Bytes) (a : Arrival) : Prop :=
  readHead .empty 0 head = .arrived a []

/-- Whether the last line of bytes is empty and ends like the line in front of it. -/
def EndsAlike (s : Bytes) : Prop :=
  [cr, lf, cr, lf] <:+ s ∨ [lf, lf] <:+ s

theorem endsHead_cons (b : UInt8) (h : endsHead s = true) : endsHead (b :: s) = true := by
  unfold endsHead
  split
  · rfl
  · rfl
  · next split => rw [← (List.cons.inj split).2]; exact h
  · next split => cases split

theorem endsHead_append_right (p : Bytes) (h : endsHead s = true) : endsHead (p ++ s) = true := by
  induction p with
  | nil => exact h
  | cons b p ih => exact endsHead_cons b ih

theorem endsHead_append (h : endsHead s = true) (more : Bytes) : endsHead (s ++ more) = true := by
  fun_induction endsHead s with
  | case1 => rfl
  | case2 => rfl
  | case3 b tail _ _ ih => exact endsHead_cons b (ih h)
  | case4 => cases h

/-- The last lines are seen when it is looked from somewhere in front of the last byte on. -/
theorem EndsAlike.endsHead_drop (alike : EndsAlike s) (short : looked < s.length) :
    endsHead (s.drop (looked - 3)) = true := by
  have seen : ∀ {w : Bytes}, endsHead w = true → w <:+ s → looked - 3 + w.length ≤ s.length →
      endsHead (s.drop (looked - 3)) = true := by
    rintro w found ⟨p, rfl⟩ fits
    rw [List.length_append] at fits
    rw [List.drop_append_of_le_length (by omega)]
    exact endsHead_append_right _ found
  rcases alike with alike | alike
  · have long := alike.length_le
    refine seen (w := [cr, lf, cr, lf]) rfl alike ?_
    simp only [List.length_cons, List.length_nil] at long ⊢
    omega
  · have long := alike.length_le
    refine seen (w := [lf, lf]) rfl alike ?_
    simp only [List.length_cons, List.length_nil] at long ⊢
    omega

/-- What a look finds at the front of bytes stays when more bytes arrive behind. -/
theorem look_append (found : look s = .arrived a rest) (more : Bytes) :
    look (s ++ more) = .arrived a (rest ++ more) := by
  obtain ⟨h, scan, within, arrival⟩ := look_eq_arrived_iff.1 found
  exact look_eq_arrived_iff.2 ⟨h, Scanner.Stable.head.done scan more, within, arrival⟩

theorem look_append_of_faulty {left : Bytes} (found : look s = .faulty f left) (more : Bytes) :
    ∃ left', look (s ++ more) = .faulty f left' := by
  unfold look at found ⊢
  cases scan : Scanner.head s with
  | more => simp [scan] at found
  | fault e =>
    rw [Scanner.Stable.head.fault scan more]
    simp only [scan, Look.faulty.injEq] at found
    exact ⟨_, by rw [found.1]⟩
  | done h behind =>
    rw [Scanner.Stable.head.done scan more]
    simp only [scan] at found ⊢
    cases limits : h.limits with
    | error e =>
      simp only [limits, Look.faulty.injEq] at found
      exact ⟨_, by rw [found.1]⟩
    | ok =>
      cases arrival : h.arrival with
      | error e =>
        simp only [limits, arrival, Look.faulty.injEq] at found
        exact ⟨_, by rw [found.1]⟩
      | ok a' => simp [limits, arrival] at found

theorem lookAgain_append (found : lookAgain s looked = .arrived a rest) (more : Bytes) :
    lookAgain (s ++ more) looked = .arrived a (rest ++ more) := by
  have whole := look_append (look_of_lookAgain found) more
  unfold lookAgain at found ⊢
  split at found
  · cases found
  · next worth =>
    rw [if_neg, whole]
    intro waits
    simp only [Bool.and_eq_true, Bool.not_eq_true', decide_eq_true_eq, not_and, Bool.not_eq_false]
      at waits worth
    have before := endsHead_append (worth waits.1) (more.drop (looked - 3 - s.length))
    rw [← List.drop_append, waits.2] at before
    cases before

/-- A second look finds what the first one would, where the last two lines end alike. -/
theorem lookAgain_of_look (whole : look s = .arrived a rest) (alike : EndsAlike s)
    (before : looked < s.length) : lookAgain s looked = .arrived a rest := by
  unfold lookAgain
  rw [alike.endsHead_drop before]
  simpa using whole

theorem readHead_of_arrived (seen : lookAgain i.buffer looked = .arrived a rest)
    (unread : Bytes) : readHead i looked unread = .arrived a (rest ++ unread) := by
  unfold readHead
  rw [seen]

theorem readHead_nil (found : readHead i looked [] = .arrived a rest) :
    lookAgain i.buffer looked = .arrived a rest := by
  unfold readHead at found
  cases seen : lookAgain i.buffer looked with
  | arrived a' rest' => simpa [seen] using found
  | faulty => simp [seen] at found
  | more =>
    simp only [seen] at found
    split at found <;> cases found

/-- A look that comes to nothing is followed by a read, if there is something to read and room. -/
theorem readHead_of_more (seen : lookAgain i.buffer looked = .more)
    (small : i.buffer.length < headLimit) {unread : Bytes} (some' : unread ≠ []) :
    readHead i looked unread =
      readHead (i.take (unread.take i.room)) i.buffer.length (unread.drop i.room) := by
  obtain ⟨b, bs, rfl⟩ := List.exists_cons_of_ne_nil some'
  rw [readHead.eq_def, seen]
  simp [Nat.not_le_of_lt small]

/-- A head that has been found is found when more bytes arrive together with it. -/
theorem readHead_append {unread : Bytes} (found : readHead i looked unread = .arrived a rest)
    (more : Bytes) : readHead i looked (unread ++ more) = .arrived a (rest ++ more) := by
  fun_induction readHead i looked unread generalizing rest with
  | case1 i looked unread a' rest' seen =>
    cases found
    rw [readHead_of_arrived seen, List.append_assoc]
  | case2 | case3 | case4 => cases found
  | case5 i looked seen small b bs _ ih =>
    rw [readHead_of_more seen (Nat.lt_of_not_le small) (by simp)]
    generalize b :: bs = unread at found ih ⊢
    by_cases full : i.room ≤ unread.length
    · rw [List.take_append_of_le_length full, List.drop_append_of_le_length full]
      exact ih found
    · -- the part that ended with the head goes on with what follows it
      have short : unread.length ≤ i.room := Nat.le_of_not_le full
      rw [List.take_of_length_le short, List.drop_of_length_le short] at found
      have last := readHead_nil found
      rw [Intake.buffer_take] at last
      rw [List.take_append, List.take_of_length_le short, List.drop_append,
        List.drop_of_length_le short, List.nil_append]
      have seen' := lookAgain_append last (more.take (i.room - unread.length))
      rw [List.append_assoc, ← Intake.buffer_take] at seen'
      rw [readHead_of_arrived seen', List.append_assoc, List.take_append_drop]

/-- What is found part by part is what a look at all the bytes finds. -/
theorem look_of_readHead {unread : Bytes} (found : readHead i looked unread = .arrived a rest) :
    look (i.buffer ++ unread) = .arrived a rest := by
  fun_induction readHead i looked unread generalizing rest with
  | case1 i looked unread a' rest' seen =>
    cases found
    exact look_append (look_of_lookAgain seen) unread
  | case2 | case3 | case4 => cases found
  | case5 i looked seen small b bs _ ih =>
    have all := ih found
    rw [Intake.buffer_take_append_drop] at all
    exact all

theorem Exchange.settle_of_more (seen : lookAgain i.buffer looked = .more)
    (small : ¬headLimit ≤ i.buffer.length) (b : UInt8) (bs : Bytes) (ended : Bool) :
    Exchange.settle i looked (b :: bs) ended =
      Exchange.settle (i.take ((b :: bs).take i.room)) i.buffer.length
        ((b :: bs).drop i.room) ended := by
  rw [Exchange.settle.eq_def, seen]
  simp only [small, if_false]

/-- An exchange goes on as its head is read: with a head, it is over. -/
theorem Exchange.settle_of_readHead {unread : Bytes}
    (found : readHead i looked unread = .arrived a rest) :
    Exchange.settle i looked unread false = .closed (.answered a.request) := by
  fun_induction readHead i looked unread generalizing rest with
  | case1 i looked unread a' rest' seen =>
    cases found
    unfold Exchange.settle
    rw [seen]
    rfl
  | case2 | case3 | case4 => cases found
  | case5 i looked seen small b bs _ ih =>
    rw [Exchange.settle_of_more seen small]
    exact ih found

/-- A head of which the last two lines end alike is found, if there is not too much of it to wait
for its end. -/
theorem readHead_of_look {unread : Bytes} (whole : look (i.buffer ++ unread) = .arrived a [])
    (alike : EndsAlike (i.buffer ++ unread)) (short : (i.buffer ++ unread).length ≤ headLimit)
    (before : looked < (i.buffer ++ unread).length) :
    readHead i looked unread = .arrived a [] := by
  fun_induction readHead i looked unread with
  | case1 i looked unread a' rest' seen =>
    have first := look_append (look_of_lookAgain seen) unread
    rw [whole] at first
    simpa using first.symm
  | case2 i looked unread f left seen =>
    have faulty : look i.buffer = .faulty f left := by
      unfold lookAgain at seen
      split at seen
      · cases seen
      · exact seen
    obtain ⟨left', first⟩ := look_append_of_faulty faulty unread
    rw [whole] at first
    cases first
  | case3 i looked unread seen full =>
    obtain rfl : unread = [] := by
      rw [List.length_append] at short
      exact List.eq_nil_of_length_eq_zero (by omega)
    rw [List.append_nil] at whole alike before
    rw [lookAgain_of_look whole alike before] at seen
    cases seen
  | case4 i looked seen small =>
    rw [List.append_nil] at whole alike before
    rw [lookAgain_of_look whole alike before] at seen
    cases seen
  | case5 i looked seen small b bs _ ih =>
    apply ih
    all_goals rw [Intake.buffer_take_append_drop]
    · exact whole
    · exact alike
    · exact short
    · simp

/-- Bytes that make a request are a head where one read takes them all, or where their last two
lines end alike and there are not too many of them. -/
theorem isHead_of_look {head : Bytes} (whole : look head = .arrived a [])
    (fits : head.length ≤ leastAsk ∨ EndsAlike head ∧ head.length ≤ headLimit) : IsHead head a := by
  have nothing : lookAgain Intake.empty.buffer 0 = .more := rfl
  have some' : head ≠ [] := by
    rintro rfl
    cases whole
  rcases fits with short | ⟨alike, short⟩
  · have room : head.length ≤ Intake.empty.room := short
    unfold IsHead
    rw [readHead_of_more nothing (by decide) some', List.take_of_length_le room,
      List.drop_of_length_le room]
    have buffer : (Intake.empty.take head).buffer = head := Intake.buffer_take _ _
    have seen : lookAgain (Intake.empty.take head).buffer 0 = .arrived a [] := by
      rw [buffer]
      exact whole
    exact readHead_of_arrived seen []
  · exact readHead_of_look (i := .empty) whole alike short (List.length_pos_iff.2 some')

namespace Exchange

theorem receiveAll_closed (o : Outcome) (pieces : List Bytes) :
    (closed o).receiveAll pieces = closed o := by
  induction pieces with
  | nil => rfl
  | cons p pieces ih => exact ih

/-- Only an answer to a request is a success. -/
theorem answered_of_ok {e : Exchange}
    (ok : (e.outcome?.bind Outcome.response?).map Response.status = some .ok) :
    ∃ r, e.outcome? = some (.answered r) := by
  cases e with
  | reading => cases ok
  | closed o =>
    cases o with
    | answered r => exact ⟨r, rfl⟩
    | refused f => cases f <;> cases ok
    | otherProtocol | cutShort | unasked => cases ok

/-- What is answered is a request that has been found among the bytes. Had the client stopped
sending with these bytes, it would be decided by what had been read of them when the head was. -/
theorem settle_of_answered {unread : Bytes} {r : Request}
    (answered : settle i looked unread false = .closed (.answered r)) :
    ∃ a rest behind room, look (i.buffer ++ unread) = .arrived a (rest ++ behind) ∧
      a.request = r ∧ settle i looked unread true = .closed (a.outcome rest behind true room) ∧
      (unread = [] ∨ lookAgain i.buffer looked = .more ∧ unread.length ≤ leastAsk →
        behind = []) := by
  fun_induction settle i looked unread false with
  | case1 i looked unread a rest seen =>
    refine ⟨a, rest, unread, i.ask, look_append (look_of_lookAgain seen) unread, ?_, ?_, ?_⟩
    · simpa [Arrival.outcome] using answered
    · rw [settle.eq_def, seen]
    · rintro (none' | ⟨waits, -⟩)
      · exact none'
      · rw [seen] at waits
        cases waits
  | case2 | case3 => exact absurd (closed.inj answered) (refuse_ne_answered _ _ _)
  | case4 => contradiction
  | case5 => cases answered
  | case6 i looked seen small b bs _ ih =>
    obtain ⟨a, rest, behind, room, found, same, ended, all⟩ := ih answered
    rw [Intake.buffer_take_append_drop] at found
    refine ⟨a, rest, behind, room, found, same, ?_, ?_⟩
    · rw [settle_of_more seen small, ended]
    · rintro (none' | ⟨-, short⟩)
      · cases none'
      · have fits : leastAsk ≤ i.room := Nat.le_trans i.leastAsk_le i.ask_le_room
        exact all (.inl (List.drop_of_length_le (Nat.le_trans short fits)))

end Exchange

/-- A head as clients write it. -/
def Head.bytes (h : Head) : Bytes :=
  h.method ++ space :: (h.target ++ space :: (Bytes.ofText h.version.text ++ cr :: lf ::
    (h.fields.flatMap Response.fieldLine ++ [cr, lf])))

/-- Whether the parts of a head are of their grammar: a token, a target without white space, a
version of the first generation, and fields that can stand on a line each. -/
def Head.isPlain (h : Head) : Bool :=
  isTokenText h.method && isTargetText h.target && (h.version = .v10 || h.version = .v11)
    && h.fields.all Field.isPlain && h.fields.length ≤ maxFields
where
  isTargetText (t : Bytes) : Bool := !t.isEmpty && t.all isTargetByte && (Bytes.toText? t).isSome

namespace Scanner

theorem skipBlankLines_token {b : UInt8} (token : isToken b = true) (tail : Bytes) :
    skipBlankLines (b :: tail) = .done () (b :: tail) := by
  apply skipBlankLines_of_other
  · rintro rfl
    exact absurd token (by decide)
  · rintro rfl
    exact absurd token (by decide)

theorem method_append {m : Bytes} (token : isTokenText m = true) (tail : Bytes) :
    method (m ++ space :: tail) = .done m tail := by
  simp only [isTokenText, Bool.and_eq_true, Bool.not_eq_true', List.all_eq_true] at token
  rw [method, bind_of_done (run_append token.2 rfl _),
    bind_of_done (byte_cons (by simp [token.1]) _ _)]
  rfl

theorem target_append {t : Bytes} (text : Head.isPlain.isTargetText t = true) (tail : Bytes) :
    target (t ++ space :: tail) = .done t tail := by
  simp only [Head.isPlain.isTargetText, Bool.and_eq_true, Bool.not_eq_true', List.all_eq_true]
    at text
  rw [target, bind_of_done (run_append text.1.2 rfl _),
    bind_of_done (byte_cons (by simp [text.1.1, text.2]) _ _)]
  rfl

theorem version_append {v : Version} (first : v = .v10 ∨ v = .v11) (tail : Bytes) :
    version (Bytes.ofText v.text ++ tail) = .done v tail := by
  rcases first with rfl | rfl <;> rfl

/-- A head is read back from its lines. -/
theorem head_bytes {h : Head} (plain : h.isPlain = true) (rest : Bytes) :
    head (h.bytes ++ rest) = .done h rest := by
  simp only [Head.isPlain, Bool.and_eq_true, Bool.or_eq_true, decide_eq_true_eq,
    List.all_eq_true] at plain
  obtain ⟨⟨⟨⟨token, text⟩, first⟩, lines⟩, few⟩ := plain
  have parts : h.bytes ++ rest = h.method ++ space :: (h.target ++ space ::
      (Bytes.ofText h.version.text ++ cr :: lf ::
        (h.fields.flatMap Response.fieldLine ++ cr :: lf :: rest))) := by
    simp [Head.bytes]
  have begins : skipBlankLines (h.bytes ++ rest) = .done () (h.bytes ++ rest) := by
    cases hm : h.method with
    | nil => simp [isTokenText, hm] at token
    | cons b m =>
      simp only [isTokenText, hm, List.all_cons, Bool.and_eq_true] at token
      rw [parts, hm]
      exact skipBlankLines_token token.2.1 _
  rw [head, bind_of_done begins, parts, bind_of_done (method_append token _),
    bind_of_done (target_append text _), bind_of_done (version_append first _),
    bind_of_done (lineEnd_append _ _), bind_of_done (fields_fieldLines lines few _)]
  rfl

end Scanner

theorem lineEnd_suffix_fieldLines (fs : List Field) :
    [cr, lf] <:+ cr :: lf :: fs.flatMap Response.fieldLine := by
  rcases List.eq_nil_or_concat fs with rfl | ⟨fs, f, rfl⟩
  · exact List.suffix_rfl
  · refine ⟨cr :: lf ::
      (fs.flatMap Response.fieldLine ++ (f.name ++ Bytes.ofText ": " ++ f.value)), ?_⟩
    simp [Response.fieldLine]

theorem endsAlike_bytes (h : Head) : EndsAlike h.bytes := by
  obtain ⟨p, lines⟩ := lineEnd_suffix_fieldLines h.fields
  refine .inl ⟨h.method ++ space :: (h.target ++ space :: (Bytes.ofText h.version.text ++ p)), ?_⟩
  have ends : cr :: lf :: (h.fields.flatMap Response.fieldLine ++ [cr, lf])
      = p ++ [cr, lf, cr, lf] := by
    simpa using congrArg (· ++ [cr, lf]) lines.symm
  rw [Head.bytes, ends]
  simp

/-- Whatever token a request has for its method, whatever its target and its fields: its lines are
a head, where target and fields say nothing that is refused. -/
theorem isHead_bytes {h : Head} (plain : h.isPlain = true) (within : h.limits = .ok ())
    (found : h.arrival = .ok a) (short : h.bytes.length ≤ headLimit) : IsHead h.bytes a := by
  have scan := Scanner.head_bytes plain []
  rw [List.append_nil] at scan
  apply isHead_of_look
  · unfold look
    rw [scan]
    simp [within, found]
  · exact .inr ⟨endsAlike_bytes h, short⟩

end CannedReply.Http
