import CannedReply.Http.Answer
import CannedReply.Http.Exchange
import CannedReply.Proofs.Http.Scanning
import CannedReply.Proofs.Text.Utf8
import CannedReply.Text.Instant

/-!
Responses on the wire: what is written for a response is read back as one complete answer, and
nothing is left behind it.
-/

namespace CannedReply.Http

variable {f : Field} {fs : List Field} {rest : Bytes}

/-- Whether a field can stand on a line of its own and be read back. -/
def Field.isPlain (f : Field) : Bool :=
  isTokenText f.name && f.value.all isValueByte && trim f.value = f.value

theorem trim_cons_space (b : Bytes) : trim (space :: b) = trim b := rfl

namespace Scanner

variable {ε : Type}

theorem byte_cons {q : UInt8 → Bool} {b : UInt8} (h : q b = true) (e : ε) (rest : Bytes) :
    byte q e (b :: rest) = .done b rest := by
  simp [byte, h]

theorem lineEnd_append (e : ε) (rest : Bytes) : lineEnd e (cr :: lf :: rest) = .done () rest := rfl

/-- A field is read back from its line. -/
theorem field_fieldLine (h : f.isPlain = true) (rest : Bytes) :
    field (Response.fieldLine f ++ rest) = .done f rest := by
  obtain ⟨name, value⟩ := f
  simp only [Field.isPlain, isTokenText, Bool.and_eq_true, Bool.not_eq_true', List.all_eq_true,
    decide_eq_true_eq] at h
  obtain ⟨⟨⟨some', token⟩, text⟩, trimmed⟩ := h
  have line : Response.fieldLine ⟨name, value⟩ ++ rest =
      name ++ colon :: ((space :: value) ++ cr :: lf :: rest) := by
    have separator : Bytes.ofText ": " = [colon, space] := rfl
    simp [Response.fieldLine, separator]
  have text' : ∀ b ∈ space :: value, isValueByte b = true := by
    intro b hb
    rcases List.mem_cons.1 hb with rfl | hb
    · rfl
    · exact text b hb
  rw [line, field, bind_of_done (run_append token rfl _),
    bind_of_done (byte_cons (by simp [some']) _ _), bind_of_done (run_append text' rfl _),
    bind_of_done (lineEnd_append _ _), trim_cons_space, trimmed]
  rfl

theorem field?_fieldLine (h : f.isPlain = true) (rest : Bytes) :
    field? (Response.fieldLine f ++ rest) = .done (some f) rest := by
  have found := field_fieldLine h rest
  obtain ⟨b, name, hn, token⟩ : ∃ b name, f.name = b :: name ∧ isToken b = true := by
    simp only [Field.isPlain, isTokenText, Bool.and_eq_true, Bool.not_eq_true'] at h
    cases hn : f.name with
    | nil => simp [hn] at h
    | cons b name => exact ⟨b, name, rfl, by simp_all⟩
  have inLine : ¬(b = cr || b = lf) = true := by
    rintro ends
    rcases Bool.or_eq_true_iff.1 ends with ends | ends <;>
      rw [of_decide_eq_true ends] at token <;> exact absurd token (by decide)
  have line : Response.fieldLine f ++ rest =
      b :: (name ++ Bytes.ofText ": " ++ f.value ++ [cr, lf] ++ rest) := by
    simp [Response.fieldLine, hn]
  rw [line] at found ⊢
  rw [field?_cons, if_neg inLine]
  exact bind_of_done found

/-- Fields are read back from their lines, up to the empty line behind them. -/
theorem fields_fieldLines (h : ∀ f ∈ fs, f.isPlain = true) {room : Nat} (few : fs.length ≤ room)
    (rest : Bytes) :
    fields room (fs.flatMap Response.fieldLine ++ cr :: lf :: rest) = .done fs rest := by
  induction fs generalizing room with
  | nil => cases room <;> rfl
  | cons f fs ih =>
    obtain ⟨room, rfl⟩ : ∃ n, room = n + 1 := ⟨room - 1, by simp at few; omega⟩
    have plain := h f List.mem_cons_self
    have others := ih (fun g hg => h g (List.mem_cons_of_mem f hg)) (Nat.le_of_succ_le_succ few)
    rw [List.flatMap_cons, List.append_assoc, fields, bind_of_done (field?_fieldLine plain _)]
    exact bind_of_done others

theorem decimal_code (status : Status) :
    Numeral.decimal status.code =
      match status with
      | .ok => "200"
      | .badRequest => "400"
      | .targetTooLong => "414"
      | .headTooLarge => "431" := by
  cases status <;> decide +kernel

theorem statusLine_append {v : Version} (first : v = .v10 ∨ v = .v11) (status : Status)
    (rest : Bytes) :
    statusLine (Bytes.ofText (v.text ++ " " ++ Numeral.decimal status.code ++ " " ++ status.phrase)
      ++ cr :: lf :: rest) = .done (v, status.code) rest := by
  rw [decimal_code]
  rcases first with rfl | rfl <;> cases status <;> rfl

end Scanner

namespace Response

variable {r : Response} {date : String}

/-- The head of a response is read back, with the body behind it. -/
theorem answerHead_bytes (first : r.version = .v10 ∨ r.version = .v11)
    (plain : ∀ f ∈ r.sentFields date, f.isPlain = true)
    (few : (r.sentFields date).length ≤ maxFields) :
    Scanner.answerHead (r.bytes date) =
      .done (r.version, r.status.code, r.sentFields date) r.body := by
  have parts : r.bytes date =
      Bytes.ofText (r.version.text ++ " " ++ Numeral.decimal r.status.code ++ " "
        ++ r.status.phrase)
      ++ cr :: lf :: ((r.sentFields date).flatMap fieldLine ++ cr :: lf :: r.body) := by
    simp [bytes]
  rw [parts, Scanner.answerHead,
    Scanner.bind_of_done (Scanner.statusLine_append first r.status _)]
  exact Scanner.bind_of_done (Scanner.fields_fieldLines plain few _)

/-- A response whose body is as long as it says is read back as one answer, with nothing behind. -/
theorem all?_bytes {method : Bytes} (first : r.version = .v10 ∨ r.version = .v11)
    (plain : ∀ f ∈ r.sentFields date, f.isPlain = true)
    (few : (r.sentFields date).length ≤ maxFields)
    (whole : Answer.body? method r.status.code (r.sentFields date) r.body = some (r.body, [])) :
    Answer.all? method (r.bytes date) =
      some [⟨r.version, r.status.code, r.sentFields date, r.body⟩] := by
  have some' : (r.bytes date).isEmpty = false := by simp [bytes]
  have read : Answer.read? method (r.bytes date) =
      some (⟨r.version, r.status.code, r.sentFields date, r.body⟩, []) := by
    simp [Answer.read?, answerHead_bytes first plain few, whole]
  have shorter : ([] : Bytes).length < (r.bytes date).length := by
    cases h : r.bytes date with
    | nil => simp [h] at some'
    | cons b bs => simp
  rw [Answer.all?, some', read]
  simp only [Bool.false_eq_true, if_false, shorter, if_true]
  simp [Answer.all?]

theorem isPlain_closing (v : Version) : ∀ f ∈ closing v, f.isPlain = true := by
  cases v <;> decide

theorem decimal_length : Numeral.decimal 0 = "0" ∧ Numeral.decimal cannedLength = "10" := by
  constructor <;> decide +kernel

end Response

theorem trim_eq_self {b : Bytes} (first : b.head?.all (!isBlankByte ·) = true)
    (last : b.getLast?.all (!isBlankByte ·) = true) : trim b = b := by
  have stays : ∀ {s : Bytes}, s.head?.all (!isBlankByte ·) = true → s.dropWhile isBlankByte = s := by
    intro s h
    cases s with
    | nil => rfl
    | cons x s =>
      rw [List.dropWhile_cons, if_neg (by simpa using h)]
  rw [trim, stays first, stays (by simpa using last), List.reverse_reverse]

theorem utf8EncodeChar_of_ascii {c : Char} (high : c.toNat < 0x80) :
    String.utf8EncodeChar c = [UInt8.ofNat c.toNat] := by
  rw [Utf8.utf8EncodeChar_eq, Utf8.encoded, if_pos (Nat.le_of_lt_succ high)]

theorem isValueByte_ofNat {n : Nat} (low : 0x20 ≤ n) (high : n < 0x7f) :
    isValueByte (UInt8.ofNat n) = true := by
  have value : (UInt8.ofNat n).toNat = n := by
    rw [UInt8.toNat_ofNat']
    omega
  have notDelete : UInt8.ofNat n ≠ 0x7f := by
    intro e
    rw [e] at value
    simp at value
    omega
  have notControl : 0x20 ≤ UInt8.ofNat n := by
    rw [UInt8.le_iff_toNat_le, value]
    exact low
  simp [isValueByte, notDelete, notControl]

/-- The bytes of printable characters of ASCII may stand in the value of a field. -/
theorem isValueByte_of_printable {cs : List Char}
    (h : ∀ c ∈ cs, 0x20 ≤ c.toNat ∧ c.toNat < 0x7f) :
    (Bytes.ofText (String.ofList cs)).all isValueByte = true := by
  rw [Bytes.ofText_ofList, List.all_eq_true]
  intro b hb
  obtain ⟨c, hc, hb⟩ := List.mem_flatMap.1 hb
  obtain ⟨low, high⟩ := h c hc
  rw [utf8EncodeChar_of_ascii (by omega), List.mem_singleton] at hb
  rw [hb]
  exact isValueByte_ofNat low high

theorem isValueByte_padded (places n : Nat) :
    (Bytes.ofText (Instant.padded places n)).all isValueByte = true := by
  apply isValueByte_of_printable
  intro c hc
  have digit : Numeral.isDigit 10 c = true := by
    rcases List.mem_append.1 hc with hc | hc
    · rw [List.eq_of_mem_replicate hc]
      decide
    · exact Numeral.isDigit_of_mem_digits (by omega) (by omega) hc
  have bounds := Numeral.toNat_of_isDigit digit
  omega

theorem getD_mem (words : List String) (n : Nat) : words.getD n "" ∈ "" :: words := by
  rw [List.getD_eq_getElem?_getD]
  cases h : words[n]? with
  | none => exact List.mem_cons_self
  | some w => exact List.mem_cons_of_mem _ (List.mem_of_getElem? h)

theorem isValueByte_date (now : Instant) :
    (Bytes.ofText now.responseText).all isValueByte = true := by
  have day : ∀ w ∈ "" :: Instant.weekdays, (Bytes.ofText w).all isValueByte = true := by decide
  have month : ∀ w ∈ "" :: Instant.months, (Bytes.ofText w).all isValueByte = true := by decide
  have signs : ∀ w ∈ [", ", " ", ":", " GMT"], (Bytes.ofText w).all isValueByte = true := by decide
  simp only [List.forall_mem_cons] at signs
  simp only [Instant.responseText, Instant.timeText, Bytes.ofText_append, List.all_append,
    day _ (getD_mem Instant.weekdays now.weekday), month _ (getD_mem Instant.months (now.month - 1)),
    isValueByte_padded, signs, Bool.and_self]

/-- A date begins with a weekday, or with its comma, and ends with the name of its zone. -/
theorem trim_date (now : Instant) :
    trim (Bytes.ofText now.responseText) = Bytes.ofText now.responseText := by
  have day : ∀ w ∈ "" :: Instant.weekdays,
      (Bytes.ofText w ++ Bytes.ofText ", ").head?.any (!isBlankByte ·) = true := by decide
  have begins : Bytes.ofText (Instant.weekdays.getD now.weekday "") ++ Bytes.ofText ", "
      <+: Bytes.ofText now.responseText := by
    simp only [Instant.responseText, Bytes.ofText_append, List.append_assoc]
    exact (List.prefix_append_right_inj _).2 (List.prefix_append _ _)
  apply trim_eq_self
  · obtain ⟨tail, split⟩ := begins
    obtain ⟨b, first, ink⟩ :=
      (Option.any_eq_true _ _).1 (day _ (getD_mem Instant.weekdays now.weekday))
    rw [← split, List.head?_append, first]
    exact ink
  · rw [Instant.responseText, Bytes.ofText_append, List.getLast?_append]
    rfl

/-- The date of a response can stand in a field. -/
theorem isPlain_date (now : Instant) :
    (Response.textField "date" now.responseText).isPlain = true := by
  have name : isTokenText (Bytes.ofText "date") = true := by decide
  simp [Field.isPlain, Response.textField, isValueByte_date, trim_date, name]

namespace Answer

variable {method body : Bytes} {code : Nat}

theorem values_append (name : String) (fs gs : List Field) :
    values name (fs ++ gs) = values name fs ++ values name gs := by
  simp [values]

theorem body?_of_bare (bare : isBare method code = true) (fs : List Field) :
    body? method code fs [] = some ([], []) := by
  rw [body?, if_pos bare]

theorem body?_of_length {value : Bytes} (bare : isBare method code = false)
    (plain : values "transfer-encoding" fs = []) (one : values "content-length" fs = [value])
    (length : Framing.decimal? value = some body.length) :
    body? method code fs body = some (body, []) := by
  simp [body?, bare, plain, one, length]

end Answer

namespace Response

variable {request : Request}

theorem decimal?_length :
    Framing.decimal? (lengthField 0).value = some 0 ∧
    Framing.decimal? (lengthField cannedLength).value = some cannedLength := by
  rw [lengthField, lengthField, decimal_length.1, decimal_length.2]
  decide

theorem isPlain_length :
    (lengthField 0).isPlain = true ∧ (lengthField cannedLength).isPlain = true := by
  rw [lengthField, lengthField, decimal_length.1, decimal_length.2]
  decide

/-- What the fields that say nothing else say about the length. -/
theorem values_of_length (v : Version) (n : Nat) (date : String) :
    Answer.values "transfer-encoding" (closing v ++ [lengthField n] ++ [textField "date" date]) = [] ∧
    Answer.values "content-length" (closing v ++ [lengthField n] ++ [textField "date" date]) =
      [(lengthField n).value] := by
  have ends : Answer.values "transfer-encoding" (closing v) = [] ∧
      Answer.values "content-length" (closing v) = [] := by cases v <;> decide
  simp only [Answer.values_append, ends]
  exact ⟨rfl, rfl⟩

theorem isPlain_fields (v : Version) {lengths : List Field}
    (plain : ∀ f ∈ lengths, f.isPlain = true) (now : Instant) :
    ∀ f ∈ closing v ++ lengths ++ [textField "date" now.responseText], f.isPlain = true := by
  rw [List.forall_mem_append, List.forall_mem_append, List.forall_mem_singleton]
  exact ⟨⟨isPlain_closing v, plain⟩, isPlain_date now⟩

/-- The reply to a request is read back as one answer to its method. -/
theorem isCanned_ofReply (first : request.version = .v10 ∨ request.version = .v11)
    (now : Instant) :
    Answer.IsCanned request.method
      ((ofReply request (reply request)).bytes now.responseText) := by
  have bare : Answer.isBare request.method 200 = (request.isConnect || request.isHead) := by
    simp [Answer.isBare, Request.isConnect, Request.isHead, Bool.or_comm]
  have fields : (ofReply request (reply request)).sentFields now.responseText =
      closing request.version ++ (if request.isConnect then [] else [lengthField cannedLength])
        ++ [textField "date" now.responseText] := by
    simp [sentFields, ofReply, reply, cannedBody]
  refine ⟨_, all?_bytes first ?_ ?_ ?_, rfl, ?_⟩
  · rw [fields]
    apply isPlain_fields
    cases request.isConnect with
    | true => exact nofun
    | false => exact List.forall_mem_singleton.2 isPlain_length.2
  · rw [fields]
    rcases first with h | h <;> cases hc : request.isConnect <;> simp [h, closing, maxFields]
  · change Answer.body? request.method 200 _
        (if request.isConnect || request.isHead then [] else cannedBody) =
      some (if request.isConnect || request.isHead then [] else cannedBody, [])
    cases hb : request.isConnect || request.isHead with
    | true => exact Answer.body?_of_bare (bare.trans hb) _
    | false =>
      have values := values_of_length request.version cannedLength now.responseText
      rw [fields, (Bool.or_eq_false_iff.1 hb).1]
      exact Answer.body?_of_length (bare.trans hb) values.1 values.2 decimal?_length.2
  · simp [ofReply, reply, Request.isConnect, Request.isHead, or_comm]

/-- A refusal is read back as one answer to any method. -/
theorem isRefusal_refusal (f : Fault) (now : Instant) :
    Answer.IsRefusal ((refusal f.status).bytes now.responseText) := by
  refine ⟨f.status.code, by cases f <;> decide, ?_⟩
  intro method
  have values := values_of_length .v11 0 now.responseText
  have plain : ∀ f ∈ [lengthField 0], f.isPlain = true :=
    List.forall_mem_singleton.2 isPlain_length.1
  refine ⟨_, all?_bytes (.inr rfl) (isPlain_fields .v11 plain now) ?_ ?_, rfl, rfl, ?_⟩
  · simp [sentFields, refusal, closing, maxFields]
  · cases bare : Answer.isBare method (refusal f.status).status.code with
    | true => exact Answer.body?_of_bare bare _
    | false => exact Answer.body?_of_length bare values.1 values.2 decimal?_length.1
  · have zero : (lengthField 0).value = Bytes.ofText "0" := by
      rw [lengthField, decimal_length.1]
      rfl
    rw [← zero]
    exact values.2

end Response

end CannedReply.Http
