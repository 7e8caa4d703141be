import CannedReply.Proofs.Http.Shown
import CannedReply.Proofs.Net.AddressText
import CannedReply.Proofs.Server.Happens
import CannedReply.Proofs.Text.Lines
import CannedReply.Server.Journal

/-!
What the log says about a server stays on one line for each event, whatever clients send, as long
as the system's own words for a failure do.
-/

namespace CannedReply

open Text Http

namespace Log

/-- Whether neither the names nor the values that go with an event break its line. -/
def FieldsStayOnLine (fields : List (String × String)) : Prop :=
  ∀ f ∈ fields, IsLine f.1 ∧ IsLine f.2

namespace FieldsStayOnLine

variable {name value : String} {fields more : List (String × String)}

theorem nil : FieldsStayOnLine [] := nofun

theorem cons (hn : IsLine name) (hv : IsLine value) (h : FieldsStayOnLine fields) :
    FieldsStayOnLine ((name, value) :: fields) :=
  List.forall_mem_cons.2 ⟨⟨hn, hv⟩, h⟩

theorem append (h : FieldsStayOnLine fields) (hm : FieldsStayOnLine more) :
    FieldsStayOnLine (fields ++ more) :=
  List.forall_mem_append.2 ⟨h, hm⟩

end FieldsStayOnLine

/-- Whether no part of an event breaks its line. -/
structure Event.StaysOnLine (e : Event) : Prop where
  message : IsLine e.message
  fields : FieldsStayOnLine e.fields

theorem isLine_title (l : Level) : IsLine l.title := by
  cases l <;> exact isLine_of_all rfl

theorem isLine_target (s : Source) : IsLine s.target := by
  cases s <;> exact isLine_of_all rfl

namespace Event.StaysOnLine

variable {e : Event}

theorem line (h : e.StaysOnLine) : IsLine e.line := by
  have space : IsLine " " := isLine_of_all rfl
  have equals : IsLine "=" := isLine_of_all rfl
  have colon : IsLine ": " := isLine_of_all rfl
  simp only [Event.line, isLine_append_iff, isLine_title, space, isLine_target, colon, h.message,
    true_and]
  refine isLine_join fun s mem => ?_
  obtain ⟨f, here, rfl⟩ := List.mem_map.1 mem
  obtain ⟨name, value⟩ := h.fields f here
  simp only [isLine_append_iff, space, name, equals, value, and_true]

theorem timedLine (h : e.StaysOnLine) {time : String} (line : IsLine time) :
    IsLine (e.timedLine time) := by
  simp only [Event.timedLine, isLine_append_iff, line, h.line, true_and, and_true]
  split <;> exact isLine_of_all rfl

end Event.StaysOnLine

end Log

open Log

theorem isLine_text (a : SocketAddress) : IsLine a.text :=
  isLine_ofList.2 fun c mem => isBreak_of_space_le (a.shown c mem).1

theorem ConnectionId.isLine_text (id : ConnectionId) : IsLine id.text :=
  isLine_append_iff.2 ⟨isLine_of_all rfl, isLine_decimal _⟩

/-- Whether the words of a failure are on one line. Those that have a name here are. -/
def Failure.SpeaksInLine : Failure → Prop
  | .other _ words => IsLine words
  | _ => True

theorem Failure.SpeaksInLine.message {f : Failure} (h : f.SpeaksInLine) : IsLine f.message := by
  have reason : IsLine f.reason := by
    cases f with
    | other => exact h
    | _ => exact isLine_of_all rfl
  unfold Failure.message
  split
  · exact isLine_append_iff.2 ⟨isLine_append_iff.2
      ⟨isLine_append_iff.2 ⟨reason, isLine_of_all rfl⟩, isLine_decimal _⟩, isLine_of_all rfl⟩
  · exact reason

namespace Connection

/-- What is shown of bytes without line breaks has none. -/
theorem isLine_shown {b : Bytes} (solid : ∀ x ∈ b, x ≠ 0x0a ∧ x ≠ 0x0d) : IsLine (shown b) := by
  unfold shown
  cases decoded : b.toText? with
  | none => exact isLine_of_all rfl
  | some s => exact Bytes.isLine_of_toText? decoded solid

theorem fieldsStayOnLine (c : Connection) : FieldsStayOnLine c.fields :=
  .cons (isLine_of_all rfl) c.id.isLine_text (.cons (isLine_of_all rfl) (isLine_text _) .nil)

theorem staysOnLine_replied {r : Request} (grammar : r.HasGrammar) :
    (replied r).StaysOnLine := by
  have method : IsLine (shown r.method) := by
    refine isLine_shown fun x mem => ?_
    have token := grammar.method x mem
    constructor <;>
    · rintro rfl
      exact absurd token (by decide)
  have path : IsLine (shown r.target.shownPath) := by
    unfold Target.shownPath
    split
    · exact isLine_shown (List.forall_mem_singleton.2 (by decide))
    · refine isLine_shown fun x mem => ?_
      have allowed := grammar.path x mem
      constructor <;>
      · rintro rfl
        exact absurd allowed (by decide)
  have version : IsLine r.version.text := by
    cases r.version <;> exact isLine_of_all rfl
  have message : IsLine "Serving fixed response" := isLine_of_all rfl
  exact ⟨message, .cons (isLine_of_all rfl) method (.cons (isLine_of_all rfl) path
    (.cons (isLine_of_all rfl) version .nil))⟩

theorem isLine_error {o : Outcome} {e : String} (said : o.error? = some e) : IsLine e := by
  have error : ∀ fault : Fault, IsLine ("HTTP connection error: " ++ fault.message) := by
    intro fault
    refine isLine_append_iff.2 ⟨isLine_of_all rfl, ?_⟩
    cases fault <;> exact isLine_of_all rfl
  cases o with
  | answered | unasked => cases said
  | refused fault =>
    cases said
    exact error fault
  | otherProtocol =>
    cases said
    exact isLine_append_iff.2 ⟨error .version, isLine_of_all rfl⟩
  | cutShort =>
    cases said
    exact isLine_of_all rfl

/-- All that the log says about the end of an exchange stays on its lines. -/
theorem staysOnLine_ending (c : Connection) {o : Outcome}
    (grammar : ∀ r, o = .answered r → r.HasGrammar) : ∀ e ∈ c.ending o, e.StaysOnLine := by
  have said : IsLine "Connection closed" := isLine_of_all rfl
  have closed : Event.StaysOnLine ⟨.trace, .connection, "Connection closed", c.fields⟩ :=
    ⟨said, c.fieldsStayOnLine⟩
  have name : IsLine "error" := isLine_of_all rfl
  have failed : ∀ {level message error}, IsLine message → o.error? = some error →
      Event.StaysOnLine ⟨level, .connection, message, c.fields ++ [("error", error)]⟩ :=
    fun line said => ⟨line, c.fieldsStayOnLine.append (.cons name (isLine_error said) .nil)⟩
  cases o with
  | answered r =>
    exact List.forall_mem_cons.2 ⟨staysOnLine_replied (grammar r rfl),
      List.forall_mem_singleton.2 closed⟩
  | refused | otherProtocol | cutShort =>
    exact List.forall_mem_singleton.2 (failed (isLine_of_all rfl) rfl)
  | unasked => exact List.forall_mem_singleton.2 closed

/-- What it says about one that the system has broken off stays on its line, too. -/
theorem staysOnLine_interrupted (c : Connection) (i : Interruption)
    (grammar : ∀ r, c.outcome? = some (.answered r) → r.HasGrammar) :
    ∀ e ∈ c.interrupted i, e.StaysOnLine := by
  have said : IsLine i.error := by
    cases i <;> exact isLine_of_all rfl
  have failed : (c.failure i.error).StaysOnLine :=
    ⟨isLine_of_all rfl, c.fieldsStayOnLine.append (.cons (isLine_of_all rfl) said .nil)⟩
  unfold interrupted
  split
  · next r answered =>
    exact List.forall_mem_cons.2 ⟨staysOnLine_replied (grammar r answered),
      List.forall_mem_singleton.2 failed⟩
  · exact List.forall_mem_singleton.2 failed

end Connection

namespace Server

variable {s : State} {l : Label}

theorem staysOnLine_boundEvent (a : SocketAddress) : (boundEvent a).StaysOnLine := by
  have message : IsLine "Listener bound" := isLine_of_all rfl
  exact ⟨message, .cons (isLine_of_all rfl) (isLine_text a)
    (.cons (isLine_of_all rfl) (isLine_decimal _) .nil)⟩

theorem staysOnLine_acceptedEvent (c : Connection) : (acceptedEvent c).StaysOnLine := by
  have message : IsLine "Connection accepted" := isLine_of_all rfl
  exact ⟨message, c.fieldsStayOnLine⟩

theorem staysOnLine_failedEvent {f : Failure} (speaks : f.SpeaksInLine) :
    (failedEvent (.accept f)).StaysOnLine := by
  have message : IsLine "Accept failed" := isLine_of_all rfl
  have error : IsLine (ListenerError.accept f).message :=
    isLine_append_iff.2 ⟨isLine_of_all rfl, speaks.message⟩
  have backoff : IsLine (Numeral.decimal acceptBackoff ++ "ms") :=
    isLine_append_iff.2 ⟨isLine_decimal _, isLine_of_all rfl⟩
  exact ⟨message, .cons (isLine_of_all rfl) error (.cons (isLine_of_all rfl) backoff .nil)⟩

theorem staysOnLine_acceptingEvent (a : SocketAddress) (mode : AcceptMode) :
    (acceptingEvent a mode).StaysOnLine := by
  have account : IsLine mode.account := by
    cases mode <;> exact isLine_of_all rfl
  have message : IsLine "Fixture server accepting" := isLine_of_all rfl
  exact ⟨message, .cons (isLine_of_all rfl) (isLine_text a)
    (.cons (isLine_of_all rfl) account .nil)⟩

theorem staysOnLine_failEvents {f : Failure} (speaks : f.SpeaksInLine) :
    ∀ e ∈ s.failEvents f, e.StaysOnLine := by
  unfold State.failEvents
  split
  · exact List.forall_mem_singleton.2 (staysOnLine_failedEvent speaks)
  · nofun

/-- What a handler says stays on its lines, whatever it has read. -/
theorem staysOnLine_handleEvents (s : State) (c : Nat) :
    ∀ e ∈ s.handleEvents c, e.StaysOnLine := by
  unfold State.handleEvents
  split
  · next x after =>
    obtain ⟨t, handled, known⟩ := Option.bind_eq_some_iff.1 after
    cases done : x.outcome? with
    | none => exact List.forall_mem_nil _
    | some o =>
      refine x.staysOnLine_ending fun r answered => ?_
      subst answered
      cases happens_of_step (l := .handle c) handled with
      | @handled _ k y _ _ going _ =>
        obtain rfl : y.receive k.unread k.ended = x := by
          simpa [State.connection?_eq_some_iff, State.standing?] using known
        cases reading : y.exchange with
        | closed => simp [Connection.outcome?, Exchange.outcome?, reading] at going
        | reading i looked =>
          have settled := Exchange.eq_closed_of_outcome done
          simp only [Connection.receive, reading, Exchange.receive] at settled
          exact Exchange.hasGrammar_of_settle settled
  · exact List.forall_mem_nil _

theorem staysOnLine_acceptEvents (s : State) : ∀ e ∈ s.acceptEvents, e.StaysOnLine := by
  unfold State.acceptEvents
  split
  · exact staysOnLine_failEvents trivial
  · intro e mem
    obtain ⟨x, -, rfl⟩ := Option.map_eq_some_iff.1 (Option.mem_toList.1 mem)
    exact staysOnLine_acceptedEvent x
  · nofun

/-- Whatever happens to a server, what the log says about it stays on its lines, if the words of
the system do with which an attempt to accept fails. -/
theorem staysOnLine_events (s : State) (speaks : ∀ f, l = .failAccept f → f.SpeaksInLine) :
    ∀ e ∈ s.events l, e.StaysOnLine := by
  have closed : closedEvent.StaysOnLine := ⟨isLine_of_all rfl, .nil⟩
  have served : servedEvent.StaysOnLine := ⟨isLine_of_all rfl, .nil⟩
  cases l with
  | run => exact List.forall_mem_singleton.2 (staysOnLine_acceptingEvent _ _)
  | accept => exact staysOnLine_acceptEvents s
  | failAccept f => exact staysOnLine_failEvents (speaks f rfl)
  | stopListening => exact List.forall_mem_singleton.2 closed
  | handle c => exact staysOnLine_handleEvents s c
  | report => exact List.forall_mem_singleton.2 served
  | _ => nofun

end Server

end CannedReply
