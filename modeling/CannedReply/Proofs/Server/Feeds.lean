import CannedReply.Proofs.Server.WellFormed
import CannedReply.Server.History
import Mathlib.Data.List.Induction

/-!
What handlers are handed. The handler of a client gets, piece by piece, just what the client has
sent, and goes on with it as one exchange that has a connection for itself.
-/

namespace CannedReply.Server

open Http

variable {s t u : State} {l : Label} {ls as bs : List Label} {c : Nat} {f : Feed}

namespace Label

/-- What a client and its handler can do. -/
theorem concerns_cases (c : Nat) (l : Label) :
    l.concerns c = false ∨ (∃ data, l = .send c data) ∨ l = .finish c ∨ l = .close c ∨
      l = .handle c := by
  cases l <;> simp [concerns, isOf, isEndOf, eq_comm, em']

theorem bytesOf_of_others (h : l.concerns c = false) : l.bytesOf c = [] := by
  cases l <;> simp_all [concerns, isOf, bytesOf]

theorem isEndOf_of_others (h : l.concerns c = false) : l.isEndOf c = false := by
  cases l <;> simp_all [concerns, isOf, isEndOf]

end Label

theorem endedBy_append (c : Nat) (as bs : List Label) :
    endedBy c (as ++ bs) = (endedBy c as || endedBy c bs) :=
  List.any_append

/-- What is sent behind the end is lost. -/
theorem sentBy_append (c : Nat) (as bs : List Label) :
    sentBy c (as ++ bs) = sentBy c as ++ if endedBy c as then [] else sentBy c bs := by
  induction as with
  | nil => rfl
  | cons l as ih =>
    unfold sentBy endedBy at ih ⊢
    cases h : l.isEndOf c <;> simp [h, ih]

theorem sentBy_singleton (c : Nat) (l : Label) : sentBy c [l] = l.bytesOf c := by
  unfold sentBy
  cases h : l.isEndOf c with
  | false => simp [h]
  | true => cases l <;> simp_all [Label.isEndOf, Label.bytesOf]

namespace Feed

theorem of_append (c : Nat) (as bs : List Label) :
    Feed.of c (as ++ bs) = bs.foldl (after c) (Feed.of c as) :=
  List.foldl_append

/-- What others do leaves the feed of a client as it is. -/
theorem after_of_others (h : l.concerns c = false) : f.after c l = f := by
  cases l <;> simp_all [after, Label.concerns, Label.isOf, Label.isEndOf]

theorem of_filter (c : Nat) (ls : List Label) :
    Feed.of c (ls.filter (Label.concerns c)) = Feed.of c ls := by
  unfold Feed.of
  generalize Feed.empty = f
  induction ls generalizing f with
  | nil => rfl
  | cons l ls ih =>
    cases h : l.concerns c with
    | true =>
      rw [List.filter_cons_of_pos h]
      exact ih _
    | false =>
      rw [List.filter_cons_of_neg (by simp [h]), List.foldl_cons, after_of_others h]
      exact ih f

/-- How a feed goes together with what the client has sent and whether it has stopped. -/
structure Carries (f : Feed) (sent : Bytes) (ended : Bool) : Prop where
  data : f.handed.flatMap Delivery.data ++ f.unread = sent
  ended : f.ended = ended
  last : ∀ d ∈ f.handed, d.ended = true → f.ended = true

theorem Carries.after {sent : Bytes} {ended : Bool} (h : f.Carries sent ended) (l : Label) :
    (f.after c l).Carries (sent ++ if ended then [] else l.bytesOf c)
      (ended || l.isEndOf c) := by
  obtain ⟨data, rfl, last⟩ := h
  obtain others | ⟨bytes, rfl⟩ | rfl | rfl | rfl := l.concerns_cases c
  · rw [after_of_others others, Label.bytesOf_of_others others, Label.isEndOf_of_others others]
    exact ⟨by simpa using data, by simp, last⟩
  · refine ⟨?_, by simp [Feed.after, Label.isEndOf], by simpa [Feed.after] using last⟩
    cases he : f.ended <;> simp [Feed.after, Label.bytesOf, he, ← data]
  · exact ⟨by simpa [Feed.after, Label.bytesOf] using data, by simp [Feed.after, Label.isEndOf],
      by simp [Feed.after]⟩
  · exact ⟨by simpa [Feed.after, Label.bytesOf] using data, by simp [Feed.after, Label.isEndOf],
      by simp [Feed.after]⟩
  · refine ⟨by simpa [Feed.after, Label.bytesOf] using data, by simp [Feed.after, Label.isEndOf],
      ?_⟩
    intro d hd ended
    simp only [Feed.after, if_true, List.mem_append, List.mem_singleton] at hd ⊢
    rcases hd with hd | rfl
    · exact last d hd ended
    · exact ended

/-- A feed carries all that the client has sent. -/
theorem carries_of (c : Nat) (ls : List Label) :
    (Feed.of c ls).Carries (sentBy c ls) (endedBy c ls) := by
  induction ls using List.reverseRecOn with
  | nil => exact ⟨rfl, rfl, nofun⟩
  | append_singleton ls l ih =>
    rw [of_append, sentBy_append, endedBy_append, sentBy_singleton]
    simpa [endedBy] using ih.after (c := c) l

/-- The pieces of a feed make up what the client has sent. -/
theorem Carries.pieces {sent : Bytes} {ended : Bool} (h : f.Carries sent ended) :
    f.pieces.flatMap Delivery.data = sent ∧ f.pieces.any Delivery.ended = ended := by
  obtain ⟨data, rfl, last⟩ := h
  have early : f.ended = false → f.handed.any Delivery.ended = false := by
    intro going
    rw [List.any_eq_false]
    intro d hd ended
    simp [last d hd ended] at going
  cases he : f.ended <;> cases hu : f.unread <;> simp_all [Feed.pieces]

/-- What the first piece begins with, the one that waits to be handed over included. -/
def Leads (f : Feed) (sent : Bytes) (ended : Bool) : Prop :=
  ∀ d, (f.handed ++ [Delivery.mk f.unread f.ended]).head? = some d →
    sent <+: d.data ∧ (ended = true → d.ended = true)

theorem leads_cons {d : Delivery} {ds : List Delivery} (h : f.handed = d :: ds) (sent : Bytes)
    (ended : Bool) : f.Leads sent ended ↔ sent <+: d.data ∧ (ended = true → d.ended = true) := by
  simp [Leads, h]

theorem leads_nil (h : f.handed = []) (sent : Bytes) (ended : Bool) :
    f.Leads sent ended ↔ sent <+: f.unread ∧ (ended = true → f.ended = true) := by
  simp [Leads, h]

theorem handed_after (f : Feed) (c : Nat) (l : Label) : f.handed <+: (f.after c l).handed := by
  obtain others | ⟨bytes, rfl⟩ | rfl | rfl | rfl := l.concerns_cases c
  · simp [after_of_others others]
  all_goals simp [Feed.after]

theorem Leads.after {sent : Bytes} {ended : Bool} (h : f.Leads sent ended) (l : Label) :
    (f.after c l).Leads sent ended := by
  cases hf : f.handed with
  | cons d ds =>
    -- the first piece has been handed over, and nothing changes it any more
    rw [leads_cons hf] at h
    obtain ⟨es, he⟩ := f.handed_after c l
    rw [hf] at he
    exact (leads_cons he.symm _ _).2 h
  | nil =>
    rw [leads_nil hf] at h
    obtain ⟨begins, last⟩ := h
    obtain others | ⟨bytes, rfl⟩ | rfl | rfl | rfl := l.concerns_cases c
    · rw [after_of_others others, leads_nil hf]
      exact ⟨begins, last⟩
    · rw [leads_nil (by simp [Feed.after, hf])]
      refine ⟨?_, by simpa [Feed.after] using last⟩
      cases he : f.ended with
      | true => simpa [Feed.after, he] using begins
      | false => simpa [Feed.after, he] using begins.trans (List.prefix_append _ bytes)
    · rw [leads_nil (by simp [Feed.after, hf])]
      simpa [Feed.after] using begins
    · rw [leads_nil (by simp [Feed.after, hf])]
      simpa [Feed.after] using begins
    · have handed : (f.after c (.handle c)).handed = [⟨f.unread, f.ended⟩] := by
        simp [Feed.after, hf]
      rw [leads_cons handed]
      exact ⟨begins, last⟩

theorem Leads.head {sent : Bytes} {ended : Bool} (h : f.Leads sent ended) {d : Delivery}
    (first : f.pieces.head? = some d) : sent <+: d.data ∧ (ended = true → d.ended = true) := by
  apply h
  cases hf : f.handed with
  | cons e es => simpa [Feed.pieces, hf] using first
  | nil =>
    unfold Feed.pieces at first
    rw [hf] at first
    split at first
    · simp at first
    · exact first

end Feed

/-- What the feed of a client says about how the client stands. -/
def State.Feeds (s : State) (c : Nat) (f : Feed) : Prop :=
  match s.clients c with
  | none => f = .empty
  | some k =>
    k.unread = f.unread ∧ k.ended = f.ended ∧
      match k.standing with
      | .accepted x => x.exchange = Exchange.start.receiveEach f.handed
      | _ => f.handed = []

namespace State

theorem Feeds.of_clients (h : s.Feeds c f) (same : t.clients c = s.clients c) : t.Feeds c f := by
  unfold Feeds at h ⊢
  rw [same]
  exact h

/-- A client whose place in the queue is gone has been handed nothing. -/
theorem Feeds.dropBacklog (w : WellFormed s) (h : s.Feeds c f) : s.dropBacklog.Feeds c f := by
  by_cases waits : c ∈ s.backlog
  · obtain ⟨k, known, stands⟩ := Option.map_eq_some_iff.1 ((w.waiting_iff c).1 waits)
    simpa [Feeds, State.dropBacklog, waits, known, stands] using h
  · exact h.of_clients (by simp [State.dropBacklog, waits])

/-- A client whom nobody knows, or who waits, begins to be handed something from its start. -/
theorem Feeds.attach {k : Client} (h : s.Feeds c f) (known : s.clients c = some k)
    (waits : k.standing = .waiting) : (s.attach c k).Feeds c f := by
  simp only [Feeds, known, waits] at h
  obtain ⟨unread, ended, handed⟩ := h
  simp only [Feeds, clients_attach, if_true]
  exact ⟨unread, ended, by rw [handed]; rfl⟩

end State

/-- A step of the server, or of anybody, goes on with what each client is fed. -/
theorem Happens.feeds (h : Happens s l t) (w : WellFormed s) (hf : s.Feeds c f) :
    t.Feeds c (f.after c l) := by
  cases h with
  | @refused d a new _ | @queued d a new _ _ =>
    by_cases e : c = d
    · subst e
      simp_all [State.Feeds, Feed.after, Feed.empty]
    · exact hf.of_clients (by simp [e])
  | @adopted d a new =>
    by_cases e : c = d
    · subst e
      simp_all [State.Feeds, Feed.after, Feed.empty, Connection.accepted, Exchange.receiveEach]
    · exact hf.of_clients (by simp [e])
  | @sent d data k known =>
    by_cases e : c = d
    · subst e
      unfold State.Feeds at hf ⊢
      simp_all [Feed.after]
    · rw [Feed.after_of_others (by simp [Label.concerns, Label.isOf, Ne.symm e])]
      exact hf.of_clients (by simp [e])
  | @finished d k known | @closed d k known =>
    by_cases e : c = d
    · subst e
      unfold State.Feeds at hf ⊢
      simp_all [Feed.after]
    · rw [Feed.after_of_others (by simp [Label.concerns, Label.isOf, Label.isEndOf, Ne.symm e])]
      exact hf.of_clients (by simp [e])
  | @handled d k x known attached going arrived =>
    by_cases e : c = d
    · subst e
      simp only [State.Feeds, known, attached] at hf
      obtain ⟨unread, ended, exchange⟩ := hf
      simp [State.Feeds, Feed.after, unread, ended, exchange, Connection.receive,
        Exchange.receiveEach]
    · rw [Feed.after_of_others (by simp [Label.concerns, Ne.symm e])]
      exact hf.of_clients (by simp [e])
  | abandoned _ | stoppedListening _ => exact hf.dropBacklog w
  | failed _ _ | hindered _ =>
    unfold State.failToAccept
    cases s.mode with
    | once => exact hf.dropBacklog w
    | forever => exact hf
  | @acceptedOnly d rest k _ _ first known _ | @acceptedNext d rest k _ _ first known _ =>
    by_cases e : c = d
    · subst e
      have stands := (w.waiting_iff c).1 (by simp [first])
      rw [State.standing?, known, Option.map_some, Option.some.injEq] at stands
      exact hf.attach known stands
    · exact hf.of_clients (by simp [e])
  | started _ | resumed _ _ | reported _ _ | descriptorsSet | passed => exact hf

theorem WellFormed.feeds_steps (w : WellFormed s) (run : s.steps ls = some t)
    (hf : s.Feeds c f) : t.Feeds c (ls.foldl (Feed.after c) f) := by
  induction ls generalizing s f with
  | nil =>
    rw [← Option.some.inj run]
    exact hf
  | cons l ls ih =>
    obtain ⟨u, first, rest⟩ := State.steps_cons_eq_some_iff.1 run
    exact ih (w.step first) rest (first.feeds w hf)

/-- In a run of a server that has just started, everybody is fed what the run says. -/
theorem State.feeds_of_run {mode : AcceptMode} {address : SocketAddress} {ids : IdSource}
    (run : (State.start mode address ids).steps ls = some s) (c : Nat) :
    s.Feeds c (Feed.of c ls) :=
  (WellFormed.start mode address ids).feeds_steps run rfl

end CannedReply.Server
