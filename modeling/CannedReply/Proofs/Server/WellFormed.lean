import CannedReply.Proofs.Server.Happens
import Mathlib.Data.List.Nodup

/-!
What holds of a server whatever has happened to it and to its clients.
-/

namespace CannedReply.Server

/-- How the phase of a server goes together with its mode and with whom it has accepted. -/
def State.PhaseFits (s : State) : Prop :=
  match s.mode, s.phase with
  | _, .bound | _, .abandoned | .once, .accepting => s.accepted = []
  | .once, .closing c | .once, .awaiting c => s.accepted = [c]
  | .once, .finished (.error e) => s.accepted = [] ∧ ∃ f, e = .accept f
  | .once, .finished (.ok n) => n = 1 ∧ ∃ c o, s.accepted = [c] ∧ s.outcome? c = some o
  | .once, .pausing _ => False
  | .forever, .accepting => True
  | .forever, .pausing t => t ≤ s.clock + acceptBackoff
  | .forever, .closing _ | .forever, .awaiting _ | .forever, .finished _ => False

/-- The phase still fits where only time passes and exchanges go on. -/
theorem State.PhaseFits.of_frame {s t : State} (fits : s.PhaseFits) (mode : t.mode = s.mode)
    (phase : t.phase = s.phase) (accepted : t.accepted = s.accepted) (clock : s.clock ≤ t.clock)
    (keep : ∀ {c o}, s.outcome? c = some o → t.outcome? c = some o) : t.PhaseFits := by
  unfold State.PhaseFits at fits ⊢
  rw [mode, phase, accepted]
  split at fits
  case h_7 =>
    obtain ⟨rfl, c, o, hc, ho⟩ := fits
    exact ⟨rfl, c, o, hc, keep ho⟩
  case h_10 => exact Nat.le_trans fits (Nat.add_le_add_right clock _)
  all_goals exact fits

/-- What holds of a server in every run. -/
structure WellFormed (s : State) : Prop where
  waiting_iff : ∀ c, c ∈ s.backlog ↔ s.standing? c = some .waiting
  attached_iff : ∀ c, s.Attached c ↔ ∃ x, s.connection? c = some x
  backlog_nodup : s.backlog.Nodup
  accepted_nodup : s.accepted.Nodup
  deaf_backlog : s.isListening = false → s.backlog = []
  phase_fits : s.PhaseFits

namespace WellFormed

variable {s t : State} {l : Label}

theorem start (mode : AcceptMode) (address : SocketAddress) (ids : IdSource) :
    WellFormed (.start mode address ids) where
  waiting_iff c := by simp [State.start, State.standing?]
  attached_iff c := by simp [State.start, State.Attached, State.connection?]
  backlog_nodup := List.nodup_nil
  accepted_nodup := List.nodup_nil
  deaf_backlog _ := rfl
  phase_fits := by cases mode <;> rfl

/-- Nobody who is new waits. -/
theorem not_waiting (w : WellFormed s) {c : Nat} (new : s.clients c = none) : c ∉ s.backlog := by
  intro h
  have hw := (w.waiting_iff c).1 h
  simp [State.standing?, new] at hw

/-- Nobody who is new has a handler. -/
theorem not_attached (w : WellFormed s) {c : Nat} (new : s.clients c = none) : ¬s.Attached c := by
  rw [w.attached_iff]
  rintro ⟨x, hx⟩
  simp [State.connection?, new] at hx

/-- Nobody who waits has a handler. -/
theorem waiting_not_attached (w : WellFormed s) (c : Nat) (h : c ∈ s.backlog) :
    ¬s.Attached c := by
  rw [w.attached_iff]
  rintro ⟨x, hx⟩
  simp [State.connection?_eq_some_iff, (w.waiting_iff c).1 h] at hx

theorem connection_of_not_attached (w : WellFormed s) {c : Nat} (h : ¬s.Attached c) :
    s.connection? c = none := by
  rw [Option.eq_none_iff_forall_ne_some]
  intro x hx
  exact h ((w.attached_iff c).2 ⟨x, hx⟩)

theorem waiting_iff_step (w : WellFormed s) (h : Happens s l t) (d : Nat) :
    d ∈ t.backlog ↔ t.standing? d = some .waiting := by
  have hd := w.waiting_iff d
  unfold State.standing? at hd ⊢
  cases h with
  | @refused c a new _ | @queued c a new _ _ | @adopted c a new =>
    have hc := w.not_waiting new
    by_cases e : d = c <;> simp_all
  | @sent c _ k _ | @finished c k _ | @closed c k _ | @handled c k _ _ _ _ _ =>
    by_cases e : d = c <;> simp_all
  | abandoned _ | stoppedListening _ =>
    by_cases e : d ∈ s.backlog <;> simp_all [State.dropBacklog]
  | failed _ _ | hindered _ =>
    unfold State.failToAccept
    cases s.mode with
    | once => by_cases e : d ∈ s.backlog <;> simp_all [State.dropBacklog]
    | forever => exact hd
  | @acceptedOnly c rest _ _ _ first _ _ | @acceptedNext c rest _ _ _ first _ _ =>
    have hn := w.backlog_nodup
    rw [first, List.nodup_cons] at hn
    by_cases e : d = c <;> simp_all
  | started _ | resumed _ _ | reported _ _ | descriptorsSet | passed => exact hd

theorem attached_iff_step (w : WellFormed s) (h : Happens s l t) (d : Nat) :
    t.Attached d ↔ ∃ x, t.connection? d = some x := by
  have hd := w.attached_iff d
  simp only [State.connection?_eq_some_iff, State.Attached, State.standing?] at hd ⊢
  cases h with
  | @refused c a new _ | @queued c a new _ _ | @adopted c a new =>
    have hc := w.not_attached new
    by_cases e : d = c <;> simp_all [State.Attached]
  | @sent c _ k _ | @finished c k _ | @closed c k _ | @handled c k _ _ _ _ _ =>
    by_cases e : d = c <;> simp_all
  | abandoned _ | stoppedListening _ =>
    have hw := w.waiting_not_attached d
    by_cases e : d ∈ s.backlog <;> simp_all [State.dropBacklog, State.Attached]
  | failed _ _ | hindered _ =>
    have hw := w.waiting_not_attached d
    unfold State.failToAccept
    cases s.mode with
    | once => by_cases e : d ∈ s.backlog <;> simp_all [State.dropBacklog, State.Attached]
    | forever => exact hd
  | @acceptedOnly c _ _ _ _ first _ _ | @acceptedNext c _ _ _ _ first _ _ =>
    by_cases e : d = c <;> simp_all
  | started _ | resumed _ _ | reported _ _ | descriptorsSet | passed => exact hd

theorem backlog_nodup_step (w : WellFormed s) (h : Happens s l t) : t.backlog.Nodup := by
  have hn := w.backlog_nodup
  cases h with
  | queued new _ _ =>
    have hc := w.not_waiting new
    rw [← List.concat_eq_append, List.nodup_concat]
    exact ⟨hc, hn⟩
  | abandoned _ | stoppedListening _ => exact List.nodup_nil
  | failed _ _ | hindered _ =>
    unfold State.failToAccept
    cases s.mode with
    | once => exact List.nodup_nil
    | forever => exact hn
  | acceptedOnly _ _ first _ _ | acceptedNext _ _ first _ _ =>
    rw [first, List.nodup_cons] at hn
    exact hn.2
  | refused _ _ | adopted _ | sent _ | finished _ | closed _ | handled _ _ _ _ | started _
  | resumed _ _ | reported _ _ | descriptorsSet | passed => exact hn

theorem accepted_nodup_step (w : WellFormed s) (h : Happens s l t) : t.accepted.Nodup := by
  have hn := w.accepted_nodup
  cases h with
  | @acceptedOnly c _ _ _ _ first _ _ | @acceptedNext c _ _ _ _ first _ _ =>
    have hc : c ∉ s.accepted := fun ha => w.waiting_not_attached c (by simp [first]) (.inl ha)
    rw [← List.concat_eq_append, List.nodup_concat]
    exact ⟨hc, hn⟩
  | failed _ _ | hindered _ =>
    unfold State.failToAccept
    cases s.mode <;> exact hn
  | refused _ _ | queued _ _ _ | adopted _ | sent _ | finished _ | closed _ | handled _ _ _ _
  | started _ | abandoned _ | stoppedListening _ | resumed _ _ | reported _ _ | descriptorsSet
  | passed => exact hn

theorem deaf_backlog_step (w : WellFormed s) (h : Happens s l t) (deaf : t.isListening = false) :
    t.backlog = [] := by
  cases h with
  | queued _ listens _ =>
    change s.isListening = false at deaf
    simp [listens] at deaf
  | failed _ _ | hindered _ =>
    unfold State.failToAccept at deaf ⊢
    cases hm : s.mode with
    | once => rfl
    | forever => simp [hm, State.isListening] at deaf
  | abandoned _ | stoppedListening _ => rfl
  | refused _ _ | adopted _ | sent _ | finished _ | closed _ | handled _ _ _ _ | descriptorsSet
  | passed => exact w.deaf_backlog deaf
  | reported awaiting _ => exact w.deaf_backlog (by simp [State.isListening, awaiting])
  | acceptedOnly _ _ _ _ _ | acceptedNext _ _ _ _ _ | started _ | resumed _ _ =>
    simp [State.isListening] at deaf

/-- A connection stays, and only its own handler goes on with it. -/
theorem connection_step (w : WellFormed s) (h : Happens s l t) {c : Nat} {x : Connection}
    (hx : s.connection? c = some x) :
    t.connection? c = some x ∨
    l = .handle c ∧ x.outcome? = none ∧
      ∃ k, s.clients c = some k ∧ t.connection? c = some (x.receive k.unread k.ended) := by
  rw [State.connection?_eq_some_iff] at hx
  simp only [State.connection?_eq_some_iff]
  have hc : c ∉ s.backlog := by
    rw [w.waiting_iff, hx]
    simp
  unfold State.standing? at hx ⊢
  cases h with
  | @handled d k y known attached going arrived =>
    by_cases e : c = d
    · right
      simp_all
    · left
      simpa [e] using hx
  | @refused d _ _ _ | @queued d _ _ _ _ | @adopted d _ _ | @sent d _ _ _ | @finished d _ _
  | @closed d _ _ =>
    left
    by_cases e : c = d <;> simp_all
  | abandoned _ | stoppedListening _ =>
    left
    simpa [State.dropBacklog, hc] using hx
  | failed _ _ | hindered _ =>
    left
    unfold State.failToAccept
    cases s.mode <;> simpa [State.dropBacklog, hc] using hx
  | @acceptedOnly d _ _ _ _ first _ _ | @acceptedNext d _ _ _ _ first _ _ =>
    left
    have e : c ≠ d := by
      rintro rfl
      simp [first] at hc
    simpa [e] using hx
  | started _ | resumed _ _ | reported _ _ | descriptorsSet | passed => exact .inl hx

/-- Who has been refused or dropped stays so. -/
theorem gone_step (w : WellFormed s) (h : Happens s l t) {c : Nat} {g : Standing}
    (gone : g = .refused ∨ g = .dropped) (hc : s.standing? c = some g) :
    t.standing? c = some g := by
  have hb : c ∉ s.backlog := by
    rw [w.waiting_iff, hc]
    rcases gone with rfl | rfl <;> simp
  have hx : ∀ x, g ≠ .accepted x := by
    rcases gone with rfl | rfl <;> simp
  unfold State.standing? at hc ⊢
  cases h with
  | @refused d _ _ | @queued d _ _ _ _ | @adopted d _ _ | @sent d _ _ _ | @finished d _ _
  | @closed d _ _ =>
    by_cases e : c = d <;> simp_all
  | @handled d k x known attached _ _ =>
    have e : c ≠ d := by
      rintro rfl
      simp only [known, Option.map_some, attached, Option.some.injEq] at hc
      exact hx x hc.symm
    simpa [e] using hc
  | abandoned _ | stoppedListening _ => simpa [State.dropBacklog, hb] using hc
  | failed _ _ | hindered _ =>
    unfold State.failToAccept
    cases s.mode <;> simpa [State.dropBacklog, hb] using hc
  | @acceptedOnly d _ _ _ _ first _ _ | @acceptedNext d _ _ _ _ first _ _ =>
    have e : c ≠ d := by
      rintro rfl
      simp [first] at hb
    simpa [e] using hc
  | started _ | resumed _ _ | reported _ _ | descriptorsSet | passed => exact hc

/-- An exchange that is over stays as it is. -/
theorem outcome_step (w : WellFormed s) (h : Happens s l t) {c : Nat} {o : Http.Outcome}
    (closed : s.outcome? c = some o) : t.outcome? c = some o := by
  obtain ⟨x, hx, ho⟩ := Option.bind_eq_some_iff.1 closed
  rcases w.connection_step h hx with ht | ⟨-, going, -⟩
  · simp [State.outcome?, ht, ho]
  · simp [ho] at going

theorem phase_fits_step (w : WellFormed s) (h : Happens s l t) : t.PhaseFits := by
  have hp := w.phase_fits
  have keep : ∀ {c o}, s.outcome? c = some o → t.outcome? c = some o := w.outcome_step h
  cases h with
  | refused _ _ | queued _ _ _ | adopted _ | sent _ | finished _ | closed _ | handled _ _ _ _
  | descriptorsSet => exact hp.of_frame rfl rfl rfl (Nat.le_refl _) keep
  | passed => exact hp.of_frame rfl rfl rfl (Nat.le_add_right _ _) keep
  | abandoned bound | stoppedListening closing | resumed pausing _ | started bound =>
    unfold State.PhaseFits at hp ⊢
    cases hm : s.mode <;> simp_all
  | reported awaiting ended =>
    unfold State.PhaseFits at hp ⊢
    cases hm : s.mode with
    | once =>
      rw [hm, awaiting] at hp
      exact ⟨rfl, _, _, hp, keep ended⟩
    | forever => simp [hm, awaiting] at hp
  | failed accepting _ | hindered accepting =>
    unfold State.PhaseFits at hp
    unfold State.PhaseFits State.failToAccept
    cases hm : s.mode <;> simp_all
  | acceptedOnly accepting _ _ _ mode | acceptedNext accepting _ _ _ mode =>
    unfold State.PhaseFits at hp ⊢
    simp_all

theorem step (w : WellFormed s) (h : Happens s l t) : WellFormed t where
  waiting_iff := w.waiting_iff_step h
  attached_iff := w.attached_iff_step h
  backlog_nodup := w.backlog_nodup_step h
  accepted_nodup := w.accepted_nodup_step h
  deaf_backlog := w.deaf_backlog_step h
  phase_fits := w.phase_fits_step h

theorem steps {ls : List Label} (w : WellFormed s) (run : s.steps ls = some t) : WellFormed t :=
  State.steps_keep (P := WellFormed) (fun h w => w.step h) run w

/-- What every step of a well-formed server keeps, every run of one keeps. -/
theorem steps_keep {P : State → Prop} {ls : List Label}
    (keep : ∀ {s l t}, WellFormed s → Happens s l t → P s → P t) (w : WellFormed s)
    (run : s.steps ls = some t) (h : P s) : P t := by
  refine (State.steps_keep (P := fun u => WellFormed u ∧ P u) ?_ run ⟨w, h⟩).2
  rintro u l v step ⟨wu, hu⟩
  exact ⟨wu.step step, keep wu step hu⟩

theorem gone_steps {ls : List Label} (w : WellFormed s) (run : s.steps ls = some t) {c : Nat}
    {g : Standing} (gone : g = .refused ∨ g = .dropped) (hc : s.standing? c = some g) :
    t.standing? c = some g :=
  steps_keep (P := fun u => u.standing? c = some g) (fun w h => w.gone_step h gone) w run hc

/-- Every run of a server that has just started keeps the server well formed. -/
theorem of_run {mode : AcceptMode} {address : SocketAddress} {ids : IdSource} {ls : List Label}
    (run : (State.start mode address ids).steps ls = some s) : WellFormed s :=
  (start mode address ids).steps run

/-- A server that can accept, and has done all that it can, leaves nobody waiting. -/
theorem backlog_of_settled (w : WellFormed s) (settled : s.Settled) (able : s.descriptors = true)
    (accepting : s.phase = .accepting) : s.backlog = [] := by
  cases first : s.backlog with
  | nil => rfl
  | cons c rest =>
    exfalso
    have waits := (w.waiting_iff c).1 (by simp [first])
    obtain ⟨k, known, -⟩ := Option.map_eq_some_iff.1 waits
    have stuck := settled .accept (by simp [State.isDue, first])
    cases hm : s.mode with
    | once =>
      rw [step_of_happens (.acceptedOnly accepting able first known hm)] at stuck
      simp at stuck
    | forever =>
      rw [step_of_happens (.acceptedNext accepting able first known hm)] at stuck
      simp at stuck

end WellFormed

end CannedReply.Server
