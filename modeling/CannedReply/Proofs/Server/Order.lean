import CannedReply.Proofs.Server.WellFormed
import CannedReply.Server.History

/-!
The order in which clients come is the order in which they wait and are accepted. Those who come
while the server listens are accepted or wait, unless it stops listening.
-/

namespace CannedReply.Server

variable {s t u : State} {l : Label} {ls : List Label}

namespace Happens

/-- A server that does not listen will not listen again. -/
theorem listened (h : Happens s l t) (listens : t.isListening = true) : s.isListening = true := by
  cases h with
  | failed accepting _ | hindered accepting | acceptedOnly accepting _ _ _ _
  | acceptedNext accepting _ _ _ _ =>
    simp [State.isListening, accepting]
  | started phase | abandoned phase | stoppedListening phase | resumed phase _
  | reported phase _ => simp_all [State.isListening]
  | refused _ _ | queued _ _ _ | adopted _ | sent _ | finished _ | closed _ | handled _ _ _ _
  | descriptorsSet | passed => exact listens

theorem deaf (h : Happens s l t) (deaf : s.isListening = false) : t.isListening = false := by
  by_contra listens
  simp [h.listened (by simpa using listens)] at deaf

/-- Who comes goes behind those who wait, and who is accepted is the first of them. -/
theorem order (h : Happens s l t) (listens : t.isListening = true) :
    t.accepted ++ t.backlog = s.accepted ++ s.backlog ++ s.joins l := by
  cases h with
  | refused _ deaf => simp [State.joins, deaf]
  | queued _ heard _ => simp [State.joins, heard]
  | acceptedOnly _ _ first _ _ | acceptedNext _ _ first _ _ => simp [State.joins, first]
  | failed _ _ | hindered _ =>
    unfold State.failToAccept at listens ⊢
    cases hm : s.mode with
    | once => simp [hm, State.isListening] at listens
    | forever => simp [State.joins]
  | abandoned _ | stoppedListening _ | reported _ _ => simp [State.isListening] at listens
  | adopted _ | sent _ | finished _ | closed _ | handled _ _ _ _ | started _ | resumed _ _
  | descriptorsSet | passed => simp [State.joins]

/-- A server that stops listening, or has stopped, accepts nobody. -/
theorem accepted_of_deaf (h : Happens s l t) (deaf : t.isListening = false) :
    t.accepted = s.accepted := by
  cases h with
  | acceptedOnly _ _ _ _ _ | acceptedNext _ _ _ _ _ => simp [State.isListening] at deaf
  | failed _ _ | hindered _ =>
    unfold State.failToAccept
    cases s.mode <;> rfl
  | refused _ _ | queued _ _ _ | adopted _ | sent _ | finished _ | closed _ | handled _ _ _ _
  | started _ | abandoned _ | stoppedListening _ | resumed _ _ | reported _ _ | descriptorsSet
  | passed => rfl

theorem joined_cons (h : Happens s l u) (ls : List Label) :
    s.joined (l :: ls) = s.joins l ++ u.joined ls := by
  simp [State.joined, step_of_happens h]

end Happens

namespace State

theorem deaf_steps (run : s.steps ls = some t) (deaf : s.isListening = false) :
    t.isListening = false :=
  steps_keep (P := fun u => u.isListening = false) Happens.deaf run deaf

theorem listened_steps (run : s.steps ls = some t) (listens : t.isListening = true) :
    s.isListening = true := by
  by_contra deaf
  simp [deaf_steps run (by simpa using deaf)] at listens

theorem accepted_steps_of_deaf (run : s.steps ls = some t) (deaf : s.isListening = false) :
    t.accepted = s.accepted := by
  refine (steps_keep (P := fun u => u.isListening = false ∧ u.accepted = s.accepted) ?_ run
    ⟨deaf, rfl⟩).2
  rintro u l v h ⟨hu, same⟩
  exact ⟨h.deaf hu, (h.accepted_of_deaf (h.deaf hu)).trans same⟩

/-- Nobody joins those who wait for a server that does not listen. -/
theorem joined_of_deaf (deaf : s.isListening = false) (ls : List Label) : s.joined ls = [] := by
  induction ls generalizing s with
  | nil => rfl
  | cons l ls ih =>
    have first : s.joins l = [] := by cases l <;> simp [joins, deaf]
    rw [joined, first]
    cases hs : s.step l with
    | none => rfl
    | some t => exact ih ((happens_of_step hs).deaf deaf)

/-- As long as the server listens, those who have come are the accepted ones and, behind them,
those who wait. -/
theorem order_steps (run : s.steps ls = some t) (listens : t.isListening = true) :
    t.accepted ++ t.backlog = s.accepted ++ s.backlog ++ s.joined ls := by
  induction ls generalizing s with
  | nil =>
    rw [← Option.some.inj run]
    simp [joined]
  | cons l ls ih =>
    obtain ⟨u, first, rest⟩ := steps_cons_eq_some_iff.1 run
    have heard : u.isListening = true := listened_steps rest listens
    rw [ih rest, first.order heard, first.joined_cons, List.append_assoc]

end State

/-- Whether or not the server still listens, those whom it has accepted are the first ones of those
who waited or came. -/
theorem WellFormed.accepted_are_first (w : WellFormed s) (run : s.steps ls = some t) :
    t.accepted <+: s.accepted ++ s.backlog ++ s.joined ls := by
  induction ls generalizing s with
  | nil =>
    rw [← Option.some.inj run, List.append_assoc]
    exact List.prefix_append _ _
  | cons l ls ih =>
    obtain ⟨u, first, rest⟩ := State.steps_cons_eq_some_iff.1 run
    have later := ih (w.step first) rest
    rw [first.joined_cons]
    -- once the server is deaf the order is lost with those who waited, but nobody is accepted either
    cases heard : u.isListening with
    | true =>
      rw [first.order heard, List.append_assoc] at later
      exact later
    | false =>
      rw [(w.step first).deaf_backlog heard, State.joined_of_deaf heard, List.append_nil,
        List.append_nil, first.accepted_of_deaf heard] at later
      exact later.trans (by simp [List.append_assoc])

end CannedReply.Server
