import CannedReply.Proofs.Server.Handlers
import CannedReply.Proofs.Server.Order

/-!
A server that takes any number of clients loses none of them and takes none twice, however often an
attempt to accept fails.
-/

namespace CannedReply.Server

variable {s t u : State} {l : Label} {ls : List Label}

/-- Nobody has been turned away. -/
def State.LosesNobody (s : State) : Prop :=
  ∀ c, s.standing? c ≠ some .refused ∧ s.standing? c ≠ some .dropped

theorem Happens.losesNobody (h : Happens s l t) (forever : s.mode = .forever)
    (listens : t.isListening = true) (none' : s.LosesNobody) : t.LosesNobody := by
  intro d
  have hd := none' d
  unfold State.standing? at hd ⊢
  cases h with
  | @refused c a _ deaf =>
    change s.isListening = true at listens
    simp [deaf] at listens
  | @queued c _ _ _ _ | @adopted c _ _ | @sent c _ _ _ | @finished c _ _ | @closed c _ _
  | @handled c _ _ _ _ _ _ | @acceptedOnly c _ _ _ _ _ _ _ | @acceptedNext c _ _ _ _ _ _ _ =>
    by_cases e : d = c <;> simp_all
  | failed _ _ | hindered _ =>
    unfold State.failToAccept
    rw [forever]
    exact hd
  | abandoned _ | stoppedListening _ | reported _ _ => simp [State.isListening] at listens
  | started _ | resumed _ _ | descriptorsSet | passed => exact hd

theorem State.losesNobody_steps (run : s.steps ls = some t) (forever : s.mode = .forever)
    (listens : t.isListening = true) (none' : s.LosesNobody) : t.LosesNobody := by
  induction ls generalizing s with
  | nil =>
    rw [← Option.some.inj run]
    exact none'
  | cons l ls ih =>
    obtain ⟨u, first, rest⟩ := steps_cons_eq_some_iff.1 run
    have heard : u.isListening = true := listened_steps rest listens
    exact ih rest (first.mode.trans forever) (first.losesNobody forever heard none')

namespace WellFormed

/-- In this mode a server has no result, and it listens unless it was given up. -/
theorem phase_of_forever (w : WellFormed s) (forever : s.mode = .forever) :
    s.result? = none ∧ (s.phase ≠ .abandoned → s.isListening = true) := by
  have fits := w.phase_fits
  unfold State.PhaseFits at fits
  cases hp : s.phase with
  | bound | accepting | pausing | abandoned => simp [State.result?, State.isListening, hp]
  | closing | awaiting | finished => simp [forever, hp] at fits

theorem accepted_backlog_nodup (w : WellFormed s) : (s.accepted ++ s.backlog).Nodup := by
  rw [List.nodup_append]
  refine ⟨w.accepted_nodup, w.backlog_nodup, ?_⟩
  rintro a ha b hb rfl
  exact w.waiting_not_attached a hb (.inl ha)

theorem no_one_waits (w : WellFormed s) (forever : s.mode = .forever) (settled : s.Settled)
    (able : s.descriptors = true) (running : s.phase ≠ .bound)
    (past : ∀ at', s.phase = .pausing at' → at' ≤ s.clock) (c : Nat) :
    s.standing? c ≠ some .waiting := by
  have fits := w.phase_fits
  unfold State.PhaseFits at fits
  have empty : s.backlog = [] := by
    cases hp : s.phase with
    | bound => exact absurd hp running
    | accepting => exact w.backlog_of_settled settled able hp
    | pausing at' =>
      have stuck := settled .resume rfl
      rw [step_of_happens (.resumed hp (past at' hp))] at stuck
      simp at stuck
    | abandoned => exact w.deaf_backlog (by simp [State.isListening, hp])
    | closing | awaiting | finished => simp [forever, hp] at fits
  rw [Ne, ← w.waiting_iff, empty]
  exact List.not_mem_nil

end WellFormed

/-- Handlers that begin within one round of the numbers have different ones. -/
theorem WellFormed.ids_differ (w : WellFormed s) (run : s.steps ls = some t)
    (fresh : ∀ c, ¬s.Attached c) (few : (s.begun ls).length ≤ UInt64.size) {c d : Nat}
    {x y : Connection} (ne : c ≠ d) (hx : t.connection? c = some x) (hy : t.connection? d = some y) :
    x.id ≠ y.id := by
  have wt := w.steps run
  have place : ∀ {e z}, t.connection? e = some z →
      ∃ i, (s.begun ls)[i]? = some e ∧ i < UInt64.size ∧ z.id.value = s.ids.next + .ofNat i := by
    intro e z hz
    have he : e ∈ s.begun ls := by
      rcases (w.attached_steps_iff run e).1 ((wt.attached_iff e).2 ⟨z, hz⟩) with he | he
      · exact he
      · exact absurd he (fresh e)
    obtain ⟨i, hi, hb⟩ := List.getElem_of_mem he
    have hb' : (s.begun ls)[i]? = some e := by rw [List.getElem?_eq_getElem hi, hb]
    obtain ⟨-, z', hz', hid, -⟩ := w.begun_id run hb'
    obtain rfl : z = z' := Option.some.inj (hz.symm.trans hz')
    exact ⟨i, hb', by omega, by rw [hid]⟩
  obtain ⟨i, hi, si, vi⟩ := place hx
  obtain ⟨j, hj, sj, vj⟩ := place hy
  intro same
  -- the numbers wrap around, so they tell the places apart only below their size
  have values : s.ids.next + UInt64.ofNat i = s.ids.next + UInt64.ofNat j := by
    rw [← vi, ← vj, same]
  have offsets : UInt64.ofNat i = UInt64.ofNat j := UInt64.add_right_inj _ |>.1 values
  have equal : i = j := by
    have := congrArg UInt64.toNat offsets
    rwa [UInt64.toNat_ofNat_of_lt' si, UInt64.toNat_ofNat_of_lt' sj] at this
  subst equal
  exact ne (Option.some.inj (hi.symm.trans hj))

/-- A server that takes any number of clients never ends by itself. Those who have come are the
accepted ones and then the waiting ones, in the order in which they came, and nobody is turned
away. Each accepted client has one handler, and the connections are numbered one after the other,
so that no two numbers are equal before all of them have been used. A failed attempt to accept
only starts a pause. When the server has done all that it can, nobody waits. -/
theorem forever_serves_each_once {address : SocketAddress} {ids : IdSource}
    (run : (State.start .forever address ids).steps ls = some s) :
    s.result? = none ∧
    (s.phase ≠ .abandoned →
      (State.start .forever address ids).joined ls = s.accepted ++ s.backlog ∧
      s.LosesNobody) ∧
    (s.accepted ++ s.backlog).Nodup ∧
    (∀ c ∈ s.accepted, ((State.start .forever address ids).begun ls).count c = 1) ∧
    (∀ i c, ((State.start .forever address ids).begun ls)[i]? = some c →
      ∃ x, s.connection? c = some x ∧ x.id.value = ids.next + UInt64.ofNat i) ∧
    (((State.start .forever address ids).begun ls).length ≤ UInt64.size →
      ∀ c d x y, c ≠ d → s.connection? c = some x → s.connection? d = some y → x.id ≠ y.id) ∧
    (∀ t, s.descriptors = false → s.step .accept = some t →
      t = { s with phase := .pausing (s.clock + acceptBackoff) }) ∧
    (s.Settled → s.descriptors = true → s.phase ≠ .bound →
      (∀ at', s.phase = .pausing at' → at' ≤ s.clock) → ∀ c, s.standing? c ≠ some .waiting) := by
  have w := WellFormed.of_run run
  have start := WellFormed.start .forever address ids
  have forever : s.mode = .forever := State.mode_steps run
  have fresh : ∀ c, ¬(State.start .forever address ids).Attached c := by
    simp [State.Attached, State.start]
  obtain ⟨endless, listens⟩ := w.phase_of_forever forever
  refine ⟨endless, ?_, w.accepted_backlog_nodup, ?_, ?_, ?_, ?_,
    fun settled able running past => w.no_one_waits forever settled able running past⟩
  · intro kept
    have order := State.order_steps run (listens kept)
    refine ⟨by simpa [State.start] using order.symm, ?_⟩
    apply State.losesNobody_steps run rfl (listens kept)
    simp [State.LosesNobody, State.standing?, State.start]
  · intro c hc
    have hb : c ∈ (State.start .forever address ids).begun ls :=
      ((start.attached_steps_iff run c).1 (.inl hc)).resolve_right (fresh c)
    exact List.count_eq_one_of_mem (start.begun_nodup run) hb
  · intro i c hc
    obtain ⟨-, x, hx, hid, -⟩ := start.begun_id run hc
    exact ⟨x, hx, by rw [hid]; rfl⟩
  · intro few c d x y ne hx hy
    exact start.ids_differ run fresh few ne hx hy
  · intro t short h
    cases happens_of_step h with
    | failed _ _ => simp [State.failToAccept, forever]
    | acceptedOnly _ able _ _ _ | acceptedNext _ able _ _ _ => simp [short] at able

/-- One client waits while no file can be opened, another comes during the pause, and both are
accepted behind it. -/
theorem forever_serves_two_behind_a_failure :
    let address : SocketAddress := .v4 (.ofNat 0x7f000001) 5000
    let start := State.start .forever address .fresh
    let early : List Label := [.connect 0 address, .setDescriptors false, .run]
    let late : List Label :=
      [.accept, .connect 1 address, .setDescriptors true, .pass 100, .resume, .accept, .accept]
    ∃ s t u x y,
      start.steps early = some s ∧ s.step .accept = some t ∧
      start.steps (early ++ late) = some u ∧ t = { s with phase := .pausing 100 } ∧
      u.Settled ∧ start.joined (early ++ late) = [0, 1] ∧ u.accepted = [0, 1] ∧
      u.connection? 0 = some x ∧ u.connection? 1 = some y ∧ x.id ≠ y.id ∧
      ∀ c, u.standing? c ≠ some .waiting := by
  intro address start early late
  let s := (start.steps early).get rfl
  let t := (s.step .accept).get rfl
  let u := (start.steps (early ++ late)).get rfl
  have settled : u.Settled := by
    intro l due
    cases l with
    | accept => exact absurd due (by decide)
    | handle c => rcases c with _ | _ | c <;> rfl
    | stopListening | resume | report => rfl
    | _ => simp [State.isDue, Label.isServers] at due
  have short := forever_serves_each_once (show start.steps early = some s from rfl)
  have all := forever_serves_each_once (show start.steps (early ++ late) = some u from rfl)
  obtain ⟨-, order, -, -, -, numbers, -, rest⟩ := all
  have accepting : u.phase = .accepting := rfl
  refine ⟨s, t, u, _, _, rfl, rfl, rfl, short.2.2.2.2.2.2.1 t rfl rfl, settled,
    (order (by simp [accepting])).1, rfl, rfl, rfl, numbers (by decide) 0 1 _ _ (by decide) rfl rfl,
    rest settled rfl (by simp [accepting]) (by simp [accepting])⟩

end CannedReply.Server
