import CannedReply.Server.Step

/-!
The steps of a server as a relation, with one rule for each thing that can come of a label and the
conditions under which it does. What a whole run keeps is shown rule by rule.
-/

namespace CannedReply.Server

/-- What comes of a label. -/
inductive Happens (s : State) : Label → State → Prop where
  | refused {c : Nat} {a : SocketAddress} (new : s.clients c = none)
      (deaf : s.isListening = false) :
      Happens s (.connect c a) (s.put c ⟨a, .refused, [], false⟩)
  | queued {c : Nat} {a : SocketAddress} (new : s.clients c = none)
      (listens : s.isListening = true) (room : s.backlog.length ≤ listenBacklog) :
      Happens s (.connect c a)
        { s.put c ⟨a, .waiting, [], false⟩ with backlog := s.backlog ++ [c] }
  | adopted {c : Nat} {a : SocketAddress} (new : s.clients c = none) :
      Happens s (.adopt c a)
        { s.attach c ⟨a, .waiting, [], false⟩ with adopted := s.adopted ++ [c] }
  | sent {c : Nat} {data : Bytes} {k : Client} (known : s.clients c = some k) :
      Happens s (.send c data)
        (s.put c { k with unread := if k.ended then k.unread else k.unread ++ data })
  | finished {c : Nat} {k : Client} (known : s.clients c = some k) :
      Happens s (.finish c) (s.put c { k with ended := true })
  | closed {c : Nat} {k : Client} (known : s.clients c = some k) :
      Happens s (.close c) (s.put c { k with ended := true })
  | started (bound : s.phase = .bound) : Happens s .run { s with phase := .accepting }
  | abandoned (bound : s.phase = .bound) :
      Happens s .abandon { s.dropBacklog with phase := .abandoned }
  | failed (accepting : s.phase = .accepting) (short : s.descriptors = false) :
      Happens s .accept (s.failToAccept .tooManyOpenFiles)
  | hindered {f : Failure} (accepting : s.phase = .accepting) :
      Happens s (.failAccept f) (s.failToAccept f)
  | acceptedOnly {c : Nat} {rest : List Nat} {k : Client} (accepting : s.phase = .accepting)
      (able : s.descriptors = true) (first : s.backlog = c :: rest)
      (known : s.clients c = some k) (once : s.mode = .once) :
      Happens s .accept
        { s.attach c k with
          backlog := rest
          accepted := s.accepted ++ [c]
          phase := .closing c }
  | acceptedNext {c : Nat} {rest : List Nat} {k : Client} (accepting : s.phase = .accepting)
      (able : s.descriptors = true) (first : s.backlog = c :: rest)
      (known : s.clients c = some k) (forever : s.mode = .forever) :
      Happens s .accept
        { s.attach c k with
          backlog := rest
          accepted := s.accepted ++ [c]
          phase := .accepting }
  | stoppedListening {c : Nat} (closing : s.phase = .closing c) :
      Happens s .stopListening { s.dropBacklog with phase := .awaiting c }
  | resumed {t : Nat} (pausing : s.phase = .pausing t) (past : t ≤ s.clock) :
      Happens s .resume { s with phase := .accepting }
  | handled {c : Nat} {k : Client} {connection : Connection} (known : s.clients c = some k)
      (attached : k.standing = .accepted connection) (going : connection.outcome? = none)
      (arrived : k.unread ≠ [] ∨ k.ended = true) :
      Happens s (.handle c)
        (s.put c { k with
          standing := .accepted (connection.receive k.unread k.ended)
          unread := [] })
  | reported {c : Nat} {o : Http.Outcome} (awaiting : s.phase = .awaiting c)
      (ended : s.outcome? c = some o) : Happens s .report { s with phase := .finished (.ok 1) }
  | descriptorsSet {available : Bool} :
      Happens s (.setDescriptors available) { s with descriptors := available }
  | passed {ms : Nat} : Happens s (.pass ms) { s with clock := s.clock + ms }

variable {s t : State} {l : Label}

/-- Every step goes by one of the rules. -/
theorem happens_of_step (h : s.step l = some t) : Happens s l t := by
  cases l with
  | connect c a =>
    simp only [State.step, State.connect] at h
    cases hk : s.clients c with
    | some k => simp [hk] at h
    | none =>
      cases hl : s.isListening with
      | false =>
        simp only [hk, hl, Bool.not_false, if_true, Option.some.injEq] at h
        subst h
        exact .refused hk hl
      | true =>
        simp only [hk, hl, Bool.not_true, Bool.false_eq_true, if_false] at h
        split at h
        · next room =>
          rw [← Option.some.inj h]
          exact .queued hk hl room
        · simp at h
  | adopt c a =>
    simp only [State.step, State.adopt] at h
    cases hk : s.clients c with
    | some k => simp [hk] at h
    | none =>
      rw [hk] at h
      rw [← Option.some.inj h]
      exact .adopted hk
  | send c data =>
    obtain ⟨k, hk, rfl⟩ := Option.map_eq_some_iff.1 h
    exact .sent hk
  | finish c =>
    obtain ⟨k, hk, rfl⟩ := Option.map_eq_some_iff.1 h
    exact .finished hk
  | close c =>
    obtain ⟨k, hk, rfl⟩ := Option.map_eq_some_iff.1 h
    exact .closed hk
  | run =>
    simp only [State.step, State.run] at h
    split at h
    · next bound =>
      rw [← Option.some.inj h]
      exact .started bound
    · simp at h
  | abandon =>
    simp only [State.step, State.abandon] at h
    split at h
    · next bound =>
      rw [← Option.some.inj h]
      exact .abandoned bound
    · simp at h
  | accept =>
    simp only [State.step, State.accept] at h
    split at h
    case h_2 => simp at h
    next accepting =>
    cases hd : s.descriptors with
    | false =>
      simp only [hd, Bool.not_false, if_true, Option.some.injEq] at h
      subst h
      exact .failed accepting hd
    | true =>
      simp only [hd, Bool.not_true, Bool.false_eq_true, if_false] at h
      split at h
      · simp at h
      · next c rest first =>
        obtain ⟨k, hk, rfl⟩ := Option.map_eq_some_iff.1 h
        cases hm : s.mode with
        | once => exact .acceptedOnly accepting hd first hk hm
        | forever => exact .acceptedNext accepting hd first hk hm
  | failAccept f =>
    simp only [State.step, State.failAccept] at h
    split at h
    · next accepting =>
      rw [← Option.some.inj h]
      exact .hindered accepting
    · simp at h
  | stopListening =>
    simp only [State.step, State.stopListening] at h
    split at h
    · next c closing =>
      rw [← Option.some.inj h]
      exact .stoppedListening closing
    · simp at h
  | resume =>
    simp only [State.step, State.resume] at h
    split at h
    · next at' pausing =>
      split at h
      · next past =>
        rw [← Option.some.inj h]
        exact .resumed pausing past
      · simp at h
    · simp at h
  | handle c =>
    simp only [State.step, State.handle] at h
    split at h
    · next k known =>
      split at h
      · next connection attached =>
        split at h
        · simp at h
        · next open' =>
          rw [← Option.some.inj h]
          simp only [Bool.or_eq_true, Bool.and_eq_true, not_or, not_and, Bool.not_eq_true,
            Option.isSome_eq_false_iff, Option.isNone_iff_eq_none, List.isEmpty_iff] at open'
          refine .handled known attached open'.1 ?_
          by_cases hu : k.unread = []
          · right
            simpa using open'.2 hu
          · exact .inl hu
      · simp at h
    · simp at h
  | report =>
    simp only [State.step, State.report] at h
    split at h
    · next c awaiting =>
      split at h
      · next ended =>
        obtain ⟨o, ho⟩ := Option.isSome_iff_exists.1 ended
        rw [← Option.some.inj h]
        exact .reported awaiting ho
      · simp at h
    · simp at h
  | setDescriptors available =>
    rw [← Option.some.inj h]
    exact .descriptorsSet
  | pass ms =>
    rw [← Option.some.inj h]
    exact .passed

/-- Every rule is a step. -/
theorem step_of_happens (h : Happens s l t) : s.step l = some t := by
  cases h with
  | refused new deaf => simp [State.step, State.connect, new, deaf]
  | queued new listens room => simp [State.step, State.connect, new, listens, room]
  | adopted new => simp [State.step, State.adopt, new]
  | sent known => simp [State.step, State.send, known]
  | finished known => simp [State.step, State.finish, known]
  | closed known => simp [State.step, State.finish, known]
  | started bound => simp [State.step, State.run, bound]
  | abandoned bound => simp [State.step, State.abandon, bound]
  | failed accepting short => simp [State.step, State.accept, accepting, short]
  | hindered accepting => simp [State.step, State.failAccept, accepting]
  | acceptedOnly accepting able first known once =>
    simp [State.step, State.accept, accepting, able, first, known, once]
  | acceptedNext accepting able first known forever =>
    simp [State.step, State.accept, accepting, able, first, known, forever]
  | stoppedListening closing => simp [State.step, State.stopListening, closing]
  | resumed pausing past => simp [State.step, State.resume, pausing, past]
  | handled known attached going arrived =>
    simp only [State.step, State.handle, known, attached, going]
    rcases arrived with arrived | arrived <;> simp [arrived]
  | reported awaiting ended => simp [State.step, State.report, awaiting, ended]
  | descriptorsSet => rfl
  | passed => rfl

theorem step_eq_some_iff : s.step l = some t ↔ Happens s l t :=
  ⟨happens_of_step, step_of_happens⟩

/-- A server keeps its mode. -/
theorem Happens.mode (h : Happens s l t) : t.mode = s.mode := by
  cases h with
  | failed _ _ | hindered _ =>
    unfold State.failToAccept
    cases hm : s.mode <;> simp [hm]
  | refused _ _ | queued _ _ _ | adopted _ | sent _ | finished _ | closed _ | handled _ _ _ _
  | started _ | abandoned _ | acceptedOnly _ _ _ _ _ | acceptedNext _ _ _ _ _
  | stoppedListening _ | resumed _ _ | reported _ _ | descriptorsSet | passed => rfl

/-- A server keeps its address. -/
theorem Happens.address (h : Happens s l t) : t.address = s.address := by
  cases h with
  | failed _ _ | hindered _ =>
    unfold State.failToAccept
    cases s.mode <;> simp
  | refused _ _ | queued _ _ _ | adopted _ | sent _ | finished _ | closed _ | handled _ _ _ _
  | started _ | abandoned _ | acceptedOnly _ _ _ _ _ | acceptedNext _ _ _ _ _
  | stoppedListening _ | resumed _ _ | reported _ _ | descriptorsSet | passed => rfl

namespace State

theorem steps_cons_eq_some_iff {ls : List Label} {u : State} :
    s.steps (l :: ls) = some u ↔ ∃ t, Happens s l t ∧ t.steps ls = some u := by
  simp only [steps, Option.bind_eq_some_iff, step_eq_some_iff]

/-- A run in two parts. -/
theorem steps_append (s : State) (as bs : List Label) :
    s.steps (as ++ bs) = (s.steps as).bind fun t => t.steps bs := by
  induction as generalizing s with
  | nil => rfl
  | cons l as ih => simp only [List.cons_append, steps, ih, Option.bind_assoc]

/-- What every step keeps, every run keeps. -/
theorem steps_keep {P : State → Prop} (keep : ∀ {s l t}, Happens s l t → P s → P t)
    {ls : List Label} (run : s.steps ls = some t) (h : P s) : P t := by
  induction ls generalizing s with
  | nil =>
    rw [← Option.some.inj run]
    exact h
  | cons l ls ih =>
    obtain ⟨u, first, rest⟩ := steps_cons_eq_some_iff.1 run
    exact ih rest (keep first h)

theorem mode_steps (run : s.steps ls = some t) : t.mode = s.mode := by
  refine steps_keep (P := fun u => u.mode = s.mode) ?_ run rfl
  intro u l v h same
  exact h.mode.trans same

theorem address_steps (run : s.steps ls = some t) : t.address = s.address := by
  refine steps_keep (P := fun u => u.address = s.address) ?_ run rfl
  intro u l v h same
  exact h.address.trans same

end State

end CannedReply.Server
