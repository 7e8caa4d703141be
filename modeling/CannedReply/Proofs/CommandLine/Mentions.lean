import CannedReply.CommandLine.Mention
import CannedReply.Proofs.CommandLine.Attached
import CannedReply.Proofs.Outcome
import Mathlib.Data.List.Nodup

/-!
Flags that are taken one after the other: each is taken once, those that differ do not get in each
other's way, and what they set in the end does not depend on which of them came first.
-/

namespace CannedReply.CommandLine

/-- Whether a flag is given as some settings have it. -/
def Mention.OfSettings (m : Mention) : Prop :=
  ∃ s : Settings, s.mention? m.flag = some m

namespace Settings

variable {s t : Settings} {m : Mention} {f : Flag}

theorem flag_of_mention? (h : s.mention? f = some m) : m.flag = f := by
  cases f with
  | help => cases h
  | forever =>
    have turned : (if s.forever then some Mention.forever else none) = some m := h
    split at turned
    · cases turned
      rfl
    · cases turned
  | config | host | port =>
    obtain ⟨v, -, rfl⟩ := Option.map_eq_some_iff.1 h
    rfl

theorem mem_mentions_iff : m ∈ s.mentions ↔ s.mention? m.flag = some m := by
  unfold mentions
  rw [List.mem_filterMap]
  constructor
  · rintro ⟨f, -, h⟩
    rwa [flag_of_mention? h]
  · intro h
    have every : ∀ f : Flag, f ∈ Flag.all := by
      intro f
      cases f <;> decide
    exact ⟨m.flag, every m.flag, h⟩

/-- No flag is given twice by settings. -/
theorem nodup_mentions (s : Settings) : (s.mentions.map Mention.flag).Nodup := by
  have inOrder : ∀ fs : List Flag, ((fs.filterMap s.mention?).map Mention.flag).Sublist fs := by
    intro fs
    induction fs with
    | nil => exact .slnil
    | cons f fs ih =>
      cases h : s.mention? f with
      | none =>
        rw [List.filterMap_cons_none h]
        exact ih.cons f
      | some m =>
        rw [List.filterMap_cons_some h, List.map_cons, flag_of_mention? h]
        exact ih.cons_cons f
  exact (inOrder Flag.all).nodup (by decide)

/-- A setting shows under its own flag only. -/
theorem mention?_frame (s : Settings) (f : Flag) :
    (f ≠ .config → ∀ v, mention? { s with config := v } f = s.mention? f) ∧
    (f ≠ .host → ∀ v, mention? { s with host := v } f = s.mention? f) ∧
    (f ≠ .port → ∀ v, mention? { s with port := v } f = s.mention? f) ∧
    (f ≠ .forever → ∀ v, mention? { s with forever := v } f = s.mention? f) := by
  cases f <;> simp [mention?]

theorem eq_of_mention? (same : ∀ f, s.mention? f = t.mention? f) : s = t := by
  obtain ⟨config, host, port, forever⟩ := s
  obtain ⟨config', host', port', forever'⟩ := t
  have one : config = config' :=
    Option.map_injective (fun _ _ h => Mention.config.inj h) (same .config)
  have two : host = host' := Option.map_injective (fun _ _ h => Mention.host.inj h) (same .host)
  have three : port = port' := by
    refine Option.map_injective (fun p p' h => ?_) (same .port)
    have read := congrArg readPort (Mention.port.inj h)
    rw [readPort_decimal, readPort_decimal] at read
    exact Except.ok.inj read
  have four : forever = forever' := by
    have h := same .forever
    cases forever <;> cases forever' <;> simp [mention?] at h ⊢
  rw [one, two, three, four]

end Settings

namespace Progress

variable {p q : Progress} {m : Mention} {ms : List Mention} {f : Flag} {e : UsageError}

/-- Takes a flag with its value. -/
def take (p : Progress) : Mention → Except UsageError Progress
  | .config path => p.store .config path
  | .host name => p.store .host name
  | .port text => p.store .port text
  | .forever => p.turnOn

theorem take_of_value {v : String} (value : m.value? = some v) :
    p.take m = p.store m.flag v := by
  cases m <;> cases value <;> rfl

theorem has_eq (p : Progress) (f : Flag) : p.has f = (p.settings.mention? f).isSome := by
  cases f with
  | forever => cases h : p.settings.forever <;> simp [has, Settings.mention?, h]
  | config | host | port | help => simp [has, Settings.mention?]

theorem take_of_has (h : p.has m.flag = true) : p.take m = .error (.repeated m.flag) := by
  cases m <;> simp_all [take, store, turnOn, Mention.flag, throw, throwThe, MonadExceptOf.throw,
    Bind.bind, Except.bind]

/-- What comes of taking a flag that is not there yet. -/
theorem take_of_fresh (fresh : p.has m.flag = false) :
    p.take m = match m with
      | .config path =>
        if path.isEmpty then .error (.missingValue .config)
        else .ok { p with settings := { p.settings with config := some path } }
      | .host name => .ok { p with settings := { p.settings with host := some name } }
      | .port text =>
        match readPort text with
        | .ok port => .ok { p with settings := { p.settings with port := some port } }
        | .error fault => .error (.badPort text fault)
      | .forever => .ok { p with settings := { p.settings with forever := true } } := by
  cases m with
  | config path =>
    have fresh : p.has .config = false := fresh
    by_cases empty : path.isEmpty = true <;>
      simp [take, store, fresh, empty, throw, throwThe, MonadExceptOf.throw, Bind.bind, Except.bind,
        Pure.pure, Except.pure]
  | host name =>
    have fresh : p.has .host = false := fresh
    simp [take, store, fresh, Pure.pure, Except.pure]
  | port text =>
    have fresh : p.has .port = false := fresh
    cases read : readPort text <;>
      simp [take, store, fresh, read, throw, throwThe, MonadExceptOf.throw, Pure.pure, Except.pure]
  | forever =>
    have fresh : p.has .forever = false := fresh
    simp [take, turnOn, fresh, Pure.pure, Except.pure]

/-- A fine flag is taken unless it is there already, and that is all that can be wrong with it. -/
theorem exists_take (fine : m.Fine) (fresh : p.has m.flag = false) : ∃ q, p.take m = .ok q := by
  rw [take_of_fresh fresh]
  cases m with
  | config path =>
    have named : path ≠ "" := fine
    exact ⟨_, if_neg (by simpa using named)⟩
  | host name => exact ⟨_, rfl⟩
  | port text =>
    obtain ⟨n, read⟩ := fine
    simp only [read]
    exact ⟨_, rfl⟩
  | forever => exact ⟨_, rfl⟩

/-- What it means that a flag has been taken: it is set now and was not before, as it was given if
it was given as settings have it, and all other flags are as they were. -/
structure Takes (p : Progress) (m : Mention) (q : Progress) : Prop where
  fresh : p.has m.flag = false
  pending : q.pending = p.pending
  given : q.has m.flag = true
  written : m.OfSettings → q.settings.mention? m.flag = some m
  others : ∀ f, f ≠ m.flag → q.settings.mention? f = p.settings.mention? f

theorem takes_of_take (h : p.take m = .ok q) : Takes p m q := by
  have fresh : p.has m.flag = false := by
    refine Bool.eq_false_iff.2 fun has => ?_
    rw [take_of_has has] at h
    cases h
  have frame := p.settings.mention?_frame
  rw [take_of_fresh fresh] at h
  cases m with
  | config path =>
    dsimp only at h
    split at h
    · cases h
    · cases h
      exact ⟨fresh, rfl, rfl, fun _ => rfl, fun f other => (frame f).1 other _⟩
  | host name =>
    cases h
    exact ⟨fresh, rfl, rfl, fun _ => rfl, fun f other => (frame f).2.1 other _⟩
  | port text =>
    dsimp only at h
    split at h
    · next n read =>
      cases h
      refine ⟨fresh, rfl, rfl, fun known => ?_, fun f other => (frame f).2.2.1 other _⟩
      -- a decimal is read as its port, and shown as that decimal again
      obtain ⟨s, shown⟩ := known
      obtain ⟨n', -, same⟩ := Option.map_eq_some_iff.1 shown
      obtain rfl := Mention.port.inj same
      rw [readPort_decimal] at read
      cases read
      rfl
    · cases h
  | forever =>
    cases h
    exact ⟨fresh, rfl, rfl, fun _ => rfl, fun f other => (frame f).2.2.2 other _⟩

theorem Takes.has_of_ne (h : Takes p m q) (other : f ≠ m.flag) : q.has f = p.has f := by
  rw [has_eq, has_eq, h.others f other]

/-- Different flags, as settings have them, are all taken: what is set then is what they set. -/
theorem exists_foldlM_take (fine : ∀ m ∈ ms, m.Fine) (known : ∀ m ∈ ms, m.OfSettings)
    (distinct : (ms.map Mention.flag).Nodup) (free : ∀ m ∈ ms, p.has m.flag = false) :
    ∃ q, ms.foldlM take p = .ok q ∧ ∀ f m, q.settings.mention? f = some m ↔
      m ∈ ms ∧ m.flag = f ∨ p.settings.mention? f = some m := by
  induction ms generalizing p with
  | nil => exact ⟨p, rfl, by simp⟩
  | cons first ms ih =>
    rw [List.forall_mem_cons] at fine known free
    rw [List.map_cons, List.nodup_cons] at distinct
    obtain ⟨p', one⟩ := exists_take fine.1 free.1
    have takes := takes_of_take one
    have ne : ∀ m ∈ ms, m.flag ≠ first.flag := by
      intro m mem same
      exact distinct.1 (same ▸ List.mem_map_of_mem mem)
    have free' : ∀ m ∈ ms, p'.has m.flag = false := by
      intro m mem
      rw [takes.has_of_ne (ne m mem)]
      exact free.2 m mem
    obtain ⟨q, rest, sets⟩ := ih fine.2 known.2 distinct.2 free'
    refine ⟨q, ?_, fun f m => ?_⟩
    · rw [List.foldlM_cons]
      exact then_eq_ok_iff.2 ⟨p', one, rest⟩
    · rw [sets]
      by_cases same : f = first.flag
      · -- the first flag is set by itself, and nothing was set under it before
        have before : p.settings.mention? f = none := by
          have := free.1
          rw [has_eq, ← same] at this
          simpa using this
        rw [same, takes.written known.1, ← same, before, List.mem_cons]
        constructor
        · rintro (⟨mem, named⟩ | now)
          · exact .inl ⟨.inr mem, named⟩
          · cases now
            exact .inl ⟨.inl rfl, same.symm⟩
        · rintro (⟨rfl | mem, named⟩ | never)
          · exact .inr rfl
          · exact .inl ⟨mem, named⟩
          · cases never
      · rw [takes.others f same, List.mem_cons]
        constructor
        · rintro (⟨mem, named⟩ | before)
          · exact .inl ⟨.inr mem, named⟩
          · exact .inr before
        · rintro (⟨rfl | mem, named⟩ | before)
          · exact absurd named.symm same
          · exact .inl ⟨mem, named⟩
          · exact .inr before

/-- Flags that can all be taken are different, and none of them was there before. -/
theorem nodup_of_foldlM_take (h : ms.foldlM take p = .ok q) :
    (ms.map Mention.flag).Nodup ∧ ∀ m ∈ ms, p.has m.flag = false := by
  induction ms generalizing p with
  | nil => exact ⟨List.nodup_nil, nofun⟩
  | cons first ms ih =>
    rw [List.foldlM_cons] at h
    obtain ⟨p', one, rest⟩ := then_eq_ok_iff.1 h
    have takes := takes_of_take one
    obtain ⟨distinct, free⟩ := ih rest
    have ne : ∀ m ∈ ms, m.flag ≠ first.flag := by
      intro m mem same
      have := free m mem
      rw [same, takes.given] at this
      cases this
    rw [List.map_cons, List.nodup_cons, List.forall_mem_cons]
    refine ⟨⟨fun mem => ?_, distinct⟩, takes.fresh, fun m mem => ?_⟩
    · obtain ⟨m, mem, same⟩ := List.mem_map.1 mem
      exact ne m mem same
    · rw [← takes.has_of_ne (ne m mem)]
      exact free m mem

/-- Fine flags that cannot all be taken are refused for one that is given again. -/
theorem repeated_of_foldlM_take (fine : ∀ m ∈ ms, m.Fine) (h : ms.foldlM take p = .error e) :
    ∃ f ∈ ms.map Mention.flag, e = .repeated f ∧
      (p.has f = true ∨ 2 ≤ (ms.map Mention.flag).count f) := by
  induction ms generalizing p with
  | nil => cases h
  | cons first ms ih =>
    rw [List.forall_mem_cons] at fine
    rw [List.foldlM_cons] at h
    rw [List.map_cons]
    cases one : p.take first with
    | error e' =>
      rw [one] at h
      cases h
      cases has : p.has first.flag with
      | true =>
        rw [take_of_has has] at one
        cases one
        exact ⟨first.flag, List.mem_cons_self, rfl, .inl has⟩
      | false =>
        obtain ⟨q, taken⟩ := exists_take fine.1 has
        cases one.symm.trans taken
    | ok p' =>
      rw [one] at h
      obtain ⟨f, mem, same, cause⟩ := ih fine.2 h
      refine ⟨f, List.mem_cons_of_mem _ mem, same, ?_⟩
      rw [List.count_cons]
      by_cases again : f = first.flag
      · have : 1 ≤ (ms.map Mention.flag).count f := List.one_le_count_iff.2 mem
        simp only [again, beq_self_eq_true, if_true] at this ⊢
        omega
      · rw [(takes_of_take one).has_of_ne again] at cause
        rcases cause with before | twice
        · exact .inl before
        · exact .inr (by omega)

end Progress

end CannedReply.CommandLine
