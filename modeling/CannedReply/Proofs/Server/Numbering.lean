import CannedReply.Proofs.Server.Handlers
import CannedReply.Server.Numbering

/-!
Numbers tell connections apart. Whatever tasks do to come by numbers, each number was taken in one
place, later ones are larger until the numbers run out, and a server takes one for each connection.
-/

namespace CannedReply

theorem ConnectionId.text_inj {x y : ConnectionId} : x.text = y.text ↔ x = y := by
  refine ⟨fun same => ?_, fun same => by rw [same]⟩
  unfold text Numeral.decimal at same
  rw [← String.toList_inj, String.toList_append, String.toList_append, List.append_cancel_left_eq,
    String.toList_ofList, String.toList_ofList] at same
  have values := Numeral.digits_injective (by decide) (by decide) same
  exact congrArg ConnectionId.mk (UInt64.toNat_inj.1 values)

namespace IdStep

variable {as bs : List IdStep} {place origin other : Nat}

/-- A number is taken where it stems from. -/
theorem StemsFrom.takes (stems : StemsFrom as place origin) :
    ∃ a, as[origin]? = some a ∧ a.takes = true := by
  induction stems with
  | itself here takes => exact ⟨_, here, takes⟩
  | through _ _ ih => exact ih

theorem StemsFrom.origin_lt (stems : StemsFrom as place origin) : origin < as.length := by
  obtain ⟨a, here, -⟩ := stems.takes
  exact (List.getElem?_eq_some_iff.1 here).1

/-- No number stems from two places. -/
theorem StemsFrom.unique (stems : StemsFrom as place origin) (too : StemsFrom as place other) :
    origin = other := by
  induction stems with
  | itself here takes =>
    cases too with
    | itself => rfl
    | through copied =>
      rw [Option.some.inj (here.symm.trans copied)] at takes
      simp [IdStep.takes] at takes
  | through here _ ih =>
    cases too with
    | itself taken takes =>
      rw [← Option.some.inj (here.symm.trans taken)] at takes
      simp [IdStep.takes] at takes
    | through copied stems =>
      obtain ⟨-, rfl⟩ := IdStep.copy.inj (Option.some.inj (here.symm.trans copied))
      exact ih stems

/-- What a number stems from does not change with what is done later. -/
theorem StemsFrom.append (stems : StemsFrom as place origin) (bs : List IdStep) :
    StemsFrom (as ++ bs) place origin := by
  have kept : ∀ {i : Nat} {a : IdStep}, as[i]? = some a → (as ++ bs)[i]? = some a := by
    intro i a here
    rw [List.getElem?_append_left (List.getElem?_eq_some_iff.1 here).1, here]
  induction stems with
  | itself here takes => exact .itself (kept here) takes
  | through here _ ih => exact .through (kept here) ih

/-- Behind a place where a number is taken, one more has been taken. -/
theorem taken_lt {a : IdStep} (here : as[origin]? = some a) (takes : a.takes = true)
    (later : origin < other) : taken (as.take origin) < taken (as.take other) := by
  have step : taken (as.take (origin + 1)) = taken (as.take origin) + 1 := by
    rw [List.take_add_one, here]
    simp [taken, takes]
  have more : taken (as.take (origin + 1)) ≤ taken (as.take other) :=
    (List.take_sublist_take_left later).countP_le
  omega

theorem taken_lt_taken {a : IdStep} (here : as[origin]? = some a) (takes : a.takes = true) :
    taken (as.take origin) < taken as := by
  have less := taken_lt here takes (List.getElem?_eq_some_iff.1 here).1
  rwa [List.take_length] at less

end IdStep

namespace Numbering

open IdStep

variable {m n : Numbering} {as bs : List IdStep} {a : IdStep}

/-- How the numbers that are held go together with what was done to come by them. -/
structure Accounts (as : List IdStep) (n : Numbering) : Prop where
  length : n.held.length = as.length
  next : n.source.next = IdSource.fresh.next + UInt64.ofNat (taken as)
  stems : ∀ {place : Nat} {x : Nat × ConnectionId}, n.held[place]? = some x →
    ∃ origin, StemsFrom as place origin ∧
      x.2.value = IdSource.fresh.next + UInt64.ofNat (taken (as.take origin))

theorem Accounts.start : Accounts [] fresh where
  length := rfl
  next := by decide
  stems held := by simp [fresh] at held

/-- The head of a series of numbers comes about in one step. -/
theorem series_step (n : Numbering) (task : Nat) (origin : IdOrigin) (rest : List IdOrigin) :
    ∃ a source id,
      IdOrigin.steps task n.held.length (origin :: rest) =
        a :: IdOrigin.steps task (n.held.length + 1) rest ∧
      n.step a = some ⟨source, n.held ++ [(task, id)]⟩ ∧
      ConnectionId.series n.source (n.held.getLast?.map Prod.snd) (origin :: rest) =
        id :: ConnectionId.series source (some id) rest := by
  rcases List.eq_nil_or_concat n.held with none' | ⟨before, last, held⟩
  · refine ⟨.new task, n.source.take.2, n.source.take.1, ?_, rfl, ?_⟩
    all_goals cases origin <;> simp [none', IdOrigin.steps, ConnectionId.series]
  · cases origin with
    | taken =>
      refine ⟨.new task, n.source.take.2, n.source.take.1, ?_, rfl, ?_⟩
      all_goals simp [held, IdOrigin.steps, ConnectionId.series]
    | copied =>
      refine ⟨.copy task before.length, n.source, last.2, ?_, ?_, ?_⟩
      all_goals simp [held, IdOrigin.steps, step, ConnectionId.series]

/-- A series of numbers is what one task comes by that takes some and copies its last one. -/
theorem steps_series (n : Numbering) (task : Nat) (origins : List IdOrigin) :
    ∃ m, n.steps (IdOrigin.steps task n.held.length origins) = some m ∧
      m.held.map Prod.snd = n.held.map Prod.snd ++
        ConnectionId.series n.source (n.held.getLast?.map Prod.snd) origins := by
  induction origins generalizing n with
  | nil => exact ⟨n, by cases n.held.length <;> rfl, by simp [ConnectionId.series]⟩
  | cons origin rest ih =>
    obtain ⟨a, source, id, first, done, head⟩ := n.series_step task origin rest
    obtain ⟨m, run, held⟩ := ih ⟨source, n.held ++ [(task, id)]⟩
    refine ⟨m, ?_, ?_⟩
    · rw [first]
      exact Option.bind_eq_some_iff.2 ⟨_, done, by simpa using run⟩
    · simpa [head] using held

/-- One more number is held, and those before stay as they are. -/
theorem Accounts.append (h : Accounts as n) {x : Nat × ConnectionId} {source : IdSource}
    (next : source.next = IdSource.fresh.next + UInt64.ofNat (taken (as ++ [a]))) {origin : Nat}
    (stems : StemsFrom (as ++ [a]) as.length origin)
    (value : x.2.value = IdSource.fresh.next + UInt64.ofNat (taken ((as ++ [a]).take origin))) :
    Accounts (as ++ [a]) ⟨source, n.held ++ [x]⟩ where
  length := by simp [h.length]
  next := next
  stems := by
    intro place y held
    by_cases before : place < n.held.length
    · rw [List.getElem?_append_left before] at held
      obtain ⟨origin, stems, value⟩ := h.stems held
      have inside := Nat.le_of_lt stems.origin_lt
      exact ⟨origin, stems.append [a], by rw [List.take_append_of_le_length inside, value]⟩
    · have last : place = as.length := by
        have := (List.getElem?_eq_some_iff.1 held).1
        rw [List.length_append, List.length_singleton] at this
        have := h.length
        omega
      subst last
      rw [← h.length, List.getElem?_concat_length] at held
      obtain rfl := Option.some.inj held
      exact ⟨origin, stems, value⟩

theorem step_of_takes (n : Numbering) {a : IdStep} (takes : a.takes = true) :
    ∃ task, n.step a = some ⟨n.source.take.2, n.held ++ [(task, n.source.take.1)]⟩ := by
  cases a with
  | new task | default task => exact ⟨task, rfl⟩
  | copy => simp [IdStep.takes] at takes

/-- One more number is held after each step. -/
theorem held_step (step : n.step a = some m) : ∃ x, m.held = n.held ++ [x] := by
  cases a with
  | new | default =>
    obtain rfl := Option.some.inj step
    exact ⟨_, rfl⟩
  | copy =>
    obtain ⟨y, -, rfl⟩ := Option.map_eq_some_iff.1 step
    exact ⟨_, rfl⟩

theorem Accounts.step (h : Accounts as n) (step : n.step a = some m) : Accounts (as ++ [a]) m := by
  cases takes : a.takes with
  | true =>
    obtain ⟨task, taken'⟩ := n.step_of_takes takes
    obtain rfl := Option.some.inj (taken'.symm.trans step)
    refine h.append ?_ (.itself (by simp) takes) ?_
    · simp only [IdSource.take, h.next, taken, List.countP_append, List.countP_singleton, takes,
        if_true, UInt64.ofNat_add]
      rw [UInt64.add_assoc]
      rfl
    · rw [List.take_left]
      exact h.next
  | false =>
    cases a with
    | new | default => simp [IdStep.takes] at takes
    | copy task place =>
      obtain ⟨y, held, rfl⟩ := Option.map_eq_some_iff.1 step
      obtain ⟨origin, stems, value⟩ := h.stems held
      have inside := Nat.le_of_lt stems.origin_lt
      have here : (as ++ [copy task place])[as.length]? = some (copy task place) := by simp
      refine h.append ?_ (.through here (stems.append _)) ?_
      · simpa [taken, IdStep.takes] using h.next
      · rw [List.take_append_of_le_length inside, value]

theorem Accounts.steps (h : Accounts as n) (run : n.steps bs = some m) :
    Accounts (as ++ bs) m := by
  induction bs generalizing as n with
  | nil =>
    rw [← Option.some.inj run, List.append_nil]
    exact h
  | cons b bs ih =>
    obtain ⟨k, first, rest⟩ := Option.bind_eq_some_iff.1 run
    rw [List.append_cons]
    exact ih (h.step first) rest

/-- The numbers that tasks hold after they have done something. -/
theorem accounts_of_run (run : fresh.steps as = some n) : Accounts as n :=
  Accounts.start.steps run

namespace Accounts

variable {i j o p : Nat} {x y : Nat × ConnectionId}

/-- Before the numbers run out, one that was taken is as many behind the first as were taken
before it. -/
theorem toNat_value (h : Accounts as n) (few : taken as < UInt64.size)
    (held : n.held[i]? = some x) (stems : StemsFrom as i o) :
    x.2.value.toNat = taken (as.take o) + 1 := by
  obtain ⟨origin, too, value⟩ := h.stems held
  obtain rfl := stems.unique too
  obtain ⟨a, here, takes⟩ := stems.takes
  have less := taken_lt_taken here takes
  rw [value, UInt64.toNat_add, UInt64.toNat_ofNat_of_lt' (by omega)]
  change (1 + taken (as.take o)) % UInt64.size = _
  rw [Nat.mod_eq_of_lt (by omega), Nat.add_comm]

theorem value_lt (h : Accounts as n) (few : taken as < UInt64.size)
    (hx : n.held[i]? = some x) (hy : n.held[j]? = some y) (sx : StemsFrom as i o)
    (sy : StemsFrom as j p) (later : o < p) : x.2.value < y.2.value := by
  obtain ⟨a, here, takes⟩ := sx.takes
  rw [UInt64.lt_iff_toNat_lt, h.toNat_value few hx sx, h.toNat_value few hy sy]
  exact Nat.succ_lt_succ (taken_lt here takes later)

/-- Two numbers are equal exactly when they were taken in the same place. -/
theorem eq_iff (h : Accounts as n) (few : taken as < UInt64.size)
    (hx : n.held[i]? = some x) (hy : n.held[j]? = some y) (sx : StemsFrom as i o)
    (sy : StemsFrom as j p) : x.2 = y.2 ↔ o = p := by
  constructor
  · intro same
    rcases Nat.lt_trichotomy o p with less | equal | less
    · exact absurd (h.value_lt few hx hy sx sy less) (by rw [same]; exact UInt64.lt_irrefl _)
    · exact equal
    · exact absurd (h.value_lt few hy hx sy sx less) (by rw [same]; exact UInt64.lt_irrefl _)
  · rintro rfl
    have values : x.2.value.toNat = y.2.value.toNat := by
      rw [h.toNat_value few hx sx, h.toNat_value few hy sy]
    exact congrArg ConnectionId.mk (UInt64.toNat_inj.1 values)

end Accounts

end Numbering

namespace Server

open IdStep CannedReply.Numbering

variable {s : State} {u v : Shared} {m : Move} {ms : List Move} {as : List IdStep}

theorem WellFormed.with_ids (w : WellFormed s) (ids : IdSource) :
    WellFormed { s with ids := ids } where
  waiting_iff := w.waiting_iff
  attached_iff := w.attached_iff
  backlog_nodup := w.backlog_nodup
  accepted_nodup := w.accepted_nodup
  deaf_backlog := w.deaf_backlog
  phase_fits := w.phase_fits

namespace Shared

theorem wellFormed_step (w : WellFormed u.server) (step : u.step m = some v) :
    WellFormed v.server := by
  cases m with
  | number a =>
    obtain ⟨n, -, rfl⟩ := Option.map_eq_some_iff.1 step
    exact w.with_ids _
  | serve l =>
    obtain ⟨t, done, rfl⟩ := Option.map_eq_some_iff.1 step
    exact w.step (happens_of_step done)

/-- A server comes by numbers as a task does. -/
theorem numbers_step (w : WellFormed u.server) (step : u.step m = some v) :
    u.numbers.steps (u.idSteps m) = some v.numbers := by
  cases m with
  | number a =>
    obtain ⟨n, done, rfl⟩ := Option.map_eq_some_iff.1 step
    exact Option.bind_eq_some_iff.2 ⟨n, done, rfl⟩
  | serve l =>
    obtain ⟨t, done, rfl⟩ := Option.map_eq_some_iff.1 step
    rcases w.begins_step (happens_of_step done) with
      ⟨none', same, -⟩ | ⟨c, peer, one, next, -, ⟨x, known, id, -⟩, -⟩
    · simp [idSteps, Numbering.steps, none', numbers, same]
    · simp [idSteps, Numbering.steps, Numbering.step, one, numbers, next, holding?, known, id]

/-- A connection that there is after a step was there with its number, or it is new, and its
number is the one that comes about. -/
theorem connection_step (w : WellFormed u.server) (step : u.step m = some v) :
    ∃ more, v.held = u.held ++ more ∧ ∀ {c : Nat} {x : Connection},
      v.server.connection? c = some x →
        (∃ y, u.server.connection? c = some y ∧ y.id = x.id) ∨
          u.idSteps m = [.new c] ∧ more = [(c, x.id)] := by
  cases m with
  | number a =>
    obtain ⟨n, done, rfl⟩ := Option.map_eq_some_iff.1 step
    obtain ⟨h, grown⟩ := Numbering.held_step done
    exact ⟨[h], grown, fun known => .inl ⟨_, known, rfl⟩⟩
  | serve l =>
    obtain ⟨t, done, rfl⟩ := Option.map_eq_some_iff.1 step
    have happens := happens_of_step done
    refine ⟨_, rfl, fun {c x} known => ?_⟩
    have old : u.server.Attached c → ∃ y, u.server.connection? c = some y ∧ y.id = x.id := by
      intro attached
      obtain ⟨y, before⟩ := (w.attached_iff c).1 attached
      obtain ⟨z, after, id, -⟩ := w.hasConnection_step happens ⟨y, before, rfl, rfl⟩
      obtain rfl := Option.some.inj (after.symm.trans known)
      exact ⟨y, before, id.symm⟩
    have attached : t.Attached c := ((w.step happens).attached_iff c).2 ⟨x, known⟩
    rcases w.begins_step happens with ⟨-, -, same⟩ | ⟨d, -, one, -, -, -, grown⟩
    · exact .inl (old ((same c).1 attached))
    · rcases (grown c).1 attached with rfl | before
      · exact .inr (by simp [idSteps, one, holding?, known])
      · exact .inl (old before)

/-- The number of each connection was taken for it. -/
def Numbered (as : List IdStep) (u : Shared) : Prop :=
  ∀ {c : Nat} {x : Connection}, u.server.connection? c = some x →
    ∃ i : Nat, as[i]? = some (.new c) ∧ u.held[i]? = some (c, x.id)

theorem Numbered.step (h : Numbered as u) (w : WellFormed u.server)
    (accounts : Accounts as u.numbers) (step : u.step m = some v) :
    Numbered (as ++ u.idSteps m) v := by
  intro c x known
  obtain ⟨more, grown, connections⟩ := connection_step w step
  rw [grown]
  rcases connections known with ⟨y, before, id⟩ | ⟨taken, one⟩
  · obtain ⟨i, here, held⟩ := h before
    refine ⟨i, ?_, ?_⟩
    · rw [List.getElem?_append_left (List.getElem?_eq_some_iff.1 here).1, here]
    · rw [List.getElem?_append_left (List.getElem?_eq_some_iff.1 held).1, held, id]
  · have length : u.held.length = as.length := accounts.length
    refine ⟨as.length, ?_, ?_⟩
    · rw [taken, List.getElem?_concat_length]
    · rw [one, ← length, List.getElem?_concat_length]

/-- What a run does about numbers, and what comes of it. -/
theorem numbered_steps (w : WellFormed u.server) (accounts : Accounts as u.numbers)
    (h : Numbered as u) (run : u.steps ms = some v) :
    Accounts (as ++ u.numbering ms) v.numbers ∧ Numbered (as ++ u.numbering ms) v := by
  induction ms generalizing u as with
  | nil =>
    rw [← Option.some.inj run]
    simpa [numbering] using ⟨accounts, h⟩
  | cons m ms ih =>
    obtain ⟨t, first, rest⟩ := Option.bind_eq_some_iff.1 run
    have later := ih (wellFormed_step w first) (accounts.steps (numbers_step w first))
      (h.step w accounts first) rest
    simpa [numbering, first] using later

theorem numbered_of_run {mode : AcceptMode} {address : SocketAddress}
    (run : (start mode address).steps ms = some v) :
    Accounts ((start mode address).numbering ms) v.numbers ∧
      Numbered ((start mode address).numbering ms) v := by
  have none' : Numbered [] (start mode address) := by
    intro c x known
    simp [start, State.start, State.connection?] at known
  exact numbered_steps (.start mode address _) .start none' run

end Shared

/-- Two numbers that tasks hold are equal exactly when they were taken in one place and copied
from there, and so are their texts; one that was taken later is larger. A server takes one for each
connection, whatever else is done about numbers while it runs, so that no two connections have the
same. -/
theorem numbers_identify_connections :
    (∀ {as : List IdStep} {n : Numbering}, fresh.steps as = some n → taken as < UInt64.size →
      n.held.length = as.length ∧
      (∀ i < as.length, ∃! origin, StemsFrom as i origin) ∧
      (∀ {i j : Nat} {x y : Nat × ConnectionId}, n.held[i]? = some x → n.held[j]? = some y →
        ((x.2 = y.2 ↔ ∃ origin, StemsFrom as i origin ∧ StemsFrom as j origin) ∧
        (x.2.text = y.2.text ↔ x.2 = y.2)) ∧
        ∀ {o p : Nat}, StemsFrom as i o → StemsFrom as j p → o < p → x.2.value < y.2.value)) ∧
    ∀ {mode : AcceptMode} {address : SocketAddress} {ms : List Move} {u : Shared},
      (Shared.start mode address).steps ms = some u →
      taken ((Shared.start mode address).numbering ms) < UInt64.size →
      ∀ {c d : Nat} {x y : Connection}, u.server.connection? c = some x →
        u.server.connection? d = some y → c ≠ d → x.id ≠ y.id := by
  constructor
  · intro as n run few
    have accounts := accounts_of_run run
    refine ⟨accounts.length, ?_, ?_⟩
    · intro i inside
      rw [← accounts.length] at inside
      obtain ⟨origin, stems, -⟩ := accounts.stems (List.getElem?_eq_getElem inside)
      exact ⟨origin, stems, fun other too => too.unique stems⟩
    · intro i j x y hx hy
      refine ⟨⟨?_, ConnectionId.text_inj⟩,
        fun sx sy later => accounts.value_lt few hx hy sx sy later⟩
      obtain ⟨o, so, -⟩ := accounts.stems hx
      obtain ⟨p, sp, -⟩ := accounts.stems hy
      rw [accounts.eq_iff few hx hy so sp]
      constructor
      · rintro rfl
        exact ⟨o, so, sp⟩
      · rintro ⟨origin, sx, sy⟩
        rw [so.unique sx, sp.unique sy]
  · intro mode address ms u run few c d x y hx hy ne same
    obtain ⟨accounts, numbered⟩ := Shared.numbered_of_run run
    obtain ⟨i, hi, xi⟩ := numbered hx
    obtain ⟨j, hj, yj⟩ := numbered hy
    have origins : i = j := (accounts.eq_iff few xi yj (.itself hi rfl) (.itself hj rfl)).1 same
    subst origins
    exact ne (IdStep.new.inj (Option.some.inj (hi.symm.trans hj)))

/-- Two tasks take and copy numbers in turn, and one of them takes a number between two clients of
a server. -/
theorem numbers_of_two_tasks :
    let as : List IdStep := [.new 1, .default 2, .copy 2 0, .new 1, .copy 1 2]
    let start := Shared.start .forever (.v4 (.ofNat 0x7f000001) 5000)
    let ms : List Move := [
      .serve (.connect 0 (.v4 (.ofNat 0x7f000001) 40000)), .serve .run, .number (.new 1),
      .serve .accept, .number (.copy 2 1), .number (.default 2),
      .serve (.connect 1 (.v4 (.ofNat 0x7f000001) 40001)), .serve .accept]
    ∃ n u x y,
      fresh.steps as = some n ∧ start.steps ms = some u ∧
      n.held.map (fun h => h.2.text) = ["conn-1", "conn-2", "conn-1", "conn-3", "conn-1"] ∧
      (∃! origin, StemsFrom as 4 origin) ∧ StemsFrom as 4 0 ∧
      u.server.connection? 0 = some x ∧ u.server.connection? 1 = some y ∧ x.id ≠ y.id ∧
      start.numbering ms = [.new 1, .new 0, .copy 2 1, .default 2, .new 1] := by
  intro as start ms
  let n := (fresh.steps as).get rfl
  let u := (start.steps ms).get rfl
  have held := numbers_identify_connections.1 (show fresh.steps as = some n from rfl) (by decide)
  have once := held.2.1 4 (by decide)
  have few : taken (start.numbering ms) < UInt64.size := by decide
  have run : start.steps ms = some u := rfl
  have first : StemsFrom as 0 0 := .itself rfl rfl
  have second : StemsFrom as 2 0 := .through rfl first
  have copied : StemsFrom as 4 0 := .through rfl second
  exact ⟨n, u, _, _, rfl, run, by decide +kernel, once, copied, rfl, rfl,
    numbers_identify_connections.2 run few (c := 0) (d := 1) rfl rfl (by decide), rfl⟩

end Server

end CannedReply
