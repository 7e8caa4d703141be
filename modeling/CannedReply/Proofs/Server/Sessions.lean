import CannedReply.Proofs.Server.Happens
import CannedReply.Server.Script

/-!
Scripted sessions are runs: whatever a step of a script does, and all that the server does in the
time that it gets, is something that can happen to the server, and the journal has its events.
-/

namespace CannedReply.Server

open Log

variable {s t : State} {l : Label} {ls as bs : List Label}

/-- Whether something is not for the one who has the server to do. -/
def Label.isOthers : Label → Bool
  | .run | .abandon | .adopt _ _ => false
  | _ => true

theorem Label.isOthers_of_isServers (h : l.isServers = true) : l.isOthers = true := by
  cases l <;> simp_all [isServers, isOthers]

namespace State

/-- The events of all that happens, one after the other. -/
def told (s : State) : List Label → List Event
  | [] => []
  | l :: ls => s.events l ++ (s.step l).elim [] fun t => t.told ls

theorem told_append (run : s.steps as = some t) :
    s.told (as ++ bs) = s.told as ++ t.told bs := by
  induction as generalizing s with
  | nil =>
    obtain rfl := Option.some.inj run
    rfl
  | cons l as ih =>
    obtain ⟨u, first, rest⟩ := Option.bind_eq_some_iff.1 run
    simp [told, first, ih rest]

theorem isServers_of_mem_options (h : l ∈ s.options) : l.isServers = true := by
  obtain ⟨mem, -⟩ := List.mem_filter.1 h
  simp only [List.mem_append, List.mem_cons, List.mem_map, List.not_mem_nil, or_false] at mem
  rcases mem with ((rfl | rfl | rfl) | ⟨c, -, rfl⟩) | rfl <;> rfl

/-- What a server does by itself is a run. -/
theorem proceed_runs (count : Nat) (s : State) :
    ∃ ls, s.steps ls = some (proceed count s).1 ∧ s.told ls = (proceed count s).2 ∧
      ∀ l ∈ ls, l.isServers = true := by
  induction count generalizing s with
  | zero => exact ⟨[], rfl, rfl, by simp⟩
  | succ count ih =>
    unfold proceed
    cases found : s.options.findSome? fun l => (s.step l).map fun t => (l, t) with
    | none => exact ⟨[], rfl, rfl, by simp⟩
    | some next =>
      obtain ⟨l, t⟩ := next
      obtain ⟨l', mem, step⟩ := List.exists_of_findSome?_eq_some found
      obtain ⟨t', step, same⟩ := Option.map_eq_some_iff.1 step
      cases same
      obtain ⟨ls, run, told', servers⟩ := ih t
      refine ⟨l :: ls, ?_, ?_, ?_⟩
      · simp [steps, step, run]
      · simp [told, step, told']
      · simpa [isServers_of_mem_options mem] using servers

end State

/-- Whether a step of a script is for the one who has the server to do. -/
def Act.isOwners : Act → Bool
  | .run | .abandon | .handle _ => true
  | _ => false

namespace Session

variable {allowed : Label → Bool} {s t u : Session} {a : Act} {shown : Shown}

/-- Whether a session comes from another one by things that are allowed to happen. -/
def Follows (allowed : Label → Bool) (s t : Session) : Prop :=
  ∃ ls, s.state.steps ls = some t.state ∧ t.journal = s.journal ++ s.state.told ls ∧
    ∀ l ∈ ls, allowed l = true

namespace Follows

theorem of_eq (state : t.state = s.state) (journal : t.journal = s.journal) :
    s.Follows allowed t :=
  ⟨[], by simp [State.steps, state], by simp [State.told, journal], by simp⟩

theorem trans (h : s.Follows allowed t) (h' : t.Follows allowed u) : s.Follows allowed u := by
  obtain ⟨as, run, journal, some'⟩ := h
  obtain ⟨bs, run', journal', some''⟩ := h'
  refine ⟨as ++ bs, ?_, ?_, ?_⟩
  · rw [State.steps_append, run]
    exact run'
  · rw [journal', journal, State.told_append run, List.append_assoc]
  · simpa [or_imp, forall_and] using ⟨some', some''⟩

end Follows

theorem follows_after? (servers : ∀ {l : Label}, l.isServers = true → allowed l = true)
    (h : allowed l = true) (next : s.after? l = some t) : s.Follows allowed t := by
  obtain ⟨u, step, rfl⟩ := Option.map_eq_some_iff.1 next
  obtain ⟨ls, run, told, mine⟩ := State.proceed_runs
    (3 * (u.backlog.length + u.accepted.length + u.adopted.length) + 4) u
  refine ⟨l :: ls, ?_, ?_, ?_⟩
  · simp only [State.steps, step, Option.bind_some]
    exact run
  · simp only [State.told, step, Option.elim_some, told, List.append_assoc]
    rfl
  · simpa [h] using fun l mem => servers (mine l mem)

theorem follows_after (servers : ∀ {l : Label}, l.isServers = true → allowed l = true)
    (h : allowed l = true) (s : Session) : s.Follows allowed (s.after l) := by
  unfold after
  cases next : s.after? l with
  | none => exact .of_eq rfl rfl
  | some t => exact follows_after? servers h next

theorem follows_connect (servers : ∀ {l : Label}, l.isServers = true → allowed l = true)
    (comes : ∀ c a, allowed (.connect c a) = true) (name : String) :
    s.Follows allowed (s.connect name).1 := by
  unfold connect
  split
  · exact .of_eq rfl rfl
  · split
    · next t next => exact (follows_after? servers (comes _ _) next).trans (.of_eq rfl rfl)
    · exact .of_eq rfl rfl

theorem follows_read {name : String} (read : s.read name = .ok (t, shown)) :
    s.Follows allowed t := by
  unfold Session.read at read
  cases found : s.client name with
  | error e => simp [found, Bind.bind, Except.bind] at read
  | ok c =>
    simp only [found, Bind.bind, Except.bind] at read
    split at read
    · cases read
      exact .of_eq rfl rfl
    · split at read <;> cases read <;> exact .of_eq rfl rfl

theorem follows_handle (servers : ∀ {l : Label}, l.isServers = true → allowed l = true)
    (comes : ∀ c a, allowed (.adopt c a) = true) {name : String}
    (handled : s.handle name = .ok (t, shown)) : s.Follows allowed t := by
  unfold Session.handle at handled
  cases opened : ((s.state.machine s.machine).attempt .openSocket).mapError ScriptError.noPair with
  | error e => simp [opened, Bind.bind, Except.bind] at handled
  | ok u =>
    simp only [opened, Bind.bind, Except.bind] at handled
    split at handled
    · cases handled
    · cases handled
      exact (follows_after servers (comes _ _) s).trans (.of_eq rfl rfl)

/-- Each step of a script makes a run of things that may happen, those of the owner only if it is
one of the owner's steps. -/
theorem follows_act (acted : s.act a = .ok (t, shown)) :
    s.Follows (fun l => a.isOwners || l.isOthers) t := by
  have servers : ∀ {l : Label}, l.isServers = true → (a.isOwners || l.isOthers) = true := by
    intro l mine
    simp [Label.isOthers_of_isServers mine]
  cases a with
  | run | abandon =>
    simp only [act] at acted
    split at acted
    · next u next =>
      cases acted
      exact follows_after? servers rfl next
    · cases acted
  | connect name =>
    have comes := follows_connect (s := s) servers (fun _ _ => rfl) name
    rw [Except.ok.inj acted] at comes
    exact comes
  | send name data | finish name =>
    cases found : s.client name with
    | error e => simp [act, found, Bind.bind, Except.bind] at acted
    | ok c =>
      simp only [act, found, Bind.bind, Except.bind] at acted
      cases acted
      exact follows_after servers rfl s
  | close name =>
    simp only [act] at acted
    split at acted <;> cases acted
    · exact follows_after servers rfl s
    · exact .of_eq rfl rfl
  | read name => exact follows_read acted
  | bindAgain host | askHandled name =>
    cases acted
    exact .of_eq rfl rfl
  | setDescriptors available | sleep ms =>
    cases acted
    exact follows_after servers rfl s
  | askResult =>
    have asked := Except.ok.inj acted
    unfold Session.askResult at asked
    split at asked
    case h_3 => split at asked <;> cases asked <;> exact .of_eq rfl rfl
    all_goals
      cases asked
      exact .of_eq rfl rfl
  | handle name => exact follows_handle servers (fun _ _ => rfl) acted

end Session

end CannedReply.Server
