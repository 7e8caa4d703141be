import CannedReply.Server.AcceptLoop
import Mathlib.Data.List.Basic

/-!
What the loop does about a whole sequence of attempts, whatever comes of them: about each one what
is due, in its place, and then the next attempt. Because of the pauses, only so many attempts fail
in any stretch of time.
-/

namespace CannedReply

open Deed Reaction

variable {α β : Type} {clock : Nat}

@[simp] theorem acceptLoop_nil : acceptLoop (α := α) clock [] = [(clock, .attempt)] := rfl

@[simp] theorem acceptLoop_accepted (wait : Nat) (c : α) (rest : List (Nat × Attempt α)) :
    acceptLoop clock ((wait, .accepted c) :: rest) =
      (clock, .attempt) :: (clock + wait, .react (.spawn c)) ::
        acceptLoop (clock + wait) rest := rfl

@[simp] theorem acceptLoop_failed (wait : Nat) (e : ListenerError)
    (rest : List (Nat × Attempt α)) :
    acceptLoop clock ((wait, .failed e) :: rest) =
      (clock, .attempt) :: (clock + wait, .react (.warn e)) ::
        (clock + wait, .react (.pause acceptBackoff)) ::
          acceptLoop (clock + wait + acceptBackoff) rest := rfl

namespace Attempt

/-- A handler for a connection, and none for a failure. -/
theorem spawned_reactions (a : Attempt α) :
    a.reactions.filterMap spawned? = a.connection?.toList := by
  cases a <;> rfl

/-- One warning of a failure, and none of a connection. -/
theorem warnings_reactions (a : Attempt α) :
    a.reactions.filterMap warning? = a.error?.toList := by
  cases a <;> rfl

/-- One pause behind a failure, and none behind a connection. -/
theorem pauses_reactions (a : Attempt α) :
    a.reactions.filterMap pause? = a.error?.toList.map fun _ => acceptBackoff := by
  cases a <;> rfl

end Attempt

/-- Whatever is still to come, the loop makes another attempt now. -/
theorem acceptLoop_attempts (clock : Nat) (outcomes : List (Nat × Attempt α)) :
    ∃ later, acceptLoop clock outcomes = (clock, .attempt) :: later := by
  rcases outcomes with _ | ⟨⟨wait, _ | _⟩, rest⟩
  · exact ⟨_, rfl⟩
  · exact ⟨_, rfl⟩
  · exact ⟨_, rfl⟩

/-- Where the outcomes so far are used up the loop stands in an attempt, and goes on from there
with the further ones. -/
theorem acceptLoop_append (clock : Nat) (before : List (Nat × Attempt α)) :
    ∃ past begun, ∀ after,
      acceptLoop clock (before ++ after) = past ++ acceptLoop begun after := by
  induction before generalizing clock with
  | nil => exact ⟨[], clock, fun after => rfl⟩
  | cons first rest ih =>
    obtain ⟨wait, c | e⟩ := first
    · obtain ⟨past, begun, goesOn⟩ := ih (clock + wait)
      refine ⟨(clock, .attempt) :: (clock + wait, .react (.spawn c)) :: past, begun,
        fun after => ?_⟩
      rw [List.cons_append, acceptLoop_accepted, goesOn]
      rfl
    · obtain ⟨past, begun, goesOn⟩ := ih (clock + wait + acceptBackoff)
      refine ⟨(clock, .attempt) :: (clock + wait, .react (.warn e)) ::
        (clock + wait, .react (.pause acceptBackoff)) :: past, begun, fun after => ?_⟩
      rw [List.cons_append, acceptLoop_failed, goesOn]
      rfl

/-- In front of each outcome stands its attempt, and behind it what is done about it, and then the
next attempt, behind a pause if there was a failure. -/
theorem acceptLoop_at (clock : Nat) (before : List (Nat × Attempt α)) (wait : Nat) (a : Attempt α)
    (after : List (Nat × Attempt α)) :
    ∃ (past later : List (Nat × Deed α)) (begun : Nat),
      acceptLoop clock before = past ++ [(begun, .attempt)] ∧
      acceptLoop clock (before ++ (wait, a) :: after) = past ++ (begun, .attempt) ::
        match a with
        | .accepted c => (begun + wait, .react (.spawn c)) :: (begun + wait, .attempt) :: later
        | .failed e =>
          (begun + wait, .react (.warn e)) :: (begun + wait, .react (.pause acceptBackoff)) ::
            (begun + wait + acceptBackoff, .attempt) :: later := by
  obtain ⟨past, begun, goesOn⟩ := acceptLoop_append clock before
  have stands : acceptLoop clock before = past ++ [(begun, .attempt)] := by simpa using goesOn []
  cases a with
  | accepted c =>
    obtain ⟨later, next⟩ := acceptLoop_attempts (begun + wait) after
    refine ⟨past, later, begun, stands, ?_⟩
    rw [goesOn, acceptLoop_accepted, next]
  | failed e =>
    obtain ⟨later, next⟩ := acceptLoop_attempts (begun + wait + acceptBackoff) after
    refine ⟨past, later, begun, stands, ?_⟩
    rw [goesOn, acceptLoop_failed, next]

namespace Deed

@[simp] theorem pick_append (look : Reaction α → Option β) (as bs : List (Nat × Deed α)) :
    pick look (as ++ bs) = pick look as ++ pick look bs :=
  List.filterMap_append

/-- What is picked of reactions that come at one time. -/
@[simp] theorem pick_map (look : Reaction α → Option β) (time : Nat) (rs : List (Reaction α)) :
    pick look (rs.map fun r => (time, .react r)) =
      (rs.filterMap look).map fun b => (time, b) := by
  simp [pick, reaction?, List.filterMap_map, List.map_filterMap]

end Deed

/-- What is picked of the first round of the loop, and of the others. -/
theorem pick_acceptLoop_cons {look : Reaction α → Option β}
    (wait : Nat) (a : Attempt α) (rest : List (Nat × Attempt α)) :
    pick look (acceptLoop clock ((wait, a) :: rest)) =
      (a.reactions.filterMap look).map (fun b => (clock + wait, b)) ++
        pick look (acceptLoop (clock + wait + a.reactionTime) rest) := by
  rw [← pick_map, ← pick_append]
  rfl

/-- Leaving attempts aside, what is picked of all that the loop does is what is picked of what is
done about each outcome, one after the other. -/
theorem pick_acceptLoop {look : Reaction α → Option β} (clock : Nat)
    (outcomes : List (Nat × Attempt α)) :
    (pick look (acceptLoop clock outcomes)).map Prod.snd =
      outcomes.flatMap fun o => o.2.reactions.filterMap look := by
  induction outcomes generalizing clock with
  | nil => rfl
  | cons first rest ih =>
    rw [pick_acceptLoop_cons, List.map_append, ih, List.flatMap_cons]
    simp [Function.comp_def]

theorem spawned_acceptLoop (clock : Nat) (outcomes : List (Nat × Attempt α)) :
    (pick spawned? (acceptLoop clock outcomes)).map Prod.snd =
      outcomes.filterMap fun o => o.2.connection? := by
  rw [pick_acceptLoop, List.filterMap_eq_flatMap_toList]
  simp only [Attempt.spawned_reactions]

theorem warnings_acceptLoop (clock : Nat) (outcomes : List (Nat × Attempt α)) :
    (pick warning? (acceptLoop clock outcomes)).map Prod.snd =
      outcomes.filterMap fun o => o.2.error? := by
  rw [pick_acceptLoop, List.filterMap_eq_flatMap_toList]
  simp only [Attempt.warnings_reactions]

theorem pauses_acceptLoop (clock : Nat) (outcomes : List (Nat × Attempt α)) :
    (pick pause? (acceptLoop clock outcomes)).map Prod.snd =
      (outcomes.filterMap fun o => o.2.error?).map fun _ => acceptBackoff := by
  rw [pick_acceptLoop, List.filterMap_eq_flatMap_toList, List.map_flatMap]
  simp only [Attempt.pauses_reactions]

/-- One attempt for each outcome, and the one that the loop still waits for. -/
theorem attempts_acceptLoop (clock : Nat) (outcomes : List (Nat × Attempt α)) :
    (acceptLoop clock outcomes).countP (fun d => d.2 matches .attempt) = outcomes.length + 1 := by
  induction outcomes generalizing clock with
  | nil => rfl
  | cons first rest ih =>
    obtain ⟨wait, c | e⟩ := first
    · rw [acceptLoop_accepted, List.countP_cons, List.countP_cons, ih]
      rfl
    · rw [acceptLoop_failed, List.countP_cons, List.countP_cons, List.countP_cons, ih]
      rfl

/-- The failed attempts are those behind which there is a warning. -/
theorem failedSpans_acceptLoop (clock : Nat) (outcomes : List (Nat × Attempt α)) :
    (failedSpans (acceptLoop clock outcomes)).map Prod.snd =
      (pick warning? (acceptLoop clock outcomes)).map Prod.fst := by
  induction outcomes generalizing clock with
  | nil => rfl
  | cons first rest ih =>
    obtain ⟨wait, a⟩ := first
    rw [pick_acceptLoop_cons, List.map_append, ← ih]
    cases a with
    | accepted c => rfl
    | failed e => rfl

/-- No failed attempt begins before the pause behind the one before it is over. -/
theorem failedSpans_spaced (clock : Nat) (outcomes : List (Nat × Attempt α)) :
    (∀ x ∈ failedSpans (acceptLoop clock outcomes), clock ≤ x.1 ∧ x.1 ≤ x.2) ∧
    (failedSpans (acceptLoop clock outcomes)).Pairwise fun x y => x.2 + acceptBackoff ≤ y.1 := by
  induction outcomes generalizing clock with
  | nil => simp [failedSpans]
  | cons first rest ih =>
    obtain ⟨wait, c | e⟩ := first
    · obtain ⟨inside, spaced⟩ := ih (clock + wait)
      refine ⟨fun x here => ?_, spaced⟩
      have := inside x here
      omega
    · obtain ⟨inside, spaced⟩ := ih (clock + wait + acceptBackoff)
      constructor
      · intro x here
        rcases List.mem_cons.1 here with rfl | here
        · simp
        · have := inside x here
          omega
      · exact List.pairwise_cons.2 ⟨fun y here => (inside y here).1, spaced⟩

/-- Spans with gaps between them leave room for so many of them in a stretch of time. -/
theorem length_le_of_spaced {gap since until' : Nat} {spans : List (Nat × Nat)}
    (order : ∀ x ∈ spans, x.1 ≤ x.2) (spaced : spans.Pairwise fun x y => x.2 + gap ≤ y.1)
    (inside : ∀ x ∈ spans, since ≤ x.2 ∧ x.1 ≤ until') (le : since ≤ until') :
    spans.length * gap + since ≤ until' + gap := by
  induction spans generalizing since with
  | nil => simpa using Nat.le_trans le (Nat.le_add_right _ _)
  | cons x rest ih =>
    obtain ⟨first, others⟩ := List.forall_mem_cons.1 inside
    obtain ⟨behind, spaced⟩ := List.pairwise_cons.1 spaced
    have more : (x :: rest).length * gap = rest.length * gap + gap := by
      rw [List.length_cons, Nat.succ_mul]
    cases hr : rest with
    | nil => simpa using Nat.add_comm gap since ▸ Nat.add_le_add_right le gap
    | cons y _ =>
      -- the others are inside of what is left of the stretch behind the first gap
      have here : y ∈ rest := by simp [hr]
      have left : ∀ z ∈ rest, x.2 + gap ≤ z.2 ∧ z.1 ≤ until' := by
        intro z hz
        have := behind z hz
        have := order z (List.mem_cons_of_mem _ hz)
        exact ⟨by omega, (others z hz).2⟩
      have room := ih (fun z hz => order z (List.mem_cons_of_mem _ hz)) spaced left
        (Nat.le_trans (behind y here) (others y here).2)
      rw [← hr, more]
      omega

/-- However many attempts there are, in a stretch of so many milliseconds there is at most one
failed attempt for each pause that fits in, and one more. -/
theorem failedSpans_within (clock : Nat) (outcomes : List (Nat × Attempt α)) (since T : Nat) :
    ((failedSpans (acceptLoop clock outcomes)).filter fun x =>
      since ≤ x.2 ∧ x.1 ≤ since + T).length ≤ T / 100 + 1 := by
  obtain ⟨inside, spaced⟩ := failedSpans_spaced clock outcomes
  let touches : Nat × Nat → Bool := fun x => since ≤ x.2 ∧ x.1 ≤ since + T
  have order : ∀ x ∈ (failedSpans (acceptLoop clock outcomes)).filter touches, x.1 ≤ x.2 :=
    fun x here => (inside x (List.mem_filter.1 here).1).2
  have touched : ∀ x ∈ (failedSpans (acceptLoop clock outcomes)).filter touches,
      since ≤ x.2 ∧ x.1 ≤ since + T :=
    fun x here => of_decide_eq_true (List.mem_filter.1 here).2
  have room := length_le_of_spaced order (spaced.filter touches) touched (Nat.le_add_right _ _)
  rw [acceptBackoff] at room
  change ((failedSpans (acceptLoop clock outcomes)).filter touches).length ≤ T / 100 + 1
  omega

/-- So many warnings at most are given in a stretch of time. -/
theorem warnings_within (clock : Nat) (outcomes : List (Nat × Attempt α)) (since T : Nat) :
    ((pick warning? (acceptLoop clock outcomes)).filter fun w =>
      since ≤ w.1 ∧ w.1 ≤ since + T).length ≤ T / 100 + 1 := by
  obtain ⟨inside, -⟩ := failedSpans_spaced clock outcomes
  let within : Nat → Bool := fun time => since ≤ time ∧ time ≤ since + T
  have fewer : ((failedSpans (acceptLoop clock outcomes)).filter fun x => within x.2).length ≤
      ((failedSpans (acceptLoop clock outcomes)).filter fun x =>
        since ≤ x.2 ∧ x.1 ≤ since + T).length := by
    rw [← List.countP_eq_length_filter, ← List.countP_eq_length_filter]
    refine List.countP_mono_left fun x here fails => ?_
    have := (inside x here).2
    simp only [within, decide_eq_true_eq] at fails ⊢
    omega
  calc
    _ = (((pick warning? (acceptLoop clock outcomes)).map Prod.fst).filter within).length := by
      rw [List.filter_map, List.length_map]
      rfl
    _ = ((failedSpans (acceptLoop clock outcomes)).filter fun x => within x.2).length := by
      rw [← failedSpans_acceptLoop, List.filter_map, List.length_map]
      rfl
    _ ≤ _ := fewer
    _ ≤ T / 100 + 1 := failedSpans_within clock outcomes since T

end CannedReply
