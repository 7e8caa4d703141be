import Mathlib.Data.List.Basic

/-!
What it says of a computation that may fail that it has not failed: none of its steps has.
-/

namespace CannedReply

variable {ε α β γ σ : Type}

theorem then_eq_ok_iff {x : Except ε α} {f : α → Except ε β} {b : β} :
    (x >>= f) = .ok b ↔ ∃ a, x = .ok a ∧ f a = .ok b := by
  cases x with
  | error e => simp [bind, Except.bind]
  | ok a => simp [bind, Except.bind]

/-- What follows a check has not failed only if the check has not. -/
theorem checked_eq_ok_iff {failed : Bool} {e : ε} {x : Except ε β} {v : β} :
    (do
      if failed then throw e
      x) = .ok v ↔ failed = false ∧ x = .ok v := by
  cases failed with
  | true => simp [throw, throwThe, MonadExceptOf.throw, bind, Except.bind]
  | false => simp

theorem mapError_eq_ok_iff {f : α → β} {x : Except α γ} {v : γ} :
    x.mapError f = .ok v ↔ x = .ok v := by
  cases x <;> simp [Except.mapError]

/-- What has been taken with the others has been taken from somewhere to somewhere. -/
theorem exists_of_foldlM {f : σ → α → Except ε σ} {xs : List α} {s t : σ} {x : α}
    (done : xs.foldlM f s = .ok t) (mem : x ∈ xs) : ∃ u v, f u x = .ok v := by
  induction xs generalizing s with
  | nil => cases mem
  | cons first xs ih =>
    rw [List.foldlM_cons] at done
    obtain ⟨u, one, rest⟩ := then_eq_ok_iff.1 done
    rcases List.mem_cons.1 mem with rfl | mem
    · exact ⟨s, u, one⟩
    · exact ih rest mem

end CannedReply
