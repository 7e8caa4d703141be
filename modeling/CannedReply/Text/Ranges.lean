/-!
Sets of characters given as ranges of code points.
-/

namespace CannedReply.Text

abbrev Ranges := List (Nat × Nat)

def Ranges.holds (rs : Ranges) (c : Char) : Bool :=
  rs.any fun (low, high) => low ≤ c.toNat && c.toNat ≤ high

theorem Ranges.holds_iff (rs : Ranges) (c : Char) :
    rs.holds c ↔ ∃ r ∈ rs, r.1 ≤ c.toNat ∧ c.toNat ≤ r.2 := by
  simp [Ranges.holds]

end CannedReply.Text
