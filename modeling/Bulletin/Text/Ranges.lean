namespace Bulletin.Text

/-- Ranges of code points, each by its first and its last, in ascending order. -/
abbrev Ranges := List (Nat × Nat)

namespace Ranges

def holds (ranges : Ranges) (c : Char) : Bool :=
  match ranges.find? (c.toNat ≤ ·.2) with
  | some range => range.1 ≤ c.toNat
  | none => false

variable {ranges : Ranges} {first last : Nat} {c : Char}

theorem holds_cons_of_lt (h : last < c.toNat) :
    holds ((first, last) :: ranges) c = ranges.holds c := by
  simp [holds, Nat.not_le.mpr h]

theorem holds_cons_of_le (h : c.toNat ≤ last) :
    holds ((first, last) :: ranges) c = decide (first ≤ c.toNat) := by
  simp [holds, h]

theorem exists_of_holds (h : ranges.holds c = true) :
    ∃ range ∈ ranges, range.1 ≤ c.toNat ∧ c.toNat ≤ range.2 := by
  unfold holds at h
  split at h
  · rename_i range hfind
    have hlast := List.find?_some hfind
    exact ⟨range, List.mem_of_find?_eq_some hfind, of_decide_eq_true h, of_decide_eq_true hlast⟩
  · cases h

end Ranges

end Bulletin.Text
