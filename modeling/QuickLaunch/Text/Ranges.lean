/-!
# Ranges of character numbers

A class of characters is a list of ranges of character numbers, both ends included.
-/

namespace QuickLaunch.Text

/-- The first and the last number of a range. -/
abbrev Range := Nat × Nat

/-- The number lies in the range. -/
def Range.holds (r : Range) (n : Nat) : Bool :=
  decide (r.1 ≤ n) && decide (n ≤ r.2)

/-- The number lies in one of the ranges. -/
def inRanges (rs : List Range) (n : Nat) : Bool :=
  rs.any (Range.holds · n)

theorem inRanges_iff {rs : List Range} {n : Nat} :
    inRanges rs n = true ↔ ∃ r ∈ rs, r.1 ≤ n ∧ n ≤ r.2 := by
  simp [inRanges, Range.holds]

end QuickLaunch.Text
