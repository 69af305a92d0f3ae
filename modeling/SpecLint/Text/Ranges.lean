/-!
# Character classes as ranges of code points

A class is a list of closed ranges in ascending order. Membership stops at the first range that
ends at or after the code point, so characters near the start of the table are found at once.
-/
namespace SpecLint.Text

/-- Membership of a code point in an ascending list of closed ranges. -/
def inRanges : List (Nat × Nat) → Nat → Bool
  | [], _ => false
  | (low, high) :: rest, code => if code ≤ high then low ≤ code else inRanges rest code

/-- A member lies between the ends of one of the ranges. -/
theorem exists_range_of_inRanges {ranges : List (Nat × Nat)} {code : Nat}
    (member : inRanges ranges code = true) :
    ∃ range ∈ ranges, range.1 ≤ code ∧ code ≤ range.2 := by
  induction ranges with
  | nil => simp [inRanges] at member
  | cons range rest ih =>
    obtain ⟨low, high⟩ := range
    simp only [inRanges] at member
    split at member
    next below => exact ⟨(low, high), by simp, by simpa using member, below⟩
    next =>
      obtain ⟨found, present, bounds⟩ := ih member
      exact ⟨found, by simp [present], bounds⟩

end SpecLint.Text
