/-!
# Closed ranges of code points

A property of characters is kept as the list of closed ranges of code points that have it.
-/

namespace PromptPress.Text

/-- Closed ranges `(first, last)` of code points, in increasing order. -/
abbrev Ranges := List (Nat × Nat)

/-- Whether some range holds the code point. -/
def Ranges.holds (ranges : Ranges) (code : Nat) : Bool :=
  ranges.any fun range => range.1 ≤ code && code ≤ range.2

theorem Ranges.holds_iff {ranges : Ranges} {code : Nat} :
    ranges.holds code = true ↔ ∃ range ∈ ranges, range.1 ≤ code ∧ code ≤ range.2 := by
  simp [Ranges.holds]

end PromptPress.Text
