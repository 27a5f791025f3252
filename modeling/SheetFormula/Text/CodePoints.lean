/-!
# Sets of code points

A property of characters that is defined by a table is written as the list of its closed ranges of
code points.
-/

namespace SheetFormula.Text

/-- A set of code points as closed ranges. -/
abbrev CodeRanges := List (Nat × Nat)

/-- Whether the code point `n` lies in one of the ranges. -/
def CodeRanges.has (ranges : CodeRanges) (n : Nat) : Bool :=
  ranges.any fun range => range.1 ≤ n && n ≤ range.2

theorem CodeRanges.has_iff {ranges : CodeRanges} {n : Nat} :
    ranges.has n = true ↔ ∃ range ∈ ranges, range.1 ≤ n ∧ n ≤ range.2 := by
  simp [CodeRanges.has]

end SheetFormula.Text
