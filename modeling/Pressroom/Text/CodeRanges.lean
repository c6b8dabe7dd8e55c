/-!
Sets of characters, given as closed ranges of code points. The character classes of the markup and
of the expression language are tables of this shape; membership is decided by going through the
ranges.
-/

namespace Pressroom.Text

/-- A set of code points as a list of closed ranges. -/
abbrev CodeRanges := List (Nat × Nat)

def CodeRanges.has (ranges : CodeRanges) (c : Char) : Bool :=
  ranges.any fun range => range.1 ≤ c.toNat && c.toNat ≤ range.2

theorem CodeRanges.has_iff {ranges : CodeRanges} {c : Char} :
    ranges.has c = true ↔ ∃ range ∈ ranges, range.1 ≤ c.toNat ∧ c.toNat ≤ range.2 := by
  simp [CodeRanges.has]

end Pressroom.Text
