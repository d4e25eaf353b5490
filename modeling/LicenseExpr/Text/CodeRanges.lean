/-!
# Sets of code points

A set of characters is written down as a list of inclusive ranges of code
points, the way character tables are published. Characters are Unicode scalar
values throughout: a surrogate is a code point but no character, so no text has
a surrogate in it, and a range that covers surrogates says nothing about them.
-/

namespace LicenseExpr.Text

abbrev CodeRanges := List (Nat × Nat)

namespace CodeRanges

/-- Whether some range of the set holds the character. -/
def has (ranges : CodeRanges) (char : Char) : Bool :=
  ranges.any fun range => range.1 ≤ char.toNat && char.toNat ≤ range.2

theorem has_iff (ranges : CodeRanges) (char : Char) :
    ranges.has char = true ↔
      ∃ range ∈ ranges, range.1 ≤ char.toNat ∧ char.toNat ≤ range.2 := by
  simp [has]

end CodeRanges

end LicenseExpr.Text
