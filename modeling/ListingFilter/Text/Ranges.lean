/-!
# Sets of characters given by intervals of code points

The character classes of the filter language come from the Unicode character database (version 14).
A class is written as the list of its maximal intervals of code points, in ascending order.
-/

namespace ListingFilter.Text

/-- A set of code points, given by closed intervals. -/
abbrev CodeRanges := List (Nat × Nat)

/-- The code point of `c` lies in one of the intervals. -/
def CodeRanges.has (ranges : CodeRanges) (c : Char) : Bool :=
  ranges.any fun range => range.1 ≤ c.toNat && c.toNat ≤ range.2

theorem CodeRanges.has_nil (c : Char) : CodeRanges.has [] c = false := rfl

theorem CodeRanges.has_cons (first last : Nat) (ranges : CodeRanges) (c : Char) :
    CodeRanges.has ((first, last) :: ranges) c =
      ((decide (first ≤ c.toNat) && decide (c.toNat ≤ last)) || ranges.has c) := rfl

end ListingFilter.Text
