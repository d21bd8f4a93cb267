/-!
# Sets of characters

A property of characters is given by a table of ranges of code points. The tables of this library
are those of Unicode 17.
-/

namespace MailSearch.Text

/-- The code point of the character lies in one of the ranges, their ends included. -/
def inRanges (ranges : List (Nat × Nat)) (c : Char) : Bool :=
  ranges.any fun r => r.1 ≤ c.toNat && c.toNat ≤ r.2

end MailSearch.Text
