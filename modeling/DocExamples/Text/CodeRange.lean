/-!
Sets of characters given by closed intervals of code points, the form in which the tables of this
library are written.
-/

namespace DocExamples.Text

/-- Holds of a character whose code point lies in one of the intervals, which are listed in
increasing order. -/
def inRanges (c : Char) : List (Nat × Nat) → Bool
  | [] => false
  | (first, last) :: more =>
    if c.toNat < first then false
    else if c.toNat ≤ last then true
    else inRanges c more

end DocExamples.Text
