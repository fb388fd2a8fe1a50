/-
# Sets of code points

Character classes of the Unicode standard are long lists of intervals.  A class is written as a
list of `(first, last)` pairs in ascending order, and membership stops at the first interval that
begins after the code point.
-/
namespace StoredFunctions

/-- A set of code points: ascending intervals, both ends included. -/
abbrev CodePointRanges := List (Nat × Nat)

namespace CodePointRanges

/-- Whether a code point lies in one of the intervals. -/
def contains : CodePointRanges → Nat → Bool
  | [], _ => false
  | (first, last) :: more, n => if n < first then false else n ≤ last || contains more n

end CodePointRanges

end StoredFunctions
