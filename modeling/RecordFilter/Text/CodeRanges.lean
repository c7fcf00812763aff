/-!
# Sets of characters as ranges of codes
-/

namespace RecordFilter

/-- Ranges of character codes, ends included, in increasing order. -/
abbrev CodeRanges := List (Nat × Nat)

namespace CodeRanges

/-- Whether a code lies in one of the ranges. -/
def contains : CodeRanges → Nat → Bool
  | [], _ => false
  | (first, last) :: rest, code =>
    if code < first then false else if code ≤ last then true else contains rest code

end CodeRanges

end RecordFilter
