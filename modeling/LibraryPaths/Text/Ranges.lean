/-!
# Tables of code point ranges

A character class is written as a list of ranges in ascending order.  `covers` stops at the first range
that begins above the number asked for, so characters early in the table are cheap to look up.
-/

set_option autoImplicit false

namespace LibraryPaths

/-- Whether one of the ranges, which ascend, contains the number; both ends belong to a range. -/
def covers : List (Nat × Nat) → Nat → Bool
  | [], _ => false
  | (low, high) :: ranges, n => if n < low then false else decide (n ≤ high) || covers ranges n

end LibraryPaths
