/-
# Responder.Text.Ranges -- sets of characters as sorted ranges

A character class of the Unicode standard is a list of ranges of code points,
ends included, in increasing order; `contains` stops at the first range that
starts above the code point.
-/

namespace Responder.Text

set_option autoImplicit false

/-- Ranges of code points in increasing order, ends included. -/
abbrev Ranges := List (Nat × Nat)

namespace Ranges

/-- Whether one of the ranges holds a code point. -/
def contains : Ranges → Nat → Bool
  | [], _ => false
  | (low, high) :: rest, n => if n < low then false else n ≤ high || contains rest n

end Ranges

end Responder.Text
