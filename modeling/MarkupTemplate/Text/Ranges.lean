/-!
# Ranges of code points

Character properties are tables of inclusive ranges in ascending order.
-/

namespace MarkupTemplate.Text

/-- Whether a code point lies in one of the ranges of an ascending table. The
search ends at the first range that starts beyond it. -/
def inRanges : List (Nat × Nat) → Nat → Bool
  | [], _ => false
  | (first, last) :: ranges, code =>
      if code < first then false
      else if code ≤ last then true
      else inRanges ranges code

end MarkupTemplate.Text
