/-!
Membership of a code point in an ascending table of closed ranges. The scan stops at the
first range that begins above the code point, so the answer needs the table to ascend.
-/

namespace AccessWeave.Text

def withinRanges : List (Nat × Nat) → Nat → Bool
  | [], _ => false
  | (first, last) :: ranges, code =>
      if code < first then false
      else if code ≤ last then true
      else withinRanges ranges code

end AccessWeave.Text
