/-!
# Spans of code points

A property of characters is stored as an ascending list of arithmetic progressions.

* `Span.contains`: membership in one progression
* `spansContain`: membership in an ascending list, which stops at the first span past the point
-/
namespace Routing.Unicode

/-- The code points `first`, `first + step`, … up to `last`. -/
structure Span where
  first : Nat
  last : Nat
  step : Nat
  deriving DecidableEq, Repr

namespace Span

def contains (s : Span) (n : Nat) : Bool :=
  decide (s.first ≤ n) && decide (n ≤ s.last) && (n - s.first) % s.step == 0

end Span

/-- Membership in a list of spans in ascending order, no two of which overlap. -/
def spansContain : List Span → Nat → Bool
  | [], _ => false
  | s :: rest, n =>
    if n < s.first then false
    else if n ≤ s.last then (n - s.first) % s.step == 0
    else spansContain rest n

end Routing.Unicode
