/-!
# Sets of code points

A property of characters is given by the code points that have it, as ranges in ascending order.

## Main definitions

* `Text.CodePoints` — such ranges
* `Text.CodePoints.contains` — whether a character has the property
-/

namespace IncomeTax.Text

/-- Ranges of code points, each as its first and last one. -/
abbrev CodePoints := List (Nat × Nat)

/-- Whether the character is in one of the ranges. -/
def CodePoints.contains (ranges : CodePoints) (c : Char) : Bool :=
  ranges.any fun (first, last) => first ≤ c.toNat && c.toNat ≤ last

end IncomeTax.Text
