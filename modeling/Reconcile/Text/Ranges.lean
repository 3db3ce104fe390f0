/-!
# Ranges of characters

* `inRanges` — whether a number lies in one of some ranges; both ends belong to a range.
-/

namespace Reconcile.Text

/-- Whether a number lies in one of some ranges. -/
def inRanges (n : Nat) (ranges : List (Nat × Nat)) : Bool :=
  ranges.any fun r => r.1 ≤ n && n ≤ r.2

end Reconcile.Text
