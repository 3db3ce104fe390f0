import Reconcile.Domain.MappingTable
import Reconcile.Text.Ascii
import Reconcile.Text.Ranges

/-!
# What characters stand for in names of hosts

The first step that `Url::parse` takes with the name of a host.

* `image?` — what a character stands for: itself, others or nothing; no name may have it when
  there is no image.
* `isStable` — a character that stands for itself.
-/

namespace Reconcile.Domain

/-- What a character of a range with a step stands for. -/
def shifted? (n : Nat) : Option Nat :=
  (shiftedRanges.find? fun r =>
    r.1 ≤ n && n ≤ r.2.1 && (n - r.1) % r.2.2.1 == 0).map fun r => r.2.2.2 + (n - r.1)

/-- What a character stands for. -/
def image? (c : Char) : Option (List Char) :=
  let n := c.toNat
  if n < 0x80 then some [Text.lowerChar c]
  else if Text.inRanges n disallowedRanges then none
  else if Text.inRanges n ignoredRanges then some []
  else
    match shifted? n with
    | some m => some [Char.ofNat m]
    | none =>
      match replacedByOne.find? fun e => e.1 == n with
      | some (_, m) => some [Char.ofNat m]
      | none =>
        match replacedBySeveral.find? fun e => e.1 == n with
        | some (_, ms) => some (ms.map Char.ofNat)
        | none => some [c]

/-- A character that stands for itself. -/
def isStable (c : Char) : Bool :=
  image? c == some [c]

end Reconcile.Domain
