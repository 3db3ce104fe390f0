import Reconcile.Domain.Mapping
import Reconcile.Domain.Punycode
import Reconcile.Domain.Writing

/-!
# Names of hosts

Reference model of how `Url::parse` brings the name of a host into ASCII form: characters are
mapped, the text is composed, labels are decoded and checked, and each is encoded.

* `Domain.labelOf?` — the label that a label in ASCII form stands for.
* `Domain.isLabel` — what labels have to be like.
* `Domain.toAscii?` — the ASCII form of a name, in small letters; nothing for a name that no host
  may have.

Left out: which rule a name breaks; an address with such a name fails in one way only.
-/

namespace Reconcile.Domain

/-- Characters that no name may have: blanks, control characters and those with a meaning of
their own in addresses. -/
def isForbidden (c : Char) : Bool :=
  c.toNat ≤ 0x20 || c.toNat == 0x7F || "%#/:<>?@[\\]^|".toList.contains c

/-- Whether a text is all ASCII. -/
def isAscii (cs : List Char) : Bool :=
  cs.all fun c => c.toNat < 0x80

/-- The longest label that is put into ASCII form. -/
def longestLabel : Nat := 1000

/-- The label that a label in ASCII form stands for. It has to be one that needs that form. -/
def labelOf? : List Char → Option (List Char)
  | 'x' :: 'n' :: '-' :: '-' :: cs => do
    let label ← if cs.length ≤ 2 * longestLabel then Punycode.decode? cs else none
    if !isAscii label && label.all isStable && Text.normalize label == label then some label
    else none
  | label => some label

/-- The ASCII form of a label. -/
def asciiOf? (label : List Char) : Option (List Char) :=
  if isAscii label then some label
  else if label.length ≤ longestLabel then
    some ('x' :: 'n' :: '-' :: '-' :: Punycode.encode label)
  else none

/-- What labels have to be like, in a name with a part from right to left or without. -/
def isLabel (rightToLeft : Bool) (label : List Char) : Bool :=
  !label.any isForbidden && !(label.head?.map isMark).getD false && joinsWell label &&
    (!rightToLeft || keepsDirection label)

/-- The labels of a name that a text stands for. -/
def labels? (cs : List Char) : Option (List (List Char)) := do
  let images ← cs.mapM image?
  ((Text.normalize images.flatten).splitOn '.').mapM labelOf?

/-- The ASCII form of a name. -/
def toAscii? (s : String) : Option String := do
  let labels ← labels? s.toList
  let rightToLeft := labels.any hasRightToLeft
  if labels.all (isLabel rightToLeft) then
    let folded ← labels.mapM asciiOf?
    some (String.ofList (".".toList.intercalate folded))
  else none

end Reconcile.Domain
