import Reconcile.Domain.WritingTable
import Reconcile.Text.Ascii
import Reconcile.Text.Composition
import Reconcile.Text.Ranges

/-!
# How labels are written

The rules that `Url::parse` checks labels against once they are mapped and decoded.

* `isMark` — characters that belong to the one before them; no label starts with one.
* `Direction`, `direction` — the direction in which a character is written.
* `keepsDirection` — the rule for labels in a name with parts from right to left: a label has
  one direction throughout and at its ends.
* `joinsWell` — the rule for the characters that join letters or keep them apart.
-/

namespace Reconcile.Domain

open Text (inRanges)

/-- A character that belongs to the one before it. -/
def isMark (c : Char) : Bool :=
  inRanges c.toNat markRanges || inRanges c.toNat spacingMarkRanges

/-! ## Direction -/

/-- The direction in which a character is written. -/
inductive Direction where
  | leftToRight
  | rightToLeft
  | europeanNumber
  | arabicNumber
  | neutral
  | mark
  deriving DecidableEq, Repr

/-- The direction in which a character is written. -/
def direction (c : Char) : Direction :=
  let n := c.toNat
  if n < 0x80 then
    if Text.isLetter c then .leftToRight
    else if Text.isDigit c then .europeanNumber
    else .neutral
  else if inRanges n markRanges then .mark
  else if inRanges n rightToLeftRanges || inRanges n arabicLetterRanges then .rightToLeft
  else if inRanges n arabicNumberRanges then .arabicNumber
  else if inRanges n europeanNumberRanges then .europeanNumber
  else if inRanges n neutralRanges then .neutral
  else .leftToRight

/-- Whether a name has a part that is written from right to left. -/
def hasRightToLeft (cs : List Char) : Bool :=
  cs.any fun c => direction c == .rightToLeft || direction c == .arabicNumber

/-- Whether a label has one direction throughout and at its ends. -/
def keepsDirection (label : List Char) : Bool :=
  let ds := label.map direction
  let final := (ds.reverse.dropWhile (· == .mark)).head?
  match ds.head? with
  | none => true
  | some .rightToLeft =>
    !ds.contains .leftToRight &&
      (final == some .rightToLeft || final == some .europeanNumber ||
        final == some .arabicNumber) &&
      !(ds.contains .europeanNumber && ds.contains .arabicNumber)
  | some .leftToRight =>
    !ds.contains .rightToLeft && !ds.contains .arabicNumber &&
      (final == some .leftToRight || final == some .europeanNumber)
  | some _ => false

/-! ## Joining -/

/-- Marks that let letters join across them, although they take up room. -/
def transparentMarks : List Nat :=
  [0xCBF, 0xCC6, 0x11A07, 0x11A08, 0x11C3F, 0x1E94B]

/-- A character that lets letters join across it. -/
def isTransparent (c : Char) : Bool :=
  inRanges c.toNat markRanges || transparentMarks.contains c.toNat

/-- A letter that joins the one after it. -/
def joinsAfter (c : Char) : Bool :=
  inRanges c.toNat joinsAfterRanges || inRanges c.toNat joinsBothRanges

/-- A letter that joins the one before it. -/
def joinsBefore (c : Char) : Bool :=
  inRanges c.toNat joinsBeforeRanges || inRanges c.toNat joinsBothRanges

/-- The class of the signs that take the vowel from a letter. -/
def viramaClass : Nat := 9

/-- Whether a character may join letters or keep them apart, after `before`, which is backwards,
and before `after`. -/
def mayStand (before : List Char) (c : Char) (after : List Char) : Bool :=
  let afterVirama := match before with
    | v :: _ => Text.combiningClass v == viramaClass
    | [] => false
  let between :=
    ((before.dropWhile isTransparent).head?.map joinsAfter).getD false &&
      ((after.dropWhile isTransparent).head?.map joinsBefore).getD false
  if c.toNat == 0x200C then afterVirama || between
  else if c.toNat == 0x200D then afterVirama
  else true

/-- The rule for joining, after `before`, which is backwards. -/
def joinsWellAfter (before : List Char) : List Char → Bool
  | [] => true
  | c :: rest => mayStand before c rest && joinsWellAfter (c :: before) rest

/-- The rule for the characters that join letters or keep them apart. -/
def joinsWell (label : List Char) : Bool :=
  joinsWellAfter [] label

end Reconcile.Domain
