import Reconcile.Text.Ascii

/-!
# Labels in ASCII

The form in which `Url::parse` writes labels with characters beyond ASCII.

A label with other characters is written in two parts: its ASCII characters, and after a hyphen
the others in ascending order, each as the distance from the one before it. Distances are numbers
of base 36 with digits of varying weight, the lowest first.

* `threshold`, `adapt` — the weights, and how they follow the distances.
* `encode` — the ASCII form of a label.
* `decode?` — the label of an ASCII form.
-/

namespace Reconcile.Domain.Punycode

/-! ## Digits -/

/-- The digit of a value below 36: letters and then figures. -/
def digit (n : Nat) : Char :=
  if n < 26 then Char.ofNat (97 + n) else Char.ofNat (22 + n)

/-- The value of a digit. -/
def digitValue? (c : Char) : Option Nat :=
  if 'a' ≤ c && c ≤ 'z' then some (c.toNat - 97)
  else if Text.isDigit c then some (c.toNat - 22)
  else none

/-- A digit below this value is the last of its number. -/
def threshold (bias place : Nat) : Nat :=
  min 26 (max 1 (place - bias))

theorem threshold_pos (bias place : Nat) : 1 ≤ threshold bias place := by
  unfold threshold
  omega

/-- A distance made small, and how many steps that took, each worth 36. -/
def shrink (delta steps : Nat) : Nat × Nat :=
  if 455 < delta then shrink (delta / 35) (steps + 36) else (delta, steps)
  termination_by delta
  decreasing_by omega

/-- The bias after a distance, when there are `count` characters. -/
def adapt (delta count : Nat) (isFirst : Bool) : Nat :=
  let delta := if isFirst then delta / 700 else delta / 2
  let (delta, steps) := shrink (delta + delta / count) 0
  steps + 36 * delta / (delta + 38)

/-! ## Writing -/

/-- The digits of a number, from the digit of a place on. -/
def digits (bias place n : Nat) : List Char :=
  let t := threshold bias place
  if n < t then [digit n]
  else digit (t + (n - t) % (36 - t)) :: digits bias (place + 36) ((n - t) / (36 - t))
  termination_by n
  decreasing_by
    have := threshold_pos bias place
    have := Nat.div_le_self (n - threshold bias place) (36 - threshold bias place)
    omega

/-- A label that is being written. -/
structure Writing where
  /-- The digits so far, backwards. -/
  written : List Char := []
  delta : Nat := 0
  bias : Nat := 72
  /-- How many characters are written. -/
  count : Nat
  isFirst : Bool := true

/-- Passes a character of the label while characters `n` are written. -/
def Writing.pass (n : Nat) (w : Writing) (c : Char) : Writing :=
  if c.toNat < n then { w with delta := w.delta + 1 }
  else if c.toNat == n then
    { written := (digits w.bias 36 w.delta).reverse ++ w.written
      delta := 0
      bias := adapt w.delta (w.count + 1) w.isFirst
      count := w.count + 1
      isFirst := false }
  else w

/-- Writes all characters of a label that are in a list of ascending numbers, the first of which
is at least `n`. -/
def Writing.all (label : List Char) : Nat → List Nat → Writing → Writing
  | _, [], w => w
  | n, m :: rest, w =>
    let w := { w with delta := w.delta + (m - n) * (w.count + 1) }
    let w := label.foldl (Writing.pass m) w
    Writing.all label (m + 1) rest { w with delta := w.delta + 1 }

/-- The ASCII form of a label. -/
def encode (label : List Char) : List Char :=
  let basic := label.filter fun c => c.toNat < 0x80
  let others := (label.map Char.toNat).filter (0x80 ≤ ·)
  let w := Writing.all label 0x80 (others.mergeSort.eraseDups) { count := basic.length }
  basic ++ (if basic.isEmpty then [] else ['-']) ++ w.written.reverse

/-! ## Reading -/

/-- A label that is being read. -/
structure Reading where
  label : List Char
  /-- The number of the character that was put in last. -/
  code : Nat := 0x80
  /-- Where the next character goes, counted on through all numbers. -/
  index : Nat := 0
  bias : Nat := 72
  /-- The index before the distance that is being read. -/
  start : Nat := 0
  weight : Nat := 1
  place : Nat := 36

/-- Whether a number is that of a character. -/
def isCharacter (n : Nat) : Bool :=
  n < 0xD800 || (0xDFFF < n && n < 0x110000)

/-- Puts in the character that a distance leads to. -/
def Reading.insert? (r : Reading) : Option Reading :=
  let count := r.label.length + 1
  let code := r.code + r.index / count
  let spot := r.index % count
  if isCharacter code then
    some
      { label := r.label.take spot ++ Char.ofNat code :: r.label.drop spot
        code
        index := spot + 1
        bias := adapt (r.index - r.start) count (r.start == 0)
        start := spot + 1 }
  else none

/-- One more digit. -/
def Reading.digit? (r : Reading) (c : Char) : Option Reading := do
  let d ← digitValue? c
  let t := threshold r.bias r.place
  let r := { r with index := r.index + d * r.weight }
  if r.index ≥ 1 <<< 32 then none
  else if d < t then r.insert?
  else some { r with weight := r.weight * (36 - t), place := r.place + 36 }

/-- The ASCII characters and the digits, which stand after the last hyphen if there is something
before it. -/
def splitDigits (cs : List Char) : List Char × List Char :=
  match cs.reverse.span (· != '-') with
  | (digits, _ :: c :: before) => ((c :: before).reverse, digits.reverse)
  | _ => ([], cs)

/-- The label of an ASCII form. A number may not end amid its digits. -/
def decode? (cs : List Char) : Option (List Char) := do
  let (basic, digits) := splitDigits cs
  let r ← digits.foldlM Reading.digit? { label := basic }
  if r.place == 36 then some r.label else none

end Reconcile.Domain.Punycode
