import Reconcile.Text.CompositionTable

/-!
# Composed characters

The composed form into which `Url::parse` brings the names of hosts.

* `combiningClass` — how a mark is placed; letters have class 0.
* `decompose` — every composed character replaced by what it is composed of, and the marks of
  each letter put into the order of their classes.
* `compose` — every letter joined with the marks that have a composed character with it.
* `normalize` — the composed form of a text; texts that look alike have the same one.
-/

namespace Reconcile.Text

/-- How a mark is placed; letters have class 0. -/
def combiningClass (c : Char) : Nat :=
  let n := c.toNat
  if n < 0x300 then 0
  else ((combiningClasses.find? fun r => r.1 ≤ n && n ≤ r.2.1).map fun r => r.2.2).getD 0

/-! ## Korean syllables -/

/-- The letters of a syllable. -/
def syllableLetters? (c : Char) : Option (List Char) :=
  let n := c.toNat
  if 0xAC00 ≤ n && n < 0xAC00 + 11172 then
    let i := n - 0xAC00
    let first := [Char.ofNat (0x1100 + i / 588), Char.ofNat (0x1161 + i % 588 / 28)]
    some (if i % 28 == 0 then first else first ++ [Char.ofNat (0x11A7 + i % 28)])
  else none

/-- A syllable of two letters, or of a syllable without an end and a last letter. -/
def syllable? (a b : Char) : Option Char :=
  let m := a.toNat
  let n := b.toNat
  if 0x1100 ≤ m && m < 0x1113 && 0x1161 ≤ n && n < 0x1176 then
    some (Char.ofNat (0xAC00 + ((m - 0x1100) * 21 + (n - 0x1161)) * 28))
  else if 0xAC00 ≤ m && m < 0xAC00 + 11172 && (m - 0xAC00) % 28 == 0 &&
      0x11A7 < n && n < 0x11C3 then
    some (Char.ofNat (m + (n - 0x11A7)))
  else none

/-! ## Taking apart -/

/-- The parts of a character, those of its first part not taken apart. -/
def parts (c : Char) : List Char :=
  if c.toNat < 0xC0 then [c]
  else
    match syllableLetters? c with
    | some cs => cs
    | none =>
      match composedCharacters.find? fun e => e.1 == c.toNat with
      | some (_, a, b) => [Char.ofNat a, Char.ofNat b]
      | none => [c]

/-- Puts a character before others: a mark goes after marks of lower classes. -/
def insertMark (c : Char) : List Char → List Char
  | [] => [c]
  | d :: rest =>
    if 0 < combiningClass d && combiningClass d < combiningClass c then d :: insertMark c rest
    else c :: d :: rest

/-- Every composed character replaced by its parts, with the marks in order. No character has
parts within parts more than three deep. -/
def decompose (cs : List Char) : List Char :=
  (((cs.flatMap parts).flatMap parts).flatMap parts).foldr insertMark []

/-! ## Putting together -/

/-- The character that two are the parts of. -/
def compose? (a b : Char) : Option Char :=
  match syllable? a b with
  | some c => some c
  | none =>
    (composedCharacters.find? fun e => e.2.1 == a.toNat && e.2.2 == b.toNat).map
      fun e => Char.ofNat e.1

/-- A text that is being put together: what is finished, backwards, the last letter, and the
marks after it that did not join it, backwards. -/
structure Composing where
  finished : List Char := []
  letter : Option Char := none
  marks : List Char := []

/-- Whether the marks so far keep a character away from the last letter. -/
def Composing.keepsAway (s : Composing) (c : Char) : Bool :=
  match s.marks with
  | [] => false
  | m :: _ => combiningClass c ≤ combiningClass m

/-- The characters so far, backwards. -/
def Composing.reversed (s : Composing) : List Char :=
  s.marks ++ s.letter.toList ++ s.finished

/-- One more character. -/
def Composing.push (s : Composing) (c : Char) : Composing :=
  let joined := if s.keepsAway c then none else s.letter.bind fun l => compose? l c
  match joined with
  | some l => { s with letter := some l }
  | none =>
    if combiningClass c == 0 then { finished := s.reversed, letter := some c }
    else { s with marks := c :: s.marks }

/-- Every letter joined with the marks that have a composed character with it. -/
def compose (cs : List Char) : List Char :=
  (cs.foldl Composing.push {}).reversed.reverse

/-- The composed form of a text. Texts of characters below U+0300 are composed already. -/
def normalize (cs : List Char) : List Char :=
  if cs.all fun c => c.toNat < 0x300 then cs else compose (decompose cs)

end Reconcile.Text
