import Reconcile.Text.Ascii
import Reconcile.Text.Blank
import Reconcile.Text.Words

/-!
# Patterns for texts

The regular expressions of the functions `match` and `search` of RFC 9535.

* `CharSet`, `Pattern` — sets of characters; regular expressions with places such as the start of
  a text or the edge of a word.
* `Pattern.ends` — where a match that starts at a place may end.
* `Pattern.occursIn` — whether a pattern describes some part of a text.

Whether a repetition takes as much or as little as it can makes no difference to whether there
is a match, so it is not kept.
-/

namespace Reconcile.Query

/-- A set of characters. -/
inductive CharSet where
  | range (low high : Char)
  | digit
  | word
  | blank
  | union (a b : CharSet)
  | intersection (a b : CharSet)
  | complement (a : CharSet)
  /-- A set with the other case of each of its ASCII letters. -/
  | eitherCase (a : CharSet)
  | none
  deriving Repr

/-- The other case of an ASCII letter. -/
def otherCase (c : Char) : Char :=
  if 'a' ≤ c && c ≤ 'z' then Char.ofNat (c.toNat - 32) else Text.lowerChar c

/-- Whether a set has a character. -/
def CharSet.contains : CharSet → Char → Bool
  | range low high, c => low ≤ c && c ≤ high
  | digit, c => Text.isFigure c
  | word, c => Text.isWordChar c
  | blank, c => Text.isBlank c
  | union a b, c => a.contains c || b.contains c
  | intersection a b, c => a.contains c && b.contains c
  | complement a, c => !a.contains c
  | eitherCase a, c => a.contains c || a.contains (otherCase c)
  | none, _ => false

/-- A place in a text. -/
inductive Boundary where
  | textStart
  | textEnd
  | lineStart
  | lineEnd
  | wordEdge
  | notWordEdge
  | wordStart
  | wordEnd
  deriving DecidableEq, Repr

/-- A regular expression. -/
inductive Pattern where
  | empty
  | char (set : CharSet)
  | boundary (b : Boundary)
  | seq (a b : Pattern)
  | alt (a b : Pattern)
  | times (least : Nat) (most : Option Nat) (a : Pattern)
  deriving Repr

/-- Whether a place is a boundary. -/
def Boundary.holds (text : Array Char) (i : Nat) (b : Boundary) : Bool :=
  let before : Option Char := if i = 0 then .none else text[i - 1]?
  let after := text[i]?
  let wordBefore := (before.map Text.isWordChar).getD false
  let wordAfter := (after.map Text.isWordChar).getD false
  let breakBefore := before == some '\n' || (before == some '\r' && after != some '\n')
  let breakAfter := (after == some '\n' && before != some '\r') || after == some '\r'
  match b with
  | textStart => i = 0
  | textEnd => i = text.size
  | lineStart => i = 0 || breakBefore
  | lineEnd => i = text.size || breakAfter
  | wordEdge => wordBefore != wordAfter
  | notWordEdge => wordBefore == wordAfter
  | wordStart => !wordBefore && wordAfter
  | wordEnd => wordBefore && !wordAfter

/-- Places in ascending order, each once. -/
def insertPlace (i : Nat) : List Nat → List Nat
  | [] => [i]
  | j :: rest => if i < j then i :: j :: rest else if i = j then j :: rest else j :: insertPlace i rest

/-- The places of two lists. -/
def unionPlaces (a b : List Nat) : List Nat :=
  a.foldl (fun places i => insertPlace i places) b

/-- One application of a step to each place. -/
def stepPlaces (step : Nat → List Nat) (places : List Nat) : List Nat :=
  places.foldl (fun found i => unionPlaces (step i) found) []

/-- A number of applications of a step to each place. -/
def iteratePlaces (step : Nat → List Nat) : Nat → List Nat → List Nat
  | 0, places => places
  | n + 1, places => iteratePlaces step n (stepPlaces step places)

/-- The places after up to a number of applications of a step. A round that finds no new place
is the last. -/
def reachPlaces (step : Nat → List Nat) : Nat → List Nat → List Nat
  | 0, places => places
  | n + 1, places =>
    let further := unionPlaces (stepPlaces step places) places
    if further.length = places.length then places else reachPlaces step n further

/-- Where a match that starts at a place may end. More rounds of a repetition than the text has
places add nothing. -/
def Pattern.ends (text : Array Char) : Pattern → Nat → List Nat
  | empty, i => [i]
  | char set, i =>
    match text[i]? with
    | some c => if set.contains c then [i + 1] else []
    | Option.none => []
  | boundary b, i => if b.holds text i then [i] else []
  | seq a b, i => stepPlaces (b.ends text) (a.ends text i)
  | alt a b, i => unionPlaces (a.ends text i) (b.ends text i)
  | times least most a, i =>
    let limit := text.size + 1
    let start := iteratePlaces (a.ends text) (min least limit) [i]
    let further := match most with
      | some m => min (m - least) limit
      | Option.none => limit
    reachPlaces (a.ends text) further start

/-- Whether a pattern describes some part of a text. -/
def Pattern.occursIn (p : Pattern) (s : String) : Bool :=
  let text := s.toList.toArray
  (List.range (text.size + 1)).any fun i => !(p.ends text i).isEmpty

end Reconcile.Query
