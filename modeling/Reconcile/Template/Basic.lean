import Reconcile.Text.Ascii
import Reconcile.Text.Utf8

/-!
# Templates with placeholders

Reference model of `is_identifier`, `Segment`, `Template` with `Template::variables`
(`Template.names`), `TemplateError` (`UnclosedBrace`), `parse_template_lenient` (`Template.scan`)
and `parse_template` (`Template.parse`).

A template is a text in which `$name` and `${name}` stand for values. Names start with an ASCII
letter or an underscore and go on with letters, digits and underscores; anything else after a
dollar sign stays as it is.

* `isIdentifier` — the names of placeholders.
* `Piece` — a part of a template as it is spelled: `Piece.spelling`, `Piece.segment`.
* `pieces` — the parts of a template from left to right.
* `Template.scan` — the parts as literal texts and names, and the place of a brace that nothing
  closes.
-/

namespace Reconcile

/-- The first character of a name. -/
def isNameStart (c : Char) : Bool :=
  Text.isLetter c || c == '_'

/-- The other characters of a name. -/
def isNamePart (c : Char) : Bool :=
  Text.isLetter c || Text.isDigit c || c == '_'

/-- Whether some characters are a name. -/
def isName : List Char → Bool
  | [] => false
  | c :: cs => isNameStart c && cs.all isNamePart

/-- Whether a text is a name that placeholders may have. -/
def isIdentifier (s : String) : Bool :=
  isName s.toList

/-- A part of a template as it is spelled. -/
inductive Piece where
  /-- A run of characters without a dollar sign. -/
  | run (cs : List Char)
  /-- A dollar sign and what stands between braces after it. -/
  | braced (cs : List Char)
  /-- A dollar sign and a name. -/
  | bare (cs : List Char)
  /-- A dollar sign that starts nothing. -/
  | dollar
  /-- A dollar sign, an opening brace that nothing closes, and the rest of the text. -/
  | unclosed (cs : List Char)
  deriving DecidableEq, Repr

namespace Piece

/-- A part as it is spelled. -/
def spelling : Piece → List Char
  | run cs => cs
  | braced cs => '$' :: '\x7b' :: (cs ++ ['\x7d'])
  | bare cs => '$' :: cs
  | dollar => ['$']
  | unclosed cs => '$' :: '\x7b' :: cs

/-- The name that a part refers to. -/
def name? : Piece → Option (List Char)
  | bare cs => some cs
  | braced cs => if isName cs then some cs else none
  | _ => none

end Piece

/-- The part that a template starts with, and the rest. -/
def firstPiece (c : Char) (cs : List Char) : Piece × List Char :=
  if c != '$' then
    (.run (c :: cs.takeWhile (· != '$')), cs.dropWhile (· != '$'))
  else
    match cs with
    | [] => (.dollar, [])
    | d :: ds =>
      if d == '\x7b' then
        match ds.dropWhile (· != '\x7d') with
        | [] => (.unclosed ds, [])
        | _ :: rest => (.braced (ds.takeWhile (· != '\x7d')), rest)
      else if isNameStart d then
        (.bare (d :: ds.takeWhile isNamePart), ds.dropWhile isNamePart)
      else (.dollar, d :: ds)

theorem firstPiece_length_le (c : Char) (cs : List Char) :
    (firstPiece c cs).2.length ≤ cs.length := by
  have drop (p : Char → Bool) (l : List Char) : (l.dropWhile p).length ≤ l.length :=
    (List.dropWhile_suffix p).length_le
  unfold firstPiece
  split
  · exact drop _ _
  · split
    · simp
    · rename_i d ds
      split
      · have := drop (· != '\x7d') ds
        split
        · simp
        · rename_i h
          rw [h] at this
          simp at this ⊢
          omega
      · split
        · exact Nat.le_succ_of_le (drop _ _)
        · simp

/-- The parts of a template from left to right. -/
def pieces : List Char → List Piece
  | [] => []
  | c :: cs =>
    have := firstPiece_length_le c cs
    (firstPiece c cs).1 :: pieces (firstPiece c cs).2
  termination_by cs => cs.length
  decreasing_by simp_wf; omega

/-- A part of a scanned template. -/
inductive Segment where
  | literal (s : String)
  | variable (name : String)
  deriving DecidableEq, Repr

/-- A scanned template. Literals are not empty, and no two of them stand side by side. -/
structure Template where
  segments : List Segment
  deriving DecidableEq, Repr

/-- Why a template is malformed: no brace closes the placeholder that starts at a byte. -/
structure UnclosedBrace where
  offset : Nat
  deriving DecidableEq, Repr

/-- The wording of a malformed template. -/
def UnclosedBrace.message (e : UnclosedBrace) : String :=
  "unclosed placeholder starting at byte " ++ toString e.offset ++ " (missing '\x7d')"

namespace Template

/-- Puts literal characters in front of segments, as a literal of their own or as the start of
the first one. -/
def consLiteral (cs : List Char) : List Segment → List Segment
  | .literal s :: rest => .literal (String.ofList (cs ++ s.toList)) :: rest
  | segments => if cs.isEmpty then segments else .literal (String.ofList cs) :: segments

/-- The segments of some parts. -/
def segmentsOf : List Piece → List Segment
  | [] => []
  | p :: ps =>
    match p.name? with
    | some name => .variable (String.ofList name) :: segmentsOf ps
    | none => consLiteral p.spelling (segmentsOf ps)

/-- The byte at which a placeholder starts that nothing closes; `start` is where the parts do. -/
def unclosedAt? (start : Nat) : List Piece → Option Nat
  | [] => none
  | .unclosed _ :: _ => some start
  | p :: ps => unclosedAt? (start + Text.Utf8.size p.spelling) ps

/-- The segments of a text. What no brace closes is literal to the end, and is reported. -/
def scan (s : String) : Template × Option UnclosedBrace :=
  let ps := pieces s.toList
  (⟨segmentsOf ps⟩, (unclosedAt? 0 ps).map UnclosedBrace.mk)

/-- The segments of a text that is well formed. -/
def parse (s : String) : Except UnclosedBrace Template :=
  match scan s with
  | (t, none) => .ok t
  | (_, some e) => .error e

/-- The name that a segment refers to. -/
def Segment.name? : Segment → Option String
  | .variable name => some name
  | .literal _ => none

/-- The names in a template, as often as they occur. -/
def names (t : Template) : List String :=
  t.segments.filterMap Segment.name?

end Template

end Reconcile
