import Reconcile.Text.Ascii

/-!
# A place in a YAML text

The characters of a YAML text as the reader behind `parse_recipe_str` consumes them.

* `isBreak`, `isGap`, `isStop` — line breaks, spaces and tabs, and what ends a word.
* `Mark` — a line and a column.
* `Cursor` — the text that is left, the mark before it, and the count of characters read.
* `Cursor.skip`, `Cursor.skipLine` — past a character, past a line break.
* `Cursor.breakText` — the normal form of a line break.
* `Cursor.isDivider` — whether a document divider stands here.
-/

namespace Reconcile.Yaml

/-- A line break. -/
def isBreak (c : Char) : Bool :=
  c == '\n' || c == '\r' || c == '\u0085' || c == '\u2028' || c == '\u2029'

/-- A space or a tab. -/
def isGap (c : Char) : Bool :=
  c == ' ' || c == '\t'

/-- A character of a name: ASCII letters and digits, hyphen and underscore. -/
def isNameChar (c : Char) : Bool :=
  Text.isLetter c || Text.isDigit c || c == '-' || c == '_'

/-- A character that a YAML text may hold. -/
def isAllowed (c : Char) : Bool :=
  let n := c.toNat
  n == 0x09 || n == 0x0A || n == 0x0D || (0x20 ≤ n && n ≤ 0x7E) || n == 0x85 ||
    (0xA0 ≤ n && n ≤ 0xFFFD && n != 0xFEFF) || 0x10000 ≤ n

/-- A line and a column, both from zero. -/
structure Mark where
  line : Nat
  column : Nat
  deriving DecidableEq, Repr

/-- The text that is left, and where it starts. -/
structure Cursor where
  rest : List Char
  mark : Mark := ⟨0, 0⟩
  index : Nat := 0

namespace Cursor

/-- The next character. -/
def peek (c : Cursor) : Option Char :=
  c.rest.head?

/-- Whether the next character is the given one. -/
def at_ (c : Cursor) (x : Char) : Bool :=
  c.rest.head? == some x

/-- The character after the next. -/
def second (c : Cursor) : Option Char :=
  c.rest[1]?

/-- The column. -/
def column (c : Cursor) : Nat :=
  c.mark.column

/-- Whether a position holds a space, a tab, a line break or nothing. -/
def isStop : Option Char → Bool
  | none => true
  | some c => isGap c || isBreak c

/-- Whether a position holds a line break or nothing. -/
def isLineEnd : Option Char → Bool
  | none => true
  | some c => isBreak c

/-- Past one character, which is no line break. -/
def skip (c : Cursor) : Cursor :=
  ⟨c.rest.tail, ⟨c.mark.line, c.mark.column + 1⟩, c.index + 1⟩

/-- Past a number of characters, none of them a line break. -/
def skipMany (n : Nat) (c : Cursor) : Cursor :=
  ⟨c.rest.drop n, ⟨c.mark.line, c.mark.column + n⟩, c.index + n⟩

/-- Past a line break. -/
def skipLine (c : Cursor) : Cursor :=
  match c.rest with
  | '\r' :: '\n' :: rest => ⟨rest, ⟨c.mark.line + 1, 0⟩, c.index + 2⟩
  | x :: rest => if isBreak x then ⟨rest, ⟨c.mark.line + 1, 0⟩, c.index + 1⟩ else c
  | [] => c

/-- The normal form of the line break that stands here: a line feed, except that the separators
of lines and paragraphs stay what they are. -/
def breakText (c : Cursor) : String :=
  match c.rest with
  | '\u2028' :: _ => "\u2028"
  | '\u2029' :: _ => "\u2029"
  | x :: _ => if isBreak x then "\n" else ""
  | [] => ""

/-- Past the characters that pass a test, none of them a line break. -/
def skipWhile (p : Char → Bool) (c : Cursor) : Cursor :=
  c.skipMany (c.rest.takeWhile p).length

/-- Past the characters that pass a test, and their text. -/
def takeWhile (p : Char → Bool) (c : Cursor) : String × Cursor :=
  let cs := c.rest.takeWhile p
  (String.ofList cs, c.skipMany cs.length)

/-- Past the rest of the line. -/
def skipToLineEnd (c : Cursor) : Cursor :=
  c.skipWhile fun x => !isBreak x

/-- Whether three of a character stand here, and then nothing more of a word. -/
def isTriple (c : Cursor) (x : Char) : Bool :=
  c.rest.take 3 == [x, x, x] && isStop c.rest[3]?

/-- Whether a line starts here with the divider before or after a document. -/
def isDivider (c : Cursor) : Bool :=
  c.column == 0 && (c.isTriple '-' || c.isTriple '.')

end Cursor

end Reconcile.Yaml
