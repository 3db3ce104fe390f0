import Reconcile.Yaml.Scalar
import Reconcile.Text.Utf8

/-!
# YAML texts cut into tokens

Reference model of the scanner of the YAML reader behind `parse_recipe_str`.

* `Lexer` — the tokens so far, the open blocks by their columns, the depth of brackets, and
  where a mapping key may have started.
* `Lexer.atChar` — one more token, or several when blocks open or close with it.
* `tokens?` — all tokens of a text; nothing for a text that is not well formed.

A scalar turns out to be a mapping key only at the colon after it. `KeyStart` remembers where
it began, and the key token, with the start of its mapping, is put in there.

Left out: where and why a text is malformed. Comments are passed over.
-/

namespace Reconcile.Yaml

/-- Where a mapping key may have started. -/
structure KeyStart where
  /-- The number of tokens before it. -/
  position : Nat
  mark : Mark
  index : Nat
  /-- Whether the place allows nothing but a key. -/
  required : Bool

/-- A text that is being cut into tokens. -/
structure Lexer where
  cursor : Cursor
  tokens : Array Token := #[]
  /-- How many brackets are open. -/
  flow : Nat := 0
  /-- The column of the innermost open block, -1 outside all blocks. -/
  indent : Int := -1
  /-- The columns of the blocks around it. -/
  outer : List Int := []
  /-- Whether a mapping key may start here. -/
  keyAllowed : Bool := true
  /-- For each open bracket, innermost first, and for the blocks around them, where a key may
  have started. -/
  keys : List (Option KeyStart) := [none]

namespace Lexer

/-- One more token, which starts at a mark. -/
def push (l : Lexer) (kind : TokenKind) (mark : Mark) : Lexer :=
  { l with tokens := l.tokens.push ⟨kind, mark⟩ }

/-- A token put in after the first `position` tokens. -/
def insertAt (l : Lexer) (position : Nat) (kind : TokenKind) (mark : Mark) : Lexer :=
  { l with tokens := l.tokens.insertIdxIfInBounds position ⟨kind, mark⟩ }

/-- The mark of the next character. -/
def mark (l : Lexer) : Mark :=
  l.cursor.mark

/-- Past spaces, comments and line breaks. A tab counts as a space where no key may start. After a
line break outside brackets a key may start. -/
def skipGaps : Nat → Lexer → Lexer
  | 0, l => l
  | fuel + 1, l =>
    let tabs := l.flow != 0 || !l.keyAllowed
    let c := l.cursor.skipWhile fun x => x == ' ' || (tabs && x == '\t')
    let c := if c.at_ '#' then c.skipToLineEnd else c
    match c.peek with
    | some x =>
      if isBreak x then
        skipGaps fuel { l with cursor := c.skipLine, keyAllowed := l.keyAllowed || l.flow == 0 }
      else { l with cursor := c }
    | none => { l with cursor := c }

/-- Forgets starts of keys that lie on an earlier line or too far back. Fails when one of them
allowed nothing but a key. -/
def dropStaleKeys (l : Lexer) : Option Lexer := do
  let keys ← l.keys.mapM fun key? =>
    match key? with
    | some key =>
      if key.mark.line < l.mark.line || key.index + 1024 < l.cursor.index then
        if key.required then none else some none
      else some (some key)
    | none => some none
  some { l with keys }

/-- Closes the blocks whose column lies right of `column`. -/
def closeBlocks (column : Int) : Nat → Lexer → Lexer
  | 0, l => l
  | fuel + 1, l =>
    if l.flow == 0 && column < l.indent then
      let l := l.push .blockEnd l.mark
      closeBlocks column fuel { l with indent := l.outer.headD (-1), outer := l.outer.tail }
    else l

/-- Closes the blocks whose column lies right of `column`. -/
def unroll (l : Lexer) (column : Int) : Lexer :=
  closeBlocks column (l.outer.length + 1) l

/-- Opens a block when `column` lies right of the innermost one. -/
def roll (l : Lexer) (column : Nat) (position : Nat) (kind : TokenKind) (mark : Mark) : Lexer :=
  if l.flow == 0 && l.indent < column then
    let l := { l with outer := l.indent :: l.outer, indent := column }
    if position < l.tokens.size then l.insertAt position kind mark else l.push kind mark
  else l

/-- Gives up the start of a key; fails when the place allowed nothing but a key. -/
def removeKey (l : Lexer) : Option Lexer :=
  match l.keys with
  | some key :: rest => if key.required then none else some { l with keys := none :: rest }
  | _ => some l

/-- Remembers that a key may start here. -/
def saveKey (l : Lexer) : Option Lexer := do
  if l.keyAllowed then
    let required := l.flow == 0 && l.indent == l.cursor.column
    let l ← l.removeKey
    some { l with keys := some ⟨l.tokens.size, l.mark, l.cursor.index, required⟩ :: l.keys.tail }
  else some l

/-- A token of one or more characters. -/
def take (l : Lexer) (kind : TokenKind) (width : Nat := 1) : Lexer :=
  let mark := l.mark
  { l.push kind mark with cursor := l.cursor.skipMany width }

/-! ## Directives -/

/-- Reads a number of at most nine digits. -/
def readVersionNumber (c : Cursor) : Option (Nat × Cursor) :=
  let (digits, c) := c.takeWhile Text.isDigit
  if digits.isEmpty || 9 < digits.length then none
  else some (digits.toList.foldl (fun n d => n * 10 + Text.digitValue d) 0, c)

/-- Reads a tag handle: `!`, or a name between two of them. In a directive the handle is not
just a name after one. -/
def readTagHandle (directive : Bool) (c : Cursor) : Option (String × Cursor) := do
  if !c.at_ '!' then none
  let (name, c) := c.skip.takeWhile isNameChar
  if c.at_ '!' then some ("!" ++ name ++ "!", c.skip)
  else if directive && !name.isEmpty then none
  else some ("!" ++ name, c)

/-- A character of a tag; brackets and commas only where `wide`. -/
def isTagChar (wide : Bool) (c : Char) : Bool :=
  isNameChar c || ";/?:@&=+$.%!~*'()".toList.contains c || (wide && (c == ',' || c == '[' || c == ']'))

/-- The number of bytes of a UTF-8 sequence, by its first. -/
def sequenceWidth (n : Nat) : Nat :=
  if n < 0x80 then 1 else if n / 32 == 6 then 2 else if n / 16 == 14 then 3
  else if n / 8 == 30 then 4 else 0

/-- Reads bytes that are written `%xx`. -/
def readEscapedBytes : Nat → List Char → Option (List UInt8 × List Char)
  | 0, cs => some ([], cs)
  | n + 1, '%' :: a :: b :: rest => do
    let byte := (← Text.hexValue? a) * 16 + (← Text.hexValue? b)
    let (more, rest) ← readEscapedBytes n rest
    some (UInt8.ofNat byte :: more, rest)
  | _ + 1, _ => none

/-- Replaces escapes in a tag by the characters they stand for. -/
def unescapeTag : Nat → List Char → Option (List Char)
  | 0, _ => none
  | _ + 1, [] => some []
  | fuel + 1, '%' :: rest => do
    let (first, _) ← readEscapedBytes 1 ('%' :: rest)
    let width := sequenceWidth (first.headD 0).toNat
    if width == 0 then none
    let (bytes, rest) ← readEscapedBytes width ('%' :: rest)
    if bytes.tail.any fun b => b.toNat / 64 != 2 then none
    some ((Text.Utf8.decodeLossy bytes).toList ++ (← unescapeTag fuel rest))
  | fuel + 1, c :: rest => do some (c :: (← unescapeTag fuel rest))

/-- Reads the characters of a tag. -/
def readTagText (wide : Bool) (c : Cursor) : Option (String × Cursor) := do
  let (text, c) := c.takeWhile (isTagChar wide)
  let chars ← unescapeTag (text.length + 1) text.toList
  some (String.ofList chars, c)

/-- Reads a directive, up to the end of its line. -/
def directive (l : Lexer) : Option Lexer := do
  let l ← (l.unroll (-1)).removeKey
  let mark := l.mark
  let (name, c) := l.cursor.skip.takeWhile isNameChar
  if name.isEmpty || !Cursor.isStop c.peek then none
  let c := c.skipWhile isGap
  let (kind, c) ←
    match name with
    | "YAML" => do
      let (major, c) ← readVersionNumber c
      if !c.at_ '.' then none
      let (minor, c) ← readVersionNumber c.skip
      some (TokenKind.version major minor, c)
    | "TAG" => do
      let (handle, c) ← readTagHandle true c
      if !(c.peek.map isGap).getD false then none
      let (lead, c) ← readTagText true (c.skipWhile isGap)
      if lead.isEmpty || !Cursor.isStop c.peek then none
      some (TokenKind.tagShorthand handle lead, c)
    | _ => none
  let c ← skipComment? c
  some { l.push kind mark with cursor := c, keyAllowed := false }

/-! ## Anchors, aliases and tags -/

/-- Reads the name of an anchor or of an alias. -/
def name (l : Lexer) (make : String → TokenKind) : Option Lexer := do
  let l ← l.saveKey
  let mark := l.mark
  let (name, c) := l.cursor.skip.takeWhile isNameChar
  let ends := Cursor.isStop c.peek || (c.peek.map "?:,]\x7d%@`".toList.contains).getD false
  if name.isEmpty || !ends then none
  some { l.push (make name) mark with cursor := c, keyAllowed := false }

/-- Reads a tag, as handle and suffix. -/
def readTag (c : Cursor) : Option (String × String × Cursor) := do
  if c.second == some '<' then
    let (text, c) ← readTagText true (c.skipMany 2)
    if text.isEmpty || !c.at_ '>' then none
    some ("", text, c.skip)
  else
    let (handle, c) ← readTagHandle false c
    if 2 ≤ handle.length && handle.back == '!' then
      let (suffix, c) ← readTagText false c
      if suffix.isEmpty then none
      some (handle, suffix, c)
    else
      let (more, c) ← readTagText false c
      let suffix := String.ofList handle.toList.tail ++ more
      if suffix.isEmpty then some ("", "!", c) else some ("!", suffix, c)

/-- Reads a tag. -/
def tag (l : Lexer) : Option Lexer := do
  let l ← l.saveKey
  let mark := l.mark
  let (handle, suffix, c) ← readTag l.cursor
  if !Cursor.isStop c.peek && !(l.flow != 0 && c.at_ ',') then none
  some { l.push (.tag handle suffix) mark with cursor := c, keyAllowed := false }

/-! ## Structure -/

/-- An opening bracket. -/
def openFlow (l : Lexer) (kind : TokenKind) : Option Lexer := do
  let l ← l.saveKey
  some { l.take kind with keys := none :: l.keys, flow := l.flow + 1, keyAllowed := true }

/-- A closing bracket. -/
def closeFlow (l : Lexer) (kind : TokenKind) : Option Lexer := do
  let l ← l.removeKey
  let l := if l.flow == 0 then l else { l with flow := l.flow - 1, keys := l.keys.tail }
  some { l.take kind with keyAllowed := false }

/-- The comma between the parts of a flow collection. -/
def flowEntry (l : Lexer) : Option Lexer := do
  let l ← l.removeKey
  some { l.take .flowEntry with keyAllowed := true }

/-- The hyphen before an item of a block sequence. -/
def blockEntry (l : Lexer) : Option Lexer := do
  if l.flow == 0 && !l.keyAllowed then none
  let l := l.roll l.cursor.column l.tokens.size .blockSequenceStart l.mark
  let l ← l.removeKey
  some { l.take .blockEntry with keyAllowed := true }

/-- The question mark before a key. -/
def keyMark (l : Lexer) : Option Lexer := do
  if l.flow == 0 && !l.keyAllowed then none
  let l := l.roll l.cursor.column l.tokens.size .blockMappingStart l.mark
  let l ← l.removeKey
  some { l.take .key with keyAllowed := l.flow == 0 }

/-- The colon before a value. What stood before it on the line becomes the key. -/
def valueMark (l : Lexer) : Option Lexer := do
  match l.keys with
  | some key :: rest =>
    let l := l.insertAt key.position .key key.mark
    let l := l.roll key.mark.column key.position .blockMappingStart key.mark
    some { l.take .value with keys := none :: rest, keyAllowed := false }
  | _ =>
    if l.flow == 0 && !l.keyAllowed then none
    let l := l.roll l.cursor.column l.tokens.size .blockMappingStart l.mark
    some { l.take .value with keyAllowed := l.flow == 0 }

/-- A divider before or after a document. -/
def divider (l : Lexer) (kind : TokenKind) : Option Lexer := do
  let l ← (l.unroll (-1)).removeKey
  some { l.take kind 3 with keyAllowed := false }

/-! ## Scalars -/

/-- A literal or folded block. -/
def blockScalar (l : Lexer) (fuel : Nat) (folded : Bool) : Option Lexer := do
  let l ← l.removeKey
  let (text, c) ← readBlock folded l.indent fuel l.cursor
  some { l.push (.scalar text (if folded then .folded else .literal)) l.mark with
    cursor := c, keyAllowed := true }

/-- A scalar between quotes. -/
def quotedScalar (l : Lexer) (fuel : Nat) (single : Bool) : Option Lexer := do
  let l ← l.saveKey
  let (text, c) ← readQuoted single fuel l.cursor
  some { l.push (.scalar text (if single then .singleQuoted else .doubleQuoted)) l.mark with
    cursor := c, keyAllowed := false }

/-- A scalar without quotes. -/
def plainScalar (l : Lexer) (fuel : Nat) : Option Lexer := do
  let l ← l.saveKey
  let (text, newLine, c) ← readPlain (l.flow != 0) (l.indent + 1).toNat fuel l.cursor
  some { l.push (.scalar text .plain) l.mark with cursor := c, keyAllowed := newLine }

/-- Whether a scalar without quotes may start with `x` when `y` comes next. -/
def startsPlain (flow : Bool) (x : Char) (y : Option Char) : Bool :=
  if x == '-' then !(y.map isGap).getD false
  else if x == '?' || x == ':' then !flow && !Cursor.isStop y
  else !(Cursor.isStop (some x)) && !("-?:,[]\x7b\x7d#&*!|>'\"%@`".toList.contains x)

/-- One more token at a character that is neither blank nor the end. `fuel` is more than the
number of characters that are left. -/
def atChar (l : Lexer) (fuel : Nat) (x : Char) : Option Lexer :=
  let c := l.cursor
  let next := c.second
  let inFlow := l.flow != 0
  let alone := Cursor.isStop next
  if c.column == 0 && x == '%' then l.directive
  else if c.column == 0 && c.isTriple '-' then l.divider .documentStart
  else if c.column == 0 && c.isTriple '.' then l.divider .documentEnd
  else if x == '[' then l.openFlow .flowSequenceStart
  else if x == '{' then l.openFlow .flowMappingStart
  else if x == ']' then l.closeFlow .flowSequenceEnd
  else if x == '}' then l.closeFlow .flowMappingEnd
  else if x == ',' then l.flowEntry
  else if x == '-' && alone then l.blockEntry
  else if x == '?' && (inFlow || alone) then l.keyMark
  else if x == ':' && (inFlow || alone) then l.valueMark
  else if x == '*' then l.name .alias
  else if x == '&' then l.name .anchor
  else if x == '!' then l.tag
  else if x == '|' && !inFlow then l.blockScalar fuel false
  else if x == '>' && !inFlow then l.blockScalar fuel true
  else if x == '\'' then l.quotedScalar fuel true
  else if x == '"' then l.quotedScalar fuel false
  else if startsPlain inFlow x next then l.plainScalar fuel
  else none

/-- The tokens of the rest of the text. Every round takes at least one character. -/
def run : Nat → Lexer → Option (Array Token)
  | 0, _ => none
  | fuel + 1, l => do
    let l ← (l.skipGaps (fuel + 1)).dropStaleKeys
    let l := l.unroll l.cursor.column
    match l.cursor.peek with
    | none =>
      let l ← (l.unroll (-1)).removeKey
      some l.tokens
    | some x => run fuel (← l.atChar (fuel + 1) x)

end Lexer

/-- All tokens of a text. A byte order mark at the start is passed over; other characters that
print nothing may not occur. -/
def tokens? (s : String) : Option (Array Token) :=
  let cs := s.toList
  let cs := if cs.head? == some '\uFEFF' then cs.tail else cs
  if cs.all isAllowed then
    Lexer.run (cs.length + 1) { cursor := { rest := cs } }
  else none

end Reconcile.Yaml
