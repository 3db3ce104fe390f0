import Reconcile.Yaml.Token

/-!
# The characters of YAML scalars

The scalars of the YAML reader behind `parse_recipe_str`.

How the text of a scalar is put together from its lines, for each style. Each reading starts
after or at the first character of the scalar and ends after its last; nothing comes back for
a scalar that is not well formed. The fuel of a reading is more than the number of characters
that are left, and every round of its loop takes at least one of them.

* `Folding` — blanks and line breaks that may turn out to be part of a scalar. One line break
  between two lines of text becomes a space, further ones stand for themselves.
* `readQuoted` — a scalar between quotes.
* `readPlain` — a scalar without quotes.
* `readBlock` — a literal or folded block.
-/

namespace Reconcile.Yaml

/-- Blanks and line breaks after the text read so far. -/
structure Folding where
  /-- Blanks on the line of the text. -/
  blanks : String := ""
  /-- Whether a line has ended, be it by an escaped line break. -/
  broken : Bool := false
  /-- The first line break. -/
  first : String := ""
  /-- The line breaks after the first. -/
  further : String := ""

/-- The text that blanks and line breaks become between two pieces of text. -/
def Folding.text (f : Folding) : String :=
  if f.broken then
    if f.first.front? == some '\n' then
      if f.further.isEmpty then " " else f.further
    else f.first ++ f.further
  else f.blanks

/-- Reads blanks and line breaks. `tabLimit` is the column before which a tab may not stand once
a line has ended. -/
def readFolding (tabLimit : Nat) : Nat → Folding → Cursor → Option (Folding × Cursor)
  | 0, _, _ => none
  | fuel + 1, f, c =>
    match c.peek with
    | none => some (f, c)
    | some x =>
      if isGap x then
        if f.broken then
          if x == '\t' && c.column < tabLimit then none
          else readFolding tabLimit fuel f c.skip
        else readFolding tabLimit fuel { f with blanks := f.blanks.push x } c.skip
      else if isBreak x then
        let f :=
          if f.broken then { f with further := f.further ++ c.breakText }
          else { f with blanks := "", first := c.breakText, broken := true }
        readFolding tabLimit fuel f c.skipLine
      else some (f, c)

/-! ## Quoted scalars -/

/-- The number that hexadecimal digits spell. -/
def hexNumber? (cs : List Char) : Option Nat :=
  cs.foldl (fun n c => do pure ((← n) * 16 + (← Text.hexValue? c))) (some 0)

/-- The character that an escape of some hexadecimal digits stands for. -/
def hexEscape? (digits : Nat) (c : Cursor) : Option (Char × Cursor) := do
  let cs := c.rest.take digits
  if cs.length != digits then none
  let n ← hexNumber? cs
  if (0xD800 ≤ n && n ≤ 0xDFFF) || 0x10FFFF < n then none
  some (Char.ofNat n, c.skipMany digits)

/-- Reads an escape after its backslash. -/
def readEscape? (c : Cursor) : Option (Char × Cursor) := do
  let simple (x : Char) : Option (Char × Cursor) := some (x, c.skip)
  match ← c.peek with
  | '0' => simple '\x00'
  | 'a' => simple '\x07'
  | 'b' => simple '\x08'
  | 't' => simple '\t'
  | '\t' => simple '\t'
  | 'n' => simple '\n'
  | 'v' => simple '\x0B'
  | 'f' => simple '\x0C'
  | 'r' => simple '\r'
  | 'e' => simple '\x1B'
  | ' ' => simple ' '
  | '"' => simple '"'
  | '/' => simple '/'
  | '\\' => simple '\\'
  | 'N' => simple '\u0085'
  | '_' => simple '\u00A0'
  | 'L' => simple '\u2028'
  | 'P' => simple '\u2029'
  | 'x' => hexEscape? 2 c.skip
  | 'u' => hexEscape? 4 c.skip
  | 'U' => hexEscape? 8 c.skip
  | _ => none

/-- Reads the text of a quoted scalar up to a blank, a line break or its end; says whether an
escaped line break stopped it. -/
def readQuotedWord (single : Bool) : Nat → String → Cursor → Option (String × Bool × Cursor)
  | 0, _, _ => none
  | fuel + 1, text, c =>
    match c.peek with
    | none => some (text, false, c)
    | some x =>
      if isGap x || isBreak x then some (text, false, c)
      else if single && x == '\'' then
        if c.second == some '\'' then readQuotedWord single fuel (text.push '\'') (c.skipMany 2)
        else some (text, false, c)
      else if !single && x == '"' then some (text, false, c)
      else if !single && x == '\\' then
        if (c.second.map isBreak).getD false then some (text, true, c.skip.skipLine)
        else
          match readEscape? c.skip with
          | some (y, c) => readQuotedWord single fuel (text.push y) c
          | none => none
      else readQuotedWord single fuel (text.push x) c.skip

/-- Reads a quoted scalar after its opening quote. -/
def readQuotedLines (single : Bool) : Nat → String → Cursor → Option (String × Cursor)
  | 0, _, _ => none
  | fuel + 1, text, c => do
    if c.isDivider || c.rest.isEmpty then none
    let (text, broken, c) ← readQuotedWord single (fuel + 1) text c
    if c.at_ (if single then '\'' else '"') then some (text, c.skip)
    else
      let (f, c) ← readFolding 0 (fuel + 1) { broken } c
      readQuotedLines single fuel (text ++ f.text) c

/-- Reads a quoted scalar. -/
def readQuoted (single : Bool) (fuel : Nat) (c : Cursor) : Option (String × Cursor) :=
  readQuotedLines single fuel "" c.skip

/-! ## Plain scalars -/

/-- The characters that end a plain scalar inside brackets. -/
def isFlowIndicator (c : Char) : Bool :=
  c == ',' || c == '[' || c == ']' || c == '{' || c == '}'

/-- Reads the text of a plain scalar up to a blank, a line break or its end. -/
def readPlainWord (flow : Bool) : Nat → String → Cursor → Option (String × Cursor)
  | 0, _, _ => none
  | fuel + 1, text, c =>
    match c.peek with
    | none => some (text, c)
    | some x =>
      if isGap x || isBreak x then some (text, c)
      else if x == ':' && flow && (c.second.map fun y => isFlowIndicator y || y == '?').getD false then
        none
      else if x == ':' && Cursor.isStop c.second then some (text, c)
      else if flow && isFlowIndicator x then some (text, c)
      else readPlainWord flow fuel (text.push x) c.skip

/-- Reads a plain scalar whose lines after the first stand at `indent` or further right. Also
says whether it was followed by the end of a line. -/
def readPlainLines (flow : Bool) (indent : Nat) :
    Nat → String → Folding → Cursor → Option (String × Bool × Cursor)
  | 0, _, _, _ => none
  | fuel + 1, text, f, c => do
    if c.isDivider || c.at_ '#' then some (text, f.broken, c)
    else
      let (word, c) ← readPlainWord flow (fuel + 1) "" c
      let (text, f) := if word.isEmpty then (text, f) else (text ++ f.text ++ word, {})
      if !Cursor.isStop c.peek || c.rest.isEmpty then some (text, f.broken, c)
      else
        let (f, c) ← readFolding indent (fuel + 1) f c
        if !flow && c.column < indent then some (text, f.broken, c)
        else readPlainLines flow indent fuel text f c

/-- Reads a plain scalar. -/
def readPlain (flow : Bool) (indent fuel : Nat) (c : Cursor) : Option (String × Bool × Cursor) :=
  readPlainLines flow indent fuel "" {} c

/-! ## Block scalars -/

/-- What becomes of the line breaks at the end of a block. -/
inductive Chomping where
  | strip
  | clip
  | keep
  deriving DecidableEq, Repr

/-- The sign that says what becomes of the line breaks at the end. -/
def chomping? : Option Char → Option Chomping
  | some '+' => some .keep
  | some '-' => some .strip
  | _ => none

/-- An indentation digit; zero is none. -/
def readIndentDigit (c : Cursor) : Option (Option Nat × Cursor) :=
  match c.peek with
  | some x =>
    if x == '0' then none
    else if Text.isDigit x then some (some (Text.digitValue x), c.skip)
    else some (none, c)
  | none => some (none, c)

/-- Reads the signs after the start of a block, in either order. -/
def readBlockHeader (c : Cursor) : Option (Chomping × Option Nat × Cursor) := do
  match chomping? c.peek with
  | some chomping =>
    let (digit, c) ← readIndentDigit c.skip
    some (chomping, digit, c)
  | none =>
    let (digit, c) ← readIndentDigit c
    match digit with
    | none => some (.clip, none, c)
    | some n =>
      match chomping? c.peek with
      | some chomping => some (chomping, some n, c.skip)
      | none => some (.clip, some n, c)

/-- Past gaps and a comment to the end of the line; something else may not stand there. -/
def skipComment? (c : Cursor) : Option Cursor :=
  let c := c.skipWhile isGap
  let c := if c.at_ '#' then c.skipToLineEnd else c
  if Cursor.isLineEnd c.peek then some c.skipLine else none

/-- Reads the indentation and the empty lines before a line of a block. While the indentation is
not known, `widest` is the widest seen. A tab may not stand in the indentation. -/
def readBlockBreaks (indent : Option Nat) :
    Nat → Nat → String → Cursor → Option (Nat × String × Cursor)
  | 0, _, _, _ => none
  | fuel + 1, widest, breaks, c =>
    let inside (c : Cursor) : Bool := (indent.map fun n => decide (c.column < n)).getD true
    let blanks := match indent with
      | some n => (c.rest.take (n - c.column)).takeWhile (· == ' ')
      | none => c.rest.takeWhile (· == ' ')
    let c := c.skipMany blanks.length
    let widest := max widest c.column
    if inside c && c.at_ '\t' then none
    else
      match c.peek with
      | some x =>
        if isBreak x then readBlockBreaks indent fuel widest (breaks ++ c.breakText) c.skipLine
        else some (widest, breaks, c)
      | none => some (widest, breaks, c)

/-- The lines of a block read so far. -/
structure BlockLines where
  text : String := ""
  /-- The line break after the last line. -/
  first : String := ""
  /-- The empty lines after it. -/
  further : String := ""
  /-- Whether the last line starts with a blank; such lines are not folded. -/
  indented : Bool := false

/-- Reads the lines of a block that stand at `indent`. -/
def readBlockLines (folded : Bool) (indent : Nat) : Nat → BlockLines → Cursor →
    Option (BlockLines × Cursor)
  | 0, _, _ => none
  | fuel + 1, b, c => do
    if c.column != indent || c.rest.isEmpty then some (b, c)
    else
      let indented := (c.peek.map isGap).getD false
      let fold := folded && b.first.front? == some '\n' && !b.indented && !indented
      let joined := if fold then (if b.further.isEmpty then " " else "") else b.first
      let line := c.rest.takeWhile fun x => !isBreak x
      let c := c.skipMany line.length
      let first := c.breakText
      let (_, further, c) ← readBlockBreaks (some indent) (fuel + 1) 0 "" c.skipLine
      readBlockLines folded indent fuel
        ⟨b.text ++ joined ++ b.further ++ String.ofList line, first, further, indented⟩ c

/-- Reads a block scalar. `parent` is the indentation of what holds it. -/
def readBlock (folded : Bool) (parent : Int) (fuel : Nat) (c : Cursor) :
    Option (String × Cursor) := do
  let (chomping, digit, c) ← readBlockHeader c.skip
  let c ← skipComment? c
  let known := digit.map fun n => (if 0 ≤ parent then parent.toNat + n else n)
  let (widest, breaks, c) ← readBlockBreaks known fuel 0 "" c
  let indent := known.getD (max widest (max (parent + 1).toNat 1))
  let (b, c) ← readBlockLines folded indent fuel { further := breaks } c
  let text := match chomping with
    | .strip => b.text
    | .clip => b.text ++ b.first
    | .keep => b.text ++ b.first ++ b.further
  some (text, c)

end Reconcile.Yaml
