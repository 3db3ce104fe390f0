import Reconcile.Json.Draft
import Reconcile.Query.Basic

/-!
# Queries from texts

Reference model of `normalize_expr` (`normalize`) and `JsonPath::parse`.

* `normalize` — a query without the points that stand before brackets.
* `readSegments` — the segments of a query.
* `Path.parse` — the query that a text spells, or how many characters of it are well formed.

Left out: what a query should have gone on with where it stops being well formed.
-/

namespace Reconcile.Query

/-- Drops each point that stands before a bracket outside of quotes. Inside quotes a backslash
takes the character after it along. -/
def normalizeChars : Option Char → List Char → List Char
  | _, [] => []
  | some q, '\\' :: c :: rest => '\\' :: c :: normalizeChars (some q) rest
  | some q, c :: rest => c :: normalizeChars (if c == q then none else some q) rest
  | none, '.' :: '[' :: rest => '[' :: normalizeChars none rest
  | none, c :: rest =>
    c :: normalizeChars (if c == '\'' || c == '"' then some c else none) rest

/-- A query without the points that stand before brackets. -/
def normalize (s : String) : String :=
  String.ofList (normalizeChars none s.toList)

/-! ## Words -/

/-- Past spaces, tabs and line breaks. -/
def skipSpace (cs : List Char) : List Char :=
  cs.dropWhile Json.isSpace

/-- The first character of a name without quotes. -/
def isNameStart (c : Char) : Bool :=
  Text.isLetter c || c == '_' || 0x80 ≤ c.toNat

/-- The other characters of a name without quotes. -/
def isNamePart (c : Char) : Bool :=
  isNameStart c || Text.isDigit c

/-- A name without quotes. -/
def readName? : List Char → Option (String × List Char)
  | c :: cs =>
    if isNameStart c then
      let name := cs.takeWhile isNamePart
      some (String.ofList (c :: name), cs.drop name.length)
    else none
  | [] => none

/-- An integer that fits 64 bits: no zero before other digits, and none after a minus sign. -/
def readInteger? (cs : List Char) : Option (Int × List Char) :=
  let (negative, cs) := match cs with
    | '-' :: rest => (true, rest)
    | _ => (false, cs)
  let digits := cs.takeWhile Text.isDigit
  let n := digits.foldl (fun n c => n * 10 + Text.digitValue c) 0
  let rest := cs.drop digits.length
  match digits with
  | [] => none
  | '0' :: more =>
    if negative then none
    else if more.isEmpty then some (0, rest) else some (0, more ++ rest)
  | _ =>
    let i : Int := if negative then -(n : Int) else n
    if -(1 <<< 63 : Nat) ≤ i ∧ i < (1 <<< 63 : Nat) then some (i, rest) else none

/-- The value of four hexadecimal digits. -/
def readHex4? (cs : List Char) : Option (Nat × List Char) :=
  match cs with
  | a :: b :: c :: d :: rest => do
    let n ← [a, b, c, d].foldl (fun n x => do some ((← n) * 16 + (← Text.hexValue? x))) (some 0)
    some (n, rest)
  | _ => none

/-- The character of a numbered escape, after its letter; a pair of numbers may stand for one. -/
def readNumbered? (cs : List Char) : Option (Char × List Char) := do
  let (high, rest) ← readHex4? cs
  if high < 0xD800 || 0xDFFF < high then some (Char.ofNat high, rest)
  else if 0xDC00 ≤ high then none
  else
    match rest with
    | '\\' :: 'u' :: rest =>
      let (low, rest) ← readHex4? rest
      if 0xDC00 ≤ low && low ≤ 0xDFFF then
        some (Char.ofNat (0x10000 + (high - 0xD800) * 0x400 + (low - 0xDC00)), rest)
      else none
    | _ => none

/-- An escape after its backslash; of the quotes only the one around the text may be escaped. -/
def readEscaped? (quote : Char) (cs : List Char) : Option (Char × List Char) :=
  match cs with
  | 'b' :: rest => some ('\x08', rest)
  | 'f' :: rest => some ('\x0C', rest)
  | 'n' :: rest => some ('\n', rest)
  | 'r' :: rest => some ('\r', rest)
  | 't' :: rest => some ('\t', rest)
  | '/' :: rest => some ('/', rest)
  | '\\' :: rest => some ('\\', rest)
  | 'u' :: rest => readNumbered? rest
  | c :: rest => if c == quote then some (c, rest) else none
  | [] => none

/-- A text up to its closing quote. -/
def readQuotedRest? (quote : Char) : Nat → List Char → Option (List Char × List Char)
  | 0, _ => none
  | _, [] => none
  | fuel + 1, c :: cs =>
    if c == quote then some ([], cs)
    else if c == '\\' then do
      let (x, rest) ← readEscaped? quote cs
      let (text, rest) ← readQuotedRest? quote fuel rest
      some (x :: text, rest)
    else if c.toNat < 0x20 then none
    else do
      let (text, rest) ← readQuotedRest? quote fuel cs
      some (c :: text, rest)

/-- A text between quotes of either kind. -/
def readQuoted? (cs : List Char) : Option (String × List Char) :=
  match cs with
  | c :: rest =>
    if c == '\'' || c == '"' then
      (readQuotedRest? c (rest.length + 1) rest).map fun r => (String.ofList r.1, r.2)
    else none
  | [] => none

/-- The characters of a number: a sign, digits, a fraction and an exponent. -/
def numberChars (cs : List Char) : List Char :=
  let digits (cs : List Char) : List Char := cs.takeWhile Text.isDigit
  let sign := if cs.head? == some '-' then ['-'] else []
  let cs := cs.drop sign.length
  let whole := match digits cs with
    | '0' :: _ => ['0']
    | ds => ds
  let cs := cs.drop whole.length
  let fraction := match cs with
    | '.' :: rest => if (digits rest).isEmpty then [] else '.' :: digits rest
    | _ => []
  let cs := cs.drop fraction.length
  let exponent := match cs with
    | e :: rest =>
      if e == 'e' || e == 'E' then
        let (sign, rest) := match rest with
          | '+' :: rest => (['+'], rest)
          | '-' :: rest => (['-'], rest)
          | _ => ([], rest)
        if (digits rest).isEmpty then [] else e :: (sign ++ digits rest)
      else []
    | [] => []
  if whole.isEmpty then [] else sign ++ whole ++ fraction ++ exponent

/-- Past a word. -/
def afterWord? : List Char → List Char → Option (List Char)
  | [], cs => some cs
  | x :: xs, c :: cs => if x == c then afterWord? xs cs else none
  | _ :: _, [] => none

/-- A literal: a number, a text, a truth value or null. -/
def readLiteral? (cs : List Char) : Option (Json × List Char) :=
  match readQuoted? cs with
  | some (s, rest) => some (.string s, rest)
  | none =>
    let number := numberChars cs
    if !number.isEmpty then
      (Json.ofText? (String.ofList number)).map fun v => (v, cs.drop number.length)
    else
      let word (s : String) (v : Json) : Option (Json × List Char) :=
        (afterWord? s.toList cs).map fun rest => (v, rest)
      word "true" (.bool true) <|> word "false" (.bool false) <|> word "null" .null

/-- A comparison sign. -/
def readComparison? : List Char → Option (Comparison × List Char)
  | '=' :: '=' :: rest => some (.equal, rest)
  | '!' :: '=' :: rest => some (.notEqual, rest)
  | '<' :: '=' :: rest => some (.lessOrEqual, rest)
  | '>' :: '=' :: rest => some (.greaterOrEqual, rest)
  | '<' :: rest => some (.less, rest)
  | '>' :: rest => some (.greater, rest)
  | _ => none

/-- Past a character and the blanks before it. -/
def afterMark? (x : Char) (cs : List Char) : Option (List Char) :=
  match skipSpace cs with
  | c :: rest => if c == x then some rest else none
  | [] => none

/-! ## Steps -/

/-- A step of a query that finds one value at most. -/
def readStep? (cs : List Char) : Option (Step × List Char) :=
  match cs with
  | '.' :: rest => (readName? rest).map fun r => (.name r.1, r.2)
  | '[' :: rest => do
    let (step, rest) ←
      match readQuoted? rest with
      | some (s, rest) => some (Step.name s, rest)
      | none => (readInteger? rest).map fun r => (Step.index r.1, r.2)
    match rest with
    | ']' :: rest => some (step, rest)
    | _ => none
  | _ => none

/-- Steps, as many as there are. -/
def readSteps : Nat → List Char → List Step × List Char
  | 0, cs => ([], cs)
  | fuel + 1, cs =>
    match readStep? (skipSpace cs) with
    | some (step, rest) =>
      let (steps, rest) := readSteps fuel rest
      (step :: steps, rest)
    | none => ([], cs)

/-- Where a query starts: at the root, or at the value that is being looked at. -/
def readStart? : List Char → Option (Bool × List Char)
  | '$' :: rest => some (true, rest)
  | '@' :: rest => some (false, rest)
  | _ => none

/-- The name of a function and its opening bracket. -/
def readFunction? (cs : List Char) : Option (String × List Char) :=
  match cs with
  | c :: _ =>
    let isLower (c : Char) : Bool := 'a' ≤ c && c ≤ 'z'
    let name := cs.takeWhile fun c => isLower c || c == '_' || Text.isDigit c
    match isLower c, cs.drop name.length with
    | true, '(' :: rest => some (String.ofList name, rest)
    | _, _ => none
  | [] => none

/-- A slice. -/
def readSlice? (cs : List Char) : Option (Selector × List Char) := do
  let part (cs : List Char) : Option Int × List Char :=
    match readInteger? (skipSpace cs) with
    | some (i, rest) => (some i, rest)
    | none => (none, cs)
  let (start, rest) := part cs
  let rest ← afterMark? ':' rest
  let (stop, rest) := part rest
  match afterMark? ':' rest with
  | some rest =>
    let (step, rest) := part rest
    some (.slice start stop step, rest)
  | none => some (.slice start stop none, rest)

/-! ## Segments -/

mutual

/-- Segments, as many as there are. -/
def readSegments : Nat → List Char → List Segment × List Char
  | 0, cs => ([], cs)
  | fuel + 1, cs =>
    match readSegment? fuel (skipSpace cs) with
    | some (segment, rest) =>
      let (segments, rest) := readSegments fuel rest
      (segment :: segments, rest)
    | none => ([], cs)

/-- A segment: after one point or two, or between brackets. -/
def readSegment? : Nat → List Char → Option (Segment × List Char)
  | 0, _ => none
  | fuel + 1, cs =>
    match cs with
    | '.' :: '.' :: '[' :: rest =>
      (readSelectors? fuel rest).map fun r => (.mk true r.1, r.2)
    | '.' :: '.' :: '*' :: rest => some (.mk true [.wildcard], rest)
    | '.' :: '.' :: rest => (readName? rest).map fun r => (.mk true [.name r.1], r.2)
    | '.' :: '*' :: rest => some (.mk false [.wildcard], rest)
    | '.' :: rest => (readName? rest).map fun r => (.mk false [.name r.1], r.2)
    | '[' :: rest => (readSelectors? fuel rest).map fun r => (.mk false r.1, r.2)
    | _ => none

/-- Selectors with commas between them, up to the closing bracket. -/
def readSelectors? : Nat → List Char → Option (List Selector × List Char)
  | 0, _ => none
  | fuel + 1, cs => do
    let (s, rest) ← readSelector? fuel (skipSpace cs)
    match skipSpace rest with
    | ']' :: rest => some ([s], rest)
    | ',' :: rest =>
      let (more, rest) ← readSelectors? fuel rest
      some (s :: more, rest)
    | _ => none

/-- A selector. -/
def readSelector? : Nat → List Char → Option (Selector × List Char)
  | 0, _ => none
  | fuel + 1, cs =>
    match cs with
    | '*' :: rest => some (.wildcard, rest)
    | '?' :: rest => (readOr? fuel (skipSpace rest)).map fun r => (.filter r.1, r.2)
    | _ =>
      match readQuoted? cs with
      | some (s, rest) => some (.name s, rest)
      | none =>
        match readSlice? cs with
        | some r => some r
        | none => (readInteger? cs).map fun r => (.index r.1, r.2)

/-- Conditions of which one has to hold. -/
def readOr? : Nat → List Char → Option (Filter × List Char)
  | 0, _ => none
  | fuel + 1, cs => do
    let (a, rest) ← readAnd? fuel cs
    match skipSpace rest with
    | '|' :: '|' :: more =>
      let (b, rest) ← readOr? fuel (skipSpace more)
      some (.or a b, rest)
    | _ => some (a, rest)

/-- Conditions all of which have to hold. -/
def readAnd? : Nat → List Char → Option (Filter × List Char)
  | 0, _ => none
  | fuel + 1, cs => do
    let (a, rest) ← readCondition? fuel cs
    match skipSpace rest with
    | '&' :: '&' :: more =>
      let (b, rest) ← readAnd? fuel (skipSpace more)
      some (.and a b, rest)
    | _ => some (a, rest)

/-- A condition: in brackets, negated, a comparison or a test. -/
def readCondition? : Nat → List Char → Option (Filter × List Char)
  | 0, _ => none
  | fuel + 1, cs =>
    match cs with
    | '!' :: rest =>
      match skipSpace rest with
      | '(' :: rest => (readBracketed? fuel rest).map fun r => (.not r.1, r.2)
      | rest => (readTest? fuel rest).map fun r => (.not r.1, r.2)
    | '(' :: rest => readBracketed? fuel rest
    | _ =>
      match readCompare? fuel cs with
      | some r => some r
      | none => readTest? fuel cs

/-- A condition up to its closing bracket. -/
def readBracketed? : Nat → List Char → Option (Filter × List Char)
  | 0, _ => none
  | fuel + 1, cs => do
    let (f, rest) ← readOr? fuel (skipSpace cs)
    some (f, ← afterMark? ')' rest)

/-- A comparison. -/
def readCompare? : Nat → List Char → Option (Filter × List Char)
  | 0, _ => none
  | fuel + 1, cs => do
    let (a, rest) ← readOperand? fuel cs
    let (c, rest) ← readComparison? (skipSpace rest)
    let (b, rest) ← readOperand? fuel (skipSpace rest)
    some (.compare a c b, rest)

/-- A test: a query that has to find something, or a function that tells whether it holds. -/
def readTest? : Nat → List Char → Option (Filter × List Char)
  | 0, _ => none
  | fuel + 1, cs =>
    match readFunction? cs with
    | some (name, rest) =>
      let matching (whole : Bool) : Option (Filter × List Char) := do
        let (subject, rest) ← readOperand? fuel (skipSpace rest)
        let rest ← afterMark? ',' rest
        let (pattern, rest) ← readOperand? fuel (skipSpace rest)
        some (.matches whole subject pattern, ← afterMark? ')' rest)
      match name with
      | "match" => matching true
      | "search" => matching false
      | _ => none
    | none => (readPath? fuel cs).map fun r => (.exists r.1, r.2)

/-- A query inside a condition. -/
def readPath? : Nat → List Char → Option (Path × List Char)
  | 0, _ => none
  | fuel + 1, cs => do
    let (fromRoot, rest) ← readStart? cs
    let (segments, rest) := readSegments fuel rest
    some (.mk fromRoot segments, rest)

/-- An operand: a literal, a query that finds one value at most, or a function with a value. -/
def readOperand? : Nat → List Char → Option (Operand × List Char)
  | 0, _ => none
  | fuel + 1, cs =>
    match readFunction? cs with
    | some (name, rest) =>
      let query (make : Path → Operand) : Option (Operand × List Char) := do
        let (q, rest) ← readPath? fuel (skipSpace rest)
        some (make q, ← afterMark? ')' rest)
      match name with
      | "length" => do
        let (o, rest) ← readOperand? fuel (skipSpace rest)
        some (.length o, ← afterMark? ')' rest)
      | "count" => query .count
      | "value" => query .value
      | _ => none
    | none =>
      match readStart? cs with
      | some (fromRoot, rest) =>
        let (steps, rest) := readSteps (rest.length + 1) rest
        some (.singular fromRoot steps, rest)
      | none => (readLiteral? cs).map fun r => (.literal r.1, r.2)

end

/-- The query that a text spells. Where it spells none, the number of its characters that are well
formed comes back. -/
def Path.parse (s : String) : Except Nat Path :=
  match s.toList with
  | '$' :: rest =>
    let (segments, tail) := readSegments (8 * rest.length + 8) rest
    if tail.isEmpty then .ok (.mk true segments)
    else .error (rest.length + 1 - tail.length)
  | _ => .error 0

end Reconcile.Query
