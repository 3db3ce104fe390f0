import Reconcile.Query.Pattern

/-!
# Patterns from texts

How the functions `match` and `search` of RFC 9535 read their patterns.

* `Flags` — how a part of a pattern is read.
* `Pattern.ofText?` — the pattern that a text spells; nothing when it spells none.

Groups, alternatives, repetitions, classes with their set operations, escapes and flags are
understood. Classes of characters by a Unicode property are not, nor are references to groups
and looking ahead or behind; they make a pattern malformed.
-/

namespace Reconcile.Query

/-- How a part of a pattern is read. -/
structure Flags where
  ignoreCase : Bool := false
  /-- Whether lines have a start and an end of their own. -/
  multiLine : Bool := false
  /-- Whether a dot stands for line breaks too. -/
  dotAll : Bool := false
  /-- Whether a carriage return breaks lines as well. -/
  carriageReturn : Bool := false
  /-- Whether blanks and comments are left out. -/
  extended : Bool := false
  deriving Repr

/-- A single character. -/
def CharSet.single (f : Flags) (c : Char) : CharSet :=
  if f.ignoreCase then .eitherCase (.range c c) else .range c c

/-- The characters from one to another. -/
def CharSet.between (f : Flags) (low high : Char) : CharSet :=
  if f.ignoreCase then .eitherCase (.range low high) else .range low high

/-- The characters that a dot stands for. -/
def Flags.dot (f : Flags) : CharSet :=
  if f.dotAll then .complement .none
  else if f.carriageReturn then .complement (.union (.range '\n' '\n') (.range '\r' '\r'))
  else .complement (.range '\n' '\n')

/-- The rest of a text after a text it starts with. -/
def after? : List Char → List Char → Option (List Char)
  | [], cs => some cs
  | x :: xs, c :: cs => if x == c then after? xs cs else none
  | _ :: _, [] => none

/-- Past blanks and comments, where they are left out. -/
def Flags.skip (f : Flags) : Nat → List Char → List Char
  | 0, cs => cs
  | fuel + 1, cs =>
    if !f.extended then cs
    else
      match cs with
      | '#' :: rest => f.skip fuel (rest.dropWhile (· != '\n'))
      | c :: rest => if Text.isBlank c then f.skip fuel rest else cs
      | [] => []

/-- A decimal number. -/
def readCount? (cs : List Char) : Option (Nat × List Char) :=
  let digits := cs.takeWhile Text.isDigit
  if digits.isEmpty then none
  else some (digits.foldl (fun n c => n * 10 + Text.digitValue c) 0, cs.drop digits.length)

/-- The character of a hexadecimal number. -/
def hexChar? (digits : List Char) : Option Char := do
  if digits.isEmpty then none
  let n ← digits.foldl (fun n c => do some ((← n) * 16 + (← Text.hexValue? c))) (some 0)
  if n < 0xD800 || (0xDFFF < n && n < 0x110000) then some (Char.ofNat n) else none

/-- A hexadecimal escape of some digits, or of any number of them between braces. -/
def readHexEscape? (digits : Nat) (cs : List Char) : Option (Char × List Char) := do
  match cs with
  | '\x7b' :: rest =>
    let inside := rest.takeWhile (· != '\x7d')
    match rest.drop inside.length with
    | _ :: rest => some (← hexChar? inside, rest)
    | [] => none
  | _ =>
    if cs.length < digits then none else some (← hexChar? (cs.take digits), cs.drop digits)

/-- What an escape stands for, in a class or outside of one. -/
inductive Escape where
  | char (c : Char)
  | set (s : CharSet)
  | boundary (b : Boundary)
  deriving Repr

/-- Reads an escape after its backslash. -/
def readEscape? (cs : List Char) : Option (Escape × List Char) := do
  let (c, rest) ← match cs with
    | c :: rest => some (c, rest)
    | [] => none
  let set (s : CharSet) : Option (Escape × List Char) := some (.set s, rest)
  let place (b : Boundary) : Option (Escape × List Char) := some (.boundary b, rest)
  let char (c : Char) : Option (Escape × List Char) := some (.char c, rest)
  let hex (n : Nat) : Option (Escape × List Char) := do
    let (c, rest) ← readHexEscape? n rest
    some (.char c, rest)
  match c with
  | 'd' => set .digit
  | 'D' => set (.complement .digit)
  | 's' => set .blank
  | 'S' => set (.complement .blank)
  | 'w' => set .word
  | 'W' => set (.complement .word)
  | 'b' =>
    match after? "\x7bstart\x7d".toList rest, after? "\x7bend\x7d".toList rest with
    | some rest, _ => some (.boundary .wordStart, rest)
    | none, some rest => some (.boundary .wordEnd, rest)
    | none, none => place .wordEdge
  | 'B' => place .notWordEdge
  | '<' => place .wordStart
  | '>' => place .wordEnd
  | 'A' => place .textStart
  | 'z' => place .textEnd
  | 'a' => char '\x07'
  | 'f' => char '\x0C'
  | 't' => char '\t'
  | 'n' => char '\n'
  | 'r' => char '\r'
  | 'v' => char '\x0B'
  | 'x' => hex 2
  | 'u' => hex 4
  | 'U' => hex 8
  | c => if Text.isLetter c || Text.isDigit c || 0x80 ≤ c.toNat then none else char c

/-! ## Classes -/

/-- The classes with a name between colons. -/
def namedClass? (name : String) : Option CharSet :=
  let lower := CharSet.range 'a' 'z'
  let upper := CharSet.range 'A' 'Z'
  let decimal := CharSet.range '0' '9'
  let alpha := CharSet.union lower upper
  match name with
  | "alpha" => some alpha
  | "alnum" => some (.union alpha decimal)
  | "ascii" => some (.range '\x00' '\x7F')
  | "blank" => some (.union (.range '\t' '\t') (.range ' ' ' '))
  | "cntrl" => some (.union (.range '\x00' '\x1F') (.range '\x7F' '\x7F'))
  | "digit" => some decimal
  | "graph" => some (.range '!' '~')
  | "lower" => some lower
  | "print" => some (.range ' ' '~')
  | "punct" =>
    some (.intersection (.range '!' '~') (.complement (.union alpha decimal)))
  | "space" => some (.union (.range '\t' '\r') (.range ' ' ' '))
  | "upper" => some upper
  | "word" => some (.union (.union alpha decimal) (.range '_' '_'))
  | "xdigit" => some (.union decimal (.union (.range 'a' 'f') (.range 'A' 'F')))
  | _ => none

/-- A named class after its first bracket and colon. -/
def readNamedClass? (cs : List Char) : Option (CharSet × List Char) :=
  let (negated, cs) := match cs with
    | '^' :: rest => (true, rest)
    | _ => (false, cs)
  let name := cs.takeWhile Text.isLetter
  match after? ":]".toList (cs.drop name.length), namedClass? (String.ofList name) with
  | some rest, some s => some (if negated then .complement s else s, rest)
  | _, _ => none

/-- One end of a range. -/
def readClassChar? (cs : List Char) : Option (Escape × List Char) :=
  match cs with
  | '\\' :: rest => readEscape? rest
  | c :: rest => some (.char c, rest)
  | [] => none

/-- A set operation between two parts of a class. -/
inductive SetOperation where
  | intersection
  | difference
  | symmetricDifference

/-- Applies a set operation. -/
def SetOperation.apply (op : SetOperation) (a b : CharSet) : CharSet :=
  match op with
  | intersection => .intersection a b
  | difference => .intersection a (.complement b)
  | symmetricDifference =>
    .union (.intersection a (.complement b)) (.intersection b (.complement a))

/-- The sets before the part of a class that is being read, and the operation between. -/
def combine (before : Option (CharSet × SetOperation)) (s : CharSet) : CharSet :=
  match before with
  | none => s
  | some (a, op) => op.apply a s

mutual

/-- A class after its first bracket. -/
def readClass? (f : Flags) : Nat → List Char → Option (CharSet × List Char)
  | 0, _ => none
  | fuel + 1, cs =>
    let (negated, cs) := match cs with
      | '^' :: rest => (true, rest)
      | _ => (false, cs)
    let (start, cs) := match cs with
      | ']' :: rest => (CharSet.single f ']', rest)
      | _ => (CharSet.none, cs)
    match readClassItems? f fuel none start cs with
    | some (s, rest) => some (if negated then .complement s else s, rest)
    | none => none

/-- The items of a class up to its last bracket. -/
def readClassItems? (f : Flags) : Nat → Option (CharSet × SetOperation) → CharSet → List Char →
    Option (CharSet × List Char)
  | 0, _, _, _ => none
  | fuel + 1, before, s, cs =>
    match f.skip cs.length cs with
    | [] => none
    | ']' :: rest => some (combine before s, rest)
    | '&' :: '&' :: rest =>
      readClassItems? f fuel (some (combine before s, .intersection)) .none rest
    | '-' :: '-' :: rest =>
      readClassItems? f fuel (some (combine before s, .difference)) .none rest
    | '~' :: '~' :: rest =>
      readClassItems? f fuel (some (combine before s, .symmetricDifference)) .none rest
    | '[' :: rest =>
      let named := match rest with
        | ':' :: rest => readNamedClass? rest
        | _ => none
      match named with
      | some (a, rest) => readClassItems? f fuel before (.union s a) rest
      | none =>
        match readClass? f fuel rest with
        | some (a, rest) => readClassItems? f fuel before (.union s a) rest
        | none => none
    | cs =>
      match readClassChar? cs with
      | some (.set a, rest) => readClassItems? f fuel before (.union s a) rest
      | some (.char low, rest) =>
        let single := readClassItems? f fuel before (.union s (.single f low)) rest
        match rest with
        | '-' :: ']' :: _ => single
        | '-' :: '-' :: _ => single
        | '-' :: rest =>
          match readClassChar? rest with
          | some (.char high, rest) =>
            if low ≤ high then
              readClassItems? f fuel before (.union s (.between f low high)) rest
            else none
          | _ => none
        | _ => single
      | _ => none

end

/-! ## Patterns -/

/-- A repetition sign after a part: the least and the greatest number of rounds. -/
def readRepetition? (cs : List Char) : Option (Option ((Nat × Option Nat) × List Char)) :=
  match cs with
  | '*' :: rest => some (some ((0, none), rest))
  | '+' :: rest => some (some ((1, none), rest))
  | '?' :: rest => some (some ((0, some 1), rest))
  | '\x7b' :: rest => do
    let (least, rest) ← readCount? rest
    match rest with
    | '\x7d' :: rest => some (some ((least, some least), rest))
    | ',' :: '\x7d' :: rest => some (some ((least, none), rest))
    | ',' :: rest =>
      let (most, rest) ← readCount? rest
      match rest with
      | '\x7d' :: rest => if least ≤ most then some (some ((least, some most), rest)) else none
      | _ => none
    | _ => none
  | _ => some none

/-- The repetition signs after a part, each perhaps with a question mark. -/
def readRepetitions? (f : Flags) : Nat → Pattern → List Char → Option (Pattern × List Char)
  | 0, _, _ => none
  | fuel + 1, p, cs => do
    match ← readRepetition? (f.skip cs.length cs) with
    | none => some (p, cs)
    | some ((least, most), rest) =>
      let rest := match rest with
        | '?' :: rest => rest
        | _ => rest
      readRepetitions? f fuel (.times least most p) rest

/-- Sets or clears a flag. -/
def Flags.set? (f : Flags) (value : Bool) : Char → Option Flags
  | 'i' => some { f with ignoreCase := value }
  | 'm' => some { f with multiLine := value }
  | 's' => some { f with dotAll := value }
  | 'R' => some { f with carriageReturn := value }
  | 'x' => some { f with extended := value }
  | 'U' | 'u' => some f
  | _ => none

/-- Flags up to the end of a group's head; the character that ends it comes back too. -/
def readFlags? : Nat → Bool → Flags → List Char → Option (Flags × Char × List Char)
  | 0, _, _, _ => none
  | _, _, _, [] => none
  | fuel + 1, value, f, c :: rest =>
    if c == ')' || c == ':' then some (f, c, rest)
    else if c == '-' && value then readFlags? fuel false f rest
    else
      match f.set? value c with
      | some f => readFlags? fuel value f rest
      | none => none

/-- Past the name of a group and the sign that ends it. -/
def skipGroupName? (cs : List Char) : Option (List Char) :=
  let isStart (c : Char) : Bool := Text.isLetter c || c == '_'
  let isPart (c : Char) : Bool := isStart c || Text.isDigit c || c == '.' || c == '[' || c == ']'
  match cs with
  | c :: rest =>
    match isStart c, rest.dropWhile isPart with
    | true, '>' :: rest => some rest
    | _, _ => none
  | [] => none

mutual

/-- Alternatives up to the end of a group or of the text, and the flags after them. -/
def readAlternatives? : Nat → Flags → List Char → Option (Pattern × List Char)
  | 0, _, _ => none
  | fuel + 1, f, cs => do
    let (p, f, rest) ← readSequence? fuel f cs
    match rest with
    | '|' :: rest =>
      let (q, rest) ← readAlternatives? fuel f rest
      some (.alt p q, rest)
    | _ => some (p, rest)

/-- Parts in a row. -/
def readSequence? : Nat → Flags → List Char → Option (Pattern × Flags × List Char)
  | 0, _, _ => none
  | fuel + 1, f, cs => do
    match f.skip cs.length cs with
    | [] => some (.empty, f, [])
    | '|' :: rest => some (.empty, f, '|' :: rest)
    | ')' :: rest => some (.empty, f, ')' :: rest)
    | '(' :: '?' :: rest =>
      match rest with
      | 'P' :: '<' :: rest | '<' :: rest =>
        let rest ← skipGroupName? rest
        readGroup? fuel f f rest
      | _ =>
        let (g, stop, rest) ← readFlags? (rest.length + 1) true f rest
        if stop == ')' then readSequence? fuel g rest else readGroup? fuel f g rest
    | '(' :: rest => readGroup? fuel f f rest
    | cs =>
      let (p, rest) ← readPart? f fuel cs
      readRest? fuel f p rest

/-- A group after its head, and what follows it. -/
def readGroup? : Nat → Flags → Flags → List Char → Option (Pattern × Flags × List Char)
  | 0, _, _, _ => none
  | fuel + 1, f, inside, cs => do
    let (p, rest) ← readAlternatives? fuel inside cs
    match rest with
    | ')' :: rest => readRest? fuel f p rest
    | _ => none

/-- The repetitions of a part, and the parts after it. -/
def readRest? : Nat → Flags → Pattern → List Char → Option (Pattern × Flags × List Char)
  | 0, _, _, _ => none
  | fuel + 1, f, p, cs => do
    let (p, rest) ← readRepetitions? f (cs.length + 1) p cs
    let (q, f, rest) ← readSequence? fuel f rest
    some (.seq p q, f, rest)

/-- A part that is no group. -/
def readPart? (f : Flags) : Nat → List Char → Option (Pattern × List Char)
  | 0, _ => none
  | _, [] => none
  | fuel + 1, c :: rest =>
    match c with
    | '.' => some (.char f.dot, rest)
    | '^' => some (.boundary (if f.multiLine then .lineStart else .textStart), rest)
    | '$' => some (.boundary (if f.multiLine then .lineEnd else .textEnd), rest)
    | '[' => (readClass? f fuel rest).map fun r => (.char r.1, r.2)
    | '\\' =>
      match readEscape? rest with
      | some (.char c, rest) => some (.char (.single f c), rest)
      | some (.set s, rest) => some (.char s, rest)
      | some (.boundary b, rest) => some (.boundary b, rest)
      | none => none
    | c =>
      if c == '*' || c == '+' || c == '?' || c == '\x7b' then none
      else some (.char (.single f c), rest)

end

/-- The pattern that a text spells. -/
def Pattern.ofText? (f : Flags) (s : String) : Option Pattern :=
  match readAlternatives? (4 * s.length + 8) f s.toList with
  | some (p, []) => some p
  | _ => none

/-- Whether a pattern describes a whole text, or some part of it. A malformed pattern describes
nothing. A dot stands for no line break, be it a carriage return. -/
def describes (whole : Bool) (pattern subject : String) : Bool :=
  let spelled := if whole then "^(" ++ pattern ++ ")$" else "(" ++ pattern ++ ")"
  match Pattern.ofText? { carriageReturn := true } spelled with
  | some p => p.occursIn subject
  | none => false

end Reconcile.Query
