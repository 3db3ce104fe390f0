import Reconcile.Json.Basic
import Reconcile.Text.Ascii
import Reconcile.Text.Utf8

/-!
# JSON texts, read as far as they are well formed

Reference model of the reader of JSON texts behind `parse_recipe_str`, `parse_body` and the replies
of token endpoints, with its limit on nesting.

* `Fault` — a text that is malformed, or that ends too early.
* `Break` — where a text stops being JSON, as it shows to a reader that needs the value, to one
  that passes over it, and to one that expects a single name.
* `Draft` — the tree of a text up to its first break. Entries keep the order of the text and
  may repeat a name.
* `Draft.ofText` — the tree of a text, and whether something other than blanks follows it.
* `Draft.json` — the value of a tree without breaks, nested at most as deep as allowed.

A tree with breaks is useful because a wrong type in the part before a break is reported in
place of the break.

Left out: the line and the column of a break, and how it is worded.
-/

namespace Reconcile.Json

/-- Why a text is not JSON. -/
inductive Fault where
  | ended
  | malformed
  deriving DecidableEq, Repr

/-- Where a text stops being JSON. A reader that passes over a value does not look at what its
characters mean; one that expects a name gives up at the first character that cannot start
one, or at the first comma after it. -/
structure Break where
  reading : Fault
  passing : Fault
  naming : Fault
  deriving DecidableEq, Repr

/-- The same fault for every kind of reader. -/
def Break.all (f : Fault) : Break := ⟨f, f, f⟩

mutual

/-- The tree of a JSON text up to its first break. -/
inductive Draft where
  | null
  | bool (b : Bool)
  /-- A number; `none` when it is beyond the largest binary64 value. -/
  | number (value : Option Number)
  /-- A string; `none` when an escape in it stands for half a character. -/
  | string (text : Option String)
  | array (items : Items)
  | object (fields : Fields)
  | broken (at_ : Break)

/-- The items of an array, and how the array ends. -/
inductive Items where
  | closed
  | stop (at_ : Break)
  | cons (item : Draft) (rest : Items)

/-- The entries of an object, and how the object ends. -/
inductive Fields where
  | closed
  | stop (at_ : Break)
  /-- A value stands where the first name should. -/
  | stray (value : Draft)
  | cons (name : Option String) (value : Draft) (rest : Fields)

end

/-! ## Numbers -/

/-- The largest integer that fits 64 bits without a sign. -/
def maxInteger : Nat := (1 <<< 64) - 1

/-- Reads digits after `sum` for as long as the sum fits 64 bits; also counts those left. -/
def sumDigits : Nat → List Nat → Nat × Nat
  | sum, [] => (sum, 0)
  | sum, d :: ds => if maxInteger < sum * 10 + d then (sum, ds.length + 1)
    else sumDigits (sum * 10 + d) ds

/-- Ten to a power up to 308, as the nearest binary64 value. -/
def powerOfTen (k : Nat) : Binary64 :=
  (Binary64.ofDecimal? false 1 k).getD default

/-- A value divided by ten to a power, in steps of at most 308 places. -/
def scaleDown (x : Binary64) (k : Nat) : Binary64 :=
  if x.isZero then x
  else if k ≤ 308 then (x.div? (powerOfTen k)).getD default
  else scaleDown ((x.div? (powerOfTen 308)).getD default) (k - 308)
  termination_by k

/-- `significand * 10 ^ power`: the significand is rounded first, and the product again. -/
def realOf? (significand : Nat) (power : Int) : Option Binary64 := do
  let x ← Binary64.ofNat? significand
  if power < 0 then pure (scaleDown x (-power).toNat)
  else if x.isZero then pure x
  else if power ≤ 308 then x.mul? (powerOfTen power.toNat)
  else none

/-- The spelling of a number: its sign, the digits before and after the point, and the sign and
digits of the exponent. -/
structure Literal where
  negative : Bool
  whole : List Nat
  fraction : List Nat := []
  exponent : Option (Bool × List Nat) := none
  isWhole : Bool
  deriving DecidableEq, Repr

/-- The value of a spelling; `none` when it is too large. Whole numbers that fit 64 bits are
integers, `-0` and all others are reals. Digits that no longer fit the 64 bits of the
significand only count as places. -/
def Literal.number? (l : Literal) : Option Number :=
  let (sum, dropped) := sumDigits 0 l.whole
  let signed (x : Binary64) : Number := .real (if l.negative then x.neg else x)
  let integer? : Option Integer :=
    if !l.isWhole || dropped != 0 then none
    else if !l.negative then Integer.ofInt? sum
    else if sum == 0 then none
    else Integer.ofInt? (-(sum : Int))
  match integer? with
  | some i => some (.integer i)
  | none =>
    let (sum, unread) := sumDigits sum l.fraction
    let power : Int := (dropped : Int) - ((l.fraction.length - unread : Nat) : Int)
    match l.exponent with
    | none => (realOf? sum power).map signed
    | some (down, digits) =>
      let e : Nat := digits.foldl (fun s d => s * 10 + d) 0
      if 1 <<< 31 ≤ e then
        if sum != 0 && !down then none else some (signed (Binary64.zero false))
      else (realOf? sum (if down then power - (e : Int) else power + (e : Int))).map signed

/-- The digits at the head of a text, and what follows. -/
def spanDigits : List Char → List Nat × List Char
  | [] => ([], [])
  | c :: rest =>
    if Text.isDigit c then
      let r := spanDigits rest
      (Text.digitValue c :: r.1, r.2)
    else ([], c :: rest)

/-- A number that lacks a digit: at the end of the text a reader that needs the value finds that
the text ends too early. -/
def missingDigit (rest : List Char) : Break :=
  if rest.isEmpty then ⟨.ended, .malformed, .malformed⟩ else .all .malformed

/-- Reads the exponent of a number after its letter. -/
def readExponent (rest : List Char) : Except Break ((Bool × List Nat) × List Char) :=
  let (down, rest) :=
    match rest with
    | '+' :: r => (false, r)
    | '-' :: r => (true, r)
    | r => (false, r)
  match spanDigits rest with
  | ([], rest) => .error (missingDigit rest)
  | (ds, rest) => .ok ((down, ds), rest)

/-- Reads a number after its sign. -/
def readNumber (negative : Bool) (cs : List Char) : Except Break (Option Number × List Char) := do
  let (whole, rest) ←
    match spanDigits cs with
    | ([], rest) => .error (missingDigit rest)
    | (0 :: _ :: _, _) => .error (.all .malformed)
    | (ds, rest) => .ok (ds, rest)
  let (fraction, pointed, rest) ←
    match rest with
    | '.' :: r =>
      match spanDigits r with
      | ([], r) => .error (missingDigit r)
      | (ds, r) => .ok (ds, true, r)
    | r => .ok ([], false, r)
  match rest with
  | 'e' :: r | 'E' :: r =>
    let (e, r) ← readExponent r
    pure ((Literal.mk negative whole fraction (some e) false).number?, r)
  | r => pure ((Literal.mk negative whole fraction none (!pointed)).number?, r)

/-! ## Strings -/

/-- The value of four hexadecimal digits at the head of a text. Fewer than four bytes are an end
that comes too early, whatever they are. -/
def readHex4 (cs : List Char) : Except Fault (Nat × List Char) :=
  match cs with
  | a :: b :: c :: d :: rest =>
    match Text.hexValue? a, Text.hexValue? b, Text.hexValue? c, Text.hexValue? d with
    | some a, some b, some c, some d => .ok (((a * 16 + b) * 16 + c) * 16 + d, rest)
    | _, _, _, _ => .error .malformed
  | short => .error (if Text.Utf8.size short < 4 then .ended else .malformed)

/-- The character of a one-letter escape. -/
def simpleEscape? : Char → Option Char
  | '"' => some '"'
  | '\\' => some '\\'
  | '/' => some '/'
  | 'b' => some '\x08'
  | 'f' => some '\x0C'
  | 'n' => some '\n'
  | 'r' => some '\r'
  | 't' => some '\t'
  | _ => none

/-- What an escape of the form `\u` stands for: a character, or half of one. -/
def readUnicodeEscape (cs : List Char) : Except Fault (Option Char × List Char) := do
  let (high, rest) ← readHex4 cs
  if 0xDC00 ≤ high && high ≤ 0xDFFF then pure (none, rest)
  else if 0xD800 ≤ high && high ≤ 0xDBFF then
    match rest with
    | [] => throw .ended
    | ['\\'] => throw .ended
    | '\\' :: 'u' :: r =>
      let (low, r) ← readHex4 r
      if 0xDC00 ≤ low && low ≤ 0xDFFF then
        pure (some (Char.ofNat (0x10000 + (high - 0xD800) * 0x400 + (low - 0xDC00))), r)
      else pure (none, r)
    | r => pure (none, r)
  else pure (some (Char.ofNat high), rest)

/-- The break that a fault makes in a string; a half character before it counts first. -/
def breakInString (soFar : Option (List Char)) (f : Fault) : Break :=
  let reading := if soFar.isNone then .malformed else f
  ⟨reading, f, reading⟩

/-- Reads a string after its opening quote. `soFar` holds the characters read, in reverse, or
`none` once an escape stood for half a character. -/
def readString : Nat → Option (List Char) → List Char → Except Break (Option String × List Char)
  | 0, soFar, _ => .error (breakInString soFar .ended)
  | _ + 1, soFar, [] => .error (breakInString soFar .ended)
  | fuel + 1, soFar, c :: rest =>
    if c == '"' then .ok (soFar.map fun cs => String.ofList cs.reverse, rest)
    else if c == '\\' then
      match rest with
      | [] => .error (breakInString soFar .ended)
      | 'u' :: rest =>
        match readUnicodeEscape rest with
        | .error f => .error (breakInString soFar f)
        | .ok (c?, rest) => readString fuel (do pure ((← c?) :: (← soFar))) rest
      | e :: rest =>
        match simpleEscape? e with
        | none => .error (breakInString soFar .malformed)
        | some c => readString fuel (soFar.map (c :: ·)) rest
    else if c.toNat < 0x20 then .error (breakInString soFar .malformed)
    else readString fuel (soFar.map (c :: ·)) rest

/-! ## Values -/

/-- The blanks between the parts of a JSON text. -/
def isSpace (c : Char) : Bool :=
  c == ' ' || c == '\n' || c == '\t' || c == '\r'

/-- A text without the blanks it starts with. -/
def skipSpace (cs : List Char) : List Char :=
  cs.dropWhile isSpace

/-- Reads the rest of a word such as `true`. -/
def readWord : List Char → List Char → Except Break (List Char)
  | [], rest => .ok rest
  | _ :: _, [] => .error ⟨.ended, .ended, .malformed⟩
  | w :: ws, c :: rest => if c == w then readWord ws rest else .error (.all .malformed)

/-- Whether a text has a break, so that nothing after it counts. -/
def Draft.isBroken : Draft → Bool
  | .broken _ => true
  | .array items => go items
  | .object fields => goFields fields
  | _ => false
where
  go : Items → Bool
    | .closed => false
    | .stop _ => true
    | .cons _ rest => go rest
  goFields : Fields → Bool
    | .closed => false
    | .stop _ => true
    | .stray _ => true
    | .cons _ _ rest => goFields rest

/-- A scalar as a draft, with the text after it. -/
def scalar {α : Type} (make : α → Draft) : Except Break (α × List Char) → Draft × List Char
  | .ok (v, rest) => (make v, rest)
  | .error b => (.broken b, [])

mutual

/-- Reads one value. Each call uses up a character, so the length of the text is fuel enough. -/
def readValue : Nat → List Char → Draft × List Char
  | 0, _ => (.broken (.all .malformed), [])
  | fuel + 1, cs =>
    match skipSpace cs with
    | [] => (.broken (.all .ended), [])
    | c :: rest =>
      match c with
      | 'n' => scalar (fun _ => .null) ((readWord "ull".toList rest).map ((), ·))
      | 't' => scalar (fun _ => .bool true) ((readWord "rue".toList rest).map ((), ·))
      | 'f' => scalar (fun _ => .bool false) ((readWord "alse".toList rest).map ((), ·))
      | '-' => scalar .number (readNumber true rest)
      | '"' => scalar .string (readString fuel (some []) rest)
      | '[' =>
        match skipSpace rest with
        | ']' :: rest => (.array .closed, rest)
        | [] => (.array (.stop (.all .ended)), [])
        | rest =>
          let r := readItems fuel rest
          (.array r.1, r.2)
      | '{' =>
        match skipSpace rest with
        | '}' :: rest => (.object .closed, rest)
        | [] => (.object (.stop (.all .ended)), [])
        | '"' :: rest =>
          let r := readFields fuel rest
          (.object r.1, r.2)
        | rest => (.object (.stray (readValue fuel rest).1), [])
      | c =>
        if Text.isDigit c then scalar .number (readNumber false (c :: rest))
        else (.broken (.all .malformed), [])

/-- Reads the items of an array, up to its closing bracket. -/
def readItems : Nat → List Char → Items × List Char
  | 0, _ => (.stop (.all .malformed), [])
  | fuel + 1, cs =>
    let v := readValue fuel cs
    if v.1.isBroken then (.cons v.1 (.stop (.all .malformed)), [])
    else
      match skipSpace v.2 with
      | [] => (.cons v.1 (.stop (.all .ended)), [])
      | ']' :: rest => (.cons v.1 .closed, rest)
      | ',' :: rest =>
        let r := readItems fuel rest
        (.cons v.1 r.1, r.2)
      | _ => (.cons v.1 (.stop (.all .malformed)), [])

/-- Reads the entries of an object after the quote of a name, up to the closing brace. -/
def readFields : Nat → List Char → Fields × List Char
  | 0, _ => (.stop (.all .malformed), [])
  | fuel + 1, cs =>
    match readString fuel (some []) cs with
    | .error b => (.stop b, [])
    | .ok (name, rest) =>
      match skipSpace rest with
      | [] => (.cons name (.broken (.all .ended)) (.stop (.all .ended)), [])
      | ':' :: rest =>
        let v := readValue fuel rest
        if v.1.isBroken then (.cons name v.1 (.stop (.all .malformed)), [])
        else
          match skipSpace v.2 with
          | [] => (.cons name v.1 (.stop (.all .ended)), [])
          | '}' :: rest => (.cons name v.1 .closed, rest)
          | ',' :: rest =>
            match skipSpace rest with
            | [] => (.cons name v.1 (.stop ⟨.ended, .ended, .malformed⟩), [])
            | '"' :: rest =>
              let r := readFields fuel rest
              (.cons name v.1 r.1, r.2)
            | _ => (.cons name v.1 (.stop (.all .malformed)), [])
          | _ => (.cons name v.1 (.stop (.all .malformed)), [])
      | _ => (.cons name (.broken (.all .malformed)) (.stop (.all .malformed)), [])

end

/-- The tree of a text, and whether anything but blanks follows it. -/
def Draft.ofText (s : String) : Draft × Bool :=
  let cs := s.toList
  let r := readValue (2 * cs.length + 2) cs
  (r.1, !(skipSpace r.2).isEmpty)

/-! ## Values of trees -/

/-- How deep arrays and objects may nest, and one more. -/
def depthLimit : Nat := 128

mutual

/-- The value of a tree in which `depth - 1` further levels may nest. Faults show in the order
of the text. -/
def Draft.json (depth : Nat) : Draft → Except Fault Json
  | .null => .ok .null
  | .bool b => .ok (.bool b)
  | .number (some n) => .ok (.number n)
  | .number none => .error .malformed
  | .string (some s) => .ok (.string s)
  | .string none => .error .malformed
  | .array items =>
    if depth ≤ 1 then .error .malformed
    else do pure (.array (← items.json (depth - 1)))
  | .object fields =>
    if depth ≤ 1 then .error .malformed
    else do pure (.object (← fields.json (depth - 1) []))
  | .broken b => .error b.reading

/-- The values of the items. -/
def Items.json (depth : Nat) : Items → Except Fault (List Json)
  | .closed => .ok []
  | .stop b => .error b.reading
  | .cons item rest => do
    let v ← item.json depth
    pure (v :: (← rest.json depth))

/-- The entries, put into `soFar`; a repeated name takes its last value. -/
def Fields.json (depth : Nat) : Fields → List (String × Json) → Except Fault (List (String × Json))
  | .closed, soFar => .ok soFar
  | .stop b, _ => .error b.reading
  | .stray _, _ => .error .malformed
  | .cons none _ _, _ => .error .malformed
  | .cons (some name) value rest, soFar => do
    let v ← value.json depth
    rest.json depth (Table.set name v soFar)

end

mutual

/-- The fault that a reader meets who passes over a tree. -/
def Draft.passOver : Draft → Except Fault Unit
  | .array items => items.passOver
  | .object fields => fields.passOver
  | .broken b => .error b.passing
  | _ => .ok ()

/-- The fault in the items. -/
def Items.passOver : Items → Except Fault Unit
  | .closed => .ok ()
  | .stop b => .error b.passing
  | .cons item rest => do item.passOver; rest.passOver

/-- The fault in the entries. -/
def Fields.passOver : Fields → Except Fault Unit
  | .closed => .ok ()
  | .stop b => .error b.passing
  | .stray _ => .error .malformed
  | .cons _ value rest => do value.passOver; rest.passOver

end

/-- The value of a JSON text. -/
def ofText? (s : String) : Option Json :=
  match Draft.ofText s with
  | (d, false) => (d.json depthLimit).toOption
  | (_, true) => none

/-- The value of the bytes of a JSON text. -/
def ofBytes? (bytes : List UInt8) : Option Json :=
  (Text.Utf8.decode? bytes).bind ofText?

end Reconcile.Json
