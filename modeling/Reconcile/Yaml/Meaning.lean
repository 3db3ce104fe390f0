import Reconcile.Number.Shortest
import Reconcile.Text.Quoted
import Reconcile.Yaml.Node

/-!
# What YAML scalars mean

Reference model of how the YAML reader behind `parse_recipe_str` tells the types of scalars apart.

* `Meaning` — null, a truth value, an integer, a real or a text.
* `spellsNull`, `boolText?`, `natural?`, `negative?`, `signed?`, `real?` — the spellings of each.
* `Meaning.ofPlain` — the meaning of a scalar without quotes and without a tag.
* `Meaning.ofScalar` — the meaning of any scalar, its tag and its style considered.
* `Meaning.describe` — how messages name a scalar.
-/

namespace Reconcile.Yaml

/-- A real number, or one of the three values that are none. -/
inductive Real where
  | finite (x : Binary64)
  | infinite (negative : Bool)
  | undefined
  deriving DecidableEq

/-- What a scalar means. -/
inductive Meaning where
  | null
  | bool (b : Bool)
  /-- An integer from -2^127 up to, but without, 2^128. -/
  | integer (i : Int)
  | real (x : Real)
  | text (s : String)
  deriving DecidableEq

/-! ## Spellings -/

/-- Whether a text spells null; the empty text does not. -/
def spellsNull (s : String) : Bool :=
  s == "null" || s == "Null" || s == "NULL" || s == "~"

/-- The truth value that a text spells. -/
def boolText? (s : String) : Option Bool :=
  if s == "true" || s == "True" || s == "TRUE" then some true
  else if s == "false" || s == "False" || s == "FALSE" then some false
  else none

/-- The number that digits of a base spell; at least one is needed. -/
def digitsIn? (base : Nat) (cs : List Char) : Option Nat :=
  if cs.isEmpty then none
  else cs.foldl (fun n c => do
    let d ← Text.hexValue? c
    if d < base then some ((← n) * base + d) else none) (some 0)

/-- Whether digits follow a zero, be it after a sign: such a text is no number. -/
def hasLeadingZero (cs : List Char) : Bool :=
  let cs := match cs with
    | '-' :: cs | '+' :: cs => cs
    | cs => cs
  match cs with
  | '0' :: c :: cs => (c :: cs).all Text.isDigit
  | _ => false

/-- The number after a mark of its base. -/
def based? : List Char → Option Nat
  | '0' :: 'x' :: cs => digitsIn? 16 cs
  | '0' :: 'o' :: cs => digitsIn? 8 cs
  | '0' :: 'b' :: cs => digitsIn? 2 cs
  | _ => none

/-- A number without a sign, in base ten or with a mark of its base. -/
def unsigned? (cs : List Char) : Option Nat :=
  match based? cs with
  | some n => some n
  | none => if hasLeadingZero cs then none else digitsIn? 10 cs

/-- An integer that is not negative; a plus may stand before it. -/
def natural? (s : String) : Option Nat :=
  match s.toList with
  | '+' :: cs => unsigned? cs
  | cs => unsigned? cs

/-- An integer with a minus before it. -/
def negative? (s : String) : Option Int :=
  match s.toList with
  | '-' :: cs => (unsigned? cs).map fun n => -(n : Int)
  | _ => none

/-- An integer, be it with a sign. -/
def signed? (s : String) : Option Int :=
  match negative? s with
  | some i => some i
  | none => (natural? s).map Int.ofNat

/-- The exponent after its mark. -/
def exponent? (cs : List Char) : Option Int :=
  match cs with
  | '-' :: cs => (digitsIn? 10 cs).map fun n => -(n : Int)
  | '+' :: cs => (digitsIn? 10 cs).map Int.ofNat
  | cs => (digitsIn? 10 cs).map Int.ofNat

/-- A decimal without a sign: digits on one side of the point at least, then an exponent. The
nearest value comes back, if the decimal is not too large for one. -/
def decimal? (negative : Bool) (cs : List Char) : Option Binary64 := do
  let whole := cs.takeWhile Text.isDigit
  let rest := cs.drop whole.length
  let (fraction, rest) := match rest with
    | '.' :: rest => (rest.takeWhile Text.isDigit, rest.dropWhile Text.isDigit)
    | rest => ([], rest)
  let digits ← digitsIn? 10 (whole ++ fraction)
  let exponent ← match rest with
    | [] => some 0
    | 'e' :: rest | 'E' :: rest => exponent? rest
    | _ => none
  Binary64.ofDecimal? negative digits (exponent - fraction.length)

/-- The real that a text spells. -/
def real? (s : String) : Option Real :=
  let unsigned := match s.toList with
    | '+' :: cs => String.ofList cs
    | _ => s
  if unsigned == ".inf" || unsigned == ".Inf" || unsigned == ".INF" then some (.infinite false)
  else if s == "-.inf" || s == "-.Inf" || s == "-.INF" then some (.infinite true)
  else if s == ".nan" || s == ".NaN" || s == ".NAN" then some .undefined
  else
    match s.toList with
    | '-' :: cs => (decimal? true cs).map .finite
    | '+' :: cs => (decimal? false cs).map .finite
    | cs => (decimal? false cs).map .finite

/-! ## Meanings -/

/-- The integer that a text spells, if it is not too large for any. -/
def integer? (s : String) : Option Int :=
  match natural? s, negative? s with
  | some n, _ => if n < 1 <<< 128 then some n else none
  | none, some i => if -(1 <<< 127 : Nat) ≤ i then some i else none
  | none, none => none

/-- The meaning of a scalar without quotes and without a tag. -/
def Meaning.ofPlain (s : String) : Meaning :=
  if s.isEmpty || spellsNull s then .null
  else
    match boolText? s with
    | some b => .bool b
    | none =>
      match integer? s with
      | some i => .integer i
      | none =>
        if hasLeadingZero s.toList then .text s
        else
          match real? s with
          | some x => .real x
          | none => .text s

/-- The tags of YAML's own kinds of scalars. -/
def coreTag (name : String) : String := "tag:yaml.org,2002:" ++ name

/-- The name in a tag of the document's own, one that starts with an exclamation mark. -/
def localTag? : Option String → Option String
  | none => none
  | some tag =>
    match tag.toList with
    | '!' :: name => some (String.ofList name)
    | _ => none

/-- The meaning of a scalar. A tag of YAML's own kinds says which it has to be; what it was
expected to be comes back when it is not. -/
def Meaning.ofScalar (info : Info) (s : String) (style : Style) : Except String Meaning :=
  let plain := if style == .plain then Meaning.ofPlain s else .text s
  let forced (expected : String) (m : Option Meaning) : Except String Meaning :=
    match m with
    | some m => .ok m
    | none => .error expected
  match info.tag with
  | none => .ok plain
  | some tag =>
    if tag == coreTag "bool" then forced "a boolean" ((boolText? s).map .bool)
    else if tag == coreTag "int" then forced "an integer" ((integer? s).map .integer)
    else if tag == coreTag "float" then forced "a float" ((real? s).map .real)
    else if tag == coreTag "null" then forced "null" (if spellsNull s then some .null else none)
    else if (localTag? (some tag)).isSome then .ok plain
    else .ok (.text s)

/-- How messages name a real. -/
def Real.describe : Real → String
  | finite x => x.plainText
  | infinite false => "inf"
  | infinite true => "-inf"
  | undefined => "NaN"

/-- How messages name an integer: those beyond 64 bits with their width. -/
def describeInteger (i : Int) : String :=
  let named := "integer `" ++ toString i ++ "`"
  if (1 <<< 64 : Nat) ≤ i then named ++ " as u128"
  else if i < -(1 <<< 63 : Nat) then named ++ " as i128"
  else named

/-- How messages name a scalar. -/
def Meaning.describe : Meaning → String
  | null => "unit value"
  | bool b => "boolean `" ++ toString b ++ "`"
  | integer i => describeInteger i
  | real x => "floating point `" ++ x.describe ++ "`"
  | text s => "string " ++ Text.quote s

end Reconcile.Yaml
