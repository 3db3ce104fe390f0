import Reconcile.Query.Basic
import Reconcile.Query.PatternReading

/-!
# What queries find

Reference model of `JsonPath::query` (RFC 9535).

* `children`, `descend` — the values inside a value; a selection at a value and at all values
  inside it, a value before those inside it.
* `equalValues`, `Comparison.holds` — comparison. Numbers are compared as binary64 values; only
  numbers and texts are ordered, and two values of one other kind that are not equal count as
  greater than each other.
* `slice` — the items of a slice.
* `Path.find` — the values that a query finds, in order.

Left out: where in the document a value was found, since the program asks for the values only.
-/

namespace Reconcile.Query

/-- The values inside a value: items in order, entries by name. -/
def children : Json → List Json
  | .array items => items
  | .object entries => entries.map Prod.snd
  | _ => []

mutual

/-- A selection at a value and at all values inside it. -/
def descend (select : Json → List Json) : Json → List Json
  | .array items => select (.array items) ++ descendItems select items
  | .object entries => select (.object entries) ++ descendEntries select entries
  | v => select v

/-- A selection at items and at all values inside them. -/
def descendItems (select : Json → List Json) : List Json → List Json
  | [] => []
  | v :: rest => descend select v ++ descendItems select rest

/-- A selection at the values of entries and at all values inside them. -/
def descendEntries (select : Json → List Json) : List (String × Json) → List Json
  | [] => []
  | (_, v) :: rest => descend select v ++ descendEntries select rest

end

/-! ## Comparison -/

/-- The binary64 value nearest to a number. -/
def realOf : Number → Binary64
  | .real x => x
  | .integer i =>
    let x := (Binary64.ofNat? i.value.natAbs).getD default
    if i.value < 0 then x.neg else x

mutual

/-- Equality up to the spelling of numbers. -/
def equalValues : Json → Json → Bool
  | .null, .null => true
  | .bool a, .bool b => a == b
  | .number a, .number b => (realOf a).sameValue (realOf b)
  | .string a, .string b => a == b
  | .array a, .array b => equalItems a b
  | .object a, .object b => equalEntries a b
  | _, _ => false

/-- Equality item by item. -/
def equalItems : List Json → List Json → Bool
  | [], [] => true
  | a :: as, b :: bs => equalValues a b && equalItems as bs
  | _, _ => false

/-- Equality entry by entry. -/
def equalEntries : List (String × Json) → List (String × Json) → Bool
  | [], [] => true
  | (n, a) :: as, (m, b) :: bs => n == m && equalValues a b && equalEntries as bs
  | _, _ => false

end

/-- Equality of values that may be missing. -/
def equalOptions : Option Json → Option Json → Bool
  | none, none => true
  | some a, some b => equalValues a b
  | _, _ => false

/-- The order of numbers and of texts. -/
def lessOptions : Option Json → Option Json → Bool
  | some (.number a), some (.number b) => (realOf a).compare (realOf b) == .lt
  | some (.string a), some (.string b) => a < b
  | _, _ => false

/-- Whether two values are of one kind, or both missing. -/
def sameKind : Option Json → Option Json → Bool
  | none, none => true
  | some a, some b => a.typeName == b.typeName
  | _, _ => false

/-- Compares values that may be missing. -/
def Comparison.holds (c : Comparison) (a b : Option Json) : Bool :=
  match c with
  | equal => equalOptions a b
  | notEqual => !equalOptions a b
  | less => lessOptions a b
  | lessOrEqual => sameKind a b && (lessOptions a b || equalOptions a b)
  | greater => sameKind a b && !lessOptions a b && !equalOptions a b
  | greaterOrEqual => sameKind a b && !lessOptions a b

/-! ## Selection -/

/-- The entry of a name. -/
def valueAt? (s : String) : Json → Option Json
  | .object entries => (entries.find? fun e => e.1 == s).map Prod.snd
  | _ => none

/-- The item at an index; negative ones count from the end. -/
def item? (i : Int) : Json → Option Json
  | .array items =>
    if 0 ≤ i then items[i.toNat]?
    else if (-i).toNat ≤ items.length then items[items.length - (-i).toNat]?
    else none
  | _ => none

/-- A step of a query that finds one value at most. -/
def Step.take? : Step → Json → Option Json
  | .name s, v => valueAt? s v
  | .index i, v => item? i v

/-- Items at regular distances from `start`, up to but without `stop`, downwards for a negative
distance. -/
def spaced (items : List Json) (step stop : Int) : Nat → Int → List Json
  | 0, _ => []
  | fuel + 1, i =>
    if (0 < step && i < stop) || (step < 0 && stop < i) then
      (items[i.toNat]?).toList ++ spaced items step stop fuel (i + step)
    else []

/-- The items of a slice. Ends that are missing are those of the array, negative ones count from
its end, and what is out of range is moved to the end it lies beyond. -/
def slice (start stop step : Option Int) : Json → List Json
  | .array items =>
    let n : Int := items.length
    let step := step.getD 1
    let place (i : Int) : Int := if 0 ≤ i then i else n + i
    if step = 0 then []
    else if 0 < step then
      let start := max 0 (min n (place (start.getD 0)))
      let stop := max 0 (min n (place (stop.getD n)))
      spaced items step stop items.length start
    else
      let start := max (-1) (min (n - 1) (place (start.getD (n - 1))))
      let stop := max (-1) (min (n - 1) (place (stop.getD (-n - 1))))
      spaced items step stop items.length start
  | _ => []

/-- The length of a text in characters, or the number of items or entries. -/
def lengthOf? : Json → Option Nat
  | .string s => some s.length
  | .array items => some items.length
  | .object entries => some entries.length
  | _ => none

mutual

/-- The values that a query finds. -/
def Path.find (root current : Json) : Path → List Json
  | .mk fromRoot segments => applySegments root segments [if fromRoot then root else current]

/-- Segments, applied one after the other. -/
def applySegments (root : Json) : List Segment → List Json → List Json
  | [], found => found
  | .mk descendants selectors :: rest, found =>
    let select := applySelectors root selectors
    applySegments root rest
      (found.flatMap fun v => if descendants then descend select v else select v)

/-- What selectors select of a value. -/
def applySelectors (root : Json) : List Selector → Json → List Json
  | [], _ => []
  | s :: rest, v => s.select root v ++ applySelectors root rest v

/-- What a selector selects of a value. -/
def Selector.select (root : Json) : Selector → Json → List Json
  | .name s, v => (valueAt? s v).toList
  | .wildcard, v => children v
  | .index i, v => (item? i v).toList
  | .slice start stop step, v => slice start stop step v
  | .filter f, v => (children v).filter (f.holds root)

/-- Whether a condition holds for a value. -/
def Filter.holds (root : Json) : Filter → Json → Bool
  | .or a b, v => a.holds root v || b.holds root v
  | .and a b, v => a.holds root v && b.holds root v
  | .not a, v => !a.holds root v
  | .compare a c b, v => c.holds (a.value? root v) (b.value? root v)
  | .exists q, v => !(q.find root v).isEmpty
  | .matches whole subject pattern, v =>
    match subject.value? root v, pattern.value? root v with
    | some (.string s), some (.string p) => describes whole p s
    | _, _ => false

/-- The value of an operand. -/
def Operand.value? (root : Json) : Operand → Json → Option Json
  | .literal j, _ => some j
  | .singular fromRoot steps, v =>
    steps.foldlM (fun v s => s.take? v) (if fromRoot then root else v)
  | .length o, v => do some (.ofNat (← lengthOf? (← o.value? root v)))
  | .count q, v => some (.ofNat (q.find root v).length)
  | .value q, v =>
    match q.find root v with
    | [found] => some found
    | _ => none

end

/-- The values that a query finds in a document. -/
def Path.findIn (q : Path) (document : Json) : List Json :=
  q.find document document

end Reconcile.Query
