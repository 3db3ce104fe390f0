import Reconcile.Json.Basic

/-!
# JSONPath queries

The queries of RFC 9535, as `JsonPath::parse` reads them.

* `Step` — a step of a query that finds one value at most.
* `Operand`, `Filter`, `Selector`, `Segment`, `Path` — the parts of a query. What functions take
  and give is part of the types, so a query is well typed once it is read.

Left out: functions other than those of RFC 9535; the program registers none.
-/

namespace Reconcile.Query

/-- How two values are compared. -/
inductive Comparison where
  | equal
  | notEqual
  | less
  | lessOrEqual
  | greater
  | greaterOrEqual
  deriving DecidableEq, Repr

/-- A step of a query that finds one value at most. -/
inductive Step where
  | name (s : String)
  | index (i : Int)
  deriving DecidableEq, Repr

mutual

/-- Something that has a value, or nothing. -/
inductive Operand where
  | literal (v : Json)
  /-- The value at the end of some steps. -/
  | singular (fromRoot : Bool) (steps : List Step)
  /-- The length of a text, an array or an object. -/
  | length (o : Operand)
  /-- The number of values that a query finds. -/
  | count (q : Path)
  /-- The value that a query finds, if it finds just one. -/
  | value (q : Path)

/-- A condition. -/
inductive Filter where
  | or (a b : Filter)
  | and (a b : Filter)
  | not (a : Filter)
  | compare (a : Operand) (c : Comparison) (b : Operand)
  /-- Whether a query finds anything. -/
  | exists (q : Path)
  /-- Whether a pattern describes a whole text, or some part of it. -/
  | matches (whole : Bool) (subject pattern : Operand)

/-- What a segment selects of a value. -/
inductive Selector where
  | name (s : String)
  | wildcard
  | index (i : Int)
  | slice (start stop step : Option Int)
  | filter (f : Filter)

/-- Selectors, applied to values or to them and all values inside them. -/
inductive Segment where
  | mk (descendants : Bool) (selectors : List Selector)

/-- Segments, applied one after the other. -/
inductive Path where
  | mk (fromRoot : Bool) (segments : List Segment)

end

end Reconcile.Query
