import Reconcile.Json.Draft
import Reconcile.Recipe.Decoding
import Reconcile.Text.Quoted

/-!
# Recipes in JSON

Reference model of the decoding of a `Recipe` from JSON in `parse_recipe_str`.

* `ReadError` — a text that is no JSON, or data that does not fit.
* `Place` — a node of a text's tree, and how many levels may still nest there.
* `Json.source` — JSON as a document format. A record may also be a list of its fields in
  order, and a name may also be an object with that name and null.
* `Json.decode` — a reading of a whole text.

Parts of a text are looked at in their order, so the first thing wrong is what is reported, be
it in the text or in its data.

Left out: the line and the column that errors name.
-/

namespace Reconcile.Json

/-- Why a JSON text could not be read. -/
inductive ReadError where
  | fault (f : Fault)
  | data (m : Mismatch)
  deriving DecidableEq, Repr

/-- A node, and how many levels may nest from it on, plus one. -/
structure Place where
  depth : Nat
  node : Draft

/-- A place one level further in, if that level is allowed. -/
def Place.enter (p : Place) : Except ReadError Nat :=
  if p.depth ≤ 1 then .error (.fault .malformed) else .ok (p.depth - 1)

/-- How messages name a node. -/
def describe : Draft → Except ReadError String
  | .null => .ok "null"
  | .bool b => .ok ("boolean `" ++ toString b ++ "`")
  | .number (some (.integer i)) => .ok ("integer `" ++ toString i.value ++ "`")
  | .number (some (.real x)) => .ok ("floating point `" ++ x.text ++ "`")
  | .number none => .error (.fault .malformed)
  | .string (some s) => .ok ("string " ++ Text.quote s)
  | .string none => .error (.fault .malformed)
  | .array _ => .ok "sequence"
  | .object _ => .ok "map"
  | .broken b => .error (.fault b.reading)

/-- Reports a node of the wrong kind. -/
def wrong {α : Type} (expected : String) (d : Draft) : Except ReadError α := do
  throw (.data (.wrongType (← describe d) expected))

/-- A fault as an error. -/
def lift {α : Type} : Except Fault α → Except ReadError α
  | .ok a => .ok a
  | .error f => .error (.fault f)

/-- A text. -/
def readText (p : Place) : Except ReadError String :=
  match p.node with
  | .string (some s) => .ok s
  | d => wrong "a string" d

/-- A truth value. -/
def readFlag (p : Place) : Except ReadError Bool :=
  match p.node with
  | .bool b => .ok b
  | d => wrong "a boolean" d

/-- An integer that fits 64 bits with a sign. -/
def readInt64 (p : Place) : Except ReadError Int64 :=
  match p.node with
  | .number (some (.integer i)) =>
    if i.value < (1 <<< 63 : Nat) then .ok (Int64.ofInt i.value)
    else do throw (.data (.wrongValue (← describe p.node) "i64"))
  | d => wrong "i64" d

/-- Items read in order. -/
def readList {α : Type} (read : Place → Except ReadError α) (depth : Nat) :
    Items → Except ReadError (List α)
  | .closed => .ok []
  | .stop b => .error (.fault b.reading)
  | .cons d rest => do
    let a ← read ⟨depth, d⟩
    pure (a :: (← readList read depth rest))

/-- Entries read in order. -/
def readDict {α : Type} (read : Place → Except ReadError α) (depth : Nat) :
    Fields → Dict α → Except ReadError (Dict α)
  | .closed, soFar => .ok soFar
  | .stop b, _ => .error (.fault b.reading)
  | .stray _, _ => .error (.fault .malformed)
  | .cons none _ _, _ => .error (.fault .malformed)
  | .cons (some name) d rest, soFar => do
    let a ← read ⟨depth, d⟩
    readDict read depth rest (soFar.insert name a)

/-- One of some names. -/
def lookUp {α : Type} (names : List (String × α)) (s : String) : Except ReadError α :=
  match names.find? fun n => n.1 == s with
  | some n => .ok n.2
  | none => .error (.data (.unknownVariant s (names.map Prod.fst)))

/-- A name: a string, or an object with the name and null. -/
def readChoice {α : Type} (names : List (String × α)) (p : Place) : Except ReadError α :=
  match p.node with
  | .string (some s) => lookUp names s
  | .broken b => .error (.fault b.naming)
  | .object fields => do
    let _ ← p.enter
    match fields with
    | .closed => throw (.fault .malformed)
    | .stop b => throw (.fault b.naming)
    | .stray d => wrong "variant identifier" d
    | .cons none _ _ => throw (.fault .malformed)
    | .cons (some name) value rest =>
      let a ← lookUp names name
      match value with
      | .null =>
        match rest with
        | .closed => pure a
        | .stop b => throw (.fault b.naming)
        | _ => throw (.fault .malformed)
      | d => wrong "unit" d
  | _ => .error (.fault .malformed)

/-- A record from the list of its fields, of which `index` are read already. -/
def readPositional {σ : Type} (expected : String) (depth : Nat) :
    Nat → List (Field Place (Except ReadError) σ) → Items → σ → Except ReadError σ
  | _, [], .closed, record => .ok record
  | _, [], .stop b, _ => .error (.fault b.reading)
  | _, [], .cons _ _, _ => .error (.fault .malformed)
  | index, f :: fs, .closed, record =>
    if f.required then .error (.data (.wrongLength index expected))
    else readPositional expected depth (index + 1) fs .closed record
  | _, _ :: _, .stop b, _ => .error (.fault b.reading)
  | index, f :: fs, .cons d rest, record => do
    readPositional expected depth (index + 1) fs rest (← f.read ⟨depth, d⟩ record)

/-- A record from its entries; those that are no field are passed over. -/
def readEntries {σ : Type} (fields : List (Field Place (Except ReadError) σ)) (depth : Nat) :
    Fields → List String → σ → Except ReadError σ
  | .closed, seen, record =>
    match Field.firstMissing fields seen with
    | some name => .error (.data (.missingField name))
    | none => .ok record
  | .stop b, _, _ => .error (.fault b.reading)
  | .stray _, _, _ => .error (.fault .malformed)
  | .cons none _ _, _, _ => .error (.fault .malformed)
  | .cons (some name) d rest, seen, record =>
    match fields.find? fun f => f.name == name with
    | some f =>
      if seen.contains name then .error (.data (.duplicateField name))
      else do readEntries fields depth rest (name :: seen) (← f.read ⟨depth, d⟩ record)
    | none => do
      lift d.passOver
      readEntries fields depth rest seen record

/-- A record, as an object or as the list of its fields. -/
def readRecord {σ : Type} (name : String) (fields : List (Field Place (Except ReadError) σ))
    (blank : σ) (p : Place) : Except ReadError σ :=
  match p.node with
  | .array items => do
    let depth ← p.enter
    readPositional ("struct " ++ name ++ " with " ++ toString fields.length ++ " elements") depth
      0 fields items blank
  | .object entries => do
    let depth ← p.enter
    readEntries fields depth entries [] blank
  | d => wrong ("struct " ++ name) d

/-- JSON as a document format. -/
instance source : Source Place (Except ReadError) where
  text := readText
  flag := readFlag
  int64 := readInt64
  json p := lift (p.node.json p.depth)
  optional p :=
    match p.node with
    | .null => .ok none
    | _ => .ok (some p)
  list read p :=
    match p.node with
    | .array items => do readList read (← p.enter) items
    | d => wrong "a sequence" d
  dict read p :=
    match p.node with
    | .object fields => do readDict read (← p.enter) fields {}
    | d => wrong "a map" d
  choice := readChoice
  record := readRecord
  mismatch m := .error (.data m)

/-- A reading of a whole text. -/
def decode {α : Type} (read : Place → Except ReadError α) (s : String) : Except ReadError α := do
  let (d, more) := Draft.ofText s
  let a ← read ⟨depthLimit, d⟩
  if more then throw (.fault .malformed)
  pure a

end Reconcile.Json
