import Reconcile.Recipe.Decoding
import Reconcile.Yaml.Meaning

/-!
# Recipes in YAML

Reference model of the decoding of a `Recipe` from YAML in `parse_recipe_str`.

* `Path`, `Report` — where a reading is in a document; a mismatch with its place.
* `Place` — a node of a document, its path, and how many levels may still nest there.
* `Reading` — readings count how often they follow an alias.
* `Yaml.source` — YAML as a document format.
* `Yaml.decode` — a reading of a whole text.

The text is read as a whole before its data is looked at. A mismatch is placed at the innermost
node that was being read when it was found; a limit that was exceeded has no path.

Left out: where and why a text is malformed.
-/

namespace Reconcile.Yaml

/-- Where a node is in a document. An alias is at the path of its own place. -/
inductive Path where
  | root
  | item (parent : Path) (index : Nat)
  | entry (parent : Path) (name : String)
  /-- The value of an entry whose name is no scalar. -/
  | unnamed (parent : Path)
  deriving DecidableEq, Repr

/-- What stands before the last part of a path. -/
def Path.lead (text : String) : Path → String
  | root => ""
  | _ => text ++ "."

/-- The written form of a path. -/
def Path.text : Path → String
  | root => "."
  | item parent index => parent.text ++ "[" ++ toString index ++ "]"
  | entry parent name => parent.lead parent.text ++ name
  | unnamed parent => parent.lead parent.text ++ "?"

/-- A mismatch, and where it was found once that is known. -/
structure Report where
  cause : Mismatch
  place : Option (Path × Mark) := none
  deriving DecidableEq, Repr

/-- The wording of a report: the path unless it is the root, the cause, and the line and column
unless they are the first. -/
def Report.message (r : Report) : String :=
  match r.place with
  | none => r.cause.message
  | some (path, mark) =>
    let lead := if path.text == "." then "" else path.text ++ ": "
    let trail :=
      if mark == ⟨0, 0⟩ then ""
      else " at line " ++ toString (mark.line + 1) ++ " column " ++ toString (mark.column + 1)
    lead ++ r.cause.message ++ trail

/-- Readings count how often they follow an alias. -/
abbrev Reading := StateT Nat (Except Report)

/-- A node of a document, its path, and how many levels may still nest there. -/
structure Place where
  document : Document
  path : Path
  depth : Nat
  node : Node

/-- How deep collections may nest. -/
def depthLimit : Nat := 128

/-- How often aliases may be followed, for each part of a document. -/
def aliasLimit : Nat := 100

/-- Raises a mismatch; what encloses it tells its place. -/
def raise {α : Type} (cause : Mismatch) : Reading α :=
  throw { cause }

/-- The mark of a node. -/
def Node.mark : Node → Mark
  | .scalar info _ _ => info.mark
  | .alias mark _ => mark
  | .sequence info _ => info.mark
  | .mapping info _ => info.mark

/-- Places a mismatch at a node unless it has a place already. -/
def Place.locate {α : Type} (p : Place) (r : Reading α) : Reading α :=
  tryCatch r fun e => throw { e with place := some (e.place.getD (p.path, p.node.mark)) }

/-- The place itself, or the place of the node that its alias stands for. -/
def Place.follow (p : Place) : Reading Place :=
  match p.node with
  | .alias _ anchor => do
    let jumps ← get
    if jumps + 1 > p.document.parts * aliasLimit then
      throw ⟨.tooManyAliases, some (.root, ⟨0, 0⟩)⟩
    set (jumps + 1)
    match p.document.node? anchor with
    | some n => pure { p with node := n }
    | none => pure p
  | _ => pure p

/-- The depth one level further in, if that level is allowed. -/
def Place.enter (p : Place) : Reading Nat :=
  if p.depth = 0 then throw ⟨.tooDeep, some (.root, p.node.mark)⟩ else pure (p.depth - 1)

/-- Reads at the node that a place holds or stands for; a mismatch is placed there. -/
def Place.within {α : Type} (p : Place) (read : Place → Reading α) : Reading α := do
  let p ← p.follow
  p.locate (read p)

/-- A mismatch for a scalar whose tag says that it is something else. -/
def notAs {α : Type} (text expected : String) : Reading α :=
  raise (.wrongValue ("string " ++ Text.quote text) expected)

/-- Reports a node of the wrong kind. -/
def wrong {α : Type} (expected : String) : Node → Reading α
  | .scalar info text style =>
    match Meaning.ofScalar info text style with
    | .ok m => raise (.wrongType m.describe expected)
    | .error kind => notAs text kind
  | .sequence .. => raise (.wrongType "sequence" expected)
  | .mapping .. => raise (.wrongType "map" expected)
  | .alias .. => raise .tooManyAliases

/-- Whether a scalar is empty and without quotes. -/
def isVoid (text : String) (style : Style) : Bool :=
  text.isEmpty && style == .plain

/-- Whether the spelling of a scalar may be read as one of YAML's own kinds: without quotes, or
as a literal block with the tag of that kind. -/
def mayBe (kind : String) (info : Info) (style : Style) : Bool :=
  style == .plain || (style == .literal && info.tag == some (coreTag kind))

/-- A scalar of one of YAML's own kinds. -/
def readKind {α : Type} (kind expected : String) (spelled? : String → Option α) (p : Place) :
    Reading α :=
  p.within fun p =>
    match p.node with
    | .scalar info text style =>
      match if mayBe kind info style then spelled? text else none with
      | some a => pure a
      | none => wrong expected p.node
    | n => wrong expected n

/-- A text: a scalar of any kind. -/
def readText (expected : String) (p : Place) : Reading String :=
  p.within fun p =>
    match p.node with
    | .scalar _ text _ => pure text
    | .sequence .. => raise (.wrongType "sequence" expected)
    | .mapping .. => raise (.wrongType "map" expected)
    | n => wrong expected n

/-- The integer that a text spells, if it fits 64 bits with a sign. -/
def int64? (s : String) : Option Int64 := do
  let i ← signed? s
  if -(1 <<< 63 : Nat) ≤ i ∧ i < (1 <<< 63 : Nat) then some (Int64.ofInt i) else none

/-- The name of an entry, and the place of its value. -/
def Place.entry (p : Place) (depth : Nat) (key value : Node) : Place :=
  let path := match key with
    | .scalar _ text _ => .entry p.path text
    | _ => .unnamed p.path
  { p with path, depth, node := value }

/-- The place of an item. -/
def Place.item (p : Place) (depth index : Nat) (n : Node) : Place :=
  { p with path := .item p.path index, depth, node := n }

/-- The place of a key, which is where its mapping is. -/
def Place.key (p : Place) (depth : Nat) (n : Node) : Place :=
  { p with depth, node := n }

/-- Items read in order. -/
def readItems {α : Type} (read : Place → Reading α) (p : Place) (depth : Nat) :
    Nat → List Node → Reading (List α)
  | _, [] => pure []
  | index, n :: rest => do
    let a ← read (p.item depth index n)
    pure (a :: (← readItems read p depth (index + 1) rest))

/-- Entries read in order; keys must be texts. -/
def readPairs {α : Type} (read : Place → Reading α) (p : Place) (depth : Nat)
    (firstKey laterKey : String) : List (Node × Node) → Reading (List (String × α))
  | [] => pure []
  | (key, value) :: rest => do
    let name ← readText firstKey (p.key depth key)
    let a ← read (p.entry depth key value)
    pure ((name, a) :: (← readPairs read p depth laterKey laterKey rest))

/-- A scalar as a JSON value. Reals that are no number are null. -/
def scalarJson (info : Info) (text : String) (style : Style) : Reading Json :=
  match Meaning.ofScalar info text style with
  | .error kind => notAs text kind
  | .ok .null => pure .null
  | .ok (.bool b) => pure (.bool b)
  | .ok (.text s) => pure (.string s)
  | .ok (.real (.finite x)) => pure (.number (.real x))
  | .ok (.real _) => pure .null
  | .ok (.integer i) =>
    match Integer.ofInt? i with
    | some i => pure (.number (.integer i))
    | none => raise .numberOutOfRange

/-- Any value, except that a tag of the document's own has no meaning in it. -/
def readJson : Nat → Place → Reading Json
  | fuel, p => p.within fun p => do
    let tagged (info : Info) : Bool := (localTag? info.tag).isSome
    let refuse : Reading Json := raise (.wrongType "enum" "any valid JSON value")
    match p.node with
    | .alias .. => wrong "any valid JSON value" p.node
    | .scalar info text style =>
      if tagged info then refuse else scalarJson info text style
    | .sequence info items =>
      if tagged info then refuse
      else
        let depth ← p.enter
        match fuel with
        | 0 => raise .tooDeep
        | fuel + 1 => pure (.array (← readItems (readJson fuel) p depth 0 items))
    | .mapping info entries =>
      if tagged info then refuse
      else
        let depth ← p.enter
        match fuel with
        | 0 => raise .tooDeep
        | fuel + 1 =>
          pure (.objectOf
            (← readPairs (readJson fuel) p depth "a string key" "a string" entries))

/-- The place where something is said, or nothing where the document says null. -/
def readOptional (p : Place) : Reading (Option Place) := do
  let p ← p.follow
  match p.node with
  | .scalar info text .plain =>
    if info.tag == some (coreTag "null") then
      if spellsNull text then pure none else notAs text "null"
    else if info.tag.isSome then pure (some p)
    else pure (if text.isEmpty || spellsNull text then none else some p)
  | _ => pure (some p)

/-- One of some names. -/
def lookUp {α : Type} (names : List (String × α)) (s : String) : Reading α :=
  match names.find? fun n => n.1 == s with
  | some n => pure n.2
  | none => raise (.unknownVariant s (names.map Prod.fst))

/-- Nothing may stand after a name that is given as a tag. -/
def readNothing (p : Place) : Reading Unit :=
  p.locate (match p.node with
    | .scalar _ text style =>
      if style == .plain && (text.isEmpty || spellsNull text) then pure ()
      else notAs text "null"
    | n => wrong "unit" n)

/-- A name: a scalar, or a tag of the document's own with nothing after it. -/
def readChoice {α : Type} (names : List (String × α)) (p : Place) : Reading α := do
  let p ← p.follow
  let tag := match p.node with
    | .scalar info _ _ | .sequence info _ | .mapping info _ => localTag? info.tag
    | .alias .. => none
  match tag with
  | some name => do
    let a ← lookUp names name
    readNothing p
    pure a
  | none =>
    p.locate (match p.node with
      | .scalar _ text _ => lookUp names text
      | .sequence .. => raise (.wrongType "sequence" "a YAML tag starting with '!'")
      | .mapping .. => raise (.wrongType "map" "a YAML tag starting with '!'")
      | n => wrong "a name" n)

/-- A record from its entries; those that are no field of it are passed over. -/
def readEntries {σ : Type} (fields : List (Field Place Reading σ)) (p : Place) (depth : Nat) :
    List (Node × Node) → List String → σ → Reading σ
  | [], seen, record =>
    match Field.firstMissing fields seen with
    | some name => raise (.missingField name)
    | none => pure record
  | (key, value) :: rest, seen, record => do
    let name ← readText "field identifier" (p.key depth key)
    match fields.find? fun f => f.name == name with
    | some f =>
      if seen.contains name then raise (.duplicateField name)
      else do
        readEntries fields p depth rest (name :: seen)
          (← f.read (p.entry depth key value) record)
    | none => readEntries fields p depth rest seen record

/-- A record; an empty scalar without quotes is one without entries. -/
def readRecord {σ : Type} (name : String) (fields : List (Field Place Reading σ)) (blank : σ)
    (p : Place) : Reading σ :=
  p.within fun p => do
    match p.node with
    | .mapping _ entries => readEntries fields p (← p.enter) entries [] blank
    | .scalar _ text style =>
      if isVoid text style then readEntries fields p p.depth [] [] blank
      else wrong ("struct " ++ name) p.node
    | n => wrong ("struct " ++ name) n

/-- A list; an empty scalar without quotes is one without items. -/
def readList {α : Type} (read : Place → Reading α) (p : Place) : Reading (List α) :=
  p.within fun p => do
    match p.node with
    | .sequence _ items => readItems read p (← p.enter) 0 items
    | .scalar _ text style => if isVoid text style then pure [] else wrong "a sequence" p.node
    | n => wrong "a sequence" n

/-- A dictionary; an empty scalar without quotes is one without entries. -/
def readDict {α : Type} (read : Place → Reading α) (p : Place) : Reading (Dict α) :=
  p.within fun p => do
    match p.node with
    | .mapping _ entries =>
      pure (Dict.ofList (← readPairs read p (← p.enter) "a string" "a string" entries))
    | .scalar _ text style => if isVoid text style then pure {} else wrong "a map" p.node
    | n => wrong "a map" n

/-- YAML as a document format. -/
instance source : Source Place Reading where
  text := readText "a string"
  flag := readKind "bool" "a boolean" boolText?
  int64 := readKind "int" "i64" int64?
  json := readJson depthLimit
  optional := readOptional
  list := readList
  dict := readDict
  choice := readChoice
  record := readRecord
  mismatch := raise

/-- Why a YAML text could not be read. -/
inductive ReadError where
  /-- The text is no well-formed document, or more than one. -/
  | malformed
  | data (r : Report)
  deriving DecidableEq, Repr

/-- The node of a document; one without a root is an empty scalar. -/
def Document.rootNode (d : Document) : Node :=
  d.root.getD (.scalar { mark := ⟨0, 0⟩ } "" .plain)

/-- A reading of a whole text. -/
def decode {α : Type} (read : Place → Reading α) (s : String) : Except ReadError α :=
  match Document.ofText? s with
  | none => .error .malformed
  | some d =>
    match (read ⟨d, .root, depthLimit, d.rootNode⟩).run 0 with
    | .ok (a, _) => .ok a
    | .error r => .error (.data r)

end Reconcile.Yaml
