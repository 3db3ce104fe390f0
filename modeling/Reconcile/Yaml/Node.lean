import Reconcile.Yaml.Lexer

/-!
# The tree of a YAML document

Reference model of the YAML reader behind `parse_recipe_str`, from tokens to the nodes that a
decoding sees.

* `Node` — scalars, aliases, sequences and mappings, with their tags and marks.
* `Document` — the root, the anchored nodes, and the number of parts the document has.
* `Document.ofTokens?`, `Document.ofText?` — the document of a text that holds no more than one;
  nothing when it is not well formed, when it holds several, or when an alias has no anchor
  before it.

An anchor is known by a number: how many names had an anchor before it. When a name is used
twice, the next new name gets the number of the second use too; an alias then means the anchor
of that number that comes last.

Left out: where and why a text is malformed.
-/

namespace Reconcile.Yaml

/-- What every node but an alias has. -/
structure Info where
  mark : Mark
  tag : Option String := none
  deriving DecidableEq, Repr

/-- A node of a document. -/
inductive Node where
  | scalar (info : Info) (text : String) (style : Style)
  | alias (mark : Mark) (anchor : Nat)
  | sequence (info : Info) (items : List Node)
  | mapping (info : Info) (entries : List (Node × Node))

/-- A node with an anchor: the anchor's number, the number of parts before it, and the node. -/
structure Anchored where
  anchor : Nat
  position : Nat
  node : Node

/-- A document; a text without one has no root. -/
structure Document where
  root : Option Node
  anchored : List Anchored := []
  /-- Scalars and aliases count once, sequences and mappings twice. -/
  parts : Nat := 1

/-- The node an alias stands for: of the nodes with its number, the last. -/
def Document.node? (d : Document) (anchor : Nat) : Option Node :=
  let last := d.anchored.foldl (fun best a =>
    if a.anchor != anchor then best
    else
      match best with
      | none => some a
      | some b => if b.position < a.position then some a else best) none
  last.map Anchored.node

/-- A document that is being built. -/
structure Builder where
  tokens : List Token
  /-- Tag handles and what they stand for. -/
  handles : List (String × String) := [("!", "!"), ("!!", "tag:yaml.org,2002:")]
  /-- Names of anchors and their numbers. -/
  anchors : List (String × Nat) := []
  anchored : List Anchored := []
  parts : Nat := 0

/-- Building may fail. -/
abbrev Building := StateT Builder Option

namespace Building

/-- The kind of the next token. -/
def peek : Building (Option TokenKind) := do
  pure ((← get).tokens.head?.map Token.kind)

/-- The mark of the next token. -/
def mark : Building Mark := do
  pure (((← get).tokens.head?.map Token.mark).getD ⟨0, 0⟩)

/-- Past the next token. -/
def advance : Building Unit :=
  modify fun b => { b with tokens := b.tokens.tail }

/-- Past the next token, which must be of a kind. -/
def expect (kind : TokenKind) : Building Unit := do
  if (← peek) == some kind then advance else failure

/-- Counts parts. -/
def count (n : Nat) : Building Unit :=
  modify fun b => { b with parts := b.parts + n }

/-- The empty scalar that stands where a node is missing. -/
def missing : Building Node := do
  count 1
  pure (.scalar { mark := ← mark } "" .plain)

/-- The number of a new anchor. -/
def anchorNumber (name : String) : Building Nat := do
  let b ← get
  let n := b.anchors.length
  set { b with anchors := (name, n) :: b.anchors.filter fun a => a.1 != name }
  pure n

/-- The tag that a handle and a suffix stand for. -/
def resolveTag (handle suffix : String) : Building String := do
  if handle.isEmpty then pure suffix
  else
    match (← get).handles.find? fun h => h.1 == handle with
    | some h => pure (h.2 ++ suffix)
    | none => failure

/-- The anchor and the tag before a node, in either order. -/
def properties : Building (Option String × Option String) := do
  let anchor? : Building (Option String) := do
    match ← peek with
    | some (.anchor name) => advance; pure (some name)
    | _ => pure none
  let tag? : Building (Option (String × String)) := do
    match ← peek with
    | some (.tag handle suffix) => advance; pure (some (handle, suffix))
    | _ => pure none
  let anchor ← anchor?
  let tag ← tag?
  let anchor ← if anchor.isSome then pure anchor else anchor?
  match tag with
  | some (handle, suffix) => pure (anchor, some (← resolveTag handle suffix))
  | none => pure (anchor, none)

/-- Whether one of some kinds comes next. -/
def nextIs (kinds : List TokenKind) : Building Bool := do
  pure (((← peek).map fun k => kinds.contains k).getD false)

/-- The tag of a scalar: `!` before one only says that there is none. -/
def scalarTag : Option String → Option String
  | some "!" => none
  | t => t

mutual

/-- A node. `block` allows block collections, `indentless` a sequence at the column of its key. -/
def node : Nat → Bool → Bool → Building Node
  | 0, _, _ => failure
  | fuel + 1, block, indentless => do
    let start ← mark
    match ← peek with
    | some (.alias name) =>
      advance
      count 1
      match (← get).anchors.find? fun a => a.1 == name with
      | some a => pure (.alias start a.2)
      | none => failure
    | _ =>
      let (anchor, tag) ← properties
      let position := (← get).parts
      let number ← anchor.mapM anchorNumber
      let n ← content fuel block indentless { mark := start, tag } (anchor.isSome || tag.isSome)
      match number with
      | some number =>
        modify fun b => { b with anchored := ⟨number, position, n⟩ :: b.anchored }
      | none => pure ()
      pure n

/-- A node after its properties; one that has some may be empty. -/
def content : Nat → Bool → Bool → Info → Bool → Building Node
  | 0, _, _, _, _ => failure
  | fuel + 1, block, indentless, info, mayBeEmpty => do
    match ← peek with
    | some (.scalar text style) =>
      advance
      count 1
      pure (.scalar { info with tag := scalarTag info.tag } text style)
    | some .flowSequenceStart =>
      advance
      count 2
      pure (.sequence info (← flowItems fuel true))
    | some .flowMappingStart =>
      advance
      count 2
      pure (.mapping info (← flowEntries fuel true))
    | k =>
      if indentless && k == some .blockEntry then do
        count 2
        pure (.sequence info (← blockItems fuel false))
      else if block && k == some .blockSequenceStart then do
        advance
        count 2
        pure (.sequence info (← blockItems fuel true))
      else if block && k == some .blockMappingStart then do
        advance
        count 2
        pure (.mapping info (← blockEntries fuel))
      else if mayBeEmpty then do
        count 1
        pure (.scalar info "" .plain)
      else failure

/-- The items of a block sequence; one at the column of its key has no end of its own. -/
def blockItems : Nat → Bool → Building (List Node)
  | 0, _ => failure
  | fuel + 1, closed => do
    match ← peek with
    | some .blockEntry =>
      advance
      let ends := if closed then [.blockEntry, .blockEnd] else [.blockEntry, .key, .value, .blockEnd]
      let item ← if ← nextIs ends then missing else node fuel true false
      pure (item :: (← blockItems fuel closed))
    | k =>
      if !closed then pure []
      else if k == some .blockEnd then do advance; pure []
      else failure

/-- The entries of a block mapping. -/
def blockEntries : Nat → Building (List (Node × Node))
  | 0 => failure
  | fuel + 1 => do
    match ← peek with
    | some .key | some .value =>
      let key ←
        if ← nextIs [.key] then do
          advance
          if ← nextIs [.key, .value, .blockEnd] then missing else node fuel true true
        else failure
      let value ←
        if ← nextIs [.value] then do
          advance
          if ← nextIs [.key, .value, .blockEnd] then missing else node fuel true true
        else missing
      pure ((key, value) :: (← blockEntries fuel))
    | some .blockEnd => advance; pure []
    | _ => failure

/-- The items of a flow sequence. An item with a colon is a mapping of one entry. -/
def flowItems : Nat → Bool → Building (List Node)
  | 0, _ => failure
  | fuel + 1, first => do
    if ← nextIs [.flowSequenceEnd] then do advance; pure []
    else
      if !first then expect .flowEntry
      if ← nextIs [.key] then do
        let start ← mark
        advance
        count 2
        let key ←
          if ← nextIs [.value, .flowEntry, .flowSequenceEnd] then do advance; missing
          else node fuel false false
        let value ←
          if ← nextIs [.value] then do
            advance
            if ← nextIs [.flowEntry, .flowSequenceEnd] then missing else node fuel false false
          else missing
        pure (.mapping { mark := start } [(key, value)] :: (← flowItems fuel false))
      else if ← nextIs [.flowSequenceEnd] then do advance; pure []
      else do
        let item ← node fuel false false
        pure (item :: (← flowItems fuel false))

/-- The entries of a flow mapping. A key may stand without a value. -/
def flowEntries : Nat → Bool → Building (List (Node × Node))
  | 0, _ => failure
  | fuel + 1, first => do
    if ← nextIs [.flowMappingEnd] then do advance; pure []
    else
      if !first then expect .flowEntry
      if ← nextIs [.key] then do
        advance
        let key ←
          if ← nextIs [.value, .flowEntry, .flowMappingEnd] then missing else node fuel false false
        let value ←
          if ← nextIs [.value] then do
            advance
            if ← nextIs [.flowEntry, .flowMappingEnd] then missing else node fuel false false
          else missing
        pure ((key, value) :: (← flowEntries fuel false))
      else if ← nextIs [.flowMappingEnd] then do advance; pure []
      else do
        let key ← node fuel false false
        let value ← missing
        pure ((key, value) :: (← flowEntries fuel false))

end

/-- Reads the directives before a document: at most one version, 1.1 or 1.2, and each handle at
most once. -/
def directives : Nat → Bool → List (String × String) → Building Unit
  | 0, _, _ => failure
  | fuel + 1, versioned, declared => do
    match ← peek with
    | some (.version major minor) =>
      if versioned || major != 1 || (minor != 1 && minor != 2) then failure
      advance
      directives fuel true declared
    | some (.tagShorthand handle lead) =>
      if declared.any fun d => d.1 == handle then failure
      advance
      directives fuel versioned ((handle, lead) :: declared)
    | _ => modify fun b => { b with handles := declared ++ b.handles }

/-- Past the dividers that may end a document. -/
def skipDividers : Nat → Building Unit
  | 0 => pure ()
  | fuel + 1 => do
    if ← nextIs [.documentEnd] then advance; skipDividers fuel

/-- The only document of a text. -/
def document (fuel : Nat) : Building (Option Node) := do
  match ← peek with
  | none => pure none
  | some (.version ..) | some (.tagShorthand ..) | some .documentStart =>
    directives fuel false []
    expect .documentStart
    let root ←
      match ← peek with
      | none | some (.version ..) | some (.tagShorthand ..) | some .documentStart
      | some .documentEnd => missing
      | _ => node fuel true false
    skipDividers fuel
    pure (some root)
  | _ =>
    let root ← node fuel true false
    skipDividers fuel
    pure (some root)

end Building

/-- The document of a text's tokens. -/
def Document.ofTokens? (tokens : List Token) : Option Document := do
  let (root, b) ← (Building.document (3 * tokens.length + 3)).run { tokens }
  if b.tokens.isEmpty then some ⟨root, b.anchored, max b.parts 1⟩ else none

/-- The document of a text. -/
def Document.ofText? (s : String) : Option Document := do
  Document.ofTokens? (← tokens? s).toList

end Reconcile.Yaml
