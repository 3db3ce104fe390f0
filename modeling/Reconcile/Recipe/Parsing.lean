import Reconcile.Recipe.FromJson
import Reconcile.Recipe.FromYaml

/-!
# Recipes from texts

Reference model of `RecipeFormat` (`Notation`, or none for `Auto`), `ParseError`,
`parse_recipe_str` (`Recipe.parse`) and `parse_recipe_auto` (`Recipe.detect`).

* `Notation` — the two document formats.
* `ParseError` — why a text is no recipe; `ParseError.kind` and `ParseError.message`.
* `Recipe.ofJson`, `Recipe.ofYaml` — a text in a known format.
* `Recipe.detect` — a text in either format. JSON goes first when the text starts like an object
  or an array, and otherwise YAML; the other format is tried when the first fails.

Left out: how the readers of JSON and YAML word a malformed text; of such an error only the kind is
kept.
-/

namespace Reconcile

/-- The two document formats. -/
inductive Notation where
  | json
  | yaml
  deriving DecidableEq, Repr

/-- Why a text is no recipe. -/
inductive ParseError where
  | json (e : Json.ReadError)
  | yaml (e : Yaml.ReadError)
  deriving DecidableEq, Repr

namespace ParseError

/-- What is wrong with a text: its form, that it ends too early, or its data. -/
inductive Kind where
  | malformed
  | ended
  | data
  deriving DecidableEq, Repr

/-- The format that was expected. -/
def expected : ParseError → Notation
  | json _ => .json
  | yaml _ => .yaml

/-- What is wrong with a text. -/
def kind : ParseError → Kind
  | json (.fault .malformed) => .malformed
  | json (.fault .ended) => .ended
  | json (.data _) => .data
  | yaml .malformed => .malformed
  | yaml (.data _) => .data

/-- What is wrong with wrong data. -/
def detail? : ParseError → Option String
  | json (.data m) => some m.message
  | yaml (.data r) => some r.message
  | _ => none

/-- The wording for wrong data. -/
def message? (e : ParseError) : Option String :=
  let format := match e.expected with
    | .json => "JSON"
    | .yaml => "YAML"
  e.detail?.map fun detail => "failed to parse as " ++ format ++ ": " ++ detail

end ParseError

namespace Recipe

/-- The recipe that a JSON text holds. -/
def ofJson (s : String) : Except ParseError Recipe :=
  (Json.decode readRecipe s).mapError .json

/-- The recipe that a YAML text holds. -/
def ofYaml (s : String) : Except ParseError Recipe :=
  (Yaml.decode readRecipe s).mapError .yaml

/-- Whether the first character that is not blank opens a JSON object or array. -/
def looksLikeJson (s : String) : Bool :=
  match s.toList.dropWhile Text.isBlank with
  | c :: _ => c == '\x7b' || c == '['
  | [] => false

/-- The recipe that a text holds in either format, and the format. When both fail, the error is
that of the format that went first. -/
def detect (s : String) : Except ParseError (Notation × Recipe) :=
  if looksLikeJson s then
    match ofJson s with
    | .ok r => .ok (.json, r)
    | .error e =>
      match ofYaml s with
      | .ok r => .ok (.yaml, r)
      | .error _ => .error e
  else
    match ofYaml s with
    | .ok r => .ok (.yaml, r)
    | .error e =>
      match ofJson s with
      | .ok r => .ok (.json, r)
      | .error _ => .error e

/-- The recipe that a text holds; the format is detected when none is given. -/
def parse : Option Notation → String → Except ParseError (Notation × Recipe)
  | some .json, s => do pure (.json, ← ofJson s)
  | some .yaml, s => do pure (.yaml, ← ofYaml s)
  | none, s => detect s

end Recipe

end Reconcile
