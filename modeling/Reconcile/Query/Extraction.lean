import Reconcile.Query.Evaluation
import Reconcile.Query.Reading
import Reconcile.Json.Writing
import Reconcile.Text.Blank

/-!
# Values from response bodies

Reference model of `find_by_json_path` (`extractText`), `find_scalar` (`extract`), `parse_body`
(`document?`), `scalar` (`scalar?`), `value_to_string` (`Json.plainText`) and `ExtractError`.

* `ExtractError` — why no value could be read.
* `document?` — the document of a body. A text that is itself JSON stands for what it spells.
* `Json.plainText` — the textual form of a value.
* `extract` — the first value that an expression finds, if it is a number or a text that is not
  empty.
* `extractText` — the same as a text, empty when nothing was found.

Left out: where and why a body is not JSON.
-/

namespace Reconcile

/-- Why no value could be read from a body. -/
inductive ExtractError where
  /-- An expression, and how many of its characters are well formed. -/
  | invalidExpression (expr : String) (position : Nat)
  | invalidJson
  /-- A value that is neither a number nor a text, by the word for its kind. -/
  | unsupportedType (kind : String)
  deriving DecidableEq, Repr

/-- The wording of an error. -/
def ExtractError.message : ExtractError → String
  | invalidExpression expr position =>
    "invalid JSONPath expression " ++ expr ++ ": at position " ++ toString position ++
      ", no path is well formed beyond"
  | invalidJson => "response body is not valid JSON: malformed text"
  | unsupportedType kind =>
    "cannot use type: " ++ kind ++
      " in further processing - can only be a numeric or string value"

/-- The textual form of a value: a text as it is, nothing for null, and else its JSON text. -/
def Json.plainText : Json → String
  | .string s => s
  | .null => ""
  | v => v.compact

/-- A body of blank bytes only. -/
def isBlankBody (body : List UInt8) : Bool :=
  body.all Text.isBlankByte

/-- The document of a body. A text that is itself JSON stands for what it spells. -/
def document? (body : List UInt8) : Option Json := do
  match ← Json.ofBytes? body with
  | .string s => some ((Json.ofText? s).getD (.string s))
  | v => some v

/-- A number or a text that is not empty. -/
def scalar? : Json → Except ExtractError (Option Json)
  | .string s => .ok (if s.isEmpty then none else some (.string s))
  | .number n => .ok (some (.number n))
  | v => .error (.unsupportedType v.typeName)

/-- The first value that an expression finds in a body. Nothing is found by an empty expression
or in a blank body. -/
def extract (body : List UInt8) (expr : String) : Except ExtractError (Option Json) :=
  let expr := Text.trim expr
  if expr.isEmpty || isBlankBody body then .ok none
  else
    match document? body with
    | none => .error .invalidJson
    | some document =>
      match Query.Path.parse (Query.normalize expr) with
      | .error position => .error (.invalidExpression expr position)
      | .ok path =>
        match path.findIn document with
        | [] => .ok none
        | v :: _ => scalar? v

/-- The first value that an expression finds in a body, as a text. -/
def extractText (body : List UInt8) (expr : String) : Except ExtractError String :=
  (extract body expr).map fun found => (found.map Json.plainText).getD ""

end Reconcile
