import Reconcile.Recipe.Parsing
import Reconcile.Template.Basic
import Reconcile.Text.Blank

/-!
# Rules for recipes

Reference model of `Violation`, `ValidationError`, `RecipeError` (`LoadError`), `load_recipe_str`
(`Recipe.load`), `validate_recipe`, `recipe_warnings`, `validate_auth`, `validate_action`, and of
`validate_name`, `validate_http_url` and `validate_template` of `Validator`.

* `Violation` — the place in the document and what is wrong there.
* `authFindings`, `actionFindings` — what is found in one entry.
* `Recipe.violations` — every rule a recipe breaks, in document order.
* `Recipe.warnings` — findings that a run copes with.
* `validationMessage` — the wording for a recipe that has some violations.
* `LoadError`, `Recipe.load` — the valid recipe of a text, or why there is none.
-/

namespace Reconcile

/-- A finding: the dotted place in the document, and what is wrong there. -/
structure Violation where
  path : String
  message : String
  deriving DecidableEq, Repr

/-- The wording of a finding with its place. -/
def Violation.text (v : Violation) : String :=
  v.path ++ ": " ++ v.message

/-- A finding when a condition is broken. -/
def demand (holds : Bool) (path message : String) : List Violation :=
  if holds then [] else [⟨path, message⟩]

/-- The characters of entry names. -/
def isEntryNameChar (c : Char) : Bool :=
  Text.isLetter c || Text.isDigit c || c == '_' || c == '.' || c == '-'

/-- Names of entries. -/
def isEntryName (name : String) : Bool :=
  !name.isEmpty && name.toList.all isEntryNameChar

/-- What is wrong with the name of an entry. -/
def nameFindings (path name : String) : List Violation :=
  demand (isEntryName name) path "name must match ^[A-Za-z0-9_.\\-]+$"

/-- Whether a trimmed text starts like an HTTP address. -/
def hasHttpScheme (s : String) : Bool :=
  "http://".toList.isPrefixOf s.toList || "https://".toList.isPrefixOf s.toList

/-- What is wrong with an address. -/
def addressFindings (path address : String) : List Violation :=
  let address := Text.trim address
  if address.isEmpty then [⟨path, "must not be empty"⟩]
  else demand (hasHttpScheme address) path "must be an http:// or https:// URL"

/-- What is wrong with a template. -/
def templateFindings (path template : String) : List Violation :=
  match Template.parse template with
  | .ok _ => []
  | .error e => [⟨path, e.message⟩]

/-- What is wrong with an authentication entry. -/
def authFindings (path : String) : Auth → List Violation
  | .noAuth => []
  | .basic username _ =>
    demand (!username.isEmpty) (path ++ ".username") "BasicAuth requires a username"
  | .clientCredentials clientId _ oauth =>
    demand (!clientId.isEmpty) (path ++ ".username") "OAuth requires a client id in username" ++
    addressFindings (path ++ ".oauth.serverUrl") oauth.serverUrl
  | .ownerPassword clientId _ oauth ownerUser _ =>
    demand (!clientId.isEmpty) (path ++ ".username") "OAuth requires a client id in username" ++
    demand (!ownerUser.isEmpty) (path ++ ".oauth.resourceOwnerUser")
      "password grant requires a resource owner user" ++
    addressFindings (path ++ ".oauth.serverUrl") oauth.serverUrl
  | .tokenLogin login =>
    addressFindings (path ++ ".custom.authUrl") login.authUrl ++
    demand (!Text.isBlankText login.responseKey) (path ++ ".custom.responseKey")
      "must not be empty" ++
    demand (!Text.isBlankText login.headerKey) (path ++ ".custom.headerKey") "must not be empty"
  | .static header _ =>
    demand (!Text.isBlankText header) (path ++ ".username")
      "StaticToken requires the header name in username"

/-- What is wrong with the patch payload; only one strategy needs it. -/
def patchFindings (path : String) (a : Action) : List Violation :=
  if a.strategy == .findPatchPost then
    let payload := a.patchPayload.getD ""
    if Text.isBlankText payload then
      [⟨path ++ ".patchPayloadTemplate", "strategy FIND/PATCH/POST requires patchPayloadTemplate"⟩]
    else templateFindings (path ++ ".patchPayloadTemplate") payload
  else []

/-- The name of the field with a verb's suffix. -/
def suffixField : Verb → String
  | .get => "getEndpointSuffix"
  | .post => "postEndpointSuffix"
  | .put => "putEndpointSuffix"
  | .patch => "patchEndpointSuffix"
  | .delete => "deleteEndpointSuffix"

/-- What is wrong with the suffix of a verb. -/
def suffixFindings (path : String) (a : Action) (v : Verb) : List Violation :=
  match a.suffix v with
  | some s => templateFindings (path ++ "." ++ suffixField v) s
  | none => []

/-- What is wrong with a runtime variable. -/
def runtimeVarFindings (path name expr : String) : List Violation :=
  let path := path ++ ".runtimeVars." ++ name
  demand (isIdentifier name) path
    "runtime variable names must be identifiers ([A-Za-z_][A-Za-z0-9_]*)" ++
  demand (!Text.isBlankText expr) path "JSONPath expression must not be empty"

/-- What is wrong with an action. -/
def actionFindings (path : String) (a : Action) : List Violation :=
  addressFindings (path ++ ".endpoint") a.endpoint ++
  demand (!(a.strategy.needsFind && Text.isBlankText a.find)) (path ++ ".findByJsonPathExpr")
    ("strategy " ++ a.strategy.name ++ " requires findByJsonPathExpr") ++
  (if Text.isBlankText a.payload then []
    else templateFindings (path ++ ".payloadTemplate") a.payload) ++
  patchFindings path a ++
  Verb.all.flatMap (suffixFindings path a) ++
  a.runtimeVars.entries.flatMap fun v => runtimeVarFindings path v.1 v.2

/-- What a run of an action copes with. -/
def actionWarnings (auth : Dict Auth) (path : String) (a : Action) : List Violation :=
  demand (!Text.isBlankText a.payload) (path ++ ".payloadTemplate")
    ("strategy " ++ a.strategy.name ++ " will send an empty body") ++
  demand (a.authRef.isEmpty || auth.contains a.authRef) (path ++ ".authMapRef")
    ("references undeclared auth config " ++ a.authRef ++ "; requests go out without credentials")

/-- What is wrong with a named authentication entry. -/
def authEntryFindings (name : String) (a : Auth) : List Violation :=
  let path := "auth." ++ name
  nameFindings path name ++ authFindings path a

/-- What is wrong with a named action. -/
def seedEntryFindings (name : String) (a : Action) : List Violation :=
  let path := "seed." ++ name
  nameFindings path name ++ actionFindings path a

namespace Recipe

/-- Every rule a recipe breaks, entry by entry: authentication first, then the actions. -/
def violations (r : Recipe) : List Violation :=
  (r.auth.entries.flatMap fun e => authEntryFindings e.1 e.2) ++
  r.seed.entries.flatMap fun e => seedEntryFindings e.1 e.2

/-- Findings that a run copes with: an empty body is sent, or no credentials. -/
def warnings (r : Recipe) : List Violation :=
  r.seed.entries.flatMap fun e => actionWarnings r.auth ("seed." ++ e.1) e.2

/-- Whether a recipe breaks no rule. -/
def isValid (r : Recipe) : Bool :=
  r.violations.isEmpty

end Recipe

/-- The wording for a recipe with violations. -/
def validationMessage (vs : List Violation) : String :=
  let lead := "recipe failed validation (" ++ toString vs.length ++ " violations)"
  match vs with
  | [] => lead
  | v :: _ => lead ++ ", first: " ++ v.text

namespace Recipe

/-- Why a text is no valid recipe. -/
inductive LoadError where
  | parse (e : ParseError)
  | invalid (violations : List Violation)
  deriving DecidableEq, Repr

/-- The valid recipe that a text holds, and its format. -/
def load (n : Option Notation) (s : String) : Except LoadError (Notation × Recipe) :=
  match parse n s with
  | .error e => .error (.parse e)
  | .ok (n, r) => if r.isValid then .ok (n, r) else .error (.invalid r.violations)

end Recipe

end Reconcile
