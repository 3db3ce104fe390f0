import Reconcile.Recipe.Basic
import Reconcile.Recipe.Mismatch

/-!
# Reading recipes from documents

Reference model of the decoding derived for `Recipe`, `Action`, `AuthConfig`, `AuthConfigDoc`,
`OAuthConfig` and `CustomToTokenConfig`. A blank value holds the defaults of a record.

A document format is a `Source`: it reads texts, numbers, dictionaries and records from its
nodes, and it decides where an error is reported. What a recipe looks like is said once, for
every format.

* `Field`, `Source` — a field of a record; what a format has to offer.
* `OAuth.fields`, `TokenLogin.fields`, `AuthDoc.fields`, `Action.fields`, `Recipe.fields` — the
  records, field by field, in the order in which a list may give them.
* `readRecipe`, `readAuthDoc` — a recipe, and one authentication entry, from a node.
-/

namespace Reconcile

/-- A field of a record `σ`: its name, whether it may not be absent, and how a node fills it. -/
structure Field (ν : Type) (m : Type → Type) (σ : Type) where
  name : String
  required : Bool
  read : ν → σ → m σ

/-- What a document format has to offer: readings of its nodes `ν`, which may fail in `m`. -/
class Source (ν : Type) (m : Type → Type) extends Monad m where
  /-- A text. -/
  text : ν → m String
  /-- A truth value. -/
  flag : ν → m Bool
  /-- An integer that fits 64 bits with a sign. -/
  int64 : ν → m Int64
  /-- Any value. -/
  json : ν → m Json
  /-- A node, or nothing where the document says null. -/
  optional : ν → m (Option ν)
  /-- A list, its items read in order. -/
  list {α : Type} : (ν → m α) → ν → m (List α)
  /-- A dictionary, its entries read in order. -/
  dict {α : Type} : (ν → m α) → ν → m (Dict α)
  /-- One of some names. -/
  choice {α : Type} : List (String × α) → ν → m α
  /-- A record of the given name, fields and blank value; entries that are no field of it
  are passed over. -/
  record {σ : Type} : String → List (Field ν m σ) → σ → ν → m σ
  /-- A mismatch found by the reader of a whole entry. -/
  mismatch {α : Type} : Mismatch → m α

namespace Source

variable {ν : Type} {m : Type → Type} [Source ν m]

/-- A text, or nothing for null. -/
def optionalText (n : ν) : m (Option String) := do
  match ← optional (ν := ν) (m := m) n with
  | none => pure none
  | some n => pure (some (← text n))

/-- A value read by `read`, or nothing for null. -/
def optionalOf {α : Type} (read : ν → m α) (n : ν) : m (Option α) := do
  match ← optional (ν := ν) (m := m) n with
  | none => pure none
  | some n => pure (some (← read n))

end Source

open Source

variable {ν : Type} {m : Type → Type} [Source ν m]

/-- The fields of a token endpoint. -/
def OAuth.fields : List (Field ν m OAuth) :=
  [ ⟨"serverUrl", true, fun n o => do pure { o with serverUrl := ← text n }⟩,
    ⟨"scopes", false, fun n o => do pure { o with scopes := ← list (text (m := m)) n }⟩,
    ⟨"endpointParams", false, fun n o => do
      pure { o with endpointParams := ← dict (list (text (m := m))) n }⟩,
    ⟨"oAuthSendParamsInHeader", false, fun n o => do pure { o with sendParamsInHeader := ← flag n }⟩,
    ⟨"resourceOwnerUser", false, fun n o => do pure { o with ownerUser := ← optionalText n }⟩,
    ⟨"resourceOwnerPass", false, fun n o => do pure { o with ownerPass := ← optionalText n }⟩ ]

/-- A token endpoint. -/
def readOAuth : ν → m OAuth :=
  record "OAuthConfig" OAuth.fields { serverUrl := "" }

/-- The fields of a login. -/
def TokenLogin.fields : List (Field ν m TokenLogin) :=
  [ ⟨"authUrl", true, fun n c => do pure { c with authUrl := ← text n }⟩,
    ⟨"credential", false, fun n c => do pure { c with credential := ← dict (json (m := m)) n }⟩,
    ⟨"inHeader", false, fun n c => do pure { c with asForm := ← flag n }⟩,
    ⟨"responseKey", false, fun n c => do pure { c with responseKey := ← text n }⟩,
    ⟨"headerKey", false, fun n c => do pure { c with headerKey := ← text n }⟩,
    ⟨"tokenPrefix", false, fun n c => do pure { c with tokenPrefix := ← text n }⟩ ]

/-- A login. -/
def readTokenLogin : ν → m TokenLogin :=
  record "CustomToTokenConfig" TokenLogin.fields { authUrl := "" }

/-- The fields of an authentication entry. -/
def AuthDoc.fields : List (Field ν m AuthDoc) :=
  [ ⟨"type", false, fun n d => do
      pure { d with type := ← choice (AuthType.all.map fun t => (t.name, t)) n }⟩,
    ⟨"username", false, fun n d => do pure { d with username := ← text n }⟩,
    ⟨"password", false, fun n d => do pure { d with password := ← text n }⟩,
    ⟨"oauth", false, fun n d => do pure { d with oauth := ← optionalOf (readOAuth (m := m)) n }⟩,
    ⟨"custom", false, fun n d => do
      pure { d with custom := ← optionalOf (readTokenLogin (m := m)) n }⟩ ]

/-- An authentication entry as documents spell it. -/
def readAuthDoc : ν → m AuthDoc :=
  record "AuthConfigDoc" AuthDoc.fields {}

/-- An authentication entry. -/
def readAuth (n : ν) : m Auth := do
  match (← readAuthDoc n).resolve with
  | .ok a => pure a
  | .error cause => mismatch (ν := ν) (.missingBlock cause)

/-- The fields of an action. -/
def Action.fields : List (Field ν m Action) :=
  [ ⟨"strategy", true, fun n a => do
      pure { a with strategy := ← choice (Strategy.all.map fun s => (s.name, s)) n }⟩,
    ⟨"endpoint", true, fun n a => do pure { a with endpoint := ← text n }⟩,
    ⟨"getEndpointSuffix", false, fun n a => do pure { a with getSuffix := ← optionalText n }⟩,
    ⟨"postEndpointSuffix", false, fun n a => do pure { a with postSuffix := ← optionalText n }⟩,
    ⟨"putEndpointSuffix", false, fun n a => do pure { a with putSuffix := ← optionalText n }⟩,
    ⟨"patchEndpointSuffix", false, fun n a => do pure { a with patchSuffix := ← optionalText n }⟩,
    ⟨"deleteEndpointSuffix", false, fun n a => do
      pure { a with deleteSuffix := ← optionalText n }⟩,
    ⟨"findByJsonPathExpr", false, fun n a => do pure { a with findExpr := ← optionalText n }⟩,
    ⟨"payloadTemplate", false, fun n a => do pure { a with payload := ← text n }⟩,
    ⟨"patchPayloadTemplate", false, fun n a => do
      pure { a with patchPayload := ← optionalText n }⟩,
    ⟨"variables", false, fun n a => do pure { a with vars := ← dict (json (m := m)) n }⟩,
    ⟨"runtimeVars", false, fun n a => do pure { a with runtimeVars := ← dict (text (m := m)) n }⟩,
    ⟨"authMapRef", false, fun n a => do pure { a with authRef := ← text n }⟩,
    ⟨"httpHeaders", false, fun n a => do pure { a with headers := ← dict (text (m := m)) n }⟩,
    ⟨"order", false, fun n a => do pure { a with order := ← optionalOf (int64 (m := m)) n }⟩ ]

/-- An action. -/
def readAction : ν → m Action :=
  record "Action" Action.fields { strategy := .getPost, endpoint := "" }

/-- The fields of a recipe. -/
def Recipe.fields : List (Field ν m Recipe) :=
  [ ⟨"auth", false, fun n r => do pure { r with auth := ← dict (readAuth (m := m)) n }⟩,
    ⟨"seed", false, fun n r => do pure { r with seed := ← dict (readAction (m := m)) n }⟩ ]

/-- A recipe. -/
def readRecipe : ν → m Recipe :=
  record "Recipe" Recipe.fields {}

/-! ## Bookkeeping of records -/

/-- The required fields that are not among the names seen, in declaration order. -/
def Field.firstMissing {σ : Type} (fields : List (Field ν m σ)) (seen : List String) :
    Option String :=
  (fields.find? fun f => f.required && !seen.contains f.name).map Field.name

end Reconcile
