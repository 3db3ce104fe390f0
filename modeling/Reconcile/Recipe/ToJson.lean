import Reconcile.Json.Writing
import Reconcile.Recipe.Basic

/-!
# The JSON text of recipes

Reference model of the encoding derived for `Recipe`, `Action`, `AuthConfig`, `AuthConfigDoc`,
`OAuthConfig` and `CustomToTokenConfig`.

* `OAuth.json`, `TokenLogin.json`, `AuthDoc.json`, `Auth.json`, `Action.json`, `Recipe.json` —
  objects with their fields in declaration order. Absent and empty fields are left out, but an
  authentication tag, `oAuthSendParamsInHeader`, every field of a login and the payload template
  are always there.
* `Recipe.text` — the JSON text of a recipe, on one line without blanks.

Left out: recipes in YAML, which the program reads but never writes.
-/

namespace Reconcile

/-- A dictionary as an object, in document order. -/
def Dict.json {α : Type} (json : α → Json) (d : Dict α) : Json :=
  .object (d.entries.map fun e => (e.1, json e.2))

/-- Texts as an array. -/
def textsJson (ss : List String) : Json :=
  .array (ss.map Json.string)

/-- A field that is there when it has a value. -/
def optionalField {α : Type} (name : String) (json : α → Json) (v : Option α) :
    List (String × Json) :=
  match v with
  | some a => [(name, json a)]
  | none => []

/-- A field that is there unless it is empty. -/
def nonEmptyField (name : String) (empty : Bool) (json : Json) : List (String × Json) :=
  if empty then [] else [(name, json)]

/-- An integer of 64 bits with a sign. -/
def int64Json (i : Int64) : Json :=
  .number (.integer ⟨i.toInt, ⟨i.le_toInt, Int.lt_trans i.toInt_lt (by decide)⟩⟩)

/-- The object of a token endpoint. -/
def OAuth.json (o : OAuth) : Json :=
  .object <|
    [("serverUrl", .string o.serverUrl)] ++
    nonEmptyField "scopes" o.scopes.isEmpty (textsJson o.scopes) ++
    nonEmptyField "endpointParams" o.endpointParams.isEmpty
      (o.endpointParams.json textsJson) ++
    [("oAuthSendParamsInHeader", .bool o.sendParamsInHeader)] ++
    optionalField "resourceOwnerUser" .string o.ownerUser ++
    optionalField "resourceOwnerPass" .string o.ownerPass

/-- The object of a login. -/
def TokenLogin.json (c : TokenLogin) : Json :=
  .object
    [ ("authUrl", .string c.authUrl),
      ("credential", c.credential.json id),
      ("inHeader", .bool c.asForm),
      ("responseKey", .string c.responseKey),
      ("headerKey", .string c.headerKey),
      ("tokenPrefix", .string c.tokenPrefix) ]

/-- The object of an authentication entry as documents spell it. -/
def AuthDoc.json (d : AuthDoc) : Json :=
  .object <|
    [("type", .string d.type.name)] ++
    nonEmptyField "username" d.username.isEmpty (.string d.username) ++
    nonEmptyField "password" d.password.isEmpty (.string d.password) ++
    optionalField "oauth" OAuth.json d.oauth ++
    optionalField "custom" TokenLogin.json d.custom

/-- The object of an authentication entry. -/
def Auth.json (a : Auth) : Json :=
  a.toDoc.json

/-- The object of an action. -/
def Action.json (a : Action) : Json :=
  .object <|
    [("strategy", .string a.strategy.name), ("endpoint", .string a.endpoint)] ++
    optionalField "getEndpointSuffix" .string a.getSuffix ++
    optionalField "postEndpointSuffix" .string a.postSuffix ++
    optionalField "putEndpointSuffix" .string a.putSuffix ++
    optionalField "patchEndpointSuffix" .string a.patchSuffix ++
    optionalField "deleteEndpointSuffix" .string a.deleteSuffix ++
    optionalField "findByJsonPathExpr" .string a.findExpr ++
    [("payloadTemplate", .string a.payload)] ++
    optionalField "patchPayloadTemplate" .string a.patchPayload ++
    nonEmptyField "variables" a.vars.isEmpty (a.vars.json id) ++
    nonEmptyField "runtimeVars" a.runtimeVars.isEmpty (a.runtimeVars.json .string) ++
    nonEmptyField "authMapRef" a.authRef.isEmpty (.string a.authRef) ++
    nonEmptyField "httpHeaders" a.headers.isEmpty (a.headers.json .string) ++
    optionalField "order" int64Json a.order

/-- The object of a recipe. -/
def Recipe.json (r : Recipe) : Json :=
  .object <|
    nonEmptyField "auth" r.auth.isEmpty (r.auth.json Auth.json) ++
    nonEmptyField "seed" r.seed.isEmpty (r.seed.json Action.json)

/-- The JSON text of a recipe. -/
def Recipe.text (r : Recipe) : String :=
  r.json.compact

end Reconcile
