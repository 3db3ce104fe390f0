import Reconcile.Json.Basic
import Reconcile.Dict

/-!
# Authentication settings

Reference model of `AuthStrategy` (`AuthType`), `OAuthConfig`, `CustomToTokenConfig`
(`TokenLogin`), `AuthConfigDoc`, `AuthConfig`, `AuthConfigError` (`MissingBlock`), and of the
conversions from `AuthConfigDoc` to `AuthConfig` and back.

* `AuthType` — the tag of an entry.
* `AuthDoc` — an entry as documents spell it: the tag and every field any kind may use.
* `Auth` — an entry with the fields of its kind.
* `AuthDoc.resolve` — the entry of a document; fails only for a missing block.
* `Auth.toDoc` — the document of an entry.
-/

namespace Reconcile

/-- The tag of an authentication entry. -/
inductive AuthType where
  | noAuth
  | basicAuth
  | oauthClientCredentials
  | oauthPassCredentials
  | customToToken
  | staticToken
  deriving DecidableEq, Repr

namespace AuthType

/-- All tags. -/
def all : List AuthType :=
  [.noAuth, .basicAuth, .oauthClientCredentials, .oauthPassCredentials, .customToToken,
    .staticToken]

/-- The spelling of a tag. -/
def name : AuthType → String
  | noAuth => "NoAuth"
  | basicAuth => "BasicAuth"
  | oauthClientCredentials => "OAuthClientCredentials"
  | oauthPassCredentials => "OAuthPassCredentials"
  | customToToken => "CustomToToken"
  | staticToken => "StaticToken"

end AuthType

/-- Settings of a token endpoint that follows the OAuth grants. -/
structure OAuth where
  serverUrl : String
  scopes : List String := []
  endpointParams : Dict (List String) := {}
  sendParamsInHeader : Bool := false
  ownerUser : Option String := none
  ownerPass : Option String := none
  deriving DecidableEq

/-- Settings of a login that returns a token somewhere in its response. -/
structure TokenLogin where
  authUrl : String
  credential : Dict Json := {}
  /-- Send the credential as a form and not as a JSON body. -/
  asForm : Bool := false
  responseKey : String := "$.access_token"
  headerKey : String := "Authorization"
  tokenPrefix : String := "Bearer"
  deriving DecidableEq

/-- An authentication entry as documents spell it. -/
structure AuthDoc where
  type : AuthType := .noAuth
  username : String := ""
  password : String := ""
  oauth : Option OAuth := none
  custom : Option TokenLogin := none
  deriving DecidableEq

/-- An authentication entry with the fields of its kind. -/
inductive Auth where
  | noAuth
  | basic (username password : String)
  | clientCredentials (clientId clientSecret : String) (oauth : OAuth)
  | ownerPassword (clientId clientSecret : String) (oauth : OAuth) (ownerUser ownerPass : String)
  | tokenLogin (login : TokenLogin)
  | static (header value : String)
  deriving DecidableEq

/-- Why a document is no entry: the block its kind needs is missing. -/
inductive MissingBlock where
  | oauth (type : AuthType)
  | custom
  deriving DecidableEq, Repr

/-- The wording of a missing block. -/
def MissingBlock.message : MissingBlock → String
  | .oauth t => "auth type " ++ t.name ++ " requires an `oauth` block"
  | .custom => "auth type CustomToToken requires a `custom` block"

/-- The entry of a document. Fields its kind does not use are dropped; absent owner credentials
are empty. -/
def AuthDoc.resolve (d : AuthDoc) : Except MissingBlock Auth :=
  match d.type with
  | .noAuth => .ok .noAuth
  | .basicAuth => .ok (.basic d.username d.password)
  | .oauthClientCredentials =>
    match d.oauth with
    | some o => .ok (.clientCredentials d.username d.password o)
    | none => .error (.oauth d.type)
  | .oauthPassCredentials =>
    match d.oauth with
    | some o =>
      .ok (.ownerPassword d.username d.password o (o.ownerUser.getD "") (o.ownerPass.getD ""))
    | none => .error (.oauth d.type)
  | .customToToken =>
    match d.custom with
    | some c => .ok (.tokenLogin c)
    | none => .error .custom
  | .staticToken => .ok (.static d.username d.password)

namespace Auth

/-- The tag of an entry. -/
def type : Auth → AuthType
  | noAuth => .noAuth
  | basic .. => .basicAuth
  | clientCredentials .. => .oauthClientCredentials
  | ownerPassword .. => .oauthPassCredentials
  | tokenLogin _ => .customToToken
  | static .. => .staticToken

/-- The document of an entry. -/
def toDoc : Auth → AuthDoc
  | noAuth => { type := .noAuth }
  | basic u p => { type := .basicAuth, username := u, password := p }
  | clientCredentials i s o =>
    { type := .oauthClientCredentials, username := i, password := s, oauth := some o }
  | ownerPassword i s o u p =>
    { type := .oauthPassCredentials, username := i, password := s,
      oauth := some { o with ownerUser := some u, ownerPass := some p } }
  | tokenLogin c => { type := .customToToken, custom := some c }
  | static h v => { type := .staticToken, username := h, password := v }

end Auth

end Reconcile
