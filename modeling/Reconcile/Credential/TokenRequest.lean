import Reconcile.Http.Exchange
import Reconcile.Recipe.ToJson
import Reconcile.Query.Extraction
import Reconcile.Text.Base64
import Reconcile.Text.Form

/-!
# Requests for tokens

Reference model of `Grant`, of the request that `fetch_token` sends for a client of `build_client`
(RFC 6749), and of the one that `fetch_custom_token` sends, with `form_encode`. `basicValue` is
also the value that `credential_for` gives a BasicAuth entry.

* `Grant` — what a token is asked for with.
* `tokenFields`, `tokenRequest` — the form and the request of a token endpoint.
* `loginBody`, `loginRequest` — the body and the request of a login.
* `basicValue` — the header value of a name and a password.
-/

namespace Reconcile

/-- What a token is asked for with. -/
inductive Grant where
  | clientCredentials
  | password (user pass : String)
  deriving DecidableEq, Repr

/-- The fields of a grant. -/
def Grant.fields : Grant → List (String × String)
  | clientCredentials => [("grant_type", "client_credentials")]
  | password user pass =>
    [("grant_type", "password"), ("username", user), ("password", pass)]

/-- Whether the client is named in a header and not in the form. -/
def credentialsInHeader (oauth : OAuth) (clientSecret : String) : Bool :=
  oauth.sendParamsInHeader && !clientSecret.isEmpty

/-- The fields that name the client, unless a header does. -/
def clientFields (oauth : OAuth) (clientId clientSecret : String) : List (String × String) :=
  if credentialsInHeader oauth clientSecret then []
  else
    ("client_id", clientId) ::
      if clientSecret.isEmpty then [] else [("client_secret", clientSecret)]

/-- The form of a request for a token. -/
def tokenFields (oauth : OAuth) (clientId clientSecret : String) (grant : Grant) :
    List (String × String) :=
  grant.fields ++
  (if oauth.scopes.isEmpty then [] else [("scope", " ".intercalate oauth.scopes)]) ++
  clientFields oauth clientId clientSecret ++
  oauth.endpointParams.entries.flatMap fun p => p.2.map fun v => (p.1, v)

/-- The header value of a name and a password. -/
def basicValue (name password : String) : String :=
  "Basic " ++ Text.Base64.encode (Text.Utf8.encode (name ++ ":" ++ password))

/-- The headers of a request for a token. -/
def tokenHeaders (oauth : OAuth) (clientId clientSecret : String) : Headers :=
  let plain : Headers := Table.ofList
    [("accept", "application/json"), ("content-type", "application/x-www-form-urlencoded")]
  if credentialsInHeader oauth clientSecret then
    plain.insert "authorization"
      (basicValue (Text.Form.encode clientId) (Text.Form.encode clientSecret))
  else plain

/-- The request of a token endpoint. -/
def tokenRequest (limits : Limits) (url : Url) (oauth : OAuth) (clientId clientSecret : String)
    (grant : Grant) : Request :=
  { method := .post
    url
    headers := tokenHeaders oauth clientId clientSecret
    body := Text.Utf8.encode (Text.Form.body (tokenFields oauth clientId clientSecret grant))
    limits }

/-- The credential of a login as a form. -/
def loginForm (login : TokenLogin) : String :=
  Text.Percent.queryText (Text.Percent.encode Text.Percent.isUnreserved)
    (login.credential.entries.map fun e => (e.1, e.2.plainText))

/-- The credential of a login as JSON, its entries in document order. -/
def loginJson (login : TokenLogin) : String :=
  (login.credential.json id).compact

/-- The body of a login. -/
def loginBody (login : TokenLogin) : String :=
  if login.asForm then loginForm login else loginJson login

/-- The headers of a login. -/
def loginHeaders (login : TokenLogin) : Headers :=
  Headers.setAll {}
    [("Accept", "application/json"),
      ("Content-Type",
        if login.asForm then "application/x-www-form-urlencoded" else "application/json")]

/-- The request of a login. -/
def loginRequest (limits : Limits) (url : Url) (login : TokenLogin) : Request :=
  { method := .post
    url
    headers := loginHeaders login
    body := Text.Utf8.encode (loginBody login)
    limits }

end Reconcile
