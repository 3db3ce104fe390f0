import Reconcile.Credential.TokenReply
import Reconcile.Credential.TokenRequest
import Reconcile.Run.World

/-!
# Credentials for requests

Reference model of `AuthResolver`: `decorate`, `credential_for` (`credentialFor`),
`cached_or_fetch` (`cachedOrAcquired` and `acquireAnew`) and `fetch` (`acquisition?`), and of
`fetch_token` (`acquireToken`) and `fetch_custom_token` (`acquireLogin`).

* `acquireToken`, `acquireLogin` — a credential from a token endpoint, or from a login.
* `cachedOrAcquired` — the cached credential of an entry while it is fresh, and else a new one.
* `credentialFor` — the credential of an entry, if its kind has one.
* `decorate` — a request with the credential of an entry. What goes wrong is logged, and the
  request stays as it was.

Left out: the lock that is held across an exchange, since a run has one exchange at a time, and the
error of `fetch` for entries that exchange nothing, which it is never asked for.
-/

namespace Reconcile

variable {σ : Type}

/-- An answer to a request for a token, if its status is at most 201. -/
def accepted : Option (Except HttpError Response) → Except AuthError Response
  | none => .error .cancelled
  | some (.error e) => .error (.transport e)
  | some (.ok r) => if r.status > 201 then .error (.badStatus r.status) else .ok r

/-- The moment that lies some seconds ahead, if the clock can tell it. -/
def momentAfter (seconds : Nat) : Run σ Nat := do
  let moment := (← get).now + seconds
  if lastSecond < moment then throw {} else pure moment

/-- The credential of a token. -/
def tokenCredential (t : Token) : Run σ Credential := do
  let expiresAt ← t.lifetime.mapM momentAfter
  pure { header := "Authorization", value := t.headerValue, expiresAt }

/-- A credential from a token endpoint. -/
def acquireToken (s : Setup σ) (oauth : OAuth) (clientId clientSecret : String) (grant : Grant) :
    Run σ (Except AuthError Credential) := do
  match Url.parse oauth.serverUrl with
  | .error e => pure (.error (.invalidUrl oauth.serverUrl e))
  | .ok url =>
    let answer ← submit s .token (tokenRequest s.limits url oauth clientId clientSecret grant)
    match accepted answer with
    | .error e => pure (.error e)
    | .ok r =>
      match Token.ofResponse r with
      | .error e => pure (.error (.exchange e))
      | .ok t => do pure (.ok (← tokenCredential t))

/-- A credential from a login. It stays valid for the rest of the run. -/
def acquireLogin (s : Setup σ) (login : TokenLogin) : Run σ (Except AuthError Credential) := do
  match Url.parse login.authUrl with
  | .error e => pure (.error (.invalidUrl login.authUrl e))
  | .ok url =>
    let answer ← submit s .token (loginRequest s.limits url login)
    match accepted answer with
    | .error e => pure (.error e)
    | .ok r => pure (loginCredential login r)

/-- How the entries that get their credential from a server do so. -/
def acquisition? (s : Setup σ) : Auth → Option (Run σ (Except AuthError Credential))
  | .clientCredentials clientId clientSecret oauth =>
    some (acquireToken s oauth clientId clientSecret .clientCredentials)
  | .ownerPassword clientId clientSecret oauth user pass =>
    some (acquireToken s oauth clientId clientSecret (.password user pass))
  | .tokenLogin login => some (acquireLogin s login)
  | .noAuth | .basic .. | .static .. => none

/-- A new credential, kept under the name of its entry. A cancelled run acquires none. -/
def acquireAnew (name : String) (acquire : Run σ (Except AuthError Credential)) :
    Run σ (Except AuthError Credential) := do
  if ← isCancelled then pure (.error .cancelled)
  else
    match ← acquire with
    | .error e => pure (.error e)
    | .ok c =>
      log .debug ("obtained token for " ++ name)
      modify fun w => { w with cache := w.cache.insert name c }
      pure (.ok c)

/-- The cached credential of an entry while it is fresh, and else a new one. -/
def cachedOrAcquired (name : String) (acquire : Run σ (Except AuthError Credential)) :
    Run σ (Except AuthError Credential) := do
  let w ← get
  match w.cache.get? name with
  | some c =>
    if c.isFresh w.now then pure (.ok c)
    else
      log .debug ("token for " ++ name ++ " expired, requesting a new one")
      acquireAnew name acquire
  | none => acquireAnew name acquire

/-- The credential of an entry, if its kind has one. -/
def credentialFor (s : Setup σ) (name : String) (auth : Auth) :
    Run σ (Except AuthError (Option Credential)) := do
  match acquisition? s auth with
  | some acquire => pure ((← cachedOrAcquired name acquire).map some)
  | none =>
    match auth with
    | .basic username password =>
      pure (.ok (some { header := "Authorization", value := basicValue username password }))
    | .static header value => pure (.ok (some { header, value }))
    | _ => pure (.ok none)

/-- A request with the credential of an entry, and the names of the headers that carry it. -/
def decorate (s : Setup σ) (ref : String) (r : Request) : Run σ (Request × List String) := do
  if ref.isEmpty then pure (r, [])
  else
    match s.auth.get? ref with
    | none =>
      log .info ("authMapRef " ++ ref ++ " not declared, sending request without credentials")
      pure (r, [])
    | some auth =>
      match ← credentialFor s ref auth with
      | .ok none => pure (r, [])
      | .ok (some c) => pure ({ r with headers := r.headers.set c.header c.value }, [c.header])
      | .error e =>
        log .error ("failed to obtain credentials for " ++ ref ++ ": " ++ e.message)
        pure (r, [])

end Reconcile
