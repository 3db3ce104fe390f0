import Reconcile.Query.Extraction
import Reconcile.Url.Basic
import Reconcile.Http.Exchange

/-!
# Credentials

Reference model of `CachedCredential` with its `AccessToken`, of `CachedCredential::is_fresh`, and
of `AuthError`.

* `Credential` — a header with a secret value, and when it stops being valid.
* `Credential.isFresh` — whether it is still valid.
* `ExchangeError`, `AuthError` — why there is no credential.

Left out: wiping tokens from memory, and `AuthError::Encode`, since every credential has a JSON
text.
-/

namespace Reconcile

/-- A header with a secret value. -/
structure Credential where
  header : String
  value : String
  /-- The moment from which on it is not valid any more. -/
  expiresAt : Option Nat := none
  deriving DecidableEq

/-- Whether a credential is still valid. -/
def Credential.isFresh (c : Credential) (now : Nat) : Bool :=
  match c.expiresAt with
  | none => true
  | some at_ => now < at_

/-- How logs show the value of a credential. -/
def Credential.shownValue : String := "AccessToken(<redacted>)"

/-- Why a token endpoint's answer holds no token. -/
inductive ExchangeError where
  | invalidStatus
  | emptyErrorReply
  /-- The error that the server tells, in its own words. -/
  | refused (cause : String)
  | unreadable
  /-- A content type that is not JSON, as messages show it. -/
  | contentType (shown : String)
  | emptyReply
  deriving DecidableEq, Repr

/-- The wording of an error. -/
def ExchangeError.message : ExchangeError → String
  | invalidStatus => "invalid status code"
  | emptyErrorReply => "Other error: Server returned empty error response"
  | refused cause => "server returned error: " ++ cause
  | unreadable => "Failed to parse server response"
  | contentType shown =>
    "Other error: Unexpected response Content-Type: " ++ shown ++
      ", should be `application/json`"
  | emptyReply => "Other error: Server returned empty response body"

/-- Why there is no credential. -/
inductive AuthError where
  | transport (e : HttpError)
  | badStatus (status : Nat)
  | invalidUrl (url : String) (cause : UrlError)
  | exchange (e : ExchangeError)
  | extract (e : ExtractError)
  /-- The expression that found no token. -/
  | emptyToken (expr : String)
  | cancelled
  deriving DecidableEq, Repr

/-- The wording of an error. -/
def AuthError.message : AuthError → String
  | transport e => "token request failed: " ++ e.message
  | badStatus status => "non success status code: " ++ toString status
  | invalidUrl url cause => "invalid token endpoint " ++ url ++ ": " ++ cause.message
  | exchange e => "oauth token exchange failed: " ++ e.message
  | extract e => "failed to extract token: " ++ e.message
  | emptyToken expr => "token response has no value at " ++ expr
  | cancelled => "token acquisition cancelled"

end Reconcile
