import Reconcile.Http.Headers
import Reconcile.Recipe.Strategy
import Reconcile.Url.Reading

/-!
# Requests and answers

Reference model of `EngineConfig` (`Limits`), `HttpRequestParts`, `HttpResponseParts`, `HttpError`,
`HttpClient` (`Transport`), `host_path_method` (`target`), and of the statuses that
`Diagnostic::classify` tells apart.

* `Limits` — how long an answer may take, and how long it may be.
* `Request`, `Response`, `HttpError` — what is sent, and what comes back.
* `Reply` — what becomes of a request; a run may be cancelled meanwhile.
* `Transport` — something that answers requests.

A client is a function of the request and of its own state. Its reply says how much time went by
and whether the `CancellationToken` of the run was cancelled meanwhile, which is all that waiting
for both can tell. Left out: methods that no `HttpVerb` names.
-/

namespace Reconcile

/-- How long an answer may take, in milliseconds, and how many bytes it may have. -/
structure Limits where
  timeout : Nat := 30000
  maxBytes : Nat := 4194304
  deriving DecidableEq, Repr

/-- A request. -/
structure Request where
  method : Verb
  url : Url
  headers : Headers := {}
  body : List UInt8 := []
  limits : Limits := {}
  deriving DecidableEq

/-- An answer of a server. -/
structure Response where
  status : Nat
  headers : Table String := {}
  body : List UInt8 := []
  deriving DecidableEq

/-- Why there is no answer. -/
inductive HttpError where
  | timeout
  | network (cause : String)
  | cancelled
  | tooLarge (limit : Nat)
  | other (cause : String)
  deriving DecidableEq, Repr

/-- The wording of an error. -/
def HttpError.message : HttpError → String
  | timeout => "timeout"
  | network cause => "connect/dns/tls error: " ++ cause
  | cancelled => "request cancelled"
  | tooLarge limit => "response too large (>" ++ toString limit ++ " bytes)"
  | other cause => "http error: " ++ cause

/-- What becomes of a request. -/
inductive Reply where
  /-- An answer, after some seconds; the run may be cancelled just before it is there. -/
  | answered (cancels : Bool) (elapsed : Nat) (result : Except HttpError Response)
  /-- The run is cancelled while there is no answer yet. -/
  | cancelled

/-- Something that answers requests, from a state to a state. -/
abbrev Transport (σ : Type) := Request → σ → Reply × σ

/-- A status that counts as success. -/
def isSuccess (status : Nat) : Bool :=
  status ≤ 299

/-- A status that lets some strategies go on with their next verb. -/
def isTolerable (status : Nat) : Bool :=
  300 ≤ status && status ≤ 499

/-- A method, and the host, path and query of an address. -/
def target (method : String) (u : Url) : String :=
  let port := match u.host, u.port with
    | some _, some p => ":" ++ toString p
    | _, _ => ""
  method ++ " " ++ u.hostText ++ port ++ u.pathText ++ "?" ++ u.query.getD ""

end Reconcile
