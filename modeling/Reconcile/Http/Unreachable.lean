import Reconcile.Credential.TokenReply
import Reconcile.Http.Exchange

/-!
# A machine without a network

Reference model of `ReqwestHttpClient::send` and `map_reqwest_error` where no connection can be
made.

* `Request.isWellFormed` — whether the headers of a request can be sent at all.
* `Url.isSendable` — whether an address can be the target of a request.
* `unreachable` — a transport that checks a request like any other and then finds no server.

Left out: connections and what comes after them, such as redirects, the timeout and the limit on
the length of an answer. A `Transport` tells of them by its replies.
-/

namespace Reconcile

/-- Whether the headers of a request can be sent at all. -/
def Request.isWellFormed (r : Request) : Bool :=
  r.headers.entries.all fun h => isHeaderName h.1 && isHeaderValue h.2

/-- An address without its user and password, which do not belong to the target of a request. -/
def Url.withoutUser (u : Url) : Url :=
  { u with username := "", password := "" }

/-- The greatest length of an address that a request can go to. -/
def longestTarget : Nat := 65534

/-- Whether an address can be the target of a request: some characters may stand in the name of a
host, but not where requests write it. -/
def Url.isSendable (u : Url) : Bool :=
  u.hostText.toList.all (fun c => !("\"`\x7b\x7d".toList.contains c)) &&
    u.withoutUser.text.utf8ByteSize ≤ longestTarget

/-- Why a request fails on a machine without a network. -/
def unreachableError (r : Request) : HttpError :=
  let address := " for url (" ++ r.url.withoutUser.text ++ ")"
  if !r.isWellFormed then .other "builder error"
  else if !r.url.isSendable then .other ("builder error" ++ address)
  else .network ("error sending request" ++ address)

/-- A transport that finds no server. -/
def unreachable : Transport Unit := fun r state =>
  (.answered false 0 (.error (unreachableError r)), state)

end Reconcile
