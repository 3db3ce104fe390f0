import Reconcile.Http.Exchange
import Reconcile.Query.Extraction

/-!
# What went wrong

Reference model of `Diagnostic` with `Diagnostic::transport_failure`, `Diagnostic::classify` and
`Diagnostic::allows_fallback`, of `ActionError`, and of the text of `ExecutionError`.

* `Diagnostic` — the record of one failed exchange.
* `Diagnostic.classify`, `Diagnostic.ofTransport` — from a response, and when there was none.
* `Diagnostic.allowsFallback` — whether a strategy may go on with its next verb.
* `ActionError` — why an action failed.
* `executionText` — the errors of a run.
-/

namespace Reconcile

/-- The record of one failed exchange. -/
structure Diagnostic where
  status : Nat := 0
  /-- The name of the action. -/
  name : String
  message : String := ""
  /-- Method, host, path and query. -/
  target : String
  proceedFallback : Bool := false
  isFatal : Bool := true
  deriving DecidableEq, Repr

namespace Diagnostic

/-- The status that stands for no response at all. -/
def transportStatus : Nat := 999

/-- The record of an exchange without a response. -/
def ofTransport (d : Diagnostic) (cause : String) : Diagnostic :=
  { d with
    status := transportStatus, message := cause, proceedFallback := false, isFatal := true }

/-- The record of an exchange with a response; nothing when it was a success. -/
def classify (d : Diagnostic) (status : Nat) (body : List UInt8) : Option Diagnostic :=
  if isSuccess status then none
  else
    some { d with
      status, message := Text.Utf8.decodeLossy body, proceedFallback := isTolerable status,
      isFatal := false }

/-- Whether a strategy may go on with its next verb. -/
def allowsFallback (d : Diagnostic) : Bool :=
  d.proceedFallback && !d.isFatal

/-- The wording of a record. -/
def text (d : Diagnostic) : String :=
  "status: " ++ toString d.status ++ "\nname: " ++ d.name ++ "\nmessage: " ++ d.message ++
    "\nhostPathMethod: " ++ d.target ++ "\nisRetryAble: " ++ toString d.proceedFallback

end Diagnostic

/-- Why an action failed. -/
inductive ActionError where
  | http (d : Diagnostic)
  | extract (action : String) (cause : ExtractError)
  | invalidUrl (action url : String) (cause : UrlError)
  deriving DecidableEq, Repr

namespace ActionError

/-- The name of the action that failed. -/
def action : ActionError → String
  | http d => d.name
  | extract name _ => name
  | invalidUrl name _ _ => name

/-- The record of a failed exchange, if that was the cause. -/
def diagnostic? : ActionError → Option Diagnostic
  | http d => some d
  | _ => none

/-- The wording of an error. -/
def text : ActionError → String
  | http d => d.text
  | extract name cause => "action " ++ name ++ ": " ++ cause.message
  | invalidUrl name url cause =>
    "action " ++ name ++ ": invalid url " ++ url ++ ": " ++ cause.message

end ActionError

/-- The wording of all errors of a run. -/
def executionText (errors : List ActionError) : String :=
  "\n".intercalate (errors.map ActionError.text)

end Reconcile
