import Reconcile.Http.Exchange

/-!
# Scripted answers

A client after the tests' `MockHttpClient`, whose answers may also change, and cancel the run.

* `Route` — a method, a path and the answers it gives one after the other; the last one repeats.
* `Script` — routes; a request takes the first that has its method and path.
* `Script.transport` — a transport that follows a script.
-/

namespace Reconcile

/-- What a scripted answer does to the run. -/
inductive CancelMode where
  | never
  /-- Cancels just before the answer is there. -/
  | before
  /-- Cancels and never answers. -/
  | instead
  deriving DecidableEq, Repr

/-- What a script answers. An answer that is too large names the limit of its request. -/
inductive Outcome where
  | response (r : Response)
  | failure (e : HttpError)
  | tooLarge
  deriving DecidableEq

/-- A scripted answer. -/
structure Scripted where
  cancel : CancelMode := .never
  outcome : Outcome
  deriving DecidableEq

/-- A method, a path and the answers it gives one after the other. -/
structure Route where
  method : String
  path : String
  replies : List Scripted
  deriving DecidableEq

/-- Whether a route is for a request. -/
def Route.isFor (r : Route) (q : Request) : Bool :=
  r.method == q.method.name && r.path == q.url.pathText

/-- The answer of a route and the route after it; the last answer stays. -/
def Route.next? (r : Route) : Option (Scripted × Route) :=
  match r.replies with
  | [] => none
  | [a] => some (a, r)
  | a :: rest => some (a, { r with replies := rest })

/-- Routes, in the order in which they are tried. -/
abbrev Script := List Route

namespace Script

/-- The answer to a request, and the script after it. -/
def next? (q : Request) : Script → Option (Scripted × Script)
  | [] => none
  | r :: rest =>
    if r.isFor q then r.next?.map fun a => (a.1, a.2 :: rest)
    else (next? q rest).map fun a => (a.1, r :: a.2)

/-- What a scripted answer becomes for a request. -/
def reply (q : Request) (a : Scripted) : Reply :=
  let result : Except HttpError Response :=
    match a.outcome with
    | .response r => .ok r
    | .failure e => .error e
    | .tooLarge => .error (.tooLarge q.limits.maxBytes)
  match a.cancel with
  | .never => .answered false 0 result
  | .before => .answered true 0 result
  | .instead => .cancelled

/-- A transport that follows a script. What the script does not know is not found. -/
def transport : Transport Script := fun q s =>
  match next? q s with
  | some (a, s) => (reply q a, s)
  | none => (.answered false 0 (.ok { status := 404 }), s)

end Script

end Reconcile
