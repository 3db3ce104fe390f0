import Reconcile.Recipe.Basic
import Reconcile.Run.Diagnostic

/-!
# What strategies do

Reference model of the drivers `get_post`, `find_post`, `find_put_post` and `find_patch_post`
(`Plan.findElsePost`), `find_delete_post`, `get_put_post` and `put_post`, and of `get`
(`Plan.ask`), `mutate` (`Plan.last`), `tolerate_fallback` (`Plan.orFallBack`), `find` (`found`),
`locate` and `is_body_empty`.

* `Payload` — what a request carries.
* `Plan` — requests, each chosen by the answer to the one before, up to a result.
* `found`, `locate` — what the answer to a GET says about the resource.
* `Plan.of` — the plan of an action.

A plan only chooses requests. Their addresses, headers and bodies are made when the plan is carried
out, the bodies before its first request.
-/

namespace Reconcile

/-- What a request carries. -/
inductive Payload where
  | none
  | primary
  | patch
  deriving DecidableEq, Repr

/-- Requests, each chosen by the answer to the one before, up to a result. -/
inductive Plan where
  | done (result : Except ActionError Unit)
  /-- A line for the log. -/
  | remark (message : String) (next : Plan)
  /-- A request, perhaps for a resource that was found, and what follows its answer. -/
  | request (verb : Verb) (id : Option String) (payload : Payload)
      (next : Except ActionError (List UInt8) → Plan)

/-- The text that an action's expression finds in a body; empty when it finds none. -/
def found (name : String) (a : Action) (body : List UInt8) : Except ActionError String :=
  (extractText body a.find).mapError (.extract name)

/-- Whether a body is blank or the JSON text of an empty text. -/
def isEmptyBody (body : List UInt8) : Bool :=
  isBlankBody body || Json.ofBytes? body == some (.string "")

/-- What a body says about the resource of an action: nothing when it is absent, and else what the
expression finds, which is empty when there is no expression. -/
def locate (name : String) (a : Action) (body : List UInt8) : Except ActionError (Option String) :=
  if isEmptyBody body then .ok none
  else if Text.isBlankText a.find then .ok (some "")
  else (found name a body).map fun s => if s.isEmpty then none else some s

/-- The remark on a failure that lets a strategy go on. -/
def fallbackText (d : Diagnostic) : String :=
  d.name ++ ": " ++ d.target ++ " returned " ++ toString d.status ++ ", falling back"

namespace Plan

/-- One last request. -/
def last (verb : Verb) (id : Option String) (payload : Payload) : Plan :=
  request verb id payload fun r => done (r.map fun _ => ())

/-- The request that creates the resource. -/
def create : Plan := last .post none .primary

/-- Goes on with the body of an answer, and fails with its failure. -/
def orFail {α : Type} (r : Except ActionError α) (next : α → Plan) : Plan :=
  match r with
  | .ok a => next a
  | .error e => done (.error e)

/-- Goes on with the body of an answer, or without one after a failure that allows it. -/
def orFallBack (r : Except ActionError (List UInt8)) (next : Option (List UInt8) → Plan) : Plan :=
  match r with
  | .ok body => next (some body)
  | .error (.http d) =>
    if d.allowsFallback then remark (fallbackText d) (next none) else done (.error (.http d))
  | .error e => done (.error e)

/-- Asks for the resource. -/
def ask (next : Except ActionError (List UInt8) → Plan) : Plan :=
  request .get none .none next

/-- GET, then POST when the resource is absent. -/
def getPost (name : String) (a : Action) : Plan :=
  ask fun r => orFail r fun body => orFail (locate name a body) fun
    | some _ => remark (name ++ ": resource exists, skipping POST") (done (.ok ()))
    | none => create

/-- GET, then POST when the expression finds nothing. -/
def findPost (name : String) (a : Action) : Plan :=
  ask fun r => orFail r fun body => orFail (found name a body) fun s =>
    if s.isEmpty then create
    else remark (name ++ ": found " ++ s ++ ", skipping POST") (done (.ok ()))

/-- GET, then a request for what the expression finds, or POST when it finds nothing. -/
def findElsePost (name : String) (a : Action) (verb : Verb) (payload : Payload) : Plan :=
  ask fun r => orFail r fun body => orFail (found name a body) fun s =>
    if s.isEmpty then create else last verb (some s) payload

/-- GET, then DELETE what the expression finds, and POST in any case. -/
def findDeletePost (name : String) (a : Action) : Plan :=
  let delete (s : String) : Plan :=
    if s.isEmpty then create
    else request .delete (some s) .none fun r => orFallBack r fun _ => create
  ask fun r => orFallBack r fun
    | some body => orFail (found name a body) delete
    | none => create

/-- GET, then PUT when the resource is there, else POST. -/
def getPutPost (name : String) (a : Action) : Plan :=
  ask fun r => orFallBack r fun
    | some body => orFail (locate name a body) fun
      | some s => last .put (if s.isEmpty then none else some s) .primary
      | none => create
    | none => create

/-- PUT, then POST when it failed in a way that allows it. -/
def putPost : Plan :=
  request .put none .primary fun r => orFallBack r fun
    | some _ => done (.ok ())
    | none => create

/-- The plan of an action. -/
def of (name : String) (a : Action) : Plan :=
  match a.strategy with
  | .getPost => getPost name a
  | .findPost => findPost name a
  | .findPutPost => findElsePost name a .put .primary
  | .findPatchPost => findElsePost name a .patch .patch
  | .findDeletePost => findDeletePost name a
  | .getPutPost => getPutPost name a
  | .putPost => putPost
  | .put => last .put none .primary
  | .post => create

end Plan

end Reconcile
