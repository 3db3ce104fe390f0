import Reconcile.Recipe.Auth
import Reconcile.Recipe.Strategy

/-!
# Recipes

Reference model of `Action`, `Action::endpoint_suffix`, `Action::find_expr` and `Recipe`.

* `Action` — one step against one remote resource.
* `Action.suffix` — what a verb appends to the endpoint.
* `Recipe` — authentication entries and actions, both by name and in document order.
-/

namespace Reconcile

/-- One step against one remote resource. -/
structure Action where
  strategy : Strategy
  endpoint : String
  getSuffix : Option String := none
  postSuffix : Option String := none
  putSuffix : Option String := none
  patchSuffix : Option String := none
  deleteSuffix : Option String := none
  findExpr : Option String := none
  payload : String := ""
  patchPayload : Option String := none
  vars : Dict Json := {}
  /-- Variable names and the expressions that read them from each successful response. -/
  runtimeVars : Dict String := {}
  authRef : String := ""
  headers : Dict String := {}
  order : Option Int64 := none
  deriving DecidableEq

/-- What a verb appends to the endpoint. -/
def Action.suffix (a : Action) : Verb → Option String
  | .get => a.getSuffix
  | .post => a.postSuffix
  | .put => a.putSuffix
  | .patch => a.patchSuffix
  | .delete => a.deleteSuffix

/-- The expression that finds an existing resource, empty when there is none. -/
def Action.find (a : Action) : String :=
  a.findExpr.getD ""

/-- Authentication entries and actions, by name. -/
structure Recipe where
  auth : Dict Auth := {}
  seed : Dict Action := {}
  deriving DecidableEq

end Reconcile
