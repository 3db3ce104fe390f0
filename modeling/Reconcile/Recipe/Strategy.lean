import Reconcile.Text.Blank

/-!
# Strategies

Reference model of `HttpVerb`, `Strategy` with `Strategy::as_str`, `Strategy::from_str` and
`Strategy::requires_find_expr`, and `UnknownStrategy`.

* `Verb` — the request methods an action may use.
* `Strategy` — the interaction pattern an action follows, named by its verbs.
* `Strategy.ofName?` — the strategy of a name; blanks around the name do not count.
* `Strategy.needsFind` — the strategies that look an existing resource up by an expression.
-/

namespace Reconcile

/-- A request method. -/
inductive Verb where
  | get
  | post
  | put
  | patch
  | delete
  deriving DecidableEq, Repr

namespace Verb

/-- All verbs. -/
def all : List Verb := [.get, .post, .put, .patch, .delete]

/-- The name of the method. -/
def name : Verb → String
  | get => "GET"
  | post => "POST"
  | put => "PUT"
  | patch => "PATCH"
  | delete => "DELETE"

end Verb

/-- The pattern of requests an action follows. -/
inductive Strategy where
  | getPost
  | findPost
  | putPost
  | getPutPost
  | findPutPost
  | findPatchPost
  | findDeletePost
  | put
  | post
  deriving DecidableEq, Repr

namespace Strategy

/-- All strategies. -/
def all : List Strategy :=
  [.getPost, .findPost, .putPost, .getPutPost, .findPutPost, .findPatchPost, .findDeletePost,
    .put, .post]

/-- The name of a strategy. -/
def name : Strategy → String
  | getPost => "GET/POST"
  | findPost => "FIND/POST"
  | putPost => "PUT/POST"
  | getPutPost => "GET/PUT/POST"
  | findPutPost => "FIND/PUT/POST"
  | findPatchPost => "FIND/PATCH/POST"
  | findDeletePost => "FIND/DELETE/POST"
  | put => "PUT"
  | post => "POST"

/-- The strategy of a name; blanks around the name do not count. -/
def ofName? (s : String) : Option Strategy :=
  all.find? fun st => st.name == Text.trim s

/-- What is said about a name that no strategy has. -/
def unknownMessage (s : String) : String :=
  "unknown strategy: " ++ s

/-- Whether the strategy looks an existing resource up by an expression. -/
def needsFind : Strategy → Bool
  | findPost | findPutPost | findPatchPost | findDeletePost => true
  | _ => false

theorem name_injective {s t : Strategy} (h : s.name = t.name) : s = t := by
  cases s <;> cases t <;> first | rfl | (revert h; decide)

end Strategy

end Reconcile
