import Reconcile.Dict
import Reconcile.Query.Extraction
import Reconcile.Template.Basic

/-!
# Filling in templates

Reference model of `merge_vars` (`mergeVariables`), `render_with`, `render` and `RenderError`
(`Rendered.problem`).

* `Environment` — named texts outside of a recipe.
* `mergeVariables` — variables of an action with those of a run over them.
* `Template.fill` — the text of a template: a name takes its value from the variables, else from
  the environment, and is else left out.
* `render` — the same from the text of a template; what is malformed stays as it is and is
  reported.

Left out: changes of the process environment during a run; it is a function that is given once.
-/

namespace Reconcile

/-- Named texts outside of a recipe. -/
abbrev Environment := String → Option String

/-- The variables of an action with those of a run over them. -/
def mergeVariables (own : Dict Json) (runtime : Table Json) : Table Json :=
  runtime.union (Table.ofList own.entries)

/-- The text that stands for a name. -/
def valueText (vars : Table Json) (env : Environment) (name : String) : String :=
  match vars.get? name with
  | some v => v.plainText
  | none => (env name).getD ""

/-- The text that stands for a segment. -/
def Segment.text (vars : Table Json) (env : Environment) : Segment → String
  | .literal s => s
  | .variable name => valueText vars env name

/-- The text of a template. Values are taken as they are, whatever they hold. -/
def Template.fill (vars : Table Json) (env : Environment) (t : Template) : String :=
  String.join (t.segments.map (Segment.text vars env))

/-- A text, and what was malformed in its template. -/
structure Rendered where
  text : String
  problem : Option UnclosedBrace := none
  deriving DecidableEq, Repr

/-- The text of a template. One without a dollar sign needs no scan. -/
def render (vars : Table Json) (env : Environment) (template : String) : Rendered :=
  if template.toList.contains '$' then
    let (t, problem) := Template.scan template
    ⟨t.fill vars env, problem⟩
  else ⟨template, none⟩

end Reconcile
