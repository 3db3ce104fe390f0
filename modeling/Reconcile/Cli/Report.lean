import Reconcile.Json.Writing
import Reconcile.Recipe.Validation
import Reconcile.Run.Diagnostic
import Reconcile.Run.World

/-!
# What a command prints

Reference model of the exit codes (`SUCCESS`, `VALIDATION_FAILED`, `ACTION_FAILED`,
`RUNTIME_ERROR`, and 101 for a panic), of `OutputFormat`, `OutputArgs::emit`, `OutputArgs::fail`,
`report_parse_error`, `ValidateResult`, `ExecuteResult`, `ActionErrorView` and `report`.

* `ExitCode` — how a command ends.
* `OutputOptions` — for people or as one line of JSON, or nothing at all.
* `Outcome` — the exit code, both outputs and the requests that were sent.
* `Complaint` — why a command had nothing to work on; `Complaint.outcome`.
* `CheckReport` — what a check of a recipe found; `CheckReport.outcome`.
* `RunReport` — what came of a run; `RunReport.outcome`.

A quiet command prints nothing, and neither the format nor silence changes the exit code.

Left out: how the readers of JSON and YAML word a malformed text, which is reported as just that,
and the indented form of `emit`, which no command reaches: with `--format text` it prints prose or
nothing.
-/

namespace Reconcile.Cli

/-- How a command ends. -/
inductive ExitCode where
  | success
  /-- The command line cannot be understood, or the recipe cannot be used. -/
  | rejected
  | actionFailed
  /-- The file cannot be read. -/
  | unreadable
  /-- The clock ran over. -/
  | crashed
  deriving DecidableEq, Repr

/-- The number of an exit code. -/
def ExitCode.number : ExitCode → Nat
  | success => 0
  | rejected => 2
  | actionFailed => 3
  | unreadable => 4
  | crashed => 101

/-- For people, or for programs. -/
inductive OutputFormat where
  | text
  | json
  deriving DecidableEq, Repr

/-- How much is printed, and in which form. -/
structure OutputOptions where
  format : OutputFormat := .text
  quiet : Bool := false
  deriving DecidableEq, Repr

/-- What came of a command. -/
structure Outcome where
  exit : ExitCode
  stdout : String := ""
  stderr : String := ""
  /-- The requests that were sent. -/
  sent : List Request := []
  deriving DecidableEq

/-- A text that ends its line. -/
def line (s : String) : String :=
  s ++ "\n"

/-- Several lines. -/
def lines (ss : List String) : String :=
  "".intercalate (ss.map line)

/-! ## Complaints -/

/-- Why a file cannot be read as text. -/
inductive ReadFailure where
  | notFound
  | notDirectory
  | isDirectory
  | nameTooLong
  | notText
  | other (message : String)
  deriving DecidableEq, Repr

/-- The wording of a failure. -/
def ReadFailure.message : ReadFailure → String
  | notFound => "No such file or directory (os error 2)"
  | notDirectory => "Not a directory (os error 20)"
  | isDirectory => "Is a directory (os error 21)"
  | nameTooLong => "File name too long (os error 36)"
  | notText => "stream did not contain valid UTF-8"
  | other message => message

/-- Why a command had nothing to work on. -/
inductive Complaint where
  | unreadable (path : String) (cause : ReadFailure)
  | malformed (cause : ParseError)
  /-- The recipe breaks rules, and is not run. -/
  | invalid (violations : List Violation)
  deriving DecidableEq

namespace Complaint

/-- What is wrong with a text that is no recipe. -/
def parseDetail (e : ParseError) : String :=
  match e.kind with
  | .malformed => "malformed text"
  | .ended => "unexpected end of input"
  | .data => e.detail?.getD ""

/-- The wording of a complaint. -/
def message : Complaint → String
  | unreadable path cause => "failed to read " ++ path ++ ": " ++ cause.message
  | malformed cause =>
    match cause.expected with
    | .json => "JSON parse failed: " ++ parseDetail cause
    | .yaml => "YAML parse failed: " ++ parseDetail cause
  | invalid violations =>
    "validation failed: " ++ "; ".intercalate (violations.map Violation.text)

/-- How a command ends that complains. -/
def exit : Complaint → ExitCode
  | unreadable .. => .unreadable
  | malformed _ => .rejected
  | invalid _ => .rejected

/-- What a complaint looks like. -/
def shown (o : OutputOptions) (c : Complaint) : String :=
  if o.quiet then ""
  else
    match o.format with
    | .json => line (Json.object [("error", .string c.message)]).compact
    | .text => line ("error: " ++ c.message)

/-- What comes of a command that complains. -/
def outcome (o : OutputOptions) (c : Complaint) : Outcome :=
  { exit := c.exit, stderr := c.shown o }

end Complaint

/-! ## Reports -/

/-- A field of texts, left out when there are none. -/
def textsField (name : String) (texts : List String) : List (String × Json) :=
  if texts.isEmpty then [] else [(name, .array (texts.map Json.string))]

/-- What a check of a recipe found. -/
structure CheckReport where
  format : Notation
  actions : Nat
  errors : List Violation := []
  warnings : List Violation := []
  deriving DecidableEq, Repr

namespace CheckReport

/-- The name of a document format. -/
def formatName : Notation → String
  | .json => "Json"
  | .yaml => "Yaml"

/-- Whether the recipe breaks no rule. -/
def isValid (r : CheckReport) : Bool :=
  r.errors.isEmpty

/-- The report for programs. -/
def json (r : CheckReport) : Json :=
  .object ([("valid", .bool r.isValid), ("format", .string (formatName r.format)),
    ("actions", .ofNat r.actions)] ++
    textsField "errors" (r.errors.map Violation.text) ++
    textsField "warnings" (r.warnings.map Violation.text))

/-- The verdict for people, when the recipe is valid. -/
def approval (r : CheckReport) : String :=
  "ok: valid recipe (" ++ formatName r.format ++ ", " ++ toString r.actions ++ " actions)"

/-- The verdict for people, when the recipe is not valid. -/
def rejection (r : CheckReport) : List String :=
  "error: validation failed" :: r.errors.map fun v => "- " ++ v.text

/-- The warnings for people. -/
def cautions (r : CheckReport) : List String :=
  r.warnings.map fun w => "warning: " ++ w.text

/-- How a check ends. -/
def exit (r : CheckReport) : ExitCode :=
  if r.isValid then .success else .rejected

/-- What comes of a check. -/
def outcome (o : OutputOptions) (r : CheckReport) : Outcome :=
  if o.quiet then { exit := r.exit }
  else
    match o.format with
    | .json => { exit := r.exit, stdout := line r.json.compact }
    | .text =>
      if r.isValid then
        { exit := r.exit, stdout := line r.approval, stderr := lines r.cautions }
      else { exit := r.exit, stderr := lines (r.cautions ++ r.rejection) }

end CheckReport

/-- What came of a run. -/
structure RunReport where
  actions : Nat
  errors : List ActionError := []
  deriving DecidableEq, Repr

/-- An error for programs. Only a failed exchange has a record. -/
def errorJson (e : ActionError) : Json :=
  match e with
  | .http d =>
    .object [("action", .string d.name), ("status", .ofNat d.status),
      ("hostPathMethod", .string d.target), ("isRetryAble", .bool d.proceedFallback),
      ("message", .string d.message)]
  | e => .object [("action", .string e.action), ("message", .string e.text)]

namespace RunReport

/-- Whether every action went well. -/
def isSuccess (r : RunReport) : Bool :=
  r.errors.isEmpty

/-- The report for programs. -/
def json (r : RunReport) : Json :=
  .object ([("success", .bool r.isSuccess), ("actions", .ofNat r.actions)] ++
    if r.isSuccess then [] else [("errors", .array (r.errors.map errorJson))])

/-- The verdict for people, when every action went well. -/
def approval (r : RunReport) : String :=
  "ok: " ++ toString r.actions ++ " actions executed"

/-- The verdict for people, when some action failed. -/
def rejection (r : RunReport) : List String :=
  ["error: " ++ toString r.errors.length ++ " of " ++ toString r.actions ++ " actions failed",
    executionText r.errors]

/-- How a run ends. -/
def exit (r : RunReport) : ExitCode :=
  if r.isSuccess then .success else .actionFailed

/-- What comes of a run. -/
def outcome (o : OutputOptions) (r : RunReport) : Outcome :=
  if o.quiet then { exit := r.exit }
  else
    match o.format with
    | .json => { exit := r.exit, stdout := line r.json.compact }
    | .text =>
      if r.isSuccess then { exit := r.exit, stdout := line r.approval }
      else { exit := r.exit, stderr := lines r.rejection }

end RunReport

end Reconcile.Cli
