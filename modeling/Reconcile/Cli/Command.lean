import Reconcile.Cli.Report
import Reconcile.Run.Engine

/-!
# The commands

Reference model of `run_command`, `read_recipe` (`readRecipe`), `validate_cmd` (`check`) and
`execute_cmd` (`run`).

* `Content` — what a file holds, or why it cannot be read as text.
* `check` — the `validate` command: reads a recipe and reports what is wrong with it.
* `run` — the `execute` command: the same, and then runs the recipe.
* `Invocation` — a command with its options; `Invocation.outcome` carries it out.

Left out: the log lines of a command, the recipe's warnings in `execute_cmd` among them, and the
user's interrupt. A run is cancelled by what its transport replies.
-/

namespace Reconcile.Cli

/-- What a file holds, or why it cannot be read as text. -/
abbrev Content := Except ReadFailure String

/-- The recipe of a file. -/
def readRecipe (path : String) (c : Content) : Except Complaint (Notation × Recipe) :=
  match c with
  | .error e => .error (.unreadable path e)
  | .ok s => (Recipe.parse none s).mapError .malformed

/-- The recipe of a file, if it breaks no rule. -/
def loadRecipe (path : String) (c : Content) : Except Complaint (Notation × Recipe) :=
  match c with
  | .error e => .error (.unreadable path e)
  | .ok s =>
    match Recipe.load none s with
    | .ok r => .ok r
    | .error (.parse e) => .error (.malformed e)
    | .error (.invalid vs) => .error (.invalid vs)

/-- Reads a recipe and reports what is wrong with it. -/
def check (o : OutputOptions) (path : String) (c : Content) : Outcome :=
  match readRecipe path c with
  | .error e => e.outcome o
  | .ok (format, r) =>
    CheckReport.outcome o
      { format, actions := r.seed.size, errors := r.violations, warnings := r.warnings }

/-- Where and how requests are sent. -/
structure Surroundings (σ : Type) where
  transport : Transport σ
  /-- The state of the transport before the first request. -/
  state : σ
  environment : Environment := fun _ => none

variable {σ : Type}

/-- The world a run starts from. -/
def Surroundings.world (s : Surroundings σ) : World σ :=
  { transport := s.state }

/-- Reads a recipe and runs it if nothing is wrong with it. -/
def run (s : Surroundings σ) (limits : Limits) (o : OutputOptions) (path : String) (c : Content) :
    Outcome :=
  match loadRecipe path c with
  | .error e => e.outcome o
  | .ok (_, r) =>
    let setup : Setup σ :=
      { transport := s.transport, auth := r.auth, environment := s.environment, limits }
    match execute setup r.schedule s.world with
    | (.ok errors, w) =>
      { RunReport.outcome o { actions := r.seed.size, errors } with sent := w.requests }
    | (.error _, w) =>
      { exit := .crashed, stderr := line "overflow when adding duration to instant",
        sent := w.requests }

/-- What to do. -/
inductive Command where
  | execute (limits : Limits)
  | validate
  deriving DecidableEq, Repr

/-- A command with its options. -/
structure Invocation where
  command : Command
  path : String
  output : OutputOptions := {}
  deriving DecidableEq, Repr

/-- Carries out a command on what its file holds. -/
def Invocation.outcome (i : Invocation) (s : Surroundings σ) (c : Content) : Outcome :=
  match i.command with
  | .validate => check i.output i.path c
  | .execute limits => run s limits i.output i.path c

end Reconcile.Cli
