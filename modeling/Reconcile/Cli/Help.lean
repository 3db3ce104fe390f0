import Reconcile.Template.Rendering

/-!
# Help pages

The pages that `Cli::parse` derives from the declarations of `Cli`, `Command`, `OutputArgs` and
`EngineArgs`.

* `Page` — what help is about.
* `Page.text` — the text of a page. Options that may be set by the environment show the value
  they have there.
* `versionLine` — the name and the version.

Left out: the width of the terminal, which makes lines break elsewhere.
-/

namespace Reconcile.Cli

/-- The name of the program. -/
def programName : String := "reststrategy"

/-- The name and the version. -/
def versionLine : String := programName ++ " 0.1.0\n"

/-- The variable that sets the log filter. -/
def logLevelVariable : String := "RUST_LOG"

/-- The variable that sets how long an answer may take. -/
def timeoutVariable : String := "RESTSTRATEGY_TIMEOUT_SECS"

/-- The variable that sets how long an answer may be. -/
def maxBytesVariable : String := "RESTSTRATEGY_MAX_RESPONSE_BYTES"

/-- What help is about. -/
inductive Page where
  | program
  | execute
  | validate
  | help
  deriving DecidableEq, Repr

/-- What the environment says about a variable. -/
def environmentNote (env : Environment) (variableName : String) : String :=
  "[env: " ++ variableName ++ "=" ++ (env variableName).getD "" ++ "]"

/-- What the log filter is for. -/
def logLevelNote (env : Environment) : String :=
  "Log filter, e.g. `info` or `reststrategy=debug` " ++ environmentNote env logLevelVariable ++
    " [default: info]"

/-- The choice of output formats. -/
def formatNote : String := "[default: text] [possible values: text, json]"

/-- How a command is called. -/
def Page.usage : Page → String
  | .program => "Usage: reststrategy [OPTIONS] <COMMAND>"
  | .execute => "Usage: reststrategy execute [OPTIONS] <PATH>"
  | .validate => "Usage: reststrategy validate [OPTIONS] <PATH>"
  | .help => "Usage: reststrategy help [COMMAND]..."

/-- What a command is for. -/
def Page.about : Page → String
  | .program => "Declarative REST reconciliation"
  | .execute => "Run every action of a recipe against its target"
  | .validate => "Parse and validate a recipe without sending requests"
  | .help => "Print this message or the help of the given subcommand(s)"

/-- The lists of commands, arguments and options. -/
def Page.details (env : Environment) : Page → List String
  | .program =>
    ["Commands:",
      "  execute   " ++ Page.execute.about,
      "  validate  " ++ Page.validate.about,
      "  help      " ++ Page.help.about,
      "",
      "Options:",
      "      --log-level <LOG_LEVEL>  " ++ logLevelNote env,
      "  -h, --help                   Print help",
      "  -V, --version                Print version"]
  | .execute =>
    ["Arguments:",
      "  <PATH>  ",
      "",
      "Options:",
      "      --log-level <LOG_LEVEL>",
      "          " ++ logLevelNote env,
      "      --format <FORMAT>",
      "          " ++ formatNote,
      "  -q, --quiet",
      "          ",
      "      --timeout-secs <TIMEOUT_SECS>",
      "          Per-request timeout, token requests included " ++
        environmentNote env timeoutVariable ++ " [default: 30]",
      "      --max-response-bytes <MAX_RESPONSE_BYTES>",
      "          " ++ environmentNote env maxBytesVariable ++ " [default: 4194304]",
      "  -h, --help",
      "          Print help"]
  | .validate =>
    ["Arguments:",
      "  <PATH>  ",
      "",
      "Options:",
      "      --log-level <LOG_LEVEL>  " ++ logLevelNote env,
      "      --format <FORMAT>        " ++ formatNote,
      "  -q, --quiet                  ",
      "  -h, --help                   Print help"]
  | .help =>
    ["Arguments:",
      "  [COMMAND]...  Print help for the subcommand(s)"]

/-- The text of a page. -/
def Page.text (env : Environment) (p : Page) : String :=
  "\n".intercalate ([p.about, "", p.usage, ""] ++ p.details env) ++ "\n"

end Reconcile.Cli
