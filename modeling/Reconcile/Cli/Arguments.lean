import Reconcile.Cli.Command
import Reconcile.Cli.Help

/-!
# Command lines

Reference model of `Cli`, `Command`, `OutputArgs`, `EngineArgs` and `EngineArgs::engine_config`,
with the argument parsing derived for them (`Cli::parse`).

* `Word` — an argument by its form.
* `Setting` — the options that take a value, and `--quiet`.
* `Misuse` — why a command line is no command.
* `Stop` — a command line that asks for help or for the version, or that is misused.
* `Draft` — the arguments of a command that were read so far.
* `readCommandLine` — the command of a command line. What a line leaves open is taken from the
  environment, and then from a default.
* `Stop.outcome` — what is printed instead of carrying out a command.

Left out: the hints at similar names that follow a misuse, and what `init_tracing` does with the
log filter.
-/

namespace Reconcile.Cli

/-! ## Words -/

/-- An argument by its form. -/
inductive Word where
  /-- Two dashes: whatever follows is no option. -/
  | escape
  /-- A name after two dashes, and what follows its first equals sign. -/
  | long (name : String) (value : Option String)
  /-- Letters after one dash. -/
  | short (letters : List Char)
  | plain (s : String)
  deriving DecidableEq, Repr

/-- A name and what follows its first equals sign. -/
def longWord (cs : List Char) : Word :=
  let name := String.ofList (cs.takeWhile (· != '='))
  match cs.dropWhile (· != '=') with
  | [] => .long name none
  | _ :: value => .long name (some (String.ofList value))

/-- The form of an argument. A single dash is plain. -/
def Word.of (s : String) : Word :=
  match s.toList with
  | ['-', '-'] => .escape
  | '-' :: '-' :: cs => longWord cs
  | '-' :: c :: cs => .short (c :: cs)
  | _ => .plain s

/-! ## Settings -/

/-- The options that take a value, and `--quiet`. -/
inductive Setting where
  /-- Which log lines are shown; any text will do. -/
  | logLevel
  | format
  | quiet
  | timeout
  | maxBytes
  deriving DecidableEq, Repr

/-- The settings that a page describes. -/
def Page.settings : Page → List Setting
  | .program => [.logLevel]
  | .execute => [.logLevel, .format, .quiet, .timeout, .maxBytes]
  | .validate => [.logLevel, .format, .quiet]
  | .help => []

/-- The name of a setting. -/
def Setting.name : Setting → String
  | logLevel => "log-level"
  | format => "format"
  | quiet => "quiet"
  | timeout => "timeout-secs"
  | maxBytes => "max-response-bytes"

/-- Why a command line is no command. -/
inductive Misuse where
  | unexpected (argument : String)
  | unknownCommand (name : String)
  | noCommand
  | noPath
  | noValue (name : String)
  | needlessValue (name value : String)
  | badValue (name value : String)
  | repeated (name : String)
  deriving DecidableEq, Repr

/-- The wording of a misuse. -/
def Misuse.message : Misuse → String
  | unexpected a => "unexpected argument '" ++ a ++ "' found"
  | unknownCommand s => "unrecognized subcommand '" ++ s ++ "'"
  | noCommand => "'" ++ programName ++ "' requires a subcommand but one was not provided"
  | noPath => "the following required arguments were not provided:\n  <PATH>"
  | noValue n => "a value is required for '" ++ n ++ "' but none was supplied"
  | needlessValue n v =>
    "unexpected value '" ++ v ++ "' for '" ++ n ++ "' found; no more were expected"
  | badValue n v => "invalid value '" ++ v ++ "' for '" ++ n ++ "'"
  | repeated n => "the argument '" ++ n ++ "' cannot be used multiple times"

/-- A command line that is not carried out. -/
inductive Stop where
  | help (about : Page)
  | version
  /-- Nothing at all was asked for. -/
  | idle
  | misuse (on : Page) (cause : Misuse)
  deriving DecidableEq, Repr

/-- A natural number below `2 ^ 64`, with a plus sign or without. -/
def readCount? (s : String) : Option Nat :=
  let digits := match s.toList with
    | '+' :: ds => ds
    | ds => ds
  if digits.isEmpty || !digits.all Text.isDigit then none
  else
    let n := digits.foldl (fun n d => n * 10 + Text.digitValue d) 0
    if n < 1 <<< 64 then some n else none

/-- An output format by its name. -/
def OutputFormat.ofName? (s : String) : Option OutputFormat :=
  if s == "text" then some .text else if s == "json" then some .json else none

/-! ## Reading a command -/

/-- The arguments of a command that were read so far. -/
structure Draft where
  logLevel : Option String := none
  format : Option OutputFormat := none
  quiet : Option Unit := none
  timeout : Option Nat := none
  maxBytes : Option Nat := none
  path : Option String := none
  deriving DecidableEq, Repr

/-- Keeps a value that was read, unless there was one before. -/
def keepOnce {α : Type} (page : Page) (name text : String) (old value : Option α) :
    Except Stop (Option α) :=
  match value with
  | none => .error (.misuse page (.badValue name text))
  | some v => if old.isSome then .error (.misuse page (.repeated name)) else .ok (some v)

namespace Draft

/-- Sets an option that takes a value. -/
def set (page : Page) (d : Draft) (s : Setting) (text : String) : Except Stop Draft := do
  let name := "--" ++ s.name
  match s with
  | .logLevel => pure { d with logLevel := ← keepOnce page name text d.logLevel (some text) }
  | .format =>
    pure { d with format := ← keepOnce page name text d.format (OutputFormat.ofName? text) }
  | .timeout =>
    pure { d with timeout := ← keepOnce page name text d.timeout (readCount? text) }
  | .maxBytes =>
    pure { d with maxBytes := ← keepOnce page name text d.maxBytes (readCount? text) }
  | .quiet => .error (.misuse page (.needlessValue name text))

/-- Sets the option that takes no value. -/
def silence (page : Page) (d : Draft) : Except Stop Draft := do
  pure { d with quiet := ← keepOnce page "--quiet" "" d.quiet (some ()) }

/-- Takes an argument that is no option. -/
def operand (page : Page) (d : Draft) (s : String) : Except Stop Draft :=
  if d.path.isSome then .error (.misuse page (.unexpected s))
  else if s.isEmpty then .error (.misuse page (.noValue "<PATH>"))
  else .ok { d with path := some s }

/-- Takes arguments none of which is an option. -/
def operands (page : Page) (d : Draft) : List String → Except Stop Draft
  | [] => .ok d
  | s :: rest => do operands page (← d.operand page s) rest

/-- Takes options of one letter. -/
def letters (page : Page) (d : Draft) : List Char → Except Stop Draft
  | [] => .ok d
  | 'h' :: _ => .error (.help page)
  | 'q' :: rest => do letters page (← d.silence page) rest
  | c :: _ => .error (.misuse page (.unexpected ("-" ++ String.ofList [c])))

/-- Reads the arguments of a command one after the other; the first fault counts. -/
def read (page : Page) (d : Draft) : List String → Except Stop Draft
  | [] => .ok d
  | a :: rest =>
    match Word.of a with
    | .escape => d.operands page rest
    | .plain s => do read page (← d.operand page s) rest
    | .short cs => do read page (← d.letters page cs) rest
    | .long name value =>
      match page.settings.find? (fun s => s.name == name), value, rest with
      | some .quiet, none, rest => do read page (← d.silence page) rest
      | some s, some v, rest => do read page (← d.set page s v) rest
      | some s, none, v :: rest' =>
        match Word.of v with
        | .plain v => do read page (← d.set page s v) rest'
        | _ => .error (.misuse page (.noValue a))
      | some _, none, [] => .error (.misuse page (.noValue a))
      | none, none, _ =>
        .error (if name == "help" then .help page else .misuse page (.unexpected a))
      | none, some v, _ =>
        .error (.misuse page
          (if name == "help" then .needlessValue "--help" v else .unexpected a))

end Draft

/-! ## Reading a command line -/

/-- What the command line says, else what the environment says, else a default. -/
def settled (page : Page) (env : Environment) (said : Option Nat) (variableName : String)
    (default : Nat) : Except Stop Nat :=
  match said, env variableName with
  | some n, _ => .ok n
  | none, none => .ok default
  | none, some s =>
    match readCount? s with
    | some n => .ok n
    | none => .error (.misuse page (.badValue variableName s))

/-- The command with the arguments that were read. -/
def Draft.invocation (page : Page) (env : Environment) (d : Draft) : Except Stop Invocation := do
  let command ← match page with
    | .execute => do
      let seconds ← settled page env d.timeout timeoutVariable 30
      let bytes ← settled page env d.maxBytes maxBytesVariable 4194304
      pure (Command.execute { timeout := seconds * 1000, maxBytes := bytes })
    | _ => pure Command.validate
  match d.path with
  | none => .error (.misuse page .noPath)
  | some path =>
    pure { command, path, output := { format := d.format.getD .text, quiet := d.quiet.isSome } }

/-- The page that the `help` command is asked for. -/
def helpPage : List String → Stop
  | [] => .help .program
  | name :: rest =>
    let page? : Option Page :=
      if name == "execute" then some .execute
      else if name == "validate" then some .validate
      else if name == "help" then some .help
      else none
    match page?, rest with
    | some p, [] => .help p
    | some p, more :: _ => .misuse p (.unknownCommand more)
    | none, _ => .misuse .program (.unknownCommand name)

/-- Reads a command and its arguments. -/
def readCommand (env : Environment) (name : String) (rest : List String) :
    Except Stop Invocation :=
  let command (page : Page) : Except Stop Invocation := do
    (← Draft.read page {} rest).invocation page env
  if name == "execute" then command .execute
  else if name == "validate" then command .validate
  else if name == "help" then .error (helpPage rest)
  else .error (.misuse .program (.unknownCommand name))

/-- The first of some letters before the command. -/
def leadingLetter : List Char → Stop
  | 'h' :: _ => .help .program
  | 'V' :: _ => .version
  | cs => .misuse .program (.unexpected ("-" ++ String.ofList (cs.take 1)))

/-- Nothing that could be a command. Without any setting either, help is due. -/
def missingCommand (env : Environment) (level : Option String) : Stop :=
  if level.isNone && (env logLevelVariable).isNone then .idle else .misuse .program .noCommand

/-- Reads a command line up to its command, and then the command; `level` is the log filter that
was set so far. -/
def readFrom (env : Environment) (level : Option String) :
    List String → Except Stop Invocation
  | [] => .error (missingCommand env level)
  | a :: rest =>
    let named (name : String) : Except Stop (Option String) :=
      keepOnce .program "--log-level" name level (some name)
    match Word.of a with
    | .plain s => readCommand env s rest
    | .escape =>
      .error (match rest with
        | [] => missingCommand env level
        | s :: _ => .misuse .program (.unexpected s))
    | .short cs => .error (leadingLetter cs)
    | .long "log-level" (some v) => do readFrom env (← named v) rest
    | .long "log-level" none =>
      match rest with
      | v :: rest' =>
        match Word.of v with
        | .plain v => do readFrom env (← named v) rest'
        | _ => .error (.misuse .program (.noValue a))
      | [] => .error (.misuse .program (.noValue a))
    | .long "help" none => .error (.help .program)
    | .long "version" none => .error .version
    | .long _ _ => .error (.misuse .program (.unexpected a))

/-- The command of a command line. -/
def readCommandLine (env : Environment) (args : List String) : Except Stop Invocation :=
  readFrom env none args

/-- What is printed instead of carrying out a command. -/
def Stop.outcome (env : Environment) : Stop → Outcome
  | .help p => { exit := .success, stdout := p.text env }
  | .version => { exit := .success, stdout := versionLine }
  | .idle => { exit := .rejected, stderr := Page.program.text env }
  | .misuse p e =>
    { exit := .rejected
      stderr := "error: " ++ e.message ++ "\n\n" ++ p.usage ++
        "\n\nFor more information, try '--help'.\n" }

end Reconcile.Cli
