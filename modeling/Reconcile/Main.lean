import Reconcile.Cli.Arguments
import Reconcile.Http.Unreachable

/-!
# The program

Reference model of `main`.

Reads the command line, the environment and the file of a command, and prints what came of it.
Requests find no server: the program opens no connections.

Left out: the network, `init_tracing`, the asynchronous runtime and the user's interrupt.
-/

namespace Reconcile.Cli

/-- Why a file cannot be read. -/
def readFailure (e : IO.Error) : ReadFailure :=
  match e with
  | .noFileOrDirectory .. => .notFound
  | .inappropriateType _ _ details =>
    if details == "is a directory" then .isDirectory else .notDirectory
  | .invalidArgument _ _ "name too long" => .nameTooLong
  | e => .other (toString e)

/-- What a file holds. -/
def readContent (path : String) : IO Content := do
  try
    let bytes ← IO.FS.readBinFile path
    match Text.Utf8.decode? bytes.toList with
    | some s => pure (.ok s)
    | none => pure (.error .notText)
  catch e => pure (.error (readFailure e))

/-- An entry of the environment: a name and what follows the first equals sign. -/
def environmentEntry (cs : List Char) : String × String :=
  (String.ofList (cs.takeWhile (· != '=')), String.ofList ((cs.dropWhile (· != '=')).drop 1))

/-- The environment of the process. -/
def readEnvironment : IO Environment := do
  match ← readContent "/proc/self/environ" with
  | .ok s =>
    let entries := (s.splitOn "\x00").map fun e => environmentEntry e.toList
    pure fun name => (entries.find? fun e => e.1 == name).map Prod.snd
  | .error _ => pure fun _ => none

/-- Carries out a command line. -/
def outcomeOf (args : List String) : IO Outcome := do
  let environment ← readEnvironment
  match readCommandLine environment args with
  | .error stop => pure (stop.outcome environment)
  | .ok i =>
    let content ← readContent i.path
    pure (i.outcome { transport := unreachable, state := (), environment } content)

end Reconcile.Cli

/-- Carries out a command line and prints what came of it. -/
def main (args : List String) : IO UInt32 := do
  let r ← Reconcile.Cli.outcomeOf args
  (← IO.getStdout).putStr r.stdout
  (← IO.getStderr).putStr r.stderr
  pure (UInt32.ofNat r.exit.number)
