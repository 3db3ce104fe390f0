import Reconcile.Credential.Basic
import Reconcile.Dict
import Reconcile.Recipe.Auth
import Reconcile.Template.Rendering

/-!
# The state of a run

Reference model of `RuntimeVars` (`World.store`), `CancellationToken` (`World.cancelled`), the
cache of `AuthResolver` (`World.cache`), `LogLevel`, and `Logger` (`Event.logged`).

* `Event` — a request that was sent, or a line that was logged.
* `World` — what changes in the course of a run.
* `Setup` — what stays the same.
* `Run` — steps that change the world. A run stops for good when a point in time is beyond the
  range of the clock.
* `submit` — sends a request unless the run is cancelled.

Left out: the locks around the store and the cache, since no two steps run at once, and the time
that passes while no request is under way.
-/

namespace Reconcile

/-- How much a log line matters. -/
inductive LogLevel where
  | debug
  | info
  | error
  deriving DecidableEq, Repr

/-- A line that was logged. -/
structure LogLine where
  level : LogLevel
  message : String
  deriving DecidableEq, Repr

/-- What a request is for. -/
inductive Purpose where
  /-- A step of an action. -/
  | target
  /-- A token for a step. -/
  | token
  deriving DecidableEq, Repr

/-- Something that happened in a run. -/
inductive Event where
  | sent (purpose : Purpose) (r : Request)
  | logged (line : LogLine)
  deriving DecidableEq

/-- What changes in the course of a run. -/
structure World (σ : Type) where
  transport : σ
  cancelled : Bool := false
  /-- The second that the clock shows; the last one that it can show is `lastSecond`. -/
  now : Nat := 0
  /-- The tokens of this run, by the name of their entry. -/
  cache : Table Credential := {}
  /-- The runtime variables. -/
  store : Table Json := {}
  events : List Event := []

/-- What stays the same in the course of a run. -/
structure Setup (σ : Type) where
  transport : Transport σ
  auth : Dict Auth := {}
  environment : Environment := fun _ => none
  limits : Limits := {}

/-- A point in time that the clock cannot tell. -/
structure ClockOverflow where
  deriving DecidableEq, Repr

/-- Steps that change the world. -/
abbrev Run (σ : Type) := ExceptT ClockOverflow (StateM (World σ))

/-- The last second that the clock can tell. -/
def lastSecond : Nat := (1 <<< 63) - 1

variable {σ : Type}

/-- Notes an event. -/
def note (e : Event) : Run σ Unit :=
  modify fun w => { w with events := w.events ++ [e] }

/-- Logs a line. -/
def log (level : LogLevel) (message : String) : Run σ Unit :=
  note (.logged ⟨level, message⟩)

/-- Whether the run is cancelled. -/
def isCancelled : Run σ Bool := do
  pure (← get).cancelled

/-- Sends a request unless the run is cancelled. Nothing comes back when it is, or when it is
cancelled before there is an answer. -/
def submit (s : Setup σ) (purpose : Purpose) (r : Request) :
    Run σ (Option (Except HttpError Response)) := do
  if ← isCancelled then pure none
  else
    note (.sent purpose r)
    let (reply, state) := s.transport r (← get).transport
    modify fun w => { w with transport := state }
    match reply with
    | .cancelled =>
      modify fun w => { w with cancelled := true }
      pure none
    | .answered cancels elapsed result =>
      modify fun w => { w with cancelled := w.cancelled || cancels, now := w.now + elapsed }
      pure (some result)

/-- The lines that were logged. -/
def World.logs (w : World σ) : List LogLine :=
  w.events.filterMap fun
    | .logged line => some line
    | .sent .. => none

/-- The requests that were sent. -/
def World.requests (w : World σ) : List Request :=
  w.events.filterMap fun
    | .sent _ r => some r
    | .logged _ => none

end Reconcile
