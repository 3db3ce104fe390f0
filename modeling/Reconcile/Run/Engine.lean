import Reconcile.Run.Credentials
import Reconcile.Run.Plan

/-!
# Running recipes

Reference model of `PreparedAction::new` (`prepare`) with `DEFAULT_HEADERS`, `Engine::with_actions`
(`Recipe.schedule`), `Engine::execute_with` (`execute`), `run_action` (`runAction`), `compose_url`,
and of `Worker`: `render` (`renderFor`), `url` (`urlFor`), `send` with `extract_runtime_vars`
(`keepVariable`).

* `Prepared` — an action with its name and the headers its requests start from; `prepare`.
* `Recipe.schedule` — the actions of a recipe in the order in which they run.
* `perform` — one request of an action: its address, its headers, its answer.
* `carryOut` — a plan, request by request.
* `runAction`, `runAll` — one action, and all of them, whatever fails.

Left out: everything asynchronous. A run waits for one request at a time, and what may happen
meanwhile is part of the reply.
-/

namespace Reconcile

/-- An action with its name and the headers its requests start from. -/
structure Prepared where
  name : String
  action : Action
  headers : Headers
  deriving DecidableEq

/-- The headers of requests that set none. -/
def defaultHeaders : Headers :=
  Table.ofList [("Accept", "application/json"), ("Content-Type", "application/json")]

/-- An action with its headers set over the default ones. -/
def prepare (name : String) (a : Action) : Prepared :=
  ⟨name, a, defaultHeaders.setAll a.headers.entries⟩

/-- Whether an action may run before another: those without an order come last. -/
def runsBefore (a b : Prepared) : Bool :=
  match a.action.order, b.action.order with
  | some i, some j => i ≤ j
  | some _, none => true
  | none, some _ => false
  | none, none => true

/-- The actions of a recipe in the order in which they run; ties stay in document order. -/
def Recipe.schedule (r : Recipe) : List Prepared :=
  (r.seed.entries.map fun e => prepare e.1 e.2).mergeSort runsBefore

variable {σ : Type}

/-- The text of a template. What is malformed is logged, and stays as it is. -/
def renderFor (s : Setup σ) (p : Prepared) (template : String) : Run σ String := do
  let vars := mergeVariables p.action.vars (← get).store
  let r := render vars s.environment template
  match r.problem with
  | some e => log .error ("action " ++ p.name ++ ": template error: " ++ e.message)
  | none => pure ()
  pure r.text

/-- An endpoint, a suffix and an id one after the other; an empty id counts as none. -/
def composeUrl (endpoint suffix : String) (id : Option String) : String :=
  match id with
  | some s => endpoint ++ suffix ++ if s.isEmpty then "" else "/" ++ s
  | none => endpoint ++ suffix

/-- The address of a request. -/
def urlFor (s : Setup σ) (p : Prepared) (verb : Verb) (id : Option String) :
    Run σ (Except ActionError Url) := do
  let suffix ← match p.action.suffix verb with
    | some t => renderFor s p t
    | none => pure ""
  let raw := composeUrl p.action.endpoint suffix id
  pure ((Url.parse raw).mapError (.invalidUrl p.name raw))

/-- Keeps what an expression finds in the body of a success. -/
def keepVariable (p : Prepared) (body : List UInt8) (name expr : String) : Run σ Unit := do
  match extract body expr with
  | .ok none => pure ()
  | .ok (some v) => modify fun w => { w with store := w.store.insert name v }
  | .error e =>
    log .error ("action " ++ p.name ++ ": cannot extract runtime var " ++ name ++ ": " ++
      e.message)

/-- The answer to a request. -/
def receive (p : Prepared) (d : Diagnostic) :
    Option (Except HttpError Response) → Run σ (Except Diagnostic (List UInt8))
  | none => pure (.error (d.ofTransport HttpError.cancelled.message))
  | some (.error e) => do
    log .error (p.name ++ ": " ++ d.target ++ " failed: " ++ e.message)
    pure (.error (d.ofTransport e.message))
  | some (.ok r) => do
    log .debug (p.name ++ ": " ++ d.target ++ " returned " ++ toString r.status)
    match d.classify r.status r.body with
    | some d => pure (.error d)
    | none =>
      p.action.runtimeVars.entries.forM fun v => keepVariable p r.body v.1 v.2
      pure (.ok r.body)

/-- Sends one request of an action. -/
def send (s : Setup σ) (p : Prepared) (verb : Verb) (url : Url) (body : List UInt8) :
    Run σ (Except Diagnostic (List UInt8)) := do
  let d : Diagnostic := { name := p.name, target := target verb.name url }
  let (r, credentials) ← decorate s p.action.authRef
    { method := verb, url, headers := p.headers, body, limits := s.limits }
  log .debug (p.name ++ ": " ++ d.target ++ " headers [" ++
    (r.headers.redacted credentials).text ++ "]")
  receive p d (← submit s .target r)

/-- One request of an action. -/
def perform (s : Setup σ) (p : Prepared) (verb : Verb) (id : Option String)
    (body : List UInt8) : Run σ (Except ActionError (List UInt8)) := do
  match ← urlFor s p verb id with
  | .error e => pure (.error e)
  | .ok url => pure ((← send s p verb url body).mapError .http)

/-- What the requests of an action carry. -/
structure Payloads where
  primary : List UInt8
  patch : List UInt8 := []

/-- The bytes of a payload. -/
def Payloads.bytes (b : Payloads) : Payload → List UInt8
  | .none => []
  | .primary => b.primary
  | .patch => b.patch

/-- Carries out a plan, request by request. -/
def carryOut (s : Setup σ) (p : Prepared) (b : Payloads) : Plan → Run σ (Except ActionError Unit)
  | .done r => pure r
  | .remark message next => do
    log .info message
    carryOut s p b next
  | .request verb id payload next => do
    let r ← perform s p verb id (b.bytes payload)
    carryOut s p b (next r)

/-- The payloads of an action, filled in before its first request. -/
def payloadsFor (s : Setup σ) (p : Prepared) : Run σ Payloads := do
  let primary := Text.Utf8.encode (← renderFor s p p.action.payload)
  if p.action.strategy == .findPatchPost then
    let patch ← renderFor s p (p.action.patchPayload.getD "")
    pure { primary, patch := Text.Utf8.encode patch }
  else pure { primary }

/-- Runs an action. -/
def runAction (s : Setup σ) (p : Prepared) : Run σ (Except ActionError Unit) := do
  let b ← payloadsFor s p
  carryOut s p b (Plan.of p.name p.action)

/-- Runs an action and logs how it went. -/
def runLogged (s : Setup σ) (p : Prepared) : Run σ (Option ActionError) := do
  log .info ("running action " ++ p.name ++ " (" ++ p.action.strategy.name ++ ")")
  match ← runAction s p with
  | .ok () =>
    log .debug ("action " ++ p.name ++ " completed")
    pure none
  | .error e =>
    log .error ("action " ++ p.name ++ " failed: " ++ e.text)
    pure (some e)

/-- Runs actions one after the other, whatever fails; the errors come back in that order. -/
def runAll (s : Setup σ) : List Prepared → Run σ (List ActionError)
  | [] => pure []
  | p :: rest => do
    let e ← runLogged s p
    let more ← runAll s rest
    pure (e.toList ++ more)

/-- What came of a run: its errors, unless the clock ran over, and the world after it. -/
def execute (s : Setup σ) (actions : List Prepared) (w : World σ) :
    Except ClockOverflow (List ActionError) × World σ :=
  (runAll s actions).run { w with cache := {}, events := [] }

end Reconcile
