import Reconcile.Proofs.Results
import Reconcile.Run.Engine

/-!
# The steps of a run as equations

What each step of a run gives, and which world it leaves behind:

* `run_bind` — one step after another; a step that runs over the clock ends the run.
* `World.logging` — a world after some log lines; `World.exchanged` — after an exchange.
* `submit_run` — a request is exchanged unless the run is cancelled.
* `renderFor_run`, `urlFor_run`, `payloadsFor_run` — templates are filled in from the store of
  the moment, and only log lines come of it.
* `receive_run` — an answer decides the result, and a success fills the store; what is logged
  about it is `Prepared.answerLines`.
-/

namespace Reconcile

variable {σ α β : Type}

/-! ## Running -/

@[simp] theorem run_pure (a : α) (w : World σ) : (pure a : Run σ α).run w = (.ok a, w) := rfl

@[simp] theorem run_get (w : World σ) : (get : Run σ (World σ)).run w = (.ok w, w) := rfl

@[simp] theorem run_modify (f : World σ → World σ) (w : World σ) :
    (modify f : Run σ PUnit).run w = (.ok (), f w) := rfl

theorem run_bind (x : Run σ α) (f : α → Run σ β) (w : World σ) :
    (x >>= f).run w =
      match x.run w with
      | (.ok a, w') => (f a).run w'
      | (.error e, w') => (.error e, w') := by
  show (match x.run w with
    | (a, w') => (ExceptT.bindCont f a : StateM (World σ) (Except ClockOverflow β)) w') = _
  rcases x.run w with ⟨_ | a, w'⟩ <;> rfl

theorem run_throw (e : ClockOverflow) (w : World σ) :
    (throw e : Run σ α).run w = (.error e, w) := rfl

theorem run_map (f : α → β) (x : Run σ α) (w : World σ) :
    (f <$> x).run w =
      match x.run w with
      | (.ok a, w') => (.ok (f a), w')
      | (.error e, w') => (.error e, w') := by
  rw [← bind_pure_comp, run_bind]
  rfl

theorem run_bind_ok {x : Run σ α} {f : α → Run σ β} {w w' : World σ} {a : α}
    (h : x.run w = (.ok a, w')) : (x >>= f).run w = (f a).run w' := by
  rw [run_bind, h]

theorem run_bind_error {x : Run σ α} {f : α → Run σ β} {w w' : World σ} {e : ClockOverflow}
    (h : x.run w = (.error e, w')) : (x >>= f).run w = (.error e, w') := by
  rw [run_bind, h]

/-! ## Log lines -/

/-- A world after some log lines. -/
def World.logging (w : World σ) (lines : List LogLine) : World σ :=
  { w with events := w.events ++ lines.map .logged }

namespace World

variable (w : World σ) (lines more : List LogLine)

@[simp] theorem logging_transport : (w.logging lines).transport = w.transport := rfl
@[simp] theorem logging_cancelled : (w.logging lines).cancelled = w.cancelled := rfl
@[simp] theorem logging_now : (w.logging lines).now = w.now := rfl
@[simp] theorem logging_cache : (w.logging lines).cache = w.cache := rfl
@[simp] theorem logging_store : (w.logging lines).store = w.store := rfl

@[simp] theorem logging_nil : w.logging [] = w := by
  simp [logging]

@[simp] theorem logging_logging : (w.logging lines).logging more = w.logging (lines ++ more) := by
  simp [logging]

end World

/-- A world with another store. -/
def World.storing (w : World σ) (store : Table Json) : World σ :=
  { w with store }

/-- A world with one more credential in its cache. -/
def World.caching (w : World σ) (name : String) (c : Credential) : World σ :=
  { w with cache := w.cache.insert name c }

@[simp] theorem World.storing_store (w : World σ) (store : Table Json) :
    (w.storing store).store = store := rfl

@[simp] theorem World.storing_storing (w : World σ) (store later : Table Json) :
    (w.storing store).storing later = w.storing later := rfl

theorem World.logging_storing (w : World σ) (lines : List LogLine) (store : Table Json) :
    (w.logging lines).storing store = (w.storing store).logging lines := rfl

theorem note_run (line : LogLine) (w : World σ) :
    (note (.logged line)).run w = (.ok (), w.logging [line]) := rfl

theorem log_run (level : LogLevel) (message : String) (w : World σ) :
    (log level message).run w = (.ok (), w.logging [⟨level, message⟩]) := rfl

/-! ## Exchanges -/

/-- What comes back for a request, unless the run is cancelled before. -/
def Reply.result? : Reply → Option (Except HttpError Response)
  | answered _ _ result => some result
  | cancelled => none

/-- Whether the run is cancelled before a reply is there. -/
def Reply.cancels : Reply → Bool
  | answered cancels _ _ => cancels
  | cancelled => true

/-- The seconds that pass up to a reply. -/
def Reply.elapsed : Reply → Nat
  | answered _ elapsed _ => elapsed
  | cancelled => 0

namespace World

/-- The reply to a request. -/
def reply (w : World σ) (s : Setup σ) (r : Request) : Reply :=
  (s.transport r w.transport).1

/-- A world after a request and its reply. -/
def exchanged (w : World σ) (s : Setup σ) (purpose : Purpose) (r : Request) : World σ :=
  { w with
    transport := (s.transport r w.transport).2
    cancelled := w.cancelled || (w.reply s r).cancels
    now := w.now + (w.reply s r).elapsed
    events := w.events ++ [.sent purpose r] }

variable (w : World σ) (s : Setup σ) (purpose : Purpose) (r : Request)

@[simp] theorem exchanged_cancelled :
    (w.exchanged s purpose r).cancelled = (w.cancelled || (w.reply s r).cancels) := rfl

@[simp] theorem exchanged_now :
    (w.exchanged s purpose r).now = w.now + (w.reply s r).elapsed := rfl

@[simp] theorem exchanged_cache : (w.exchanged s purpose r).cache = w.cache := rfl
@[simp] theorem exchanged_store : (w.exchanged s purpose r).store = w.store := rfl

end World

/-- **A request is exchanged unless the run is cancelled.** -/
theorem submit_run (s : Setup σ) (purpose : Purpose) (r : Request) (w : World σ) :
    (submit s purpose r).run w =
      if w.cancelled then (.ok none, w)
      else (.ok (w.reply s r).result?, w.exchanged s purpose r) := by
  simp only [submit, isCancelled, run_bind, run_get, run_pure]
  split
  · rfl
  · rename_i hc
    rcases ht : s.transport r w.transport with ⟨reply, state⟩
    simp only [note, run_bind, run_get, run_modify, ht, World.exchanged, World.reply]
    cases reply <;>
      simp only [run_bind, run_modify, run_pure, Reply.result?, Reply.cancels, Reply.elapsed,
        Bool.or_true, Nat.add_zero]

theorem submit_run_open (s : Setup σ) (purpose : Purpose) (r : Request) {w : World σ}
    (hw : w.cancelled = false) :
    (submit s purpose r).run w = (.ok (w.reply s r).result?, w.exchanged s purpose r) := by
  rw [submit_run, hw]
  rfl

theorem submit_run_cancelled (s : Setup σ) (purpose : Purpose) (r : Request) {w : World σ}
    (hw : w.cancelled = true) : (submit s purpose r).run w = (.ok none, w) := by
  rw [submit_run, hw]
  rfl

/-! ## Templates and addresses -/

section Templates

variable (s : Setup σ) (p : Prepared)

/-- A template of an action, filled in. -/
def Setup.filled (store : Table Json) (template : String) : Rendered :=
  render (mergeVariables p.action.vars store) s.environment template

/-- What is logged about a template that was filled in. -/
def Prepared.problemLines (r : Rendered) : List LogLine :=
  match r.problem with
  | some e => [⟨.error, "action " ++ p.name ++ ": template error: " ++ e.message⟩]
  | none => []

/-- What a verb appends to the endpoint, filled in. -/
def Setup.filledSuffix (store : Table Json) (verb : Verb) : Rendered :=
  match p.action.suffix verb with
  | some t => s.filled p store t
  | none => ⟨"", none⟩

/-- The text of an address. -/
def Setup.rawUrl (store : Table Json) (verb : Verb) (id : Option String) : String :=
  composeUrl p.action.endpoint (s.filledSuffix p store verb).text id

/-- The payloads of an action, filled in. -/
def Setup.payloads (store : Table Json) : Payloads where
  primary := Text.Utf8.encode (s.filled p store p.action.payload).text
  patch :=
    if p.action.strategy == .findPatchPost then
      Text.Utf8.encode (s.filled p store (p.action.patchPayload.getD "")).text
    else []

theorem renderFor_run (template : String) (w : World σ) :
    (renderFor s p template).run w =
      (.ok (s.filled p w.store template).text,
        w.logging (p.problemLines (s.filled p w.store template))) := by
  simp only [renderFor, run_bind, run_get, Setup.filled, Prepared.problemLines]
  cases (render (mergeVariables p.action.vars w.store) s.environment template).problem with
  | none => simp only [run_pure, World.logging_nil]
  | some e => simp only [run_bind, log_run, run_pure]

/-- An address is read from the endpoint, the suffix filled in from the store of the moment, and
the id. -/
theorem urlFor_run (verb : Verb) (id : Option String) (w : World σ) :
    (urlFor s p verb id).run w =
      (.ok ((Url.parse (s.rawUrl p w.store verb id)).mapError
          (.invalidUrl p.name (s.rawUrl p w.store verb id))),
        w.logging (p.problemLines (s.filledSuffix p w.store verb))) := by
  simp only [urlFor, Setup.rawUrl, Setup.filledSuffix]
  cases p.action.suffix verb with
  | none => simp only [run_bind, run_pure, Prepared.problemLines, World.logging_nil]
  | some t => simp only [run_bind, renderFor_run, run_pure]

theorem payloadsFor_run (w : World σ) :
    ∃ lines, (payloadsFor s p).run w = (.ok (s.payloads p w.store), w.logging lines) := by
  simp only [payloadsFor, run_bind, renderFor_run, Setup.payloads]
  split
  · simp only [run_bind, renderFor_run, run_pure, World.logging_store, World.logging_logging]
    exact ⟨_, rfl⟩
  · exact ⟨_, rfl⟩

end Templates

/-! ## Answers -/

section Answers

variable (p : Prepared) (body : List UInt8)

/-- The store with what an expression finds in the body of a success. -/
def kept (store : Table Json) (v : String × String) : Table Json :=
  match extract body v.2 with
  | .ok (some value) => store.insert v.1 value
  | _ => store

/-- The store after an answer: only a success changes it. -/
def Prepared.storeAfter (store : Table Json) : Option (Except HttpError Response) → Table Json
  | some (.ok r) =>
    if isSuccess r.status then p.action.runtimeVars.entries.foldl (kept r.body) store else store
  | _ => store

/-- The result of a request, by what came back for it. -/
def Diagnostic.outcome (d : Diagnostic) :
    Option (Except HttpError Response) → Except Diagnostic (List UInt8)
  | none => .error (d.ofTransport HttpError.cancelled.message)
  | some (.error e) => .error (d.ofTransport e.message)
  | some (.ok r) =>
    match d.classify r.status r.body with
    | some d => .error d
    | none => .ok r.body

/-- What is logged when the expression of a variable cannot be evaluated. -/
def Prepared.complaint? (v : String × String) : Option LogLine :=
  match extract body v.2 with
  | .error e => some
      ⟨.error, "action " ++ p.name ++ ": cannot extract runtime var " ++ v.1 ++ ": " ++ e.message⟩
  | .ok _ => none

/-- What is logged about an answer: how it went, and for a success a line for each variable whose
expression cannot be evaluated. -/
def Prepared.answerLines (d : Diagnostic) : Option (Except HttpError Response) → List LogLine
  | none => []
  | some (.error e) => [⟨.error, p.name ++ ": " ++ d.target ++ " failed: " ++ e.message⟩]
  | some (.ok r) =>
    ⟨.debug, p.name ++ ": " ++ d.target ++ " returned " ++ toString r.status⟩ ::
      if isSuccess r.status then p.action.runtimeVars.entries.filterMap (p.complaint? r.body)
      else []

theorem keepVariable_run (v : String × String) (w : World σ) :
    (keepVariable p body v.1 v.2).run w =
      (.ok (), (w.storing (kept body w.store v)).logging (p.complaint? body v).toList) := by
  simp only [keepVariable, kept, Prepared.complaint?]
  rcases extract body v.2 with e | _ | value
  · exact log_run ..
  · simp only [Option.toList_none, World.logging_nil]
    rfl
  · simp only [Option.toList_none, World.logging_nil]
    rfl

theorem keepVariables_run (vars : List (String × String)) (w : World σ) :
    (vars.forM fun v => keepVariable p body v.1 v.2).run w =
      (.ok (), (w.storing (vars.foldl (kept body) w.store)).logging
        (vars.filterMap (p.complaint? body))) := by
  induction vars generalizing w with
  | nil =>
    rw [List.filterMap_nil, World.logging_nil]
    rfl
  | cons v vars ih =>
    have hcons : ((v :: vars).forM fun v => keepVariable p body v.1 v.2) =
        (keepVariable p body v.1 v.2 >>= fun _ =>
          vars.forM fun v => keepVariable p body v.1 v.2 : Run σ PUnit) := rfl
    have hlines : (v :: vars).filterMap (p.complaint? body) =
        (p.complaint? body v).toList ++ vars.filterMap (p.complaint? body) := by
      cases h : p.complaint? body v <;> simp [h]
    rw [hcons, run_bind_ok (keepVariable_run p body v w), ih, World.logging_storing,
      World.logging_logging, World.storing_storing, World.logging_store, World.storing_store,
      List.foldl_cons, hlines]

/-- **An answer decides the result; only a success fills the store.** -/
theorem receive_run (d : Diagnostic) (a : Option (Except HttpError Response)) (w : World σ) :
    (receive p d a).run w =
      (.ok (d.outcome a), (w.storing (p.storeAfter w.store a)).logging (p.answerLines d a)) := by
  match a with
  | none =>
    rw [Prepared.answerLines, World.logging_nil]
    rfl
  | some (.error e) =>
    simp only [receive, run_bind, log_run]
    rfl
  | some (.ok r) =>
    simp only [receive, run_bind, log_run, Diagnostic.outcome, Prepared.storeAfter,
      Diagnostic.classify, Prepared.answerLines]
    by_cases hs : isSuccess r.status = true
    · simp only [hs, if_true, run_bind, keepVariables_run, run_pure, World.logging_storing,
        World.logging_logging, World.logging_store, List.singleton_append]
    · simp only [hs]
      rfl

end Answers

end Reconcile
