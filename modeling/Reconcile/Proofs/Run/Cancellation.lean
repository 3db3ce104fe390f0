import Mathlib.Control.Monad.Basic
import Reconcile.Http.Script
import Reconcile.Proofs.Run.Requests

/-!
# Cancelled runs

Once a run is cancelled, nothing reaches the transport any more, and what is left of the run is
known from the world of that moment alone.

* `Setup.stopped` — how an action fails that starts in a cancelled run: with the address of its
  first request if that is malformed, and else with the record of a cancelled request.
* `perform_cancelled`, `runAction_cancelled`, `runAll_cancelled` — one request, an action, all
  actions: they fail so, and the world stays as it is but for some log lines.
* `Plan.of_eq_request` — why: a plan starts with a request, and a failure that allows no fallback
  ends it.
* `execute_after_cancellation` — a whole execution, whenever it is cancelled.
-/

namespace Reconcile

variable {σ : Type}

/-! ## How actions fail -/

/-- The verb of the first request of a strategy. -/
def Strategy.firstVerb : Strategy → Verb
  | .putPost | .put => .put
  | .post => .post
  | .getPost | .findPost | .getPutPost | .findPutPost | .findPatchPost | .findDeletePost => .get

/-- The record of a request that a cancelled run does not send. -/
def Prepared.cancelledRecord (p : Prepared) (verb : Verb) (url : Url) : Diagnostic where
  status := 999
  name := p.name
  message := "request cancelled"
  target := target verb.name url
  proceedFallback := false
  isFatal := true

/-- How a request fails in a cancelled run. -/
def Setup.refused (s : Setup σ) (p : Prepared) (store : Table Json) (verb : Verb)
    (id : Option String) : ActionError :=
  match Url.parse (s.rawUrl p store verb id) with
  | .error cause => .invalidUrl p.name (s.rawUrl p store verb id) cause
  | .ok url => .http (p.cancelledRecord verb url)

/-- How an action fails that starts in a cancelled run. -/
def Setup.stopped (s : Setup σ) (p : Prepared) (store : Table Json) : ActionError :=
  s.refused p store p.action.strategy.firstVerb none

/-- A failure after which no plan goes on. -/
def ActionError.endsPlan : ActionError → Bool
  | .http d => !d.allowsFallback
  | _ => true

theorem Setup.endsPlan_refused (s : Setup σ) (p : Prepared) (store : Table Json) (verb : Verb)
    (id : Option String) : (s.refused p store verb id).endsPlan = true := by
  unfold refused
  split <;> rfl

theorem Plan.orFallBack_error {e : ActionError} (he : e.endsPlan = true)
    (next : Option (List UInt8) → Plan) : orFallBack (.error e) next = done (.error e) := by
  cases e with
  | http d =>
    have hd : d.allowsFallback = false := by simpa [ActionError.endsPlan] using he
    simp [orFallBack, hd]
  | extract action cause => rfl
  | invalidUrl action url cause => rfl

/-- **A plan starts with a request**, and a failure after which no plan goes on ends it. -/
theorem Plan.of_eq_request (name : String) (a : Action) :
    ∃ payload next, Plan.of name a = .request a.strategy.firstVerb none payload next ∧
      ∀ e : ActionError, e.endsPlan = true → next (.error e) = .done (.error e) := by
  unfold Plan.of
  cases a.strategy with
  | getPost => exact ⟨_, _, rfl, fun _ _ => rfl⟩
  | findPost => exact ⟨_, _, rfl, fun _ _ => rfl⟩
  | findPutPost => exact ⟨_, _, rfl, fun _ _ => rfl⟩
  | findPatchPost => exact ⟨_, _, rfl, fun _ _ => rfl⟩
  | findDeletePost => exact ⟨_, _, rfl, fun _ he => orFallBack_error he _⟩
  | getPutPost => exact ⟨_, _, rfl, fun _ he => orFallBack_error he _⟩
  | putPost => exact ⟨_, _, rfl, fun _ he => orFallBack_error he _⟩
  | put => exact ⟨_, _, rfl, fun _ _ => rfl⟩
  | post => exact ⟨_, _, rfl, fun _ _ => rfl⟩

/-! ## What a cancelled run still does -/

/-- A request of a cancelled run fails, and the world stays as it is but for log lines. -/
theorem Performed.of_cancelled {s : Setup σ} {p : Prepared} {verb : Verb} {id : Option String}
    {body : List UInt8} {w w' : World σ}
    {out : Except ClockOverflow (Except ActionError (List UInt8))}
    (h : Performed s p verb id body w out w') (hw : w.cancelled = true) :
    ∃ lines, out = .ok (.error (s.refused p w.store verb id)) ∧ w' = w.logging lines := by
  cases h with
  | malformed lines hu => exact ⟨lines, by simp only [Setup.refused, hu], rfl⟩
  | overrun lines _ hd =>
    obtain ⟨_, _, _, hout, _⟩ := hd.of_cancelled hw
    cases hout
  | unsent lines hu hd =>
    obtain ⟨_, _, more, _, hw₁⟩ := hd.of_cancelled hw
    rw [hw₁, World.logging_logging, World.logging_logging]
    refine ⟨_, ?_, rfl⟩
    simp only [Setup.refused, hu]
    rfl
  | exchanged lines _ hd hc =>
    obtain ⟨_, _, more, _, hw₁⟩ := hd.of_cancelled hw
    rw [hw₁, World.logging_cancelled, World.logging_cancelled, hw] at hc
    cases hc

section Cancelled

variable (s : Setup σ) {w : World σ} (hw : w.cancelled = true)

include hw

theorem perform_cancelled (p : Prepared) (verb : Verb) (id : Option String) (body : List UInt8) :
    ∃ lines, (perform s p verb id body).run w =
      (.ok (.error (s.refused p w.store verb id)), w.logging lines) := by
  obtain ⟨lines, hout, hw'⟩ := (perform_cases s p verb id body w).of_cancelled hw
  exact ⟨lines, Prod.ext hout hw'⟩

theorem runAction_cancelled (p : Prepared) :
    ∃ lines, (runAction s p).run w = (.ok (.error (s.stopped p w.store)), w.logging lines) := by
  obtain ⟨lines, hb⟩ := payloadsFor_run s p w
  obtain ⟨payload, next, hplan, hnext⟩ := Plan.of_eq_request p.name p.action
  have hw' : (w.logging lines).cancelled = true := hw
  obtain ⟨more, hp⟩ := perform_cancelled s hw' p p.action.strategy.firstVerb none
    ((s.payloads p w.store).bytes payload)
  refine ⟨lines ++ more, ?_⟩
  rw [runAction, run_bind_ok hb, hplan, carryOut, run_bind_ok hp,
    hnext _ (s.endsPlan_refused p _ _ _), carryOut, run_pure, World.logging_logging]
  rfl

theorem runLogged_cancelled (p : Prepared) :
    ∃ lines, (runLogged s p).run w = (.ok (some (s.stopped p w.store)), w.logging lines) := by
  have hw' : ∀ lines, (w.logging lines).cancelled = true := fun _ => hw
  simp only [runLogged]
  rw [run_bind_ok (log_run ..)]
  obtain ⟨lines, hr⟩ := runAction_cancelled s (hw' _) p
  rw [run_bind_ok hr]
  dsimp only
  rw [run_bind_ok (log_run ..), run_pure, World.logging_logging, World.logging_logging]
  exact ⟨_, rfl⟩

/-- **Every action of a cancelled run fails**, and the world stays as it is but for log lines. -/
theorem runAll_cancelled (actions : List Prepared) :
    ∃ lines, (runAll s actions).run w =
      (.ok (actions.map fun p => s.stopped p w.store), w.logging lines) := by
  induction actions generalizing w with
  | nil => exact ⟨[], by rw [World.logging_nil]; rfl⟩
  | cons p rest ih =>
    obtain ⟨lines, hp⟩ := runLogged_cancelled s hw p
    have hw' : (w.logging lines).cancelled = true := hw
    obtain ⟨more, hr⟩ := ih hw'
    refine ⟨lines ++ more, ?_⟩
    rw [runAll, run_bind_ok hp, run_bind_ok hr, run_pure, World.logging_logging]
    rfl

end Cancelled

/-! ## Whole executions -/

/-- **Cancelled executions.** Say an execution runs some actions, and then `p` and others.  The
exchanges of the whole execution are those before `p` and those from `p` on.

* Nothing is exchanged when the execution starts cancelled, and an exchange that cancels it, with
  its answer or in place of one, is the last one of all, whatever it is for.
* `p` starts cancelled iff the execution did or an exchange before `p` cancelled it.  Nothing is
  exchanged from then on, `p` and each action after it fail as `Setup.stopped` says, and they only
  log lines: the store, the cached credentials and the requests stay what they were. -/
theorem execute_after_cancellation (s : Setup σ) (done : List Prepared) (p : Prepared)
    (rest : List Prepared) (w w₁ : World σ) (errors : List ActionError)
    (h : (runAll s done).run w.opened = (.ok errors, w₁)) :
    ∃ before after : List Exchange,
      Path s w.opened before w₁ ∧
      Path s w₁ after (execute s (done ++ p :: rest) w).2 ∧
      (execute s (done ++ p :: rest) w).2.sent =
        (before ++ after).map (fun x => (x.purpose, x.request)) ∧
      (w.cancelled = true → before ++ after = []) ∧
      (∀ pre x post, before ++ after = pre ++ x :: post → x.reply.cancels = true → post = []) ∧
      (w₁.cancelled = true ↔
        w.cancelled = true ∨ ∃ x ∈ before, x.reply.cancels = true) ∧
      (w₁.cancelled = true →
        after = [] ∧
        (∃ lines, (runLogged s p).run w₁ =
          (.ok (some (s.stopped p w₁.store)), w₁.logging lines)) ∧
        ∃ lines, execute s (done ++ p :: rest) w =
          (.ok (errors ++ (p :: rest).map fun q => s.stopped q w₁.store), w₁.logging lines)) := by
  obtain ⟨before, hb⟩ := runAll_path (s := s) done w.opened
  rw [h] at hb
  obtain ⟨after, ha⟩ := runAll_path (s := s) (p :: rest) w₁
  have hrun : execute s (done ++ p :: rest) w = _ := runAll_append h (p :: rest)
  have hpath : Path s w₁ after (execute s (done ++ p :: rest) w).2 := by rw [hrun]; exact ha
  have hall := hb.append hpath
  refine ⟨before, after, hb, hpath, ?_, ?_, ?_, ?_, ?_⟩
  · rw [hall.sent]
    rfl
  · intro hw
    exact hall.eq_nil_of_cancelled hw
  · intro pre x post hxs hx
    exact hall.last_of_cancels hx hxs
  · rw [hb.cancelled, Bool.or_eq_true, List.any_eq_true]
    rfl
  · intro hw₁
    refine ⟨hpath.eq_nil_of_cancelled hw₁, runLogged_cancelled s hw₁ p, ?_⟩
    obtain ⟨lines, hr⟩ := runAll_cancelled s hw₁ (p :: rest)
    refine ⟨lines, ?_⟩
    rw [hrun, hr]
    rfl

/-- A script that cancels a run in the course of its first PUT. -/
def Script.cancelling : Script :=
  [⟨"PUT", "/a", [{ cancel := .instead, outcome := .failure .timeout }]⟩]

/-- An action that puts the resource of that script. -/
def cancelledPut : Prepared :=
  prepare "first" { strategy := .put, endpoint := "http://h/a" }

/-- An action that posts another one. -/
def latePost : Prepared :=
  prepare "second" { strategy := .post, endpoint := "http://h/b" }

theorem execute_after_cancellation_in_flight :
    let s : Setup Script := { transport := Script.transport }
    let w : World Script := { transport := Script.cancelling }
    ∃ w₁ lines, (runAll s [cancelledPut]).run w.opened = (.ok [s.stopped cancelledPut {}], w₁) ∧
      w₁.cancelled = true ∧ w₁.sent.length = 1 ∧
      execute s [cancelledPut, latePost] w =
        (.ok [s.stopped cancelledPut {}, s.stopped latePost w₁.store], w₁.logging lines) := by
  intro s w
  have hrun : (runAll s [cancelledPut]).run w.opened =
      (.ok [s.stopped cancelledPut {}], ((runAll s [cancelledPut]).run w.opened).2) :=
    Prod.ext (by decide +kernel) rfl
  obtain ⟨_, _, _, _, _, _, _, _, hc⟩ :=
    execute_after_cancellation s [cancelledPut] latePost [] w _ _ hrun
  have hw : ((runAll s [cancelledPut]).run w.opened).2.cancelled = true := by decide +kernel
  obtain ⟨_, _, lines, hx⟩ := hc hw
  exact ⟨_, lines, hrun, hw, by decide +kernel, hx⟩

end Reconcile
