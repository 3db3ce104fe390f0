import Mathlib.Control.Monad.Basic
import Reconcile.Http.Script
import Reconcile.Proofs.Run.Requests

/-!
# The strategy table

What the strategies do, as a table: for each strategy the requests it makes and its result, by
what comes of those requests.

* `Answer` — what comes of a request; `Answer.result`, `Answer.tolerable`.
* `Action.table` — the table.
* `Plan.along` — the requests and the result of a plan, by what comes of them; `Plan.along_of` —
  those of a strategy's plan are its row of the table.
* `Carried` — the attempts of a row, carried out one after the other; `Carried.targets` — the
  requests that are sent meanwhile.
* `Overran` — an attempt waits for a token whose expiry is beyond the clock.
* `carryOut_along` — a plan that is not cancelled is carried out by its answers.
* `runAction_follows_table` — an action that is not cancelled carries out its row of the table.
-/

namespace Reconcile

variable {σ : Type}

/-! ## Answers -/

/-- What comes of a request of an action. -/
inductive Answer where
  /-- Its address is malformed, and it is not sent. -/
  | unsent (url : String) (cause : UrlError)
  /-- It is sent, and this comes back. -/
  | answered (r : Request) (result : Except HttpError Response)

namespace Answer

/-- The request, if it is sent. -/
def request? : Answer → Option Request
  | unsent .. => none
  | answered r _ => some r

/-- A reply with a status from 300 to 499. -/
def tolerable : Answer → Bool
  | answered _ (.ok reply) => 300 ≤ reply.status && reply.status ≤ 499
  | _ => false

/-- The body of a reply with a status of at most 299, and the error that stands for anything
else. -/
def result (name : String) : Answer → Except ActionError (List UInt8)
  | unsent url cause => .error (.invalidUrl name url cause)
  | answered r (.error e) =>
    .error (.http
      { status := 999
        name
        message := e.message
        target := target r.method.name r.url
        proceedFallback := false
        isFatal := true })
  | answered r (.ok reply) =>
    if reply.status ≤ 299 then .ok reply.body
    else
      .error (.http
        { status := reply.status
          name
          message := Text.Utf8.decodeLossy reply.body
          target := target r.method.name r.url
          proceedFallback := 300 ≤ reply.status && reply.status ≤ 499
          isFatal := false })

/-- The result of an action that ends with this answer. -/
def ended (name : String) (a : Answer) : Except ActionError Unit :=
  (a.result name).map fun _ => ()

end Answer

/-! ## The table -/

/-- A request of a strategy: its verb, the resource that was found, and what it carries. -/
structure Attempt where
  verb : Verb
  id : Option String := none
  payload : Payload := .none

namespace Attempt

/-- The request that asks for the resource. -/
def get : Attempt := ⟨.get, none, .none⟩

/-- The request that creates the resource. -/
def post : Attempt := ⟨.post, none, .primary⟩

/-- The request that replaces the resource, or the one that was found. -/
def put (id : Option String) : Attempt := ⟨.put, id, .primary⟩

/-- The request that changes the resource that was found. -/
def patch (id : String) : Attempt := ⟨.patch, some id, .patch⟩

/-- The request that deletes the resource that was found. -/
def delete (id : String) : Attempt := ⟨.delete, some id, .none⟩

end Attempt

open Attempt in
/-- **The strategy table**: the requests of an action and its result, by the answers to its first,
second and third request. -/
def Action.table (a : Action) (name : String) (answers : Nat → Answer) :
    List Attempt × Except ActionError Unit :=
  let first := answers 0
  let second := answers 1
  let third := answers 2
  match a.strategy with
  | .put => ([put none], first.ended name)
  | .post => ([post], first.ended name)
  | .getPost =>
    match first.result name with
    | .error e => ([get], .error e)
    | .ok body =>
      match locate name a body with
      | .error e => ([get], .error e)
      | .ok (some _) => ([get], .ok ())
      | .ok none => ([get, post], second.ended name)
  | .findPost =>
    match first.result name with
    | .error e => ([get], .error e)
    | .ok body =>
      match found name a body with
      | .error e => ([get], .error e)
      | .ok text => if text = "" then ([get, post], second.ended name) else ([get], .ok ())
  | .findPutPost =>
    match first.result name with
    | .error e => ([get], .error e)
    | .ok body =>
      match found name a body with
      | .error e => ([get], .error e)
      | .ok text => ([get, if text = "" then post else put (some text)], second.ended name)
  | .findPatchPost =>
    match first.result name with
    | .error e => ([get], .error e)
    | .ok body =>
      match found name a body with
      | .error e => ([get], .error e)
      | .ok text => ([get, if text = "" then post else patch text], second.ended name)
  | .findDeletePost =>
    match first.result name with
    | .error e =>
      if first.tolerable then ([get, post], second.ended name) else ([get], .error e)
    | .ok body =>
      match found name a body with
      | .error e => ([get], .error e)
      | .ok text =>
        if text = "" then ([get, post], second.ended name)
        else
          match second.result name with
          | .ok _ => ([get, delete text, post], third.ended name)
          | .error e =>
            if second.tolerable then ([get, delete text, post], third.ended name)
            else ([get, delete text], .error e)
  | .getPutPost =>
    match first.result name with
    | .error e =>
      if first.tolerable then ([get, post], second.ended name) else ([get], .error e)
    | .ok body =>
      match locate name a body with
      | .error e => ([get], .error e)
      | .ok none => ([get, post], second.ended name)
      | .ok (some text) => ([get, put (if text = "" then none else some text)], second.ended name)
  | .putPost =>
    match first.result name with
    | .ok _ => ([put none], .ok ())
    | .error e =>
      if first.tolerable then ([put none, post], second.ended name) else ([put none], .error e)

/-! ## Plans by their answers -/

namespace Plan

/-- The requests of a plan and its result, by the answers to its requests. -/
def along (name : String) : Plan → (Nat → Answer) → List Attempt × Except ActionError Unit
  | done r, _ => ([], r)
  | remark _ next, answers => next.along name answers
  | request verb id payload next, answers =>
    let rest := (next ((answers 0).result name)).along name fun k => answers (k + 1)
    (⟨verb, id, payload⟩ :: rest.1, rest.2)

section Along

variable (name : String) (answers : Nat → Answer)

theorem along_last (verb : Verb) (id : Option String) (payload : Payload) :
    (last verb id payload).along name answers =
      ([⟨verb, id, payload⟩], (answers 0).ended name) := rfl

theorem along_create :
    create.along name answers = ([Attempt.post], (answers 0).ended name) := rfl

theorem along_orFail {α : Type} (r : Except ActionError α) (next : α → Plan) :
    (orFail r next).along name answers =
      match r with
      | .ok a => (next a).along name answers
      | .error e => ([], .error e) := by
  cases r <;> rfl

/-- A plan goes on without a body iff the answer is tolerable. -/
theorem along_orFallBack (a : Answer) (next : Option (List UInt8) → Plan) :
    (orFallBack (a.result name) next).along name answers =
      match a.result name with
      | .ok body => (next (some body)).along name answers
      | .error e =>
        if a.tolerable then (next none).along name answers else ([], .error e) := by
  match a with
  | .unsent url cause => rfl
  | .answered r (.error e) => rfl
  | .answered r (.ok reply) =>
    by_cases hs : reply.status ≤ 299
    · simp only [Answer.result, hs, if_true]
      rfl
    · have hr : (Answer.answered r (.ok reply)).result name = .error (.http
          { status := reply.status
            name
            message := Text.Utf8.decodeLossy reply.body
            target := target r.method.name r.url
            proceedFallback := (Answer.answered r (.ok reply)).tolerable
            isFatal := false }) := if_neg hs
      rw [hr]
      simp only [orFallBack, Diagnostic.allowsFallback, Bool.not_false, Bool.and_true]
      cases (Answer.answered r (.ok reply)).tolerable <;> rfl

end Along

/-- **The plan of a strategy is its row of the table.** -/
theorem along_of (name : String) (a : Action) (answers : Nat → Answer) :
    (Plan.of name a).along name answers = a.table name answers := by
  unfold Plan.of Action.table
  cases a.strategy with
  | put => rfl
  | post => rfl
  | getPost =>
    simp only [getPost, ask, along, along_orFail]
    cases (answers 0).result name with
    | error e => rfl
    | ok body =>
      dsimp only
      rcases locate name a body with e | _ | text <;> rfl
  | findPost =>
    simp only [findPost, ask, along, along_orFail]
    cases (answers 0).result name with
    | error e => rfl
    | ok body =>
      dsimp only
      rcases found name a body with e | text
      · rfl
      · by_cases ht : text = "" <;> simp [ht, along_create, along, Attempt.get]
  | findPutPost =>
    simp only [findElsePost, ask, along, along_orFail]
    cases (answers 0).result name with
    | error e => rfl
    | ok body =>
      dsimp only
      rcases found name a body with e | text
      · rfl
      · by_cases ht : text = "" <;>
          simp [ht, along_create, along_last, Attempt.get, Attempt.put]
  | findPatchPost =>
    simp only [findElsePost, ask, along, along_orFail]
    cases (answers 0).result name with
    | error e => rfl
    | ok body =>
      dsimp only
      rcases found name a body with e | text
      · rfl
      · by_cases ht : text = "" <;>
          simp [ht, along_create, along_last, Attempt.get, Attempt.patch]
  | findDeletePost =>
    simp only [findDeletePost, ask, along, along_orFallBack]
    cases (answers 0).result name with
    | error e => cases (answers 0).tolerable <;> rfl
    | ok body =>
      simp only [along_orFail]
      rcases found name a body with e | text
      · rfl
      · by_cases ht : text = ""
        · simp [ht, along_create, Attempt.get]
        · simp only [ht, String.isEmpty_iff, if_false, along, along_orFallBack]
          cases (answers 1).result name with
          | ok _ => rfl
          | error e => cases (answers 1).tolerable <;> rfl
  | getPutPost =>
    simp only [getPutPost, ask, along, along_orFallBack]
    cases (answers 0).result name with
    | error e => cases (answers 0).tolerable <;> rfl
    | ok body =>
      simp only [along_orFail]
      rcases locate name a body with e | _ | text
      · rfl
      · rfl
      · by_cases ht : text = "" <;> simp [ht, along_last, Attempt.get, Attempt.put]
  | putPost =>
    simp only [putPost, along, along_orFallBack]
    cases (answers 0).result name with
    | ok _ => rfl
    | error e => cases (answers 0).tolerable <;> rfl

end Plan

/-! ## Carrying out a row -/

/-- One answer before others. -/
def Answer.before (a : Answer) (answers : Nat → Answer) : Nat → Answer
  | 0 => a
  | k + 1 => answers k

section Carried

variable (s : Setup σ) (p : Prepared) (b : Payloads)

/-- The attempts of a row, carried out one after the other from a world; each one's answer is
what comes of it there. -/
inductive Carried : (Nat → Answer) → World σ → List Attempt → World σ → Prop
  /-- Nothing is left to do. -/
  | done {answers : Nat → Answer} {w : World σ} (lines : List LogLine) :
      Carried answers w [] (w.logging lines)
  /-- An attempt whose address is malformed. -/
  | unsent {answers : Nat → Answer} {w w' : World σ} {t : Attempt} {rest : List Attempt}
      {cause : UrlError} (lines : List LogLine)
      (hu : Url.parse (s.rawUrl p w.store t.verb t.id) = .error cause)
      (ha : answers 0 = .unsent (s.rawUrl p w.store t.verb t.id) cause)
      (h : Carried (fun k => answers (k + 1)) (w.logging lines) rest w') :
      Carried answers w (t :: rest) w'
  /-- An attempt that is sent, with the credential of the action, and what the transport replies;
  a success fills the store. -/
  | sent {answers : Nat → Answer} {w w₁ w' : World σ} {t : Attempt} {rest : List Attempt}
      {url : Url} {r : Request} {names : List String} {result : Except HttpError Response}
      (lines after : List LogLine) (hu : Url.parse (s.rawUrl p w.store t.verb t.id) = .ok url)
      (hd : Decorated s p.action.authRef (p.request s t.verb url (b.bytes t.payload))
        (w.logging lines) (.ok (r, names)) w₁)
      (hr : (w₁.reply s r).result? = some result) (ha : answers 0 = .answered r result)
      (h : Carried (fun k => answers (k + 1))
        ((((w₁.logging [p.headerLine t.verb url r names]).exchanged s .target r).storing
          (p.storeAfter w₁.store (some result))).logging after) rest w') :
      Carried answers w (t :: rest) w'

/-- The clock cannot tell when the token that an attempt waits for stops being valid. -/
def Overran (w : World σ) (t : Attempt) (w' : World σ) : Prop :=
  ∃ (url : Url) (a : Auth) (q : Request) (lines : List LogLine),
    Url.parse (s.rawUrl p w.store t.verb t.id) = .ok url ∧
    s.entry? p.action.authRef = some a ∧ a.question? s.limits = some (.ok q) ∧
    a.grants (w.exchange s .token q) = .error {} ∧
    w' = (w.logging lines).exchanged s .token q

end Carried

section Rows

variable {s : Setup σ} {p : Prepared} {b : Payloads}

theorem Carried.nil (answers : Nat → Answer) (w : World σ) : Carried s p b answers w [] w := by
  have h : Carried s p b answers w [] (w.logging []) := .done []
  rwa [World.logging_nil] at h

theorem Carried.of_logging {answers : Nat → Answer} {w w' : World σ} {row : List Attempt}
    (before : List LogLine) (h : Carried s p b answers (w.logging before) row w') :
    Carried s p b answers w row w' := by
  generalize hw : w.logging before = w₀ at h
  cases h with
  | done lines =>
    rw [← hw, World.logging_logging]
    exact .done _
  | unsent lines hu ha h =>
    subst hw
    rw [World.logging_logging] at h
    exact .unsent _ hu ha h
  | sent lines after hu hd hr ha h =>
    subst hw
    rw [World.logging_logging] at hd
    exact .sent _ after hu hd hr ha h

/-- The outcome of an exchange is the result of its answer. -/
theorem Diagnostic.outcome_mapError (p : Prepared) (r : Request)
    (result : Except HttpError Response) :
    ((p.record r.method r.url).outcome (some result)).mapError ActionError.http =
      (Answer.answered r result).result p.name := by
  cases result with
  | error e => rfl
  | ok reply =>
    by_cases hs : reply.status ≤ 299
    · simp [outcome, classify, isSuccess, Answer.result, hs]
    · simp [outcome, classify, isSuccess, isTolerable, Answer.result, hs, Prepared.record]

/-- A request that is made without the run being cancelled is carried out, and its result is that
of its answer. -/
theorem Performed.carried {t : Attempt} {w w₁ : World σ} {r : Except ActionError (List UInt8)}
    (h : Performed s p t.verb t.id (b.bytes t.payload) w (.ok r) w₁)
    (hw : w₁.cancelled = false) :
    ∃ a : Answer, r = a.result p.name ∧
      ∀ answers rest w', Carried s p b answers w₁ rest w' →
        Carried s p b (a.before answers) w (t :: rest) w' := by
  generalize hout : (Except.ok r : Except ClockOverflow _) = out at h
  cases h with
  | malformed lines hu =>
    cases hout
    exact ⟨.unsent _ _, rfl, fun answers rest w' hc => .unsent lines hu rfl hc⟩
  | overrun lines hu hd => cases hout
  | unsent lines hu hd hc =>
    rw [World.logging_cancelled, hc] at hw
    cases hw
  | exchanged lines hu hd hc =>
    rename_i url q names w₂
    cases hout
    cases hr : (w₂.reply s q).result? with
    | none =>
      -- a reply that never comes cancels the run
      have hx : (w₂.reply s q).cancels = true := by
        cases hq : w₂.reply s q with
        | answered cancels elapsed result => rw [hq] at hr; cases hr
        | cancelled => rfl
      rw [World.logging_cancelled] at hw
      change (w₂.cancelled || (w₂.reply s q).cancels) = false at hw
      rw [hx, Bool.or_true] at hw
      cases hw
    | some result =>
      have hq := hd.request
      refine ⟨.answered q result, ?_, fun answers rest w' h => ?_⟩
      · rw [← Diagnostic.outcome_mapError, hq]
        rfl
      · exact .sent lines _ hu hd hr rfl h

theorem Performed.overran {t : Attempt} {w w₁ : World σ} {e : ClockOverflow}
    (h : Performed s p t.verb t.id (b.bytes t.payload) w (.error e) w₁) :
    Overran s p w t w₁ := by
  cases h with
  | overrun lines hu hd =>
    cases hd with
    | overrun before ha hq _ _ hg =>
      exact ⟨_, _, _, _, hu, ha, hq, hg, by rw [World.logging_logging]⟩

/-- **The requests that are sent are those of the answers**, in order. -/
theorem Carried.targets {answers : Nat → Answer} {w w' : World σ} {row : List Attempt}
    (h : Carried s p b answers w row w') :
    w'.targets =
      w.targets ++ (List.range row.length).filterMap fun k => (answers k).request? := by
  induction h with
  | done lines => simp
  | unsent lines _ ha _ ih =>
    rw [ih, World.logging_targets, List.length_cons, List.range_succ_eq_map, List.filterMap_cons,
      ha, List.filterMap_map]
    rfl
  | @sent answers w w₁ w' t rest url r names result lines after _ hd _ ha _ ih =>
    have hsent : ((((w₁.logging [p.headerLine t.verb url r names]).exchanged s .target r).storing
        (p.storeAfter w₁.store (some result))).logging after).targets = w.targets ++ [r] := by
      rw [World.logging_targets]
      show ((w₁.logging [p.headerLine t.verb url r names]).exchanged s .target r).targets = _
      rw [World.exchanged_targets, World.logging_targets, hd.targets, World.logging_targets]
      rfl
    rw [ih, hsent, List.length_cons, List.range_succ_eq_map, List.filterMap_cons, ha,
      List.filterMap_map, List.append_assoc]
    rfl

/-- **A plan that is not cancelled is carried out by its answers.** -/
theorem carryOut_along (plan : Plan) (w : World σ)
    (hw : ((carryOut s p b plan).run w).2.cancelled = false) :
    ∃ answers : Nat → Answer,
      (∃ w', (carryOut s p b plan).run w = (.ok (plan.along p.name answers).2, w') ∧
        Carried s p b answers w (plan.along p.name answers).1 w') ∨
      ∃ row t rest w₁ w', (carryOut s p b plan).run w = (.error {}, w') ∧
        (plan.along p.name answers).1 = row ++ t :: rest ∧
        Carried s p b answers w row w₁ ∧ Overran s p w₁ t w' := by
  induction plan generalizing w with
  | done r =>
    exact ⟨fun _ => .unsent "" .noScheme, .inl ⟨w, rfl, .nil _ w⟩⟩
  | remark message next ih =>
    rw [carryOut, run_bind_ok (log_run ..)] at hw ⊢
    obtain ⟨answers, h⟩ := ih _ hw
    refine ⟨answers, ?_⟩
    rcases h with ⟨w', hr, hc⟩ | ⟨row, t, rest, w₁, w', hr, hrow, hc, ho⟩
    · exact .inl ⟨w', hr, hc.of_logging⟩
    · exact .inr ⟨row, t, rest, w₁, w', hr, hrow, hc.of_logging, ho⟩
  | request verb id payload next ih =>
    have hp := perform_cases s p verb id (b.bytes payload) w
    rcases hr : (perform s p verb id (b.bytes payload)).run w with ⟨e | r, w₁⟩
    · rw [hr] at hp
      exact ⟨fun _ => .unsent "" .noScheme, .inr ⟨[], ⟨verb, id, payload⟩, _, w, w₁,
        run_bind_error hr, rfl, .nil _ w, Performed.overran (t := ⟨verb, id, payload⟩) hp⟩⟩
    · rw [hr] at hp
      rw [carryOut, run_bind_ok hr] at hw ⊢
      obtain ⟨xs, hx⟩ := (admits_path [p]).carryOut List.mem_cons_self b (next r) w₁
      obtain ⟨a, rfl, ha⟩ :=
        Performed.carried (t := ⟨verb, id, payload⟩) hp (hx.not_cancelled hw)
      obtain ⟨answers, h⟩ := ih _ w₁ hw
      refine ⟨a.before answers, ?_⟩
      rcases h with ⟨w', hr, hc⟩ | ⟨row, t, rest, w₂, w', hr, hrow, hc, ho⟩
      · exact .inl ⟨w', hr, ha _ _ _ hc⟩
      · exact .inr ⟨_ :: row, t, rest, w₂, w', hr, congrArg (_ :: ·) hrow, ha _ _ _ hc, ho⟩

end Rows

/-- **An action that is not cancelled carries out its row of the strategy table.**  Its payloads
are filled in before its first request.  It returns the result of the row, and the requests that
it sends are those of the row's answers, unless the clock cannot tell when a token stops being
valid that an attempt of the row waits for. -/
theorem runAction_follows_table (s : Setup σ) (p : Prepared) (w : World σ)
    (hw : ((runAction s p).run w).2.cancelled = false) :
    ∃ answers : Nat → Answer,
      (∃ w', (runAction s p).run w = (.ok (p.action.table p.name answers).2, w') ∧
        Carried s p (s.payloads p w.store) answers w (p.action.table p.name answers).1 w' ∧
        w'.targets = w.targets ++
          (List.range (p.action.table p.name answers).1.length).filterMap
            fun k => (answers k).request?) ∨
      ∃ row t rest w₁ w', (runAction s p).run w = (.error {}, w') ∧
        (p.action.table p.name answers).1 = row ++ t :: rest ∧
        Carried s p (s.payloads p w.store) answers w row w₁ ∧ Overran s p w₁ t w' ∧
        w'.targets =
          w.targets ++ (List.range row.length).filterMap fun k => (answers k).request? := by
  obtain ⟨lines, hb⟩ := payloadsFor_run s p w
  rw [runAction, run_bind_ok hb] at hw ⊢
  obtain ⟨answers, h⟩ := carryOut_along _ _ hw
  rw [Plan.along_of] at h
  refine ⟨answers, ?_⟩
  rcases h with ⟨w', hr, hc⟩ | ⟨row, t, rest, w₁, w', hr, hrow, hc, ho⟩
  · exact .inl ⟨w', hr, hc.of_logging, hc.of_logging.targets⟩
  · refine .inr ⟨row, t, rest, w₁, w', hr, hrow, hc.of_logging, ho, ?_⟩
    have hc := hc.of_logging.targets
    obtain ⟨_, _, _, _, _, _, _, _, rfl⟩ := ho
    rw [World.exchanged_targets, World.logging_targets, ← hc]
    exact List.append_nil _

/-- An action that finds a resource, deletes it and creates it again. -/
def recreation : Prepared :=
  prepare "a"
    { strategy := .findDeletePost, endpoint := "http://h/r", findExpr := some "$.id" }

/-- A script that knows the resource, but cannot delete it. -/
def Script.undeletable : Script :=
  [⟨"GET", "/r", [{ outcome := .response {
      status := 200
      body := Text.Utf8.encode "\x7b\"id\":7\x7d" } }]⟩,
    ⟨"DELETE", "/r/7", [{ outcome := .response { status := 404 } }]⟩,
    ⟨"POST", "/r", [{ outcome := .response { status := 201 } }]⟩]

theorem runAction_follows_table_recreation :
    let s : Setup Script := { transport := Script.transport }
    let w : World Script := { transport := Script.undeletable }
    ∃ answers w', (runAction s recreation).run w =
        (.ok (recreation.action.table "a" answers).2, w') ∧
      w'.targets.map Request.method = [.get, .delete, .post] ∧
      w'.targets = (List.range (recreation.action.table "a" answers).1.length).filterMap
        fun k => (answers k).request? := by
  intro s w
  obtain ⟨hw, hr, hm⟩ : ((runAction s recreation).run w).2.cancelled = false ∧
      ((runAction s recreation).run w).1 = .ok (.ok ()) ∧
      ((runAction s recreation).run w).2.targets.map Request.method =
        [.get, .delete, .post] := by decide +kernel
  obtain ⟨answers, ⟨w', h, _, ht⟩ | ⟨_, _, _, _, _, h, _⟩⟩ :=
    runAction_follows_table s recreation w hw
  · rw [h] at hm
    exact ⟨answers, w', h, hm, ht⟩
  · rw [h] at hr
    cases hr

/-- An action whose credential comes from a token endpoint. -/
def authorizedPut : Prepared :=
  prepare "a" { strategy := .put, endpoint := "http://h/r", authRef := "o" }

/-- A script whose token endpoint announces a lifetime that no clock can add. -/
def Script.everlasting : Script :=
  [⟨"POST", "/token", [{ outcome := .response {
      status := 200
      body := Text.Utf8.encode ("\x7b\"access_token\":\"t\",\"token_type\":\"bearer\"," ++
        "\"expires_in\":18446744073709551615\x7d") } }]⟩,
    ⟨"PUT", "/r", [{ outcome := .response { status := 200 } }]⟩]

/-- **Not every action that is not cancelled carries out its row**: a token that outlives the clock
ends the run before the only request of the row is sent. -/
theorem runAction_overrun :
    let s : Setup Script :=
      { transport := Script.transport
        auth := .ofList [("o", .clientCredentials "i" "s" { serverUrl := "http://h/token" })] }
    let w : World Script := { transport := Script.everlasting }
    ((runAction s authorizedPut).run w).2.cancelled = false ∧
      ((runAction s authorizedPut).run w).1 = .error {} ∧
      ((runAction s authorizedPut).run w).2.targets = [] ∧
      ∀ answers, (authorizedPut.action.table "a" answers).1 = [Attempt.put none] := by
  intro s w
  have h : ((runAction s authorizedPut).run w).2.cancelled = false ∧
      ((runAction s authorizedPut).run w).1 = .error {} ∧
      ((runAction s authorizedPut).run w).2.targets = [] := by decide +kernel
  exact ⟨h.1, h.2.1, h.2.2, fun _ => rfl⟩

end Reconcile
