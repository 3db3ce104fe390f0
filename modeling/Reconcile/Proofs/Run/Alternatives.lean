import Reconcile.Proofs.Query.Normalization
import Reconcile.Proofs.Run.Creation

/-!
# Strategies that come to the same

Some strategies look at the body of an answer before they look for their resource in it, others look
for the resource at once. Where an action has an expression that can be read, both ways say the
same of every body, and the strategies differ in what they log and in which failures they go on
after.

* `Matches` — runs that came to the same, but for what they logged; `carryOut_bare` — the remarks of
  a plan make no other difference.
* `locate_eq_found` — the two ways of looking for a resource.
* `Plan.bare_getPost`, `Plan.bare_getPutPost` — the plans of the strategies without their remarks.
* `runAction_alternatives` — runs of an action that follows one strategy, or the other.
-/

namespace Reconcile

variable {σ α : Type}

/-! ## Runs that differ in what they log -/

/-- What two runs came to is the same, but for what they logged. -/
structure Matches (x y : Except ClockOverflow α × World σ) : Prop where
  result : x.1 = y.1
  sent : x.2.sent = y.2.sent
  /-- Without what happened, the worlds are the same. -/
  world : x.2.recalling [] = y.2.recalling []

namespace Matches

variable {x y z : Except ClockOverflow α × World σ}

theorem refl (x : Except ClockOverflow α × World σ) : Matches x x := ⟨rfl, rfl, rfl⟩

theorem symm (h : Matches x y) : Matches y x :=
  ⟨h.result.symm, h.sent.symm, h.world.symm⟩

theorem trans (h : Matches x y) (h' : Matches y z) : Matches x z :=
  ⟨h.result.trans h'.result, h.sent.trans h'.sent, h.world.trans h'.world⟩

end Matches

/-- Log lines that lie behind a run make no difference to it. -/
theorem Oblivious.matches {x : Run σ α} (h : Oblivious x) (w : World σ) (lines : List LogLine) :
    Matches (x.run (w.logging lines)) (x.run w) := by
  obtain ⟨es, he, hr⟩ := h w lines
  rw [hr]
  refine ⟨rfl, ?_, rfl⟩
  have hlogging := World.logging_sent w lines
  unfold World.sent at hlogging ⊢
  rw [he, List.filterMap_append, ← hlogging, ← List.filterMap_append]
  rfl

/-- A plan without its remarks. -/
def Plan.bare : Plan → Plan
  | done result => done result
  | remark _ next => next.bare
  | request verb id payload next => request verb id payload fun r => (next r).bare

section Remarks

variable (s : Setup σ) (p : Prepared) (b : Payloads)

/-- **The remarks of a plan make no difference** to what it comes to. -/
theorem carryOut_bare (plan : Plan) (w : World σ) :
    Matches ((carryOut s p b plan.bare).run w) ((carryOut s p b plan).run w) := by
  induction plan generalizing w with
  | done result => exact .refl _
  | remark message next ih =>
    rw [carryOut, run_bind_ok (log_run ..)]
    exact ((carryOut_oblivious s p b next.bare).matches w _).symm.trans (ih _)
  | request verb id payload next ih =>
    rw [Plan.bare, carryOut, carryOut]
    rcases hr : (perform s p verb id (b.bytes payload)).run w with ⟨e | r, w₁⟩
    · rw [run_bind_error hr, run_bind_error hr]
      exact .refl _
    · rw [run_bind_ok hr, run_bind_ok hr]
      exact ih r w₁

/-- Plans that differ in their remarks only come to the same. -/
theorem carryOut_of_bare_eq {plan plan' : Plan} (h : plan.bare = plan'.bare) (w : World σ) :
    Matches ((carryOut s p b plan).run w) ((carryOut s p b plan').run w) := by
  have hbare := (carryOut_bare s p b plan w).symm
  rw [h] at hbare
  exact hbare.trans (carryOut_bare s p b plan' w)

end Remarks

/-! ## Two ways of looking for a resource -/

section Bodies

variable {a : Action} {name expr : String} {body : List UInt8}

/-- Where an expression can be read, an empty body is no failure. -/
theorem extractText_of_empty
    (hq : (Query.Path.parse (Query.normalize (Text.trim expr))).isOk = true)
    (hb : isEmptyBody body = true) : extractText body expr = .ok "" := by
  obtain ⟨path, hpath⟩ := exists_of_isOk hq
  have hok : ∃ found, extract body expr = .ok found := by
    rw [extract_eq_extractWith, hpath, extractWith]
    split
    · exact ⟨none, rfl⟩
    · rename_i hblank
      rw [isEmptyBody, Bool.or_eq_true, beq_iff_eq] at hb
      rw [Bool.or_eq_true, not_or] at hblank
      rw [document?_of_empty (hb.resolve_left hblank.2)]
      -- the document is the empty text, which is all that can be found in it
      rcases path.findIn_string "" with hone | hnil
      · exact ⟨none, by simp only [hone]; rfl⟩
      · exact ⟨none, by simp only [hnil]⟩
  obtain ⟨found, hfound⟩ := hok
  have htext : extractText body expr = .ok ((found.map Json.plainText).getD "") := by
    rw [extractText, hfound]
    rfl
  rw [htext, extractText_eq_empty hb htext]

/-- **Whether the body or the expression is looked at first** makes no difference where there is an
expression and it can be read. -/
theorem locate_eq_found (hblank : Text.isBlankText a.find = false)
    (hq : (Query.Path.parse (Query.normalize (Text.trim a.find))).isOk = true) :
    locate name a body = (found name a body).map fun t => if t.isEmpty then none else some t := by
  unfold locate
  cases hb : isEmptyBody body with
  | true =>
    rw [found, extractText_of_empty hq hb]
    rfl
  | false =>
    rw [hblank]
    rfl

end Bodies

/-! ## Plans -/

namespace Plan

variable {a : Action} {name : String}

theorem bare_orFail {β : Type} (r : Except ActionError β) (next : β → Plan) :
    (orFail r next).bare = orFail r fun x => (next x).bare := by
  cases r <;> rfl

/-- What is found decides alike in both ways. -/
theorem orFail_locate (hblank : Text.isBlankText a.find = false)
    (hq : (Query.Path.parse (Query.normalize (Text.trim a.find))).isOk = true)
    (body : List UInt8) (next : Option String → Plan) :
    orFail (locate name a body) next =
      orFail (found name a body) fun t => next (if t.isEmpty then none else some t) := by
  rw [locate_eq_found hblank hq]
  cases found name a body <;> rfl

/-- **GET/POST and FIND/POST** differ in their remarks. -/
theorem bare_getPost (hblank : Text.isBlankText a.find = false)
    (hq : (Query.Path.parse (Query.normalize (Text.trim a.find))).isOk = true) :
    (getPost name a).bare = (findPost name a).bare := by
  refine congrArg (request .get none .none) (funext fun r => ?_)
  rw [bare_orFail, bare_orFail]
  refine congrArg (orFail r) (funext fun body => ?_)
  rw [orFail_locate hblank hq, bare_orFail, bare_orFail]
  refine congrArg (orFail _) (funext fun t => ?_)
  cases t.isEmpty <;> rfl

/-- What follows the first request of a plan. -/
def after (r : Except ActionError (List UInt8)) : Plan → Plan
  | request _ _ _ next => next r
  | plan => plan

/-- **GET/PUT/POST and FIND/PUT/POST** go on from a GET in the same way, unless it failed in a way
that allows to go on. -/
theorem bare_getPutPost (hblank : Text.isBlankText a.find = false)
    (hq : (Query.Path.parse (Query.normalize (Text.trim a.find))).isOk = true)
    {r : Except ActionError (List UInt8)}
    (hr : ∀ d, r = .error (.http d) → d.allowsFallback = false) :
    ((getPutPost name a).after r).bare = ((findElsePost name a .put .primary).after r).bare := by
  match r with
  | .ok body =>
    simp only [getPutPost, findElsePost, ask, after, orFallBack]
    rw [orFail_locate hblank hq, bare_orFail, bare_orFail, orFail.eq_1, bare_orFail]
    refine congrArg (orFail _) (funext fun t => ?_)
    cases ht : t.isEmpty with
    | true => rfl
    | false => simp only [ht, Bool.false_eq_true, if_false]
  | .error (.http d) =>
    have hfails : (getPutPost name a).after (.error (.http d)) = done (.error (.http d)) := by
      show (if d.allowsFallback then _ else _) = _
      rw [hr d rfl]
      rfl
    rw [hfails]
    rfl
  | .error (.extract _ _) => rfl
  | .error (.invalidUrl _ _ _) => rfl

end Plan

/-! ## Actions -/

/-- An action that follows another strategy. -/
def Prepared.following (p : Prepared) (strategy : Strategy) : Prepared :=
  { p with action := { p.action with strategy } }

section Actions

variable (s : Setup σ) (p : Prepared)

theorem perform_following (strategy : Strategy) (verb : Verb) (id : Option String)
    (body : List UInt8) :
    perform s (p.following strategy) verb id body = perform s p verb id body := by
  simp only [perform, urlFor, send, receive, renderFor, keepVariable, Prepared.following,
    Action.suffix]

/-- A strategy bears on a run by its plan only. -/
theorem carryOut_following (strategy : Strategy) (b : Payloads) (plan : Plan) :
    carryOut s (p.following strategy) b plan = carryOut s p b plan := by
  induction plan with
  | done result => rfl
  | remark message next ih => rw [carryOut, carryOut, ih]
  | request verb id payload next ih =>
    rw [carryOut, carryOut, perform_following]
    exact congrArg _ (funext ih)

/-- What an action carries that may not send a PATCH. -/
def Setup.primary (store : Table Json) : Payloads :=
  { primary := Text.Utf8.encode (s.filled p store p.action.payload).text }

theorem runAction_following {strategy : Strategy} (h : strategy ≠ .findPatchPost) (w : World σ) :
    (runAction s (p.following strategy)).run w =
      (carryOut s p (s.primary p w.store) (Plan.of p.name (p.following strategy).action)).run
        (w.logging (p.problemLines (s.filled p w.store p.action.payload))) := by
  have hpatch : ((p.following strategy).action.strategy == .findPatchPost) = false := by
    simpa [Prepared.following] using h
  have hb : (payloadsFor s (p.following strategy)).run w = (.ok (s.primary p w.store),
      w.logging (p.problemLines (s.filled p w.store p.action.payload))) := by
    simp only [payloadsFor, run_bind, renderFor_run, hpatch, Bool.false_eq_true, if_false,
      run_pure]
    rfl
  rw [runAction, run_bind_ok hb, carryOut_following]
  rfl

section Asking

variable {s p} {b : Payloads} {w w₁ : World σ} {next : Except ActionError (List UInt8) → Plan}

/-- A plan that asks for the resource goes on by the answer. -/
theorem carryOut_ask {r : Except ActionError (List UInt8)}
    (hr : (perform s p .get none []).run w = (.ok r, w₁)) :
    (carryOut s p b (.ask next)).run w = (carryOut s p b (next r)).run w₁ := by
  rw [Plan.ask, carryOut]
  exact run_bind_ok hr

theorem carryOut_ask_stopped {e : ClockOverflow}
    (hr : (perform s p .get none []).run w = (.error e, w₁)) :
    (carryOut s p b (.ask next)).run w = (.error e, w₁) := by
  rw [Plan.ask, carryOut]
  exact run_bind_error hr

end Asking

end Actions

section Rounds

variable {s : Setup σ} {r : Round σ} {reply : Response}

/-- The record of a request that was answered with a status from 300 to 499. -/
def Round.tolerated (r : Round σ) (url : Url) (reply : Response) : Diagnostic where
  status := reply.status
  name := r.action.name
  message := Text.Utf8.decodeLossy reply.body
  target := target r.verb.name url
  proceedFallback := true
  isFatal := false

/-- A request that is answered so fails with that record. -/
theorem Round.Holds.out_of_tolerable (h : r.Holds s) (ha : r.answer? = some (.ok reply))
    (hlow : 300 ≤ reply.status) (hhigh : reply.status ≤ 499) :
    ∃ x, r.sent = some x ∧ r.out = .ok (.error (.http (r.tolerated x.request.url reply))) := by
  obtain ⟨x, hx, hr⟩ := Option.bind_eq_some_iff.mp ha
  obtain ⟨url, hsends⟩ := h.sent x hx
  refine ⟨x, hx, ?_⟩
  have hurl : x.request.url = url := by
    rw [hsends.request]
    rfl
  have hsuccess : isSuccess reply.status = false := by simp [isSuccess]; omega
  have htolerable : isTolerable reply.status = true := by simp [isTolerable]; omega
  rw [hsends.out, hr, Diagnostic.outcome, Diagnostic.classify, hsuccess, htolerable, hurl]
  rfl

/-- A failure that allows to go on is such an answer. -/
theorem Round.Holds.answer_of_fallback (h : r.Holds s) {d : Diagnostic}
    (ho : r.out = .ok (.error (.http d))) (hd : d.allowsFallback = true) :
    ∃ reply, r.answer? = some (.ok reply) ∧ 300 ≤ reply.status ∧ reply.status ≤ 499 := by
  obtain ⟨reply, ha, -⟩ := h.misses ho hd
  refine ⟨reply, ha, ?_⟩
  obtain ⟨x, hx, hr⟩ := Option.bind_eq_some_iff.mp ha
  obtain ⟨url, hsends⟩ := h.sent x hx
  have hout := hsends.out
  rw [ho, hr, Diagnostic.outcome, Diagnostic.classify] at hout
  by_cases hsuccess : isSuccess reply.status = true
  · rw [if_pos hsuccess] at hout
    cases hout
  · rw [if_neg hsuccess] at hout
    cases hout
    simpa [Diagnostic.allowsFallback, isTolerable] using hd

end Rounds

/-! ## The GET that decides -/

/-- The GET of an action that follows FIND/PUT/POST. -/
structure Round.Probes (s : Setup σ) (p : Prepared) (g : Round σ) : Prop where
  holds : g.Holds s
  action : g.action = p.following .findPutPost
  verb : g.verb = .get
  id : g.id = none
  body : g.body = []

section Probes

variable {s : Setup σ} {p : Prepared} {g : Round σ} {b : Payloads} {reply : Response}

theorem Round.exists_probes (s : Setup σ) (p : Prepared) (w : World σ) :
    ∃ g : Round σ, g.Probes s p ∧ g.before = w := by
  obtain ⟨asked, sent, hg⟩ :=
    (perform_cases s (p.following .findPutPost) .get none [] w).round rfl
  exact ⟨_, ⟨hg, rfl, rfl, rfl, rfl⟩, rfl⟩

theorem Round.Probes.ran (h : g.Probes s p) :
    (perform s p .get none []).run g.before = (g.out, g.after) := by
  have hran := h.holds.ran
  rwa [h.action, h.verb, h.id, h.body, perform_following] at hran

/-- Unless the GET is answered with a status from 300 to 499, GET/PUT/POST and FIND/PUT/POST come to
the same. -/
theorem Round.Probes.matches (h : g.Probes s p) (hblank : Text.isBlankText p.action.find = false)
    (hq : (Query.Path.parse (Query.normalize (Text.trim p.action.find))).isOk = true)
    (ha : ∀ reply, g.answer? = some (.ok reply) → ¬ (300 ≤ reply.status ∧ reply.status ≤ 499)) :
    Matches ((carryOut s p b (.getPutPost p.name p.action)).run g.before)
      ((carryOut s p b (.findElsePost p.name p.action .put .primary)).run g.before) := by
  have hran := h.ran
  unfold Plan.getPutPost Plan.findElsePost
  cases hout : g.out with
  | error e =>
    rw [hout] at hran
    rw [carryOut_ask_stopped hran, carryOut_ask_stopped hran]
    exact .refl _
  | ok r =>
    rw [hout] at hran
    rw [carryOut_ask hran, carryOut_ask hran]
    refine carryOut_of_bare_eq s p b (Plan.bare_getPutPost hblank hq fun d hd => ?_) g.after
    -- a failure that allows to go on would be such an answer
    rw [Bool.eq_false_iff]
    intro hallows
    obtain ⟨reply, hreply, hrange⟩ := h.holds.answer_of_fallback (hout.trans (by rw [hd])) hallows
    exact ha reply hreply hrange

/-- Where it is answered so, FIND/PUT/POST fails with the answer. -/
theorem Round.Probes.fails {d : Diagnostic} (h : g.Probes s p)
    (ho : g.out = .ok (.error (.http d))) :
    (carryOut s p b (.findElsePost p.name p.action .put .primary)).run g.before =
      (.ok (.error (.http d)), g.after) := by
  have hran := h.ran
  rw [ho] at hran
  rw [Plan.findElsePost, carryOut_ask hran]
  rfl

/-- And GET/PUT/POST goes on to its POST. -/
theorem Round.Probes.goesOn {d : Diagnostic} (h : g.Probes s p)
    (ho : g.out = .ok (.error (.http d))) (hd : d.allowsFallback = true) :
    (carryOut s p b (.getPutPost p.name p.action)).run g.before =
      (carryOut s p b .create).run (g.after.logging [⟨.info, fallbackText d⟩]) := by
  have hran := h.ran
  rw [ho] at hran
  rw [Plan.getPutPost, carryOut_ask hran, Plan.orFallBack, hd, if_pos rfl, carryOut,
    run_bind_ok (log_run ..)]

end Probes

/-- A plan of one request comes to what the request does. -/
theorem carryOut_last (s : Setup σ) (p : Prepared) (b : Payloads) (verb : Verb)
    (id : Option String) (payload : Payload) (w : World σ) :
    ∃ h : Round σ, h.Holds s ∧ h.action = p ∧ h.verb = verb ∧ h.id = id ∧
      h.body = b.bytes payload ∧ h.before = w ∧
      (carryOut s p b (.last verb id payload)).run w =
        (h.out.map fun r => r.map fun _ => (), h.after) := by
  obtain ⟨asked, sent, hh⟩ := (perform_cases s p verb id (b.bytes payload) w).round rfl
  refine ⟨_, hh, rfl, rfl, rfl, rfl, rfl, ?_⟩
  rw [Plan.last, carryOut, run_bind]
  rcases (perform s p verb id (b.bytes payload)).run w with ⟨_ | _, _⟩ <;> rfl

/-- **GET/POST and FIND/POST come to the same** where the action has an expression that can be read:
they send the same requests, leave the same store and give the same result, whatever the store, the
transport and the cancellation. **So do GET/PUT/POST and FIND/PUT/POST**, unless their GET is
answered with a status from 300 to 499: then the former goes on to its POST, and the latter fails
with that answer. -/
theorem runAction_alternatives (s : Setup σ) (p : Prepared) (w : World σ)
    (hblank : Text.isBlankText p.action.find = false)
    (hq : (Query.Path.parse (Query.normalize (Text.trim p.action.find))).isOk = true) :
    Matches ((runAction s (p.following .getPost)).run w)
        ((runAction s (p.following .findPost)).run w) ∧
      ∃ g : Round σ, g.Probes s p ∧ (∃ lines, g.before = w.logging lines) ∧
        ((∀ reply, g.answer? = some (.ok reply) → ¬ (300 ≤ reply.status ∧ reply.status ≤ 499)) →
          Matches ((runAction s (p.following .getPutPost)).run w)
            ((runAction s (p.following .findPutPost)).run w)) ∧
        ∀ reply, g.answer? = some (.ok reply) → 300 ≤ reply.status → reply.status ≤ 499 →
          ∃ (x : Exchange) (h : Round σ), g.sent = some x ∧
            (runAction s (p.following .findPutPost)).run w =
              (.ok (.error (.http (g.tolerated x.request.url reply))), g.after) ∧
            h.Holds s ∧ h.action = p.following .getPutPost ∧ h.verb = .post ∧ h.id = none ∧
            h.body = (s.primary p w.store).primary ∧
            h.before =
              g.after.logging [⟨.info, fallbackText (g.tolerated x.request.url reply)⟩] ∧
            (runAction s (p.following .getPutPost)).run w =
              (h.out.map fun r => r.map fun _ => (), h.after) := by
  have hfollow : ∀ strategy, strategy ≠ Strategy.findPatchPost →
      (runAction s (p.following strategy)).run w =
        (carryOut s p (s.primary p w.store) (Plan.of p.name (p.following strategy).action)).run
          (w.logging (p.problemLines (s.filled p w.store p.action.payload))) :=
    fun _ h => runAction_following s p h w
  refine ⟨?_, ?_⟩
  · rw [hfollow _ (by decide), hfollow _ (by decide)]
    exact carryOut_of_bare_eq s p _ (Plan.bare_getPost hblank hq) _
  rw [hfollow .getPutPost (by decide), hfollow .findPutPost (by decide)]
  obtain ⟨g, hg, hbefore⟩ := Round.exists_probes s p
    (w.logging (p.problemLines (s.filled p w.store p.action.payload)))
  rw [← hbefore]
  refine ⟨g, hg, ⟨_, hbefore⟩, hg.matches hblank hq, fun reply ha hlow hhigh => ?_⟩
  obtain ⟨x, hx, hout⟩ := hg.holds.out_of_tolerable ha hlow hhigh
  obtain ⟨h, hh, haction, hverb, hid, hbody, hstart, hcreate⟩ :=
    carryOut_last s (p.following .getPutPost) (s.primary p w.store) .post none .primary
      (g.after.logging [⟨.info, fallbackText (g.tolerated x.request.url reply)⟩])
  rw [carryOut_following] at hcreate
  exact ⟨x, h, hx, hg.fails hout, hh, haction, hverb, hid, hbody, hstart,
    (hg.goesOn hout rfl).trans hcreate⟩

/-- An action that looks for its resource by an expression. -/
def searching : Prepared :=
  prepare "a" { strategy := .put, endpoint := "http://h/r", findExpr := some " $.items.[0].id " }

/-- A script in which the resource is there, but its body spells the empty text. -/
def Script.emptyResource : Script :=
  [⟨"GET", "/r", [{ outcome := .response { status := 200, body := Text.Utf8.encode " \"\"\n" } }]⟩,
    ⟨"POST", "/r", [{ outcome := .response { status := 201 } }]⟩]

/-- A script in which it is not there. -/
def Script.noResource : Script :=
  [⟨"GET", "/r", [{ outcome := .response { status := 404 } }]⟩,
    ⟨"POST", "/r", [{ outcome := .response { status := 201 } }]⟩]

theorem runAction_alternatives_absent :
    let s : Setup Script := { transport := Script.transport }
    let w : World Script := { transport := Script.emptyResource }
    let w' : World Script := { transport := Script.noResource }
    let run := fun strategy w => (runAction s (searching.following strategy)).run w
    Text.isBlankText searching.action.find = false ∧
      (Query.Path.parse (Query.normalize (Text.trim searching.action.find))).isOk = true ∧
      Matches (run .getPost w) (run .findPost w) ∧
      (run .getPost w).2.targets.map Request.method = [.get, .post] ∧
      ∃ (g : Round Script) (reply : Response) (x : Exchange), g.Probes s searching ∧
        g.answer? = some (.ok reply) ∧ reply.status ≤ 499 ∧ g.sent = some x ∧
        run .findPutPost w' = (.ok (.error (.http (g.tolerated x.request.url reply))), g.after) ∧
        (run .getPutPost w').1 = .ok (.ok ()) := by
  intro s w w' run
  have hblank : Text.isBlankText searching.action.find = false := by decide +kernel
  have hq : (Query.Path.parse (Query.normalize (Text.trim searching.action.find))).isOk = true := by
    decide +kernel
  have hposts : (run .getPost w).2.targets.map Request.method = [.get, .post] := by decide +kernel
  have hgoes : (run .getPutPost w').1 = .ok (.ok ()) := by decide +kernel
  have hfails : (run .findPutPost w').1 ≠ .ok (.ok ()) := by decide +kernel
  obtain ⟨hsame, -⟩ := runAction_alternatives s searching w hblank hq
  obtain ⟨-, g, hg, -, hmatches, htolerated⟩ := runAction_alternatives s searching w' hblank hq
  -- the two runs differ, so the GET was answered with such a status
  obtain ⟨reply, ha, hlow, hhigh⟩ : ∃ reply, g.answer? = some (.ok reply) ∧
      300 ≤ reply.status ∧ reply.status ≤ 499 := by
    by_contra hnone
    have hresult := (hmatches fun reply ha hrange => hnone ⟨reply, ha, hrange⟩).result
    exact hfails (hresult.symm.trans hgoes)
  obtain ⟨x, -, hx, hrun, -⟩ := htolerated reply ha hlow hhigh
  exact ⟨hblank, hq, hsame, hposts, g, reply, x, hg, ha, hhigh, hx, hrun, hgoes⟩

end Reconcile
