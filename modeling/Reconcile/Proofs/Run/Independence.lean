import Mathlib.Data.List.Nodup
import Mathlib.Tactic.Choose
import Reconcile.Proofs.Run.OwnTokens
import Reconcile.Proofs.Run.Schedule

/-!
# Independent actions

Actions reach each other through the store, through cached credentials and through the state of
the transport, and in no other way.  Where nothing goes through these, an action makes the same
requests and comes to the same result wherever it stands in the schedule.

* `Transport.Steady` — a transport that always gives a request the same answer; `Script.steady` —
  a script with one reply for each route is one.
* `World.Quiet` — what such a run keeps: the store, and that it is not cancelled.
* `Plan.against` — the requests of a plan and its result, by what comes of each request;
  `Prepared.alone` — those of an action that is run by itself.
* `perform_quiet`, `carryOut_quiet`, `runAction_quiet` — a request, a plan and an action do in a
  quiet run what they do alone.
* `Recipe.Rearranges` — recipes with the same actions in another order.
* `execute_rearranged` — their executions differ in nothing but the order of the actions.
-/

namespace Reconcile

variable {σ : Type}

/-! ## Steady transports -/

/-- A transport that gives the same answer to a request in each of some states, cancels nothing,
and stays in these states.  The time that an answer takes may differ. -/
def Transport.Answers (t : Transport σ) (keeps : σ → Prop)
    (answer : Request → Except HttpError Response) : Prop :=
  ∀ q st, keeps st →
    (t q st).1.result? = some (answer q) ∧ (t q st).1.cancels = false ∧ keeps (t q st).2

/-- A transport that from a state on gives a request the same answer whenever it is sent. -/
def Transport.Steady (t : Transport σ) (state : σ) : Prop :=
  ∃ keeps answer, keeps state ∧ t.Answers keeps answer

/-- A script stays as it is where no route has a second reply. -/
theorem Script.next?_steady {q : Request} {script later : Script} {a : Scripted}
    (h : ∀ route ∈ script, route.replies.length ≤ 1) (hn : next? q script = some (a, later)) :
    later = script ∧ ∃ route ∈ script, a ∈ route.replies := by
  induction script generalizing later with
  | nil => cases hn
  | cons route rest ih =>
    obtain ⟨hroute, hrest⟩ := List.forall_mem_cons.mp h
    rw [next?] at hn
    split at hn
    · obtain ⟨⟨b, route'⟩, hb, heq⟩ := Option.map_eq_some_iff.mp hn
      cases heq
      unfold Route.next? at hb
      split at hb
      · cases hb
      · rename_i hreplies
        cases hb
        exact ⟨rfl, route, List.mem_cons_self, by simp [hreplies]⟩
      · rename_i hreplies
        rw [hreplies] at hroute
        simp_all
    · obtain ⟨⟨b, rest'⟩, hb, heq⟩ := Option.map_eq_some_iff.mp hn
      cases heq
      obtain ⟨rfl, route', hmem, ha⟩ := ih hrest hb
      exact ⟨rfl, route', List.mem_cons_of_mem _ hmem, ha⟩

theorem Script.transport_steady {script : Script}
    (h : ∀ route ∈ script, route.replies.length ≤ 1 ∧ ∀ a ∈ route.replies, a.cancel = .never)
    (q : Request) : ∃ result, transport q script = (.answered false 0 result, script) := by
  unfold transport
  cases hn : next? q script with
  | none => exact ⟨_, rfl⟩
  | some x =>
    obtain ⟨a, later⟩ := x
    obtain ⟨rfl, route, hroute, ha⟩ := next?_steady (fun r hr => (h r hr).1) hn
    simp only [reply, (h route hroute).2 a ha]
    exact ⟨_, rfl⟩

/-- **A script with at most one reply for each route is steady** if no reply cancels. -/
theorem Script.steady {script : Script}
    (h : ∀ route ∈ script, route.replies.length ≤ 1 ∧ ∀ a ∈ route.replies, a.cancel = .never) :
    Transport.Steady Script.transport script := by
  choose answer hanswer using transport_steady h
  refine ⟨(· = script), answer, rfl, fun q st hst => ?_⟩
  rw [hst, hanswer]
  exact ⟨rfl, rfl, rfl⟩

/-! ## An action by itself -/

/-- The credential of an entry that asks no server. -/
def Setup.ownCredential? (s : Setup σ) (ref : String) : Option Credential :=
  (s.entry? ref).bind Auth.configured?

/-- What comes of a request of an action when answers are fixed. -/
def Prepared.answerAlone (p : Prepared) (s : Setup σ)
    (answer : Request → Except HttpError Response) (store : Table Json) (verb : Verb)
    (id : Option String) (body : List UInt8) : Answer :=
  match Url.parse (s.rawUrl p store verb id) with
  | .error cause => .unsent (s.rawUrl p store verb id) cause
  | .ok url =>
    let r := { p.request s verb url body with
      headers := p.attaching (s.ownCredential? p.action.authRef) }
    .answered r (answer r)

/-- The requests of a plan and its result, by what comes of each request. -/
def Plan.against (name : String) (react : Verb → Option String → Payload → Answer) :
    Plan → List Request × Except ActionError Unit
  | done result => ([], result)
  | remark _ next => next.against name react
  | request verb id payload next =>
    let a := react verb id payload
    let rest := (next (a.result name)).against name react
    (a.request?.toList ++ rest.1, rest.2)

/-- The requests of an action and its result when it is run by itself. -/
def Prepared.alone (p : Prepared) (s : Setup σ) (answer : Request → Except HttpError Response)
    (store : Table Json) : List Request × Except ActionError Unit :=
  (Plan.of p.name p.action).against p.name fun verb id payload =>
    p.answerAlone s answer store verb id ((s.payloads p store).bytes payload)

/-- An action without its place in the schedule. -/
def Prepared.unordered (p : Prepared) : Prepared :=
  { p with action := { p.action with order := none } }

/-- Its place does not matter to an action that is run by itself. -/
theorem Prepared.alone_unordered (p : Prepared) (s : Setup σ)
    (answer : Request → Except HttpError Response) (store : Table Json) :
    p.unordered.alone s answer store = p.alone s answer store := rfl

/-! ## Quiet runs -/

/-- A world in a run that goes on, with a transport in one of some states and a certain store. -/
structure World.Quiet (keeps : σ → Prop) (store : Table Json) (w : World σ) : Prop where
  transport : keeps w.transport
  cancelled : w.cancelled = false
  store : w.store = store

theorem World.Quiet.logging {keeps : σ → Prop} {store : Table Json} {w : World σ}
    (h : w.Quiet keeps store) (lines : List LogLine) : (w.logging lines).Quiet keeps store :=
  ⟨h.transport, h.cancelled, h.store⟩

section Quiet

variable {s : Setup σ} {p : Prepared} {keeps : σ → Prop}
  {answer : Request → Except HttpError Response} {store : Table Json}

/-- Without runtime variables no answer changes the store. -/
theorem Prepared.storeAfter_of_no_vars (hv : p.action.runtimeVars.entries = [])
    (a : Option (Except HttpError Response)) : p.storeAfter store a = store := by
  match a with
  | none => rfl
  | some (.error e) => rfl
  | some (.ok r) => simp [storeAfter, hv]

/-- A request whose entry asks no server sends nothing for it. -/
theorem Decorated.of_no_question {ref : String} {r : Request} {w w' : World σ}
    {out : Except ClockOverflow (Request × List String)} (h : Decorated s ref r w out w')
    (hn : ∀ a, s.entry? ref = some a → a.question? s.limits = none) :
    ∃ lines r' names, out = .ok (r', names) ∧ w' = w.logging lines := by
  have hnone : ∀ {a : Auth} {q : Except AuthError Request}, s.entry? ref = some a →
      a.question? s.limits ≠ some q := by
    intro a q ha hq
    rw [hn a ha] at hq
    cases hq
  cases h with
  | bare lines => exact ⟨lines, _, _, rfl, rfl⟩
  | configured => exact ⟨[], _, _, rfl, w.logging_nil.symm⟩
  | cached ha hq => exact absurd hq (hnone ha)
  | unasked lines ha hq => exact absurd hq (hnone ha)
  | refused before after ha hq => exact absurd hq (hnone ha)
  | granted before after ha hq => exact absurd hq (hnone ha)
  | overrun before ha hq => exact absurd hq (hnone ha)

/-- What such a request obtains. -/
theorem World.credential?_of_no_question {ref : String} {w : World σ}
    (hn : ∀ a, s.entry? ref = some a → a.question? s.limits = none) :
    w.credential? s ref = s.ownCredential? ref := by
  unfold credential? Setup.ownCredential?
  cases ha : s.entry? ref with
  | none => rfl
  | some a =>
    dsimp only
    rw [hn a ha]
    rfl

/-- What lets an action be run as if it were alone: nothing that comes back is kept, and its entry
asks no server. -/
structure Prepared.Selfless (p : Prepared) (s : Setup σ) : Prop where
  vars : p.action.runtimeVars.entries = []
  question : ∀ a, s.entry? p.action.authRef = some a → a.question? s.limits = none

variable (ht : s.transport.Answers keeps answer) (hp : p.Selfless s)
include ht hp

theorem Performed.quiet {verb : Verb} {id : Option String} {body : List UInt8} {w w' : World σ}
    {out : Except ClockOverflow (Except ActionError (List UInt8))}
    (h : Performed s p verb id body w out w') (hw : w.Quiet keeps store) :
    out = .ok ((p.answerAlone s answer store verb id body).result p.name) ∧
      w'.Quiet keeps store ∧
      w'.sent = w.sent ++
        (p.answerAlone s answer store verb id body).request?.toList.map (.target, ·) := by
  have hstore := hw.store
  subst hstore
  unfold Prepared.answerAlone
  cases h with
  | malformed lines hu =>
    rw [World.logging_sent, hu]
    exact ⟨rfl, hw.logging lines, (List.append_nil _).symm⟩
  | overrun lines hu hd =>
    obtain ⟨_, _, _, hout, _⟩ := hd.of_no_question hp.question
    cases hout
  | unsent lines hu hd hc =>
    obtain ⟨more, _, _, _, rfl⟩ := hd.of_no_question hp.question
    rw [World.logging_cancelled, World.logging_cancelled, hw.cancelled] at hc
    cases hc
  | @exchanged url r names w₁ lines hu hd hc =>
    have hr := hd.obtained (p := p) rfl
    rw [World.credential?_of_no_question hp.question] at hr
    obtain ⟨more, _, _, _, rfl⟩ := hd.of_no_question hp.question
    obtain ⟨hresult, hcancels, hkeeps⟩ := ht r w.transport hw.transport
    have hreply : (((w.logging lines).logging more).reply s r).result? = some (answer r) := hresult
    have hm : r.method = verb := by rw [hr]; rfl
    have hurl : r.url = url := by rw [hr]; rfl
    rw [hreply, p.storeAfter_of_no_vars hp.vars, hu]
    dsimp only
    rw [← hr]
    refine ⟨?_, ⟨hkeeps, ?_, rfl⟩, ?_⟩
    · rw [← hm, ← hurl, Diagnostic.outcome_mapError]
    · show (w.cancelled || _) = false
      rw [hw.cancelled]
      exact hcancels
    · rw [World.logging_sent]
      show (World.exchanged _ s .target r).sent = _
      rw [World.exchanged_sent, World.logging_sent, World.logging_sent, World.logging_sent]
      rfl

/-- **A request does in a quiet run what it does alone**, and the run stays quiet. -/
theorem perform_quiet {w : World σ} (hw : w.Quiet keeps store) (verb : Verb) (id : Option String)
    (body : List UInt8) :
    ∃ w', (perform s p verb id body).run w =
        (.ok ((p.answerAlone s answer store verb id body).result p.name), w') ∧
      w'.Quiet keeps store ∧
      w'.sent = w.sent ++
        (p.answerAlone s answer store verb id body).request?.toList.map (.target, ·) := by
  obtain ⟨hout, hquiet, hsent⟩ := (perform_cases s p verb id body w).quiet ht hp hw
  exact ⟨_, Prod.ext hout rfl, hquiet, hsent⟩

/-- **So does a plan.** -/
theorem carryOut_quiet (b : Payloads) (plan : Plan) {w : World σ} (hw : w.Quiet keeps store) :
    ∃ w', (carryOut s p b plan).run w =
        (.ok (plan.against p.name fun verb id payload =>
          p.answerAlone s answer store verb id (b.bytes payload)).2, w') ∧
      w'.Quiet keeps store ∧
      w'.sent = w.sent ++ (plan.against p.name fun verb id payload =>
        p.answerAlone s answer store verb id (b.bytes payload)).1.map (.target, ·) := by
  induction plan generalizing w with
  | done result => exact ⟨w, rfl, hw, (List.append_nil _).symm⟩
  | remark message next ih =>
    obtain ⟨w', hrun, hquiet, hsent⟩ := ih (hw.logging [⟨.info, message⟩])
    rw [World.logging_sent] at hsent
    exact ⟨w', by rw [carryOut, run_bind_ok (log_run ..), hrun]; rfl, hquiet, hsent⟩
  | request verb id payload next ih =>
    obtain ⟨w₁, hrun₁, hquiet₁, hsent₁⟩ := perform_quiet ht hp hw verb id (b.bytes payload)
    obtain ⟨w', hrun, hquiet, hsent⟩ := ih _ hquiet₁
    refine ⟨w', by rw [carryOut, run_bind_ok hrun₁, hrun]; rfl, hquiet, ?_⟩
    rw [hsent, hsent₁, Plan.against, List.map_append, List.append_assoc]

/-- **So does an action.** -/
theorem runAction_quiet {w : World σ} (hw : w.Quiet keeps store) :
    ∃ w', (runAction s p).run w = (.ok (p.alone s answer store).2, w') ∧ w'.Quiet keeps store ∧
      w'.sent = w.sent ++ (p.alone s answer store).1.map (.target, ·) := by
  obtain ⟨lines, hb⟩ := payloadsFor_run s p w
  obtain ⟨w', hrun, hquiet, hsent⟩ :=
    carryOut_quiet ht hp (s.payloads p store) (Plan.of p.name p.action) (hw.logging lines)
  rw [hw.store] at hb
  rw [World.logging_sent] at hsent
  exact ⟨w', by rw [runAction, run_bind_ok hb, hrun]; rfl, hquiet, hsent⟩

end Quiet

/-! ## Turns -/

/-- The requests of a turn, and what each is for. -/
def Turn.requests (t : Turn σ) : List (Purpose × Request) :=
  t.exchanges.map fun x => (x.purpose, x.request)

section Turns

variable {s : Setup σ} {keeps : σ → Prop} {answer : Request → Except HttpError Response}
  {store : Table Json}

/-- **The actions of a quiet run do in their turns what they do alone.** -/
theorem Turns.quiet (ht : s.transport.Answers keeps answer) {turns : List (Turn σ)}
    {w w' : World σ} (h : Turns s w turns w') (hp : ∀ t ∈ turns, t.action.Selfless s)
    (hw : w.Quiet keeps store) :
    w'.Quiet keeps store ∧ ∀ t ∈ turns,
      t.requests = (t.action.alone s answer store).1.map (.target, ·) ∧
      t.result = (t.action.alone s answer store).2 := by
  induction h with
  | done w => exact ⟨hw, by simp⟩
  | @turn w w' t rest hb hholds h ih =>
    obtain ⟨hp, hprest⟩ := List.forall_mem_cons.mp hp
    have hbefore : t.before.Quiet keeps store := hb ▸ hw.logging _
    obtain ⟨w₁, hrun, hquiet, hsent⟩ := runAction_quiet ht hp hbefore
    rw [hholds.ran] at hrun
    obtain ⟨hresult, rfl⟩ := Prod.mk.inj hrun
    obtain ⟨hlater, hrest⟩ := ih hprest (hquiet.logging _)
    refine ⟨hlater, List.forall_mem_cons.mpr ⟨⟨?_, Except.ok.inj hresult⟩, hrest⟩⟩
    rw [hholds.course.path.sent] at hsent
    exact List.append_cancel_left hsent

/-- **A quiet run is not stopped by the clock.** -/
theorem runAll_turns_quiet (ht : s.transport.Answers keeps answer) {actions : List Prepared}
    (hp : ∀ p ∈ actions, p.Selfless s) {w : World σ} (hw : w.Quiet keeps store) :
    ∃ turns w', turns.map Turn.action = actions ∧ Turns s w turns w' ∧
      (runAll s actions).run w = (.ok (turns.filterMap Turn.error?), w') := by
  rcases runAll_turns s actions w with
    ⟨turns, w', hts, ha, hr⟩ | ⟨turns, p, rest, xs, w₁, w', ha, hts, hh, hr⟩
  · exact ⟨turns, w', ha, hts, hr⟩
  · have hpre : ∀ t ∈ turns, t.action.Selfless s := by
      intro t hmem
      exact hp _ (ha ▸ List.mem_append_left _ (List.mem_map_of_mem hmem))
    have hquiet := (hts.quiet ht hpre hw).1
    obtain ⟨w₂, hrun, -⟩ := runAction_quiet ht (hp p (ha ▸ by simp)) (hquiet.logging [p.opening])
    rw [hh.ran] at hrun
    cases hrun

end Turns

/-! ## Rearranged recipes -/

/-- Recipes with the same actions, in another order in the document and with other places in the
schedule. -/
def Recipe.Rearranges (r r' : Recipe) : Prop :=
  (r.seed.entries.map fun e => (e.1, { e.2 with order := none })).Perm
    (r'.seed.entries.map fun e => (e.1, { e.2 with order := none }))

section Rearranged

variable {r r' : Recipe}

/-- Their schedules hold the same actions. -/
theorem Recipe.Rearranges.schedules (h : r.Rearranges r') :
    (r.schedule.map Prepared.unordered).Perm (r'.schedule.map Prepared.unordered) := by
  have hactions : ∀ r : Recipe, r.actions.map Prepared.unordered =
      (r.seed.entries.map fun e => (e.1, { e.2 with order := none })).map
        fun e => prepare e.1 e.2 := by
    intro r
    rw [Recipe.actions, List.map_map, List.map_map]
    rfl
  refine (r.schedule_perm.map _).trans (.trans ?_ (r'.schedule_perm.map _).symm)
  rw [hactions, hactions]
  exact h.map _

/-- Their actions of one name are the same but for their places. -/
theorem Recipe.Rearranges.unordered_eq (h : r.Rearranges r') {p p' : Prepared}
    (hp : p ∈ r.schedule) (hp' : p' ∈ r'.schedule) (hn : p.name = p'.name) :
    p.unordered = p'.unordered := by
  obtain ⟨name, a, ha, rfl⟩ := r.mem_schedule.mp hp
  obtain ⟨name', a', ha', rfl⟩ := r'.mem_schedule.mp hp'
  change name = name' at hn
  subst hn
  have hmem : (name, { a' with order := none }) ∈
      r.seed.entries.map fun e => (e.1, { e.2 with order := none }) := by
    rw [h.mem_iff]
    exact List.mem_map.mpr ⟨_, ha', rfl⟩
  obtain ⟨⟨name'', b⟩, hb, heq⟩ := List.mem_map.mp hmem
  obtain ⟨rfl, hab⟩ := Prod.mk.inj heq
  -- names are distinct, so this is the entry of the first action
  have hsame : (name'', b) = (name'', a) :=
    List.inj_on_of_nodup_map r.seed.distinct hb ha rfl
  cases hsame
  show (prepare name'' { a with order := none }) = prepare name'' { a' with order := none }
  rw [hab]

/-- An action that keeps nothing is selfless when no entry asks a server. -/
theorem Recipe.selfless {s : Setup σ} (ha : ∀ e ∈ s.auth.entries, e.2.asksServer = false)
    (hv : ∀ e ∈ r.seed.entries, e.2.runtimeVars.entries = []) {p : Prepared}
    (hp : p ∈ r.schedule) : p.Selfless s := by
  obtain ⟨name, a, hmem, rfl⟩ := r.mem_schedule.mp hp
  refine ⟨hv _ hmem, fun entry he => ?_⟩
  have hget : s.auth.get? a.authRef = some entry := by
    unfold Setup.entry? at he
    split at he
    · cases he
    · exact he
  obtain ⟨⟨ref, entry'⟩, hfind, rfl⟩ := Option.map_eq_some_iff.mp hget
  have hasks := ha _ (List.mem_of_find?_eq_some hfind)
  cases hq : Auth.question? s.limits entry' with
  | none => rfl
  | some q =>
    have hserver : entry'.asksServer = true := Auth.asksServer_of_question hq
    rw [hserver] at hasks
    cases hasks

theorem Recipe.Rearranges.no_vars (h : r.Rearranges r')
    (hv : ∀ e ∈ r.seed.entries, e.2.runtimeVars.entries = []) :
    ∀ e ∈ r'.seed.entries, e.2.runtimeVars.entries = [] := by
  intro e he
  have hmem := h.mem_iff.mpr (List.mem_map.mpr ⟨e, he, rfl⟩)
  obtain ⟨d, hd, heq⟩ := List.mem_map.mp hmem
  have hsame : d.2.runtimeVars = e.2.runtimeVars := congrArg (fun x => x.2.runtimeVars) heq
  rw [← hsame]
  exact hv d hd

/-- What the turns of a run amount to when each action does what it does alone. -/
theorem Turns.summary {s : Setup σ} {answer : Request → Except HttpError Response}
    {store : Table Json} {turns : List (Turn σ)} {w w' : World σ} (h : Turns s w turns w')
    (hq : ∀ t ∈ turns, t.requests = (t.action.alone s answer store).1.map (.target, ·) ∧
      t.result = (t.action.alone s answer store).2) :
    w'.sent = w.sent ++ ((turns.map Turn.action).map Prepared.unordered).flatMap
        (fun p => (p.alone s answer store).1.map (.target, ·)) ∧
      turns.filterMap Turn.error? = ((turns.map Turn.action).map Prepared.unordered).filterMap
        (fun p => errorOf? (p.alone s answer store).2) := by
  constructor
  · rw [h.course.path.sent, List.flatMap_assoc, List.map_flatMap, List.flatMap_map,
      List.flatMap_map]
    refine congrArg (w.sent ++ ·) (List.flatMap_congr fun t ht => ?_)
    exact (hq t ht).1
  · rw [List.map_map, List.filterMap_map]
    refine List.filterMap_congr fun t ht => ?_
    rw [Turn.error?, (hq t ht).2]
    rfl

/-- **Independent actions commute.** Take recipes with the same actions in another order, none of
which keeps anything of what comes back, no entry that asks a server, and a transport that always
gives a request the same answer and does not cancel.  Executions of both, from the same world, run
all their actions; an action makes the same requests in both and comes to the same result; so the
requests of both are the same up to their order, and so are the errors. -/
theorem execute_rearranged {s : Setup σ} {w : World σ} (hr : r.Rearranges r')
    (ha : ∀ e ∈ s.auth.entries, e.2.asksServer = false)
    (hv : ∀ e ∈ r.seed.entries, e.2.runtimeVars.entries = [])
    (ht : s.transport.Steady w.transport) (hw : w.cancelled = false) :
    ∃ turns turns' w₁ w₁',
      (turns.map Turn.action = r.schedule ∧ Turns s w.opened turns w₁ ∧
        execute s r.schedule w = (.ok (turns.filterMap Turn.error?), w₁)) ∧
      (turns'.map Turn.action = r'.schedule ∧ Turns s w.opened turns' w₁' ∧
        execute s r'.schedule w = (.ok (turns'.filterMap Turn.error?), w₁')) ∧
      (∀ t ∈ turns, ∀ t' ∈ turns', t.action.name = t'.action.name →
        t.requests = t'.requests ∧ t.result = t'.result) ∧
      w₁.sent.Perm w₁'.sent ∧
      (turns.filterMap Turn.error?).Perm (turns'.filterMap Turn.error?) := by
  obtain ⟨keeps, answer, hkeeps, hanswers⟩ := ht
  have hquiet : w.opened.Quiet keeps w.store := ⟨hkeeps, hw, rfl⟩
  have hp : ∀ p ∈ r.schedule, p.Selfless s := fun p => r.selfless ha hv
  have hp' : ∀ p ∈ r'.schedule, p.Selfless s := fun p => r'.selfless ha (hr.no_vars hv)
  obtain ⟨turns, w₁, hactions, hturns, hrun⟩ := runAll_turns_quiet hanswers hp hquiet
  obtain ⟨turns', w₁', hactions', hturns', hrun'⟩ := runAll_turns_quiet hanswers hp' hquiet
  have hmem : ∀ t ∈ turns, t.action ∈ r.schedule :=
    fun t ht => hactions ▸ List.mem_map_of_mem ht
  have hmem' : ∀ t ∈ turns', t.action ∈ r'.schedule :=
    fun t ht => hactions' ▸ List.mem_map_of_mem ht
  have hdone := (hturns.quiet hanswers (fun t ht => hp _ (hmem t ht)) hquiet).2
  have hdone' := (hturns'.quiet hanswers (fun t ht => hp' _ (hmem' t ht)) hquiet).2
  obtain ⟨hsent, herrors⟩ := hturns.summary hdone
  obtain ⟨hsent', herrors'⟩ := hturns'.summary hdone'
  refine ⟨turns, turns', w₁, w₁', ⟨hactions, hturns, hrun⟩, ⟨hactions', hturns', hrun'⟩, ?_, ?_, ?_⟩
  · intro t ht t' ht' hn
    have hsame : t.action.alone s answer w.store = t'.action.alone s answer w.store := by
      rw [← Prepared.alone_unordered, hr.unordered_eq (hmem t ht) (hmem' t' ht') hn,
        Prepared.alone_unordered]
    rw [(hdone t ht).1, (hdone t ht).2, (hdone' t' ht').1, (hdone' t' ht').2, hsame]
    exact ⟨rfl, rfl⟩
  · rw [hsent, hsent', hactions, hactions']
    exact (hr.schedules.flatMap_right _).append_left _
  · rw [herrors, herrors', hactions, hactions']
    exact hr.schedules.filterMap _

end Rearranged

/-- An action that creates a resource, and one that replaces what it finds. -/
def Recipe.createThenReplace : Recipe where
  seed := .ofList
    [("a", { strategy := .post, endpoint := "http://h/a", order := some 1 }),
      ("b", { strategy := .findPutPost, endpoint := "http://h/b", findExpr := some "$.id",
              authRef := "t", order := some 2 })]

/-- A resource to be found, and a server that creates none. -/
def Script.onlyFound : Script :=
  [⟨"GET", "/b", [{ outcome := .response {
      status := 200, body := Text.Utf8.encode "\x7b\"id\":\"7\"\x7d" } }]⟩,
    ⟨"POST", "/a", [{ outcome := .response { status := 500 } }]⟩]

/-- The same actions the other way round. -/
def Recipe.replaceThenCreate : Recipe where
  seed := .ofList
    [("b", { strategy := .findPutPost, endpoint := "http://h/b", findExpr := some "$.id",
             authRef := "t", order := some 7 }),
      ("a", { strategy := .post, endpoint := "http://h/a" })]

theorem execute_rearranged_swapped :
    let s : Setup Script :=
      { transport := Script.transport, auth := .ofList [("t", .static "X-Token" "v")] }
    let w : World Script := { transport := Script.onlyFound }
    Recipe.createThenReplace.Rearranges Recipe.replaceThenCreate ∧
      (Recipe.createThenReplace.schedule.map Prepared.name = ["a", "b"]) ∧
      (Recipe.replaceThenCreate.schedule.map Prepared.name = ["b", "a"]) ∧
      ((execute s Recipe.createThenReplace.schedule w).2.sent.map
        fun q => (q.2.method.name, q.2.url.pathText)) =
          [("POST", "/a"), ("GET", "/b"), ("PUT", "/b/7")] ∧
      (execute s Recipe.createThenReplace.schedule w).2.sent.Perm
        (execute s Recipe.replaceThenCreate.schedule w).2.sent := by
  intro s w
  have hs : Recipe.createThenReplace.schedule = Recipe.createThenReplace.actions :=
    Recipe.schedule_of_sorted _ (by decide +kernel)
  have hs' : Recipe.replaceThenCreate.schedule = Recipe.replaceThenCreate.actions :=
    Recipe.schedule_of_sorted _ (by decide +kernel)
  have hr : Recipe.createThenReplace.Rearranges Recipe.replaceThenCreate := List.Perm.swap _ _ _
  have ht : s.transport.Steady w.transport := Script.steady (by decide +kernel)
  obtain ⟨turns, turns', w₁, w₁', ⟨-, -, hrun⟩, ⟨-, -, hrun'⟩, -, hsent, -⟩ :=
    execute_rearranged (s := s) (w := w) hr (by decide +kernel) (by decide +kernel) ht rfl
  refine ⟨hr, ?_, ?_, ?_, ?_⟩
  · rw [hs]
    decide +kernel
  · rw [hs']
    decide +kernel
  · rw [hs]
    decide +kernel
  · rw [hrun, hrun']
    exact hsent

end Reconcile
