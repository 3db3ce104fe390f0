import Reconcile.Proofs.Run.Course

/-!
# Plans as they were carried out

The course of a run says which rounds took place.  Here each round stands where its plan asked for
it: the plan goes on from what came of one request to the next one, and ends with a result, or
where the clock stops it.

* `Enacted` — a plan that was carried out from a world, with its rounds in order;
  `carryOut_enacted` — every plan is; `Enacted.of_request`, `Enacted.of_last` — how its rounds
  begin.
* `Enactment` — an action that was run; `Enactments` — the actions of a run, one after the other;
  `runAll_enactments` — every run is made of them.
* `Executions` — executions one after the other against one transport; `executions_exist`.
* `Enacted.course`, `Enactments.course` — the rounds are a course, so their exchanges are those of
  the run.
-/

namespace Reconcile

variable {σ : Type}

/-! ## Plans -/

/-- A plan that was carried out from a world: its rounds, what came of it, and the world after. -/
inductive Enacted (s : Setup σ) (p : Prepared) (b : Payloads) :
    Plan → World σ → List (Round σ) → Except ClockOverflow (Except ActionError Unit) → World σ →
      Prop
  /-- Nothing is left to do. -/
  | done (result : Except ActionError Unit) (w : World σ) :
      Enacted s p b (.done result) w [] (.ok result) w
  | remark {message : String} {next : Plan} {w w' : World σ} {rounds : List (Round σ)}
      {out : Except ClockOverflow (Except ActionError Unit)}
      (h : Enacted s p b next (w.logging [⟨.info, message⟩]) rounds out w') :
      Enacted s p b (.remark message next) w rounds out w'
  /-- A request comes to its end, and the plan goes on by what came of it. -/
  | request {verb : Verb} {id : Option String} {payload : Payload}
      {next : Except ActionError (List UInt8) → Plan} {w w₁ w' : World σ}
      {asked sent : Option Exchange} {a : Except ActionError (List UInt8)}
      {rounds : List (Round σ)} {out : Except ClockOverflow (Except ActionError Unit)}
      (hr : Round.Holds s ⟨p, verb, id, b.bytes payload, w, asked, sent, .ok a, w₁⟩)
      (h : Enacted s p b (next a) w₁ rounds out w') :
      Enacted s p b (.request verb id payload next) w
        (⟨p, verb, id, b.bytes payload, w, asked, sent, .ok a, w₁⟩ :: rounds) out w'
  /-- The clock stops a request, and the plan with it. -/
  | halted {verb : Verb} {id : Option String} {payload : Payload}
      {next : Except ActionError (List UInt8) → Plan} {w w₁ : World σ}
      {asked sent : Option Exchange} {e : ClockOverflow}
      (hr : Round.Holds s ⟨p, verb, id, b.bytes payload, w, asked, sent, .error e, w₁⟩) :
      Enacted s p b (.request verb id payload next) w
        [⟨p, verb, id, b.bytes payload, w, asked, sent, .error e, w₁⟩] (.error e) w₁

section Plans

variable {s : Setup σ} {p : Prepared} {b : Payloads}

/-- **Every plan is carried out round by round.** -/
theorem carryOut_enacted (s : Setup σ) (p : Prepared) (b : Payloads) (plan : Plan) (w : World σ) :
    ∃ rounds, Enacted s p b plan w rounds ((carryOut s p b plan).run w).1
      ((carryOut s p b plan).run w).2 := by
  induction plan generalizing w with
  | done result => exact ⟨[], .done result w⟩
  | remark message next ih =>
    obtain ⟨rounds, h⟩ := ih (w.logging [⟨.info, message⟩])
    rw [carryOut, run_bind_ok (log_run ..)]
    exact ⟨rounds, .remark h⟩
  | request verb id payload next ih =>
    obtain ⟨asked, sent, hr⟩ := (perform_cases s p verb id (b.bytes payload) w).round rfl
    rcases hx : (perform s p verb id (b.bytes payload)).run w with ⟨e | a, w₁⟩
    · rw [hx] at hr
      rw [carryOut, run_bind_error hx]
      exact ⟨_, .halted hr⟩
    · rw [hx] at hr
      obtain ⟨rounds, h⟩ := ih a w₁
      rw [carryOut, run_bind_ok hx]
      exact ⟨_, .request hr h⟩

variable {plan : Plan} {w w' : World σ} {rounds : List (Round σ)}
  {out : Except ClockOverflow (Except ActionError Unit)}

namespace Enacted

/-- The rounds of a plan are a course. -/
theorem course (h : Enacted s p b plan w rounds out w') : Course s w rounds w' := by
  induction h with
  | done result w => exact .refl w
  | remark h ih => exact ih.of_logging
  | request hr h ih => exact .cons hr ih
  | halted hr => exact .cons hr (.refl _)

/-- All rounds of a plan are rounds of its action. -/
theorem own (h : Enacted s p b plan w rounds out w') : ∀ r ∈ rounds, r.action = p := by
  induction h with
  | done result w => simp
  | remark h ih => exact ih
  | request hr h ih => exact List.forall_mem_cons.mpr ⟨rfl, ih⟩
  | halted hr => simp

/-- A plan that starts with a request goes on by what came of it, unless the clock stops it. -/
theorem of_request {verb : Verb} {id : Option String} {payload : Payload}
    {next : Except ActionError (List UInt8) → Plan}
    (h : Enacted s p b (.request verb id payload next) w rounds out w') :
    ∃ (r : Round σ) (rest : List (Round σ)), rounds = r :: rest ∧ r.Holds s ∧ r.action = p ∧
      r.verb = verb ∧ ((∃ c, r.out = .error c ∧ rest = [] ∧ out = .error c) ∨
        ∃ a, r.out = .ok a ∧ Enacted s p b (next a) r.after rest out w') := by
  cases h with
  | request hr h => exact ⟨_, _, rfl, hr, rfl, rfl, .inr ⟨_, rfl, h⟩⟩
  | halted hr => exact ⟨_, _, rfl, hr, rfl, rfl, .inl ⟨_, rfl, rfl, rfl⟩⟩

/-- A plan of one request that comes to its end has one round, and that was answered. -/
theorem of_last {verb : Verb} {id : Option String} {payload : Payload}
    (h : Enacted s p b (.last verb id payload) w rounds (.ok (.ok ())) w') :
    ∃ (r : Round σ) (q : Response), rounds = [r] ∧ r.Holds s ∧ r.verb = verb ∧
      r.answer? = some (.ok q) := by
  obtain ⟨r, rest, rfl, hr, -, hverb, ⟨_, _, _, hc⟩ | ⟨a, ha, hrest⟩⟩ := h.of_request
  · cases hc
  · rcases a with _ | body
    · cases hrest
    · cases hrest
      obtain ⟨q, hq, -⟩ := hr.answer_of_ok ha
      exact ⟨r, q, rfl, hr, hverb, hq⟩

end Enacted

end Plans

/-! ## Actions -/

/-- An action that was run, to its end or up to where the clock stopped it. -/
structure Enactment (σ : Type) where
  action : Prepared
  before : World σ
  rounds : List (Round σ)
  out : Except ClockOverflow (Except ActionError Unit)
  after : World σ

/-- An action that was run so: its payloads were filled in from the store that it started with,
and then its plan was carried out. -/
structure Enactment.Holds (s : Setup σ) (e : Enactment σ) : Prop where
  ran : (runAction s e.action).run e.before = (e.out, e.after)
  enacted : ∃ lines, Enacted s e.action (s.payloads e.action e.before.store)
    (Plan.of e.action.name e.action.action) (e.before.logging lines) e.rounds e.out e.after

/-- The actions of a run, one after the other, each announced before and with how it went after.
Where the clock stops one, those after it are not run. -/
inductive Enactments (s : Setup σ) :
    List Prepared → World σ → List (Enactment σ) → World σ → Prop
  | done (w : World σ) : Enactments s [] w [] w
  | next {rest : List Prepared} {w w' : World σ} {e : Enactment σ} {more : List (Enactment σ)}
      {result : Except ActionError Unit} (hb : e.before = w.logging [e.action.opening])
      (he : e.Holds s) (ho : e.out = .ok result)
      (h : Enactments s rest (e.after.logging [e.action.closing result]) more w') :
      Enactments s (e.action :: rest) w (e :: more) w'
  | halted {rest : List Prepared} {w : World σ} {e : Enactment σ} {c : ClockOverflow}
      (hb : e.before = w.logging [e.action.opening]) (he : e.Holds s) (ho : e.out = .error c) :
      Enactments s (e.action :: rest) w [e] e.after

section Actions

variable {s : Setup σ}

/-- **Every action is carried out round by round.** -/
theorem runAction_enacted (s : Setup σ) (p : Prepared) (w : World σ) :
    ∃ rounds, Enactment.Holds s
      ⟨p, w, rounds, ((runAction s p).run w).1, ((runAction s p).run w).2⟩ := by
  obtain ⟨lines, hb⟩ := payloadsFor_run s p w
  obtain ⟨rounds, h⟩ := carryOut_enacted s p (s.payloads p w.store) (Plan.of p.name p.action)
    (w.logging lines)
  have hrun : (runAction s p).run w =
      (carryOut s p (s.payloads p w.store) (Plan.of p.name p.action)).run (w.logging lines) := by
    rw [runAction, run_bind_ok hb]
  rw [← hrun] at h
  exact ⟨rounds, rfl, lines, h⟩

/-- **Every run is made of its actions, one after the other.** -/
theorem runAll_enactments (s : Setup σ) (actions : List Prepared) (w : World σ) :
    ∃ es, Enactments s actions w es ((runAll s actions).run w).2 := by
  induction actions generalizing w with
  | nil => exact ⟨[], .done w⟩
  | cons p rest ih =>
    obtain ⟨rounds, he⟩ := runAction_enacted s p (w.logging [p.opening])
    rcases hr : (runAction s p).run (w.logging [p.opening]) with ⟨c | result, w₁⟩ <;> rw [hr] at he
    · rw [runAll, run_bind_error (runLogged_error hr)]
      exact ⟨_, .halted rfl he rfl⟩
    · obtain ⟨more, hmore⟩ := ih (w₁.logging [p.closing result])
      have hrest : ((runAll s (p :: rest)).run w).2 =
          ((runAll s rest).run (w₁.logging [p.closing result])).2 := by
        rw [runAll, run_bind_ok (runLogged_ok hr), run_bind]
        rcases (runAll s rest).run (w₁.logging [p.closing result]) with ⟨_ | _, _⟩ <;> rfl
      rw [hrest]
      exact ⟨_, .next rfl he rfl hmore⟩

/-- The rounds of an action are a course. -/
theorem Enactment.Holds.course {e : Enactment σ} (he : e.Holds s) :
    Course s e.before e.rounds e.after := by
  obtain ⟨lines, hc⟩ := he.enacted
  exact hc.course.of_logging

namespace Enactments

variable {actions : List Prepared} {w w' : World σ} {es : List (Enactment σ)}

theorem holds (h : Enactments s actions w es w') : ∀ e ∈ es, e.Holds s := by
  induction h with
  | done w => simp
  | next hb he ho h ih => exact List.forall_mem_cons.mpr ⟨he, ih⟩
  | halted hb he ho => simpa using he

/-- A run whose first action is not stopped goes on with the others. -/
theorem of_cons {p : Prepared} {result : Except ActionError Unit} {w₁ : World σ}
    (h : Enactments s (p :: actions) w es w')
    (hp : (runAction s p).run (w.logging [p.opening]) = (.ok result, w₁)) :
    ∃ e more, es = e :: more ∧ e.action = p ∧ e.Holds s ∧ e.out = .ok result ∧
      Enactments s actions (w₁.logging [p.closing result]) more w' := by
  cases h with
  | @next _ _ _ e more result' hb he ho h =>
    have hran := he.ran
    rw [hb, hp, ho, Prod.mk.injEq, Except.ok.injEq] at hran
    obtain ⟨rfl, rfl⟩ := hran
    exact ⟨e, more, rfl, rfl, he, ho, h⟩
  | halted hb he ho =>
    have hran := he.ran
    rw [hb, hp, ho] at hran
    cases hran

/-- The actions that were run are those of the run, up to where the clock stopped one. -/
theorem actions_isPrefix (h : Enactments s actions w es w') :
    es.map Enactment.action <+: actions := by
  induction h with
  | done w => exact List.prefix_rfl
  | next hb he ho h ih => exact (List.prefix_cons_inj _).mpr ih
  | halted hb he ho => exact ⟨_, rfl⟩

/-- The rounds of a run are a course. -/
theorem course (h : Enactments s actions w es w') :
    Course s w (es.flatMap Enactment.rounds) w' := by
  induction h with
  | done w => exact .refl w
  | next hb he ho h ih =>
    rw [List.flatMap_cons]
    have hc := he.course
    rw [hb] at hc
    exact hc.of_logging.append ih.of_logging
  | halted hb he ho =>
    rw [List.flatMap_cons, List.flatMap_nil, List.append_nil]
    have hc := he.course
    rw [hb] at hc
    exact hc.of_logging

/-- An action starts where the rounds of those before it lead. -/
theorem course_before {front back : List (Enactment σ)} {e : Enactment σ}
    (h : Enactments s actions w (front ++ e :: back) w') :
    Course s w (front.flatMap Enactment.rounds) e.before := by
  induction front generalizing actions w with
  | nil =>
    cases h with
    | next hb he ho h => exact hb ▸ .done _
    | halted hb he ho => exact hb ▸ .done _
  | cons x front ih =>
    rw [List.flatMap_cons]
    generalize hes : (x :: front) ++ e :: back = es at h
    cases h with
    | done w => cases hes
    | next hb he ho h =>
      cases hes
      have hc := he.course
      rw [hb] at hc
      exact hc.of_logging.append (ih h).of_logging
    | halted hb he ho =>
      obtain ⟨-, hnil⟩ := List.cons.inj hes
      simp at hnil

end Enactments

end Actions

/-! ## Executions -/

/-- A world that goes on with the transport of another one. -/
def World.continuing (w : World σ) (transport : σ) : World σ :=
  { w with transport }

/-- Executions of the same actions, one after the other against one transport, each from a world
with any store, clock and cancellation. -/
inductive Executions (s : Setup σ) (actions : List Prepared) :
    List (World σ) → σ → List (Enactment σ) → Prop
  | done (t : σ) : Executions s actions [] t []
  | next {w : World σ} {ws : List (World σ)} {t : σ} {es more : List (Enactment σ)}
      (h : Enactments s actions (w.continuing t).opened es
        (execute s actions (w.continuing t)).2)
      (hmore : Executions s actions ws (execute s actions (w.continuing t)).2.transport more) :
      Executions s actions (w :: ws) t (es ++ more)

theorem executions_exist (s : Setup σ) (actions : List Prepared) (ws : List (World σ)) (t : σ) :
    ∃ es, Executions s actions ws t es := by
  induction ws generalizing t with
  | nil => exact ⟨[], .done t⟩
  | cons w ws ih =>
    obtain ⟨es, h⟩ := runAll_enactments s actions (w.continuing t).opened
    obtain ⟨more, hmore⟩ := ih (execute s actions (w.continuing t)).2.transport
    exact ⟨es ++ more, .next h hmore⟩

theorem Executions.holds {s : Setup σ} {actions : List Prepared} {ws : List (World σ)} {t : σ}
    {es : List (Enactment σ)} (h : Executions s actions ws t es) : ∀ e ∈ es, e.Holds s := by
  induction h with
  | done t => simp
  | next h hmore ih =>
    intro e he
    rcases List.mem_append.mp he with he | he
    · exact h.holds e he
    · exact ih e he

end Reconcile
