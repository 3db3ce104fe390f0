import Reconcile.Proofs.Credential.Obtaining

/-!
# The course of a run

A run is made of rounds: an action performs a request, for which it perhaps asks for a credential.
Between rounds only lines are logged.

* `Round` — a request of an action with the worlds before and after it, and the exchanges made for
  it; `Round.Holds` — it took place so; `Performed.round` — every request is a round.
* `Round.Holds.out_of_unsent`, `Round.Holds.answer_of_ok` — how a request fails that is not sent,
  and what a request returns that succeeds.
* `Course` — rounds one after the other; `Course.path`, `Course.targets`, `Course.store` — the
  exchanges of all rounds, their requests for actions, and the store that they leave.
* `carryOut_course`, `runAction_course` — a plan and an action take their course.
* `Turn`, `Turns` — an action with its rounds and its result, and actions one after the other;
  `runAll_turns` — a run takes a turn for each of its actions, unless the clock stops it;
  `runAll_course`, `execute_course` — and in any case it takes its course; `runAll_ended` — up to
  its last round, which alone may be stopped.
-/

namespace Reconcile

variable {σ α : Type}

/-! ## Rounds -/

/-- A request of an action. -/
structure Round (σ : Type) where
  action : Prepared
  verb : Verb
  /-- The resource that was found. -/
  id : Option String
  body : List UInt8
  before : World σ
  /-- The exchange for its credential. -/
  asked : Option Exchange
  /-- The exchange of the request itself. -/
  sent : Option Exchange
  out : Except ClockOverflow (Except ActionError (List UInt8))
  after : World σ

namespace Round

/-- The exchanges of a round. -/
def exchanges (r : Round σ) : List Exchange :=
  r.asked.toList ++ r.sent.toList

/-- Whether the clock stopped the run meanwhile. -/
def stopped (r : Round σ) : Bool :=
  match r.out with
  | .error _ => true
  | .ok _ => false

/-- What came back for the request. -/
def answer? (r : Round σ) : Option (Except HttpError Response) :=
  r.sent.bind fun x => x.reply.result?

/-- The exchange of a request: it goes where the action says, with the credential that the request
obtained, and its answer decides the result. -/
structure Sends (s : Setup σ) (r : Round σ) (url : Url) (x : Exchange) : Prop where
  purpose : x.purpose = .target
  asked : r.asked = (r.before.asking? s r.action.action.authRef).map Prod.snd
  /-- The exchange for the credential did not stop the run. -/
  granted : ∀ a q, r.before.asking? s r.action.action.authRef = some (a, q) →
    a.grants q ≠ .error {}
  address : Url.parse (s.rawUrl r.action r.before.store r.verb r.id) = .ok url
  request : x.request =
    { r.action.request s r.verb url r.body with
      headers := r.action.attaching (r.before.credential? s r.action.action.authRef) }
  out : r.out =
    .ok (((r.action.record r.verb url).outcome x.reply.result?).mapError ActionError.http)
  logged : ∃ w : World σ, w.events.getLast? = some (.sent .target x.request) ∧
    r.after = w.logging (r.action.answerLines (r.action.record r.verb url) x.reply.result?)

/-- A round that took place. -/
structure Holds (s : Setup σ) (r : Round σ) : Prop where
  ran : (perform s r.action r.verb r.id r.body).run r.before = (r.out, r.after)
  path : Path s r.before r.exchanges r.after
  asked : ∀ x ∈ r.asked, ∃ a, r.before.asking? s r.action.action.authRef = some (a, x)
  sent : ∀ x ∈ r.sent, ∃ url, r.Sends s url x
  /-- A request is not sent after its credential was asked for only if the run was cancelled or
  stopped meanwhile. -/
  unsent : r.sent = none → ∀ x ∈ r.asked, x.reply.cancels = true ∨ r.stopped = true
  overrun : ∀ e, r.out = .error e → r.sent = none ∧
    ∃ x ∈ r.asked, ∃ a, s.entry? r.action.action.authRef = some a ∧ a.grants x = .error {}
  store : r.after.store = r.action.storeAfter r.before.store r.answer?

theorem Holds.asks {s : Setup σ} {r : Round σ} (h : r.Holds s) :
    ∀ x ∈ r.asked, Asks s r.action.action.authRef x := by
  intro x hx
  obtain ⟨a, ha⟩ := h.asked x hx
  exact World.asks_of_asking ha

/-- Among the exchanges of a round, that of the request itself is the one for its action. -/
theorem Holds.targets {s : Setup σ} {r : Round σ} (h : r.Holds s) :
    r.exchanges.filterMap Exchange.target? = (r.sent.map Exchange.request).toList := by
  have hasked : r.asked.toList.filterMap Exchange.target? = [] := by
    refine List.filterMap_eq_nil_iff.mpr fun q hq => ?_
    rw [Exchange.target?, (h.asks q (Option.mem_toList.mp hq)).1]
  rw [exchanges, List.filterMap_append, hasked, List.nil_append]
  cases hx : r.sent with
  | none => rfl
  | some x =>
    obtain ⟨url, hs⟩ := h.sent x hx
    simp [Exchange.target?, hs.purpose]

/-- What comes back for a request is a reply of the transport. -/
theorem Holds.replied {s : Setup σ} {r : Round σ} (h : r.Holds s) {x : Exchange}
    (hx : r.sent = some x) : ∃ state, r.answer? = (s.transport x.request state).1.result? := by
  obtain ⟨state, hreply⟩ := h.path.replies x (by simp [exchanges, hx])
  exact ⟨state, by rw [answer?, hx, Option.bind_some, hreply]⟩

/-- How a request fails that is not sent. -/
theorem Holds.out_of_unsent {s : Setup σ} {r : Round σ} (h : r.Holds s) (hs : r.sent = none)
    {a : Except ActionError (List UInt8)} (ho : r.out = .ok a) :
    (∃ raw cause, a = .error (.invalidUrl r.action.name raw cause)) ∨
      ∃ d : Diagnostic, a = .error (.http (d.ofTransport HttpError.cancelled.message)) := by
  have ht := h.path.targets
  rw [h.targets, hs] at ht
  have hp := perform_cases s r.action r.verb r.id r.body r.before
  rw [h.ran, ho] at hp
  generalize r.after = after at hp ht
  cases hp with
  | malformed lines hu => exact .inl ⟨_, _, rfl⟩
  | unsent lines hu hd hw => exact .inr ⟨_, rfl⟩
  | @exchanged url q names w₁ lines hu hd hw =>
    -- the request would be among those for actions
    obtain ⟨xs, hx, -⟩ := hd.path
    have hpath := (((((Path.refl.logging lines).append hx).logging
      [r.action.headerLine r.verb url q names]).exchanging .target q hw).storing
        (r.action.storeAfter w₁.store (w₁.reply s q).result?)).logging
          (r.action.answerLines (r.action.record r.verb url) (w₁.reply s q).result?)
    have hsent := hpath.targets
    rw [List.filterMap_append] at hsent
    have hlength := congrArg List.length (ht.symm.trans hsent)
    simp [Exchange.target?, World.exchange] at hlength

/-- A request that succeeds returns the body of its answer. -/
theorem Holds.answer_of_ok {s : Setup σ} {r : Round σ} (h : r.Holds s) {body : List UInt8}
    (ho : r.out = .ok (.ok body)) :
    ∃ q, r.answer? = some (.ok q) ∧ q.status ≤ 299 ∧ q.body = body := by
  cases hs : r.sent with
  | none => rcases h.out_of_unsent hs ho with ⟨_, _, he⟩ | ⟨_, he⟩ <;> cases he
  | some x =>
    obtain ⟨url, hsends⟩ := h.sent x hs
    have hout := hsends.out
    rw [ho] at hout
    match hr : x.reply.result? with
    | none =>
      rw [hr] at hout
      cases hout
    | some (.error cause) =>
      rw [hr] at hout
      cases hout
    | some (.ok q) =>
      refine ⟨q, by rw [answer?, hs, Option.bind_some, hr], ?_⟩
      rw [hr, Diagnostic.outcome, Diagnostic.classify] at hout
      by_cases hsuccess : isSuccess q.status = true
      · rw [if_pos hsuccess] at hout
        cases hout
        exact ⟨by simpa [isSuccess] using hsuccess, rfl⟩
      · rw [if_neg hsuccess] at hout
        cases hout

end Round

section Rounds

variable {s : Setup σ} {p : Prepared} {verb : Verb} {id : Option String} {body : List UInt8}
  {w w' : World σ} {out : Except ClockOverflow (Except ActionError (List UInt8))}

/-- **Every request of an action is a round.** -/
theorem Performed.round (h : Performed s p verb id body w out w')
    (hran : (perform s p verb id body).run w = (out, w')) :
    ∃ asked sent, Round.Holds s ⟨p, verb, id, body, w, asked, sent, out, w'⟩ := by
  have hnone : ∀ {P : Exchange → Prop}, ∀ x ∈ (none : Option Exchange), P x := by
    intro P x hx
    cases hx
  have hasked : ∀ x ∈ (w.asking? s p.action.authRef).map Prod.snd,
      ∃ a, w.asking? s p.action.authRef = some (a, x) := by
    intro x hx
    obtain ⟨⟨a, _⟩, ha, rfl⟩ := Option.map_eq_some_iff.mp hx
    exact ⟨a, ha⟩
  cases h with
  | malformed lines hu =>
    refine ⟨none, none, hran, Path.refl.logging lines, hnone, hnone, fun _ => hnone, ?_, rfl⟩
    rintro e ⟨⟩
  | overrun lines hu hd =>
    obtain ⟨hx, hg⟩ := hd.asks
    have hpath := (Path.refl.logging lines).append hx
    refine ⟨_, none, hran, ?_, hasked, hnone, fun _ _ _ => .inr rfl, ?_, hd.store⟩
    · rw [Round.exchanges, Option.toList_none, List.append_nil]
      exact hpath
    · intro e _
      obtain ⟨a, x, hax, hg⟩ := hg.mp rfl
      have hax : w.asking? s p.action.authRef = some (a, x) := hax
      exact ⟨rfl, x, Option.map_eq_some_iff.mpr ⟨_, hax, rfl⟩, a,
        (World.asking?_eq_some.mp hax).2.2.1, hg⟩
  | @unsent url r names w₁ lines hu hd hw =>
    obtain ⟨hx, _⟩ := hd.asks
    have hpath := ((Path.refl.logging lines).append hx).logging [p.headerLine verb url r names]
    refine ⟨_, none, hran, ?_, hasked, hnone, ?_, ?_, hd.store⟩
    · rw [Round.exchanges, Option.toList_none, List.append_nil]
      exact hpath
    · -- the run was not cancelled when the credential was asked for, and is now
      intro _ x hxa
      obtain ⟨a, ha⟩ := hasked x hxa
      have hstart : w.cancelled = false := (World.asking?_eq_some.mp ha).1
      have hasking : ((w.logging lines).asking? s p.action.authRef).map Prod.snd = some x := hxa
      have hc := hpath.cancelled
      rw [World.logging_cancelled, hw, hstart, hasking] at hc
      left
      simpa using hc.symm
    · rintro e ⟨⟩
  | @exchanged url r names w₁ lines hu hd hw =>
    obtain ⟨hx, hg⟩ := hd.asks
    have hpath := ((Path.refl.logging lines).append hx).logging [p.headerLine verb url r names]
    refine ⟨_, some (w₁.exchange s .target r), hran, ?_, hasked, ?_, ?_, ?_, ?_⟩
    · exact ((hpath.exchanging .target r hw).storing _).logging _
    · intro x hxs
      cases hxs
      refine ⟨url, rfl, rfl, fun a q ha hq => ?_, hu, hd.obtained rfl, rfl, _,
        List.getLast?_concat, rfl⟩
      cases hg.mpr ⟨a, q, ha, hq⟩
    · rintro ⟨⟩
    · rintro e ⟨⟩
    · show p.storeAfter w₁.store _ = p.storeAfter w.store _
      rw [hd.store]
      rfl

end Rounds

/-! ## Rounds one after the other -/

/-- Rounds one after the other; in between only lines are logged. -/
inductive Course (s : Setup σ) : World σ → List (Round σ) → World σ → Prop
  | done {w : World σ} (lines : List LogLine) : Course s w [] (w.logging lines)
  | round {w w' : World σ} {r : Round σ} {rest : List (Round σ)} (lines : List LogLine)
      (hb : r.before = w.logging lines) (hr : r.Holds s) (h : Course s r.after rest w') :
      Course s w (r :: rest) w'

namespace Course

variable {s : Setup σ} {w w' w'' : World σ} {xs ys : List (Round σ)} {r : Round σ}

theorem refl (w : World σ) : Course s w [] w := by
  have h : Course s w [] (w.logging []) := .done []
  rwa [World.logging_nil] at h

theorem of_logging {lines : List LogLine} (h : Course s (w.logging lines) xs w') :
    Course s w xs w' := by
  generalize hw : w.logging lines = w₀ at h
  cases h with
  | done more =>
    rw [← hw, World.logging_logging]
    exact .done _
  | round more hb hr h =>
    rw [← hw, World.logging_logging] at hb
    exact .round _ hb hr h

/-- A round, and then what comes after it. -/
theorem cons (hr : r.Holds s) (h : Course s r.after xs w') : Course s r.before (r :: xs) w' :=
  .round [] (World.logging_nil r.before).symm hr h

theorem append (h : Course s w xs w') (h' : Course s w' ys w'') : Course s w (xs ++ ys) w'' := by
  induction h with
  | done lines => exact h'.of_logging
  | round lines hb hr _ ih => exact .round lines hb hr (ih h')

theorem holds (h : Course s w xs w') : ∀ r ∈ xs, r.Holds s := by
  induction h with
  | done lines => simp
  | round lines _ hr _ ih => exact List.forall_mem_cons.mpr ⟨hr, ih⟩

/-- The exchanges of a course are those of its rounds. -/
theorem path (h : Course s w xs w') : Path s w (xs.flatMap Round.exchanges) w' := by
  induction h with
  | done lines => exact Path.refl.logging lines
  | round lines hb hr _ ih =>
    rw [List.flatMap_cons]
    have hp := hr.path
    rw [hb] at hp
    exact ((Path.refl.logging lines).append hp).append ih

/-- **The requests for actions are those of the rounds.** -/
theorem targets (h : Course s w xs w') :
    w'.targets = w.targets ++ xs.filterMap fun r => r.sent.map Exchange.request := by
  induction h with
  | done lines => simp
  | @round w w' r rest lines hb hr _ ih =>
    rw [ih, hr.path.targets, hr.targets, hb, World.logging_targets, List.append_assoc]
    cases hx : r.sent <;> simp [hx]

/-- A round starts where the rounds before it lead. -/
theorem split {pre post : List (Round σ)} (h : Course s w (pre ++ r :: post) w') :
    Course s w pre r.before ∧ Course s r.after post w' := by
  generalize hxs : pre ++ r :: post = xs at h
  induction h generalizing pre with
  | done lines => simp at hxs
  | @round w w' r' rest lines hb hr h ih =>
    cases pre with
    | nil =>
      cases hxs
      exact ⟨hb ▸ .done lines, h⟩
    | cons x pre =>
      cases hxs
      obtain ⟨h₁, h₂⟩ := ih rfl
      exact ⟨.round lines hb hr h₁, h₂⟩

/-- The store that rounds leave, each by what came back for its request. -/
theorem store (h : Course s w xs w') :
    w'.store = xs.foldl (fun store r => r.action.storeAfter store r.answer?) w.store := by
  induction h with
  | done lines => rfl
  | round lines hb hr _ ih =>
    rw [ih, hr.store, hb, List.foldl_cons]
    rfl

end Course

/-- Rounds that all come to an end, or all but the last one when the clock stops the run. -/
def Ended (xs : List (Round σ)) : Except ClockOverflow α → Prop
  | .ok _ => ∀ r ∈ xs, r.stopped = false
  | .error e => ∃ init last, xs = init ++ [last] ∧ last.out = .error e ∧
      ∀ r ∈ init, r.stopped = false

theorem Ended.cons {r : Round σ} {xs : List (Round σ)} {out : Except ClockOverflow α}
    (hr : r.stopped = false) (h : Ended xs out) : Ended (r :: xs) out := by
  cases out with
  | ok a => exact List.forall_mem_cons.mpr ⟨hr, h⟩
  | error e =>
    obtain ⟨init, last, rfl, hlast, hinit⟩ := h
    exact ⟨r :: init, last, rfl, hlast, List.forall_mem_cons.mpr ⟨hr, hinit⟩⟩

/-- What a run comes to tells whether one of its rounds was stopped. -/
theorem Ended.error_iff {rounds : List (Round σ)} {out : Except ClockOverflow α}
    (h : Ended rounds out) : out = .error {} ↔ ∃ r ∈ rounds, r.stopped = true := by
  cases out with
  | ok a =>
    refine iff_of_false (by rintro ⟨⟩) ?_
    rintro ⟨r, hr, hstopped⟩
    rw [h r hr] at hstopped
    cases hstopped
  | error e =>
    obtain ⟨init, last, rfl, hlast, -⟩ := h
    refine iff_of_true rfl ⟨last, List.mem_append_right _ List.mem_cons_self, ?_⟩
    rw [Round.stopped, hlast]

/-! ## Plans and actions -/

section Actions

variable (s : Setup σ) (p : Prepared)

/-- **A plan takes its course.** -/
theorem carryOut_course (b : Payloads) (plan : Plan) (w : World σ) :
    ∃ xs, Course s w xs ((carryOut s p b plan).run w).2 ∧ (∀ r ∈ xs, r.action = p) ∧
      Ended xs ((carryOut s p b plan).run w).1 := by
  induction plan generalizing w with
  | done r => exact ⟨[], .refl w, by simp, by simp [carryOut, Ended]⟩
  | remark message next ih =>
    rw [carryOut, run_bind_ok (log_run ..)]
    obtain ⟨xs, hc, hp, he⟩ := ih (w.logging [⟨.info, message⟩])
    exact ⟨xs, hc.of_logging, hp, he⟩
  | request verb id payload next ih =>
    obtain ⟨asked, sent, hr⟩ := (perform_cases s p verb id (b.bytes payload) w).round rfl
    rcases hx : (perform s p verb id (b.bytes payload)).run w with ⟨e | a, w₁⟩
    · rw [hx] at hr
      rw [carryOut, run_bind_error hx]
      exact ⟨[_], .cons hr (.refl w₁), by simp, [], _, rfl, rfl, by simp⟩
    · rw [hx] at hr
      rw [carryOut, run_bind_ok hx]
      obtain ⟨xs, hc, hp, he⟩ := ih a w₁
      exact ⟨_ :: xs, .cons hr hc, List.forall_mem_cons.mpr ⟨rfl, hp⟩, he.cons rfl⟩

/-- **An action takes its course.** -/
theorem runAction_course (w : World σ) :
    ∃ xs, Course s w xs ((runAction s p).run w).2 ∧ (∀ r ∈ xs, r.action = p) ∧
      Ended xs ((runAction s p).run w).1 := by
  obtain ⟨lines, hb⟩ := payloadsFor_run s p w
  rw [runAction, run_bind_ok hb]
  obtain ⟨xs, hc, hp, he⟩ := carryOut_course s p _ _ (w.logging lines)
  exact ⟨xs, hc.of_logging, hp, he⟩

end Actions

/-! ## Whole runs -/

/-- The line that announces an action. -/
def Prepared.opening (p : Prepared) : LogLine :=
  ⟨.info, "running action " ++ p.name ++ " (" ++ p.action.strategy.name ++ ")"⟩

/-- The line that tells how an action went. -/
def Prepared.closing (p : Prepared) : Except ActionError Unit → LogLine
  | .ok () => ⟨.debug, "action " ++ p.name ++ " completed"⟩
  | .error e => ⟨.error, "action " ++ p.name ++ " failed: " ++ e.text⟩

/-- The error of an action that failed. -/
def errorOf? : Except ActionError Unit → Option ActionError
  | .ok () => none
  | .error e => some e

/-- An action that was run. -/
structure Turn (σ : Type) where
  action : Prepared
  before : World σ
  rounds : List (Round σ)
  result : Except ActionError Unit
  after : World σ

namespace Turn

/-- The exchanges of a turn. -/
def exchanges (t : Turn σ) : List Exchange :=
  t.rounds.flatMap Round.exchanges

/-- The error of a turn whose action failed. -/
def error? (t : Turn σ) : Option ActionError :=
  errorOf? t.result

theorem error?_eq_some_iff {t : Turn σ} {e : ActionError} :
    t.error? = some e ↔ t.result = .error e := by
  rw [error?]
  cases t.result <;> simp [errorOf?]

/-- A turn that took place. -/
structure Holds (s : Setup σ) (t : Turn σ) : Prop where
  ran : (runAction s t.action).run t.before = (.ok t.result, t.after)
  course : Course s t.before t.rounds t.after
  own : ∀ r ∈ t.rounds, r.action = t.action
  ended : ∀ r ∈ t.rounds, r.stopped = false

end Turn

/-- Actions one after the other, each announced before and with how it went after. -/
inductive Turns (s : Setup σ) : World σ → List (Turn σ) → World σ → Prop
  | done (w : World σ) : Turns s w [] w
  | turn {w w' : World σ} {t : Turn σ} {rest : List (Turn σ)}
      (hb : t.before = w.logging [t.action.opening]) (ht : t.Holds s)
      (h : Turns s (t.after.logging [t.action.closing t.result]) rest w') :
      Turns s w (t :: rest) w'

/-- An action that is stopped by the clock. -/
structure Halts (s : Setup σ) (p : Prepared) (w : World σ) (xs : List (Round σ)) (w' : World σ) :
    Prop where
  ran : (runAction s p).run w = (.error {}, w')
  course : Course s w xs w'
  own : ∀ r ∈ xs, r.action = p
  ended : Ended xs (.error {} : Except ClockOverflow (Except ActionError Unit))

section Runs

variable {s : Setup σ} {w w' : World σ}

/-- A run takes the course of its turns. -/
theorem Turns.course {turns : List (Turn σ)} (h : Turns s w turns w') :
    Course s w (turns.flatMap Turn.rounds) w' := by
  induction h with
  | done w => exact .refl w
  | turn hb ht _ ih =>
    rw [List.flatMap_cons]
    have hc := ht.course
    rw [hb] at hc
    exact hc.of_logging.append ih.of_logging

theorem Turns.holds {turns : List (Turn σ)} (h : Turns s w turns w') : ∀ t ∈ turns, t.Holds s := by
  induction h with
  | done w => simp
  | turn _ ht _ ih => exact List.forall_mem_cons.mpr ⟨ht, ih⟩

theorem runLogged_ok {p : Prepared} {result : Except ActionError Unit}
    (h : (runAction s p).run (w.logging [p.opening]) = (.ok result, w')) :
    (runLogged s p).run w = (.ok (errorOf? result), w'.logging [p.closing result]) := by
  have hl : (log .info ("running action " ++ p.name ++ " (" ++ p.action.strategy.name ++
      ")")).run w = (.ok (), w.logging [p.opening]) := log_run ..
  rw [runLogged, run_bind_ok hl, run_bind_ok h]
  cases result <;> rfl

theorem runLogged_error {p : Prepared} {e : ClockOverflow}
    (h : (runAction s p).run (w.logging [p.opening]) = (.error e, w')) :
    (runLogged s p).run w = (.error e, w') := by
  have hl : (log .info ("running action " ++ p.name ++ " (" ++ p.action.strategy.name ++
      ")")).run w = (.ok (), w.logging [p.opening]) := log_run ..
  rw [runLogged, run_bind_ok hl, run_bind_error h]

/-- **A run takes a turn for each of its actions**, in order and whatever fails, and returns the
errors of those that failed, unless the clock stops one of its actions. -/
theorem runAll_turns (s : Setup σ) (actions : List Prepared) (w : World σ) :
    (∃ turns w', Turns s w turns w' ∧ turns.map Turn.action = actions ∧
      (runAll s actions).run w = (.ok (turns.filterMap Turn.error?), w')) ∨
    ∃ turns p rest xs w₁ w', actions = turns.map Turn.action ++ p :: rest ∧ Turns s w turns w₁ ∧
      Halts s p (w₁.logging [p.opening]) xs w' ∧ (runAll s actions).run w = (.error {}, w') := by
  induction actions generalizing w with
  | nil => exact .inl ⟨[], w, .done w, rfl, rfl⟩
  | cons p rest ih =>
    obtain ⟨xs, hc, hp, he⟩ := runAction_course s p (w.logging [p.opening])
    rcases hr : (runAction s p).run (w.logging [p.opening]) with ⟨e | result, w₁⟩ <;>
      rw [hr] at hc he
    · exact .inr ⟨[], p, rest, xs, w, w₁, rfl, .done w, ⟨hr, hc, hp, he⟩,
        by rw [runAll, run_bind_error (runLogged_error hr)]⟩
    · have ht : Turn.Holds s ⟨p, w.logging [p.opening], xs, result, w₁⟩ := ⟨hr, hc, hp, he⟩
      rcases ih (w₁.logging [p.closing result]) with
        ⟨turns, w', hts, ha, hrest⟩ | ⟨turns, q, rest', ys, w₂, w', ha, hts, hq, hrest⟩
      · refine .inl ⟨⟨p, _, xs, result, w₁⟩ :: turns, w', .turn rfl ht hts,
          congrArg (p :: ·) ha, ?_⟩
        rw [runAll, run_bind_ok (runLogged_ok hr), run_bind_ok hrest, run_pure]
        cases result <;> rfl
      · refine .inr ⟨⟨p, _, xs, result, w₁⟩ :: turns, q, rest', ys, w₂, w',
          congrArg (p :: ·) ha, .turn rfl ht hts, hq, ?_⟩
        rw [runAll, run_bind_ok (runLogged_ok hr), run_bind_error hrest]

/-- The rounds of turns come to their end, each for the action of its turn. -/
theorem Turns.rounds {turns : List (Turn σ)} (h : Turns s w turns w') :
    ∀ r ∈ turns.flatMap Turn.rounds, r.action ∈ turns.map Turn.action ∧ r.stopped = false := by
  intro r hr
  obtain ⟨t, ht, hr⟩ := List.mem_flatMap.mp hr
  have hturn := h.holds t ht
  exact ⟨List.mem_map.mpr ⟨t, ht, (hturn.own r hr).symm⟩, hturn.ended r hr⟩

/-- **A run takes its course up to its last round**, which alone may be stopped. -/
theorem runAll_ended (s : Setup σ) (actions : List Prepared) (w : World σ) :
    ∃ rounds, Course s w rounds ((runAll s actions).run w).2 ∧
      (∀ r ∈ rounds, r.action ∈ actions) ∧ Ended rounds ((runAll s actions).run w).1 := by
  rcases runAll_turns s actions w with
    ⟨turns, w', hts, rfl, hr⟩ | ⟨turns, p, rest, xs, w₁, w', rfl, hts, hh, hr⟩ <;> rw [hr]
  · exact ⟨_, hts.course, fun r hr => (hts.rounds r hr).1, fun r hr => (hts.rounds r hr).2⟩
  · obtain ⟨init, last, hxs, hlast, hinit⟩ := hh.ended
    refine ⟨_, hts.course.append hh.course.of_logging, List.forall_mem_append.mpr ⟨?_, ?_⟩,
      turns.flatMap Turn.rounds ++ init, last, by rw [hxs, List.append_assoc], hlast,
      List.forall_mem_append.mpr ⟨fun r hr => (hts.rounds r hr).2, hinit⟩⟩
    · exact fun r hr => List.mem_append_left _ (hts.rounds r hr).1
    · intro r hr
      rw [hh.own r hr]
      exact List.mem_append_right _ List.mem_cons_self

/-- **A run takes its course.** -/
theorem runAll_course (s : Setup σ) (actions : List Prepared) (w : World σ) :
    ∃ xs, Course s w xs ((runAll s actions).run w).2 ∧ ∀ r ∈ xs, r.action ∈ actions := by
  obtain ⟨rounds, hc, ha, -⟩ := runAll_ended s actions w
  exact ⟨rounds, hc, ha⟩

/-- **An execution takes its course**: its requests are those of its rounds. -/
theorem execute_course (s : Setup σ) (actions : List Prepared) (w : World σ) :
    ∃ rounds, Course s w.opened rounds (execute s actions w).2 ∧
      (∀ r ∈ rounds, r.action ∈ actions) ∧
      (execute s actions w).2.sent =
        (rounds.flatMap Round.exchanges).map fun x => (x.purpose, x.request) := by
  obtain ⟨rounds, hc, ha⟩ := runAll_course s actions w.opened
  exact ⟨rounds, hc, ha, hc.path.sent⟩

end Runs

end Reconcile
