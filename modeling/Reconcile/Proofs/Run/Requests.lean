import Reconcile.Proofs.Credential.Attaching

/-!
# The requests of an action

What can happen when an action performs a request, and where whole runs lead.

* `Prepared.request`, `Prepared.record` — a request before it carries a credential, and the record
  of its failure before anything is known about it.
* `Performed` — the four ways in which a request ends; `perform_cases` — there are no others.
* `Admits` — a relation between worlds that each step keeps to; then a plan does
  (`Admits.carryOut`), an action (`Admits.runAction`) and all of them (`Admits.runAll`).
* `runAll_path` — all actions lead along a path.
* `runAll_append` — some actions, and then the others.
-/

namespace Reconcile

variable {σ α β : Type}

/-- A request of an action before it carries a credential. -/
def Prepared.request (p : Prepared) (s : Setup σ) (verb : Verb) (url : Url)
    (body : List UInt8) : Request :=
  { method := verb, url, headers := p.headers, body, limits := s.limits }

/-- The record of a failed exchange before anything is known about it. -/
def Prepared.record (p : Prepared) (verb : Verb) (url : Url) : Diagnostic :=
  { name := p.name, target := target verb.name url }

/-- The line about the headers of a request; secrets are left out. -/
def Prepared.headerLine (p : Prepared) (verb : Verb) (url : Url) (r : Request)
    (names : List String) : LogLine :=
  ⟨.debug, p.name ++ ": " ++ target verb.name url ++ " headers [" ++
    (r.headers.redacted names).text ++ "]"⟩

/-- The ways in which a request of an action ends. -/
inductive Performed (s : Setup σ) (p : Prepared) (verb : Verb) (id : Option String)
    (body : List UInt8) (w : World σ) :
    Except ClockOverflow (Except ActionError (List UInt8)) → World σ → Prop
  /-- Its address is malformed. -/
  | malformed {cause : UrlError} (lines : List LogLine)
      (hu : Url.parse (s.rawUrl p w.store verb id) = .error cause) :
      Performed s p verb id body w
        (.ok (.error (.invalidUrl p.name (s.rawUrl p w.store verb id) cause))) (w.logging lines)
  /-- The run stops while it gets its credential. -/
  | overrun {url : Url} {e : ClockOverflow} {w₁ : World σ} (lines : List LogLine)
      (hu : Url.parse (s.rawUrl p w.store verb id) = .ok url)
      (hd : Decorated s p.action.authRef (p.request s verb url body) (w.logging lines)
        (.error e) w₁) : Performed s p verb id body w (.error e) w₁
  /-- It is not sent, for the run is cancelled. -/
  | unsent {url : Url} {r : Request} {names : List String} {w₁ : World σ} (lines : List LogLine)
      (hu : Url.parse (s.rawUrl p w.store verb id) = .ok url)
      (hd : Decorated s p.action.authRef (p.request s verb url body) (w.logging lines)
        (.ok (r, names)) w₁) (hw : w₁.cancelled = true) :
      Performed s p verb id body w
        (.ok (.error (.http ((p.record verb url).ofTransport HttpError.cancelled.message))))
        (w₁.logging [p.headerLine verb url r names])
  /-- It is exchanged for a reply. -/
  | exchanged {url : Url} {r : Request} {names : List String} {w₁ : World σ}
      (lines : List LogLine) (hu : Url.parse (s.rawUrl p w.store verb id) = .ok url)
      (hd : Decorated s p.action.authRef (p.request s verb url body) (w.logging lines)
        (.ok (r, names)) w₁) (hw : w₁.cancelled = false) :
      Performed s p verb id body w
        (.ok (((p.record verb url).outcome (w₁.reply s r).result?).mapError .http))
        ((((w₁.logging [p.headerLine verb url r names]).exchanged s .target r).storing
          (p.storeAfter w₁.store (w₁.reply s r).result?)).logging
            (p.answerLines (p.record verb url) (w₁.reply s r).result?))

theorem send_eq (s : Setup σ) (p : Prepared) (verb : Verb) (url : Url) (body : List UInt8) :
    send s p verb url body = (do
      let (r, names) ← decorate s p.action.authRef (p.request s verb url body)
      note (.logged (p.headerLine verb url r names))
      receive p (p.record verb url) (← submit s .target r)) := rfl

section Sending

variable {s : Setup σ} {p : Prepared} {verb : Verb} {url : Url} {body : List UInt8}
  {w w₁ : World σ} {r : Request} {names : List String}

theorem send_run_cancelled
    (hr : (decorate s p.action.authRef (p.request s verb url body)).run w = (.ok (r, names), w₁))
    (hw : w₁.cancelled = true) :
    (send s p verb url body).run w =
      (.ok (.error ((p.record verb url).ofTransport HttpError.cancelled.message)),
        w₁.logging [p.headerLine verb url r names]) := by
  have hw' : (w₁.logging [p.headerLine verb url r names]).cancelled = true := hw
  rw [send_eq, run_bind_ok hr]
  dsimp only
  rw [run_bind_ok (note_run ..), run_bind_ok (submit_run_cancelled s .target r hw')]
  rfl

theorem send_run_open
    (hr : (decorate s p.action.authRef (p.request s verb url body)).run w = (.ok (r, names), w₁))
    (hw : w₁.cancelled = false) :
    (send s p verb url body).run w =
      (.ok ((p.record verb url).outcome (w₁.reply s r).result?),
        (((w₁.logging [p.headerLine verb url r names]).exchanged s .target r).storing
          (p.storeAfter w₁.store (w₁.reply s r).result?)).logging
            (p.answerLines (p.record verb url) (w₁.reply s r).result?)) := by
  have hw' : (w₁.logging [p.headerLine verb url r names]).cancelled = false := hw
  rw [send_eq, run_bind_ok hr]
  dsimp only
  rw [run_bind_ok (note_run ..), run_bind_ok (submit_run_open s .target r hw')]
  exact receive_run p (p.record verb url) (w₁.reply s r).result?
    ((w₁.logging [p.headerLine verb url r names]).exchanged s .target r)

end Sending

/-- **A request of an action ends in one of four ways.** -/
theorem perform_cases (s : Setup σ) (p : Prepared) (verb : Verb) (id : Option String)
    (body : List UInt8) (w : World σ) :
    Performed s p verb id body w ((perform s p verb id body).run w).1
      ((perform s p verb id body).run w).2 := by
  simp only [perform, run_bind, urlFor_run]
  rcases hu : Url.parse (s.rawUrl p w.store verb id) with cause | url
  · exact .malformed _ hu
  · simp only [mapError_ok, run_bind]
    generalize p.problemLines (s.filledSuffix p w.store verb) = lines
    have hd := decorate_cases s p.action.authRef (p.request s verb url body) (w.logging lines)
    rcases hr : (decorate s p.action.authRef (p.request s verb url body)).run
      (w.logging lines) with ⟨_ | ⟨r, names⟩, w₁⟩
    · rw [hr] at hd
      rw [send_eq, run_bind_error hr]
      exact .overrun lines hu hd
    · rw [hr] at hd
      cases hw : w₁.cancelled with
      | true =>
        rw [send_run_cancelled hr hw]
        exact .unsent lines hu hd hw
      | false =>
        rw [send_run_open hr hw]
        exact .exchanged lines hu hd hw

/-! ## Whole runs -/

/-- The world in which an execution starts: nothing is cached yet, and nothing has happened. -/
def World.opened (w : World σ) : World σ :=
  { w with cache := {}, events := [] }

section Whole

variable {s : Setup σ}

theorem Performed.path {p : Prepared} {verb : Verb} {id : Option String} {body : List UInt8}
    {w w' : World σ} {out : Except ClockOverflow (Except ActionError (List UInt8))}
    (h : Performed s p verb id body w out w') : ∃ xs, Path s w xs w' := by
  cases h with
  | malformed lines => exact ⟨_, Path.refl.logging lines⟩
  | overrun lines _ hd =>
    obtain ⟨xs, hx, _⟩ := hd.path
    exact ⟨_, (Path.refl.logging lines).append hx⟩
  | unsent lines _ hd =>
    obtain ⟨xs, hx, _⟩ := hd.path
    exact ⟨_, ((Path.refl.logging lines).append hx).logging _⟩
  | exchanged lines _ hd hw =>
    obtain ⟨xs, hx, _⟩ := hd.path
    exact ⟨_, (((((Path.refl.logging lines).append hx).logging _).exchanging .target _
      hw).storing _).logging _⟩

/-- A relation between worlds that every step of some actions keeps to. -/
structure Admits (s : Setup σ) (actions : List Prepared) (R : World σ → World σ → Prop) : Prop where
  refl : ∀ w, R w w
  trans : ∀ {w w' w''}, R w w' → R w' w'' → R w w''
  logging : ∀ w lines, R w (w.logging lines)
  performed : ∀ {p verb id body w out w'}, p ∈ actions → Performed s p verb id body w out w' →
    R w w'

namespace Admits

variable {actions : List Prepared} {R : World σ → World σ → Prop} (h : Admits s actions R)
  {p : Prepared}

include h

theorem bind {x : Run σ α} {f : α → Run σ β} (hx : ∀ w, R w (x.run w).2)
    (hf : ∀ a w, R w ((f a).run w).2) (w : World σ) : R w ((x >>= f).run w).2 := by
  have hw := hx w
  rcases hr : x.run w with ⟨e | a, w'⟩ <;> rw [hr] at hw
  · rw [run_bind_error hr]
    exact hw
  · rw [run_bind_ok hr]
    exact h.trans hw (hf a w')

theorem pure (a : α) (w : World σ) : R w ((pure a : Run σ α).run w).2 := h.refl w

theorem log (level : LogLevel) (message : String) (w : World σ) :
    R w ((log level message : Run σ Unit).run w).2 :=
  h.logging w [⟨level, message⟩]

theorem carryOut (hp : p ∈ actions) (b : Payloads) (plan : Plan) (w : World σ) :
    R w ((carryOut s p b plan).run w).2 := by
  induction plan generalizing w with
  | done r => exact h.pure r w
  | remark message next ih => exact h.bind (h.log _ _) (fun _ => ih) w
  | request verb id payload next ih =>
    exact h.bind (fun w => h.performed hp (perform_cases s p verb id _ w)) ih w

theorem runAction (hp : p ∈ actions) (w : World σ) : R w ((runAction s p).run w).2 := by
  refine h.bind (fun w => ?_) (fun b => h.carryOut hp b _) w
  obtain ⟨lines, hl⟩ := payloadsFor_run s p w
  rw [hl]
  exact h.logging w lines

theorem runLogged (hp : p ∈ actions) (w : World σ) : R w ((runLogged s p).run w).2 := by
  refine h.bind (h.log _ _) (fun _ => h.bind (h.runAction hp) fun r => ?_) w
  cases r with
  | ok _ => exact h.bind (h.log _ _) fun _ => h.pure _
  | error e => exact h.bind (h.log _ _) fun _ => h.pure _

/-- **All actions, one after the other, keep to it.** -/
theorem runAll {list : List Prepared} (hl : ∀ p ∈ list, p ∈ actions) (w : World σ) :
    R w ((runAll s list).run w).2 := by
  induction list generalizing w with
  | nil => exact h.pure _ w
  | cons p rest ih =>
    exact h.bind (h.runLogged (hl p List.mem_cons_self))
      (fun _ => h.bind (ih fun p hp => hl p (List.mem_cons_of_mem _ hp)) fun _ => h.pure _) w

end Admits

theorem admits_path (actions : List Prepared) :
    Admits s actions fun w w' => ∃ xs, Path s w xs w' where
  refl _ := ⟨_, .refl⟩
  trans hx hy := ⟨_, hx.choose_spec.append hy.choose_spec⟩
  logging _ lines := ⟨_, Path.refl.logging lines⟩
  performed _ hp := hp.path

/-- **All actions, one after the other, lead along a path.** -/
theorem runAll_path (actions : List Prepared) (w : World σ) :
    ∃ xs, Path s w xs ((runAll s actions).run w).2 :=
  (admits_path actions).runAll (fun _ hp => hp) w

/-- Actions run on from the world that the actions before them leave. -/
theorem runAll_append {done : List Prepared} {errors : List ActionError} {w w₁ : World σ}
    (h : (runAll s done).run w = (.ok errors, w₁)) (rest : List Prepared) :
    (runAll s (done ++ rest)).run w =
      (((runAll s rest).run w₁).1.map (errors ++ ·), ((runAll s rest).run w₁).2) := by
  induction done generalizing w errors with
  | nil =>
    cases h
    rcases hr : (runAll s rest).run w₁ with ⟨_ | more, w'⟩ <;> rw [List.nil_append, hr] <;> rfl
  | cons p done ih =>
    rw [List.cons_append]
    rcases hp : (runLogged s p).run w with ⟨x | e, w₂⟩
    · rw [runAll, run_bind_error hp] at h
      cases h
    · rcases hd : (runAll s done).run w₂ with ⟨x | errors', w₃⟩
      · rw [runAll, run_bind_ok hp, run_bind_error hd] at h
        cases h
      · rw [runAll, run_bind_ok hp, run_bind_ok hd, run_pure] at h
        cases h
        have hrest := ih hd
        rcases hr : (runAll s rest).run w₁ with ⟨x | more, w'⟩ <;> rw [hr] at hrest
        · rw [runAll, run_bind_ok hp, run_bind_error hrest]
          rfl
        · rw [runAll, run_bind_ok hp, run_bind_ok hrest, run_pure]
          simp only [Except.map, List.append_assoc]

end Whole

end Reconcile
