import Reconcile.Proofs.Run.Requests

/-!
# What runs report

A run only ever adds to the events behind it, and never looks back at them.

* `Adds` — a step that does the same whatever lies behind it, with the events that it adds;
  `adds_bind` and its like — one rule for each way in which steps are put together.
* `Prepared.templates` — the templates that an action fills in.
* `Uttered` — what one request of an action may add: requests, details, the line about an entry that
  is missing, and failures of four kinds; `perform_adds` — it adds nothing else.
* `Reported` — what a run may add: requests, remarks, and failures of five kinds;
  `runAll_adds` — it adds nothing else.
* `Oblivious` — a step to which log lines make no difference; `carryOut_oblivious`,
  `runAll_oblivious`.
-/

namespace Reconcile

variable {σ α β : Type}

/-! ## Adding events -/

/-- A world with other events behind it. -/
def World.recalling (w : World σ) (past : List Event) : World σ :=
  { w with events := past }

/-- A step that does the same whatever lies behind it, and adds events of some kind. -/
def Adds (P : Event → Prop) (x : Run σ α) : Prop :=
  ∀ w, ∃ es, (∀ e ∈ es, P e) ∧
    ∀ past, x.run (w.recalling past) = ((x.run w).1, (x.run w).2.recalling (past ++ es))

section Rules

variable {P : Event → Prop}

/-- Events of some kind are of any kind that covers it. -/
theorem Adds.mono {Q : Event → Prop} {x : Run σ α} (h : Adds P x) (hq : ∀ e, P e → Q e) :
    Adds Q x := by
  intro w
  obtain ⟨es, he, hr⟩ := h w
  exact ⟨es, fun e hm => hq e (he e hm), hr⟩

/-- A step that adds nothing. -/
theorem adds_nothing {x : Run σ α}
    (h : ∀ w past, x.run (w.recalling past) = ((x.run w).1, (x.run w).2.recalling past)) :
    Adds P x := by
  intro w
  refine ⟨[], by simp, fun past => ?_⟩
  rw [List.append_nil, h]

theorem adds_pure (a : α) : Adds P (pure a : Run σ α) :=
  adds_nothing fun _ _ => rfl

theorem adds_modify {f : World σ → World σ}
    (h : ∀ w past, f (World.recalling w past) = (f w).recalling past) :
    Adds P (modify f : Run σ PUnit) :=
  adds_nothing fun w past => by rw [run_modify, run_modify, h]

theorem adds_isCancelled : Adds P (isCancelled : Run σ Bool) :=
  adds_nothing fun _ _ => rfl

theorem adds_log {level : LogLevel} {message : String} (h : P (.logged ⟨level, message⟩)) :
    Adds P (log level message : Run σ Unit) :=
  fun _ => ⟨[.logged ⟨level, message⟩], by simpa using h, fun _ => rfl⟩

theorem adds_bind {x : Run σ α} {f : α → Run σ β} (hx : Adds P x) (hf : ∀ a, Adds P (f a)) :
    Adds P (x >>= f) := by
  intro w
  obtain ⟨es, he, hr⟩ := hx w
  rcases hw : x.run w with ⟨e | a, w'⟩
  · refine ⟨es, he, fun past => ?_⟩
    have hpast := hr past
    rw [hw] at hpast
    rw [run_bind_error hpast, run_bind_error hw]
  · obtain ⟨es', he', hr'⟩ := hf a w'
    refine ⟨es ++ es', ?_, fun past => ?_⟩
    · intro e hm
      exact (List.mem_append.mp hm).elim (he e) (he' e)
    · have hpast := hr past
      rw [hw] at hpast
      rw [run_bind_ok hpast, run_bind_ok hw, hr', List.append_assoc]

/-- A step that looks at the world, but not at what lies behind it. -/
theorem adds_get {f : World σ → Run σ α} (hf : ∀ w, Adds P (f w))
    (h : ∀ w past, f (World.recalling w past) = f w) : Adds P (get >>= f) := by
  intro w
  obtain ⟨es, he, hr⟩ := hf w w
  refine ⟨es, he, fun past => ?_⟩
  rw [run_bind_ok (run_get w), run_bind_ok (run_get (w.recalling past)), h, hr]

theorem adds_submit {s : Setup σ} {purpose : Purpose} {r : Request} (h : P (.sent purpose r)) :
    Adds P (submit s purpose r) := by
  intro w
  cases hw : w.cancelled with
  | true =>
    refine ⟨[], by simp, fun past => ?_⟩
    rw [submit_run_cancelled s purpose r hw, List.append_nil]
    exact submit_run_cancelled s purpose r hw
  | false =>
    refine ⟨[.sent purpose r], by simpa using h, fun past => ?_⟩
    rw [submit_run_open s purpose r hw]
    exact submit_run_open s purpose r hw

end Rules

/-! ## The events of a run -/

/-- The templates that an action fills in: its payload, the one for PATCH if it may send that, and
its suffixes. -/
def Prepared.templates (p : Prepared) : List String :=
  p.action.payload ::
    ((if p.action.strategy == .findPatchPost then [p.action.patchPayload.getD ""] else []) ++
      Verb.all.filterMap p.action.suffix)

theorem Prepared.suffix_mem_templates {p : Prepared} {verb : Verb} {t : String}
    (h : p.action.suffix verb = some t) : t ∈ p.templates := by
  have hv : verb ∈ Verb.all := by cases verb <;> decide
  exact List.mem_cons_of_mem _ (List.mem_append_right _ (List.mem_filterMap.mpr ⟨verb, hv, h⟩))

theorem Prepared.patch_mem_templates {p : Prepared} (h : p.action.strategy = .findPatchPost) :
    p.action.patchPayload.getD "" ∈ p.templates := by
  rw [templates, h]
  exact List.mem_cons_of_mem _ List.mem_cons_self

/-- The line about an entry that is missing. -/
def undeclared (ref : String) : LogLine :=
  ⟨.info, "authMapRef " ++ ref ++ " not declared, sending request without credentials"⟩

/-- What one request of an action may add: requests, details, the line about its entry where that is
missing, and failures of four kinds. -/
inductive Uttered (s : Setup σ) (p : Prepared) : Event → Prop
  | sent (purpose : Purpose) (r : Request) : Uttered s p (.sent purpose r)
  | detail (message : String) : Uttered s p (.logged ⟨.debug, message⟩)
  | undeclared (hr : p.action.authRef.isEmpty = false) (ha : s.auth.get? p.action.authRef = none) :
      Uttered s p (.logged (undeclared p.action.authRef))
  | credential (ref cause : String) :
      Uttered s p (.logged
        ⟨.error, "failed to obtain credentials for " ++ ref ++ ": " ++ cause⟩)
  | template {t : String} {store : Table Json} {e : UnclosedBrace} (ht : t ∈ p.templates)
      (he : (s.filled p store t).problem = some e) :
      Uttered s p (.logged ⟨.error, "action " ++ p.name ++ ": template error: " ++ e.message⟩)
  | extraction (name cause : String) :
      Uttered s p (.logged
        ⟨.error, "action " ++ p.name ++ ": cannot extract runtime var " ++ name ++ ": " ++ cause⟩)
  | transport (target cause : String) :
      Uttered s p (.logged ⟨.error, p.name ++ ": " ++ target ++ " failed: " ++ cause⟩)

section Credentials

variable (s : Setup σ) (p : Prepared)

theorem tokenCredential_adds (t : Token) :
    Adds (Uttered s p) (tokenCredential t : Run σ Credential) :=
  adds_nothing fun w past => by
    rw [tokenCredential_run, tokenCredential_run]
    rfl

theorem acquireToken_adds (oauth : OAuth) (clientId clientSecret : String) (grant : Grant) :
    Adds (Uttered s p) (acquireToken s oauth clientId clientSecret grant) := by
  unfold acquireToken
  cases Url.parse oauth.serverUrl with
  | error e => exact adds_pure _
  | ok url =>
    refine adds_bind (adds_submit (.sent ..)) fun answer => ?_
    cases accepted answer with
    | error e => exact adds_pure _
    | ok r =>
      dsimp only
      cases Token.ofResponse r with
      | error e => exact adds_pure _
      | ok t => exact adds_bind (tokenCredential_adds s p t) fun _ => adds_pure _

theorem acquireLogin_adds (login : TokenLogin) : Adds (Uttered s p) (acquireLogin s login) := by
  unfold acquireLogin
  cases Url.parse login.authUrl with
  | error e => exact adds_pure _
  | ok url =>
    refine adds_bind (adds_submit (.sent ..)) fun answer => ?_
    cases accepted answer with
    | error e => exact adds_pure _
    | ok r => exact adds_pure _

theorem acquisition_adds {a : Auth} {acquire : Run σ (Except AuthError Credential)}
    (h : acquisition? s a = some acquire) : Adds (Uttered s p) acquire := by
  cases a with
  | noAuth => cases h
  | basic username password => cases h
  | static header value => cases h
  | clientCredentials clientId clientSecret oauth =>
    cases h
    exact acquireToken_adds s p oauth clientId clientSecret _
  | ownerPassword clientId clientSecret oauth user pass =>
    cases h
    exact acquireToken_adds s p oauth clientId clientSecret _
  | tokenLogin login =>
    cases h
    exact acquireLogin_adds s p login

theorem acquireAnew_adds (name : String) {acquire : Run σ (Except AuthError Credential)}
    (h : Adds (Uttered s p) acquire) : Adds (Uttered s p) (acquireAnew name acquire) := by
  refine adds_bind adds_isCancelled fun cancelled => ?_
  cases cancelled with
  | true => exact adds_pure _
  | false =>
    refine adds_bind h fun r => ?_
    cases r with
    | error e => exact adds_pure _
    | ok c =>
      exact adds_bind (adds_log (.detail _)) fun _ =>
        adds_bind (adds_modify fun _ _ => rfl) fun _ => adds_pure _

theorem cachedOrAcquired_adds (name : String) {acquire : Run σ (Except AuthError Credential)}
    (h : Adds (Uttered s p) acquire) : Adds (Uttered s p) (cachedOrAcquired name acquire) := by
  refine adds_get (fun w => ?_) fun _ _ => rfl
  cases w.cache.get? name with
  | none => exact acquireAnew_adds s p name h
  | some c =>
    dsimp only
    split
    · exact adds_pure _
    · exact adds_bind (adds_log (.detail _)) fun _ => acquireAnew_adds s p name h

theorem credentialFor_adds (name : String) (a : Auth) :
    Adds (Uttered s p) (credentialFor s name a) := by
  unfold credentialFor
  cases h : acquisition? s a with
  | some acquire =>
    exact adds_bind (cachedOrAcquired_adds s p name (acquisition_adds s p h)) fun _ => adds_pure _
  | none => cases a <;> exact adds_pure _

theorem decorate_adds (r : Request) : Adds (Uttered s p) (decorate s p.action.authRef r) := by
  unfold decorate
  split
  · exact adds_pure _
  · rename_i hr
    cases ha : s.auth.get? p.action.authRef with
    | none =>
      exact adds_bind (adds_log (.undeclared (Bool.eq_false_iff.mpr hr) ha)) fun _ => adds_pure _
    | some a =>
      refine adds_bind (credentialFor_adds s p p.action.authRef a) fun out => ?_
      rcases out with e | _ | c
      · exact adds_bind (adds_log (.credential p.action.authRef e.message)) fun _ => adds_pure _
      · exact adds_pure _
      · exact adds_pure _

end Credentials

section Requests

variable (s : Setup σ) (p : Prepared)

theorem renderFor_adds {template : String} (ht : template ∈ p.templates) :
    Adds (Uttered s p) (renderFor s p template) := by
  intro w
  refine ⟨(p.problemLines (s.filled p w.store template)).map .logged, ?_, fun past => ?_⟩
  · unfold Prepared.problemLines
    cases he : (s.filled p w.store template).problem with
    | none => simp
    | some e => simpa using .template ht he
  · rw [renderFor_run, renderFor_run]
    rfl

theorem urlFor_adds (verb : Verb) (id : Option String) :
    Adds (Uttered s p) (urlFor s p verb id) := by
  unfold urlFor
  cases h : p.action.suffix verb with
  | none => exact adds_bind (adds_pure _) fun _ => adds_pure _
  | some t =>
    exact adds_bind (renderFor_adds s p (Prepared.suffix_mem_templates h)) fun _ => adds_pure _

theorem Prepared.complaint?_uttered {body : List UInt8} {v : String × String} {line : LogLine}
    (h : p.complaint? body v = some line) : Uttered s p (.logged line) := by
  unfold Prepared.complaint? at h
  split at h
  · cases h
    exact .extraction v.1 _
  · cases h

theorem receive_adds (d : Diagnostic) (a : Option (Except HttpError Response)) :
    Adds (Uttered s p) (receive p d a : Run σ (Except Diagnostic (List UInt8))) := by
  intro w
  refine ⟨(p.answerLines d a).map .logged, ?_, fun past => ?_⟩
  · simp only [List.forall_mem_map]
    match a with
    | none => simp [Prepared.answerLines]
    | some (.error e) => simpa [Prepared.answerLines] using .transport d.target e.message
    | some (.ok r) =>
      refine List.forall_mem_cons.mpr ⟨.detail _, fun line hl => ?_⟩
      split at hl
      · obtain ⟨v, _, hv⟩ := List.mem_filterMap.mp hl
        exact Prepared.complaint?_uttered s p hv
      · cases hl
  · rw [receive_run, receive_run]
    rfl

/-- **A request of an action adds nothing else**, and does not look back. -/
theorem perform_adds (verb : Verb) (id : Option String) (body : List UInt8) :
    Adds (Uttered s p) (perform s p verb id body) := by
  refine adds_bind (urlFor_adds s p verb id) fun out => ?_
  cases out with
  | error e => exact adds_pure _
  | ok url =>
    refine adds_bind ?_ fun r => adds_pure _
    refine adds_bind (decorate_adds s p _) fun out => ?_
    exact adds_bind (adds_log (.detail _)) fun _ =>
      adds_bind (adds_submit (.sent ..)) fun a => receive_adds s p _ a

end Requests

/-- What a run of some actions may add: requests, remarks, and failures of five kinds. A template
is reported only if it is malformed. -/
inductive Reported (s : Setup σ) (actions : List Prepared) : Event → Prop
  | sent (purpose : Purpose) (r : Request) : Reported s actions (.sent purpose r)
  | remark (line : LogLine) (h : line.level ≠ .error) : Reported s actions (.logged line)
  | credential (ref cause : String) :
      Reported s actions (.logged
        ⟨.error, "failed to obtain credentials for " ++ ref ++ ": " ++ cause⟩)
  | template {p : Prepared} {t : String} {store : Table Json} {e : UnclosedBrace}
      (hp : p ∈ actions) (ht : t ∈ p.templates) (he : (s.filled p store t).problem = some e) :
      Reported s actions (.logged
        ⟨.error, "action " ++ p.name ++ ": template error: " ++ e.message⟩)
  | extraction {p : Prepared} (hp : p ∈ actions) (name cause : String) :
      Reported s actions (.logged
        ⟨.error, "action " ++ p.name ++ ": cannot extract runtime var " ++ name ++ ": " ++ cause⟩)
  | transport {p : Prepared} (hp : p ∈ actions) (target cause : String) :
      Reported s actions (.logged ⟨.error, p.name ++ ": " ++ target ++ " failed: " ++ cause⟩)
  | failed {p : Prepared} (hp : p ∈ actions) (cause : String) :
      Reported s actions (.logged ⟨.error, "action " ++ p.name ++ " failed: " ++ cause⟩)

namespace Reported

variable {s : Setup σ} {actions : List Prepared}

theorem debug (message : String) : Reported s actions (.logged ⟨.debug, message⟩) :=
  .remark _ nofun

theorem info (message : String) : Reported s actions (.logged ⟨.info, message⟩) :=
  .remark _ nofun

end Reported

section Actions

variable (s : Setup σ) {actions : List Prepared} {p : Prepared} (hp : p ∈ actions)

include hp

theorem Uttered.reported {e : Event} (h : Uttered s p e) : Reported s actions e := by
  cases h with
  | sent purpose r => exact .sent purpose r
  | detail message => exact .debug message
  | undeclared hr ha => exact .info _
  | credential ref cause => exact .credential ref cause
  | template ht he => exact .template hp ht he
  | extraction name cause => exact .extraction hp name cause
  | transport target cause => exact .transport hp target cause

theorem carryOut_adds (b : Payloads) (plan : Plan) :
    Adds (Reported s actions) (carryOut s p b plan) := by
  induction plan with
  | done r => exact adds_pure _
  | remark message next ih => exact adds_bind (adds_log (.info _)) fun _ => ih
  | request verb id payload next ih =>
    exact adds_bind ((perform_adds s p verb id _).mono fun _ => Uttered.reported s hp) ih

theorem payloadsFor_adds : Adds (Reported s actions) (payloadsFor s p) := by
  have hrender : ∀ {t}, t ∈ p.templates → Adds (Reported s actions) (renderFor s p t) :=
    fun ht => (renderFor_adds s p ht).mono fun _ => Uttered.reported s hp
  unfold payloadsFor
  refine adds_bind (hrender List.mem_cons_self) fun primary => ?_
  split
  · rename_i h
    exact adds_bind (hrender (Prepared.patch_mem_templates (by simpa using h)))
      fun _ => adds_pure _
  · exact adds_pure _

theorem runLogged_adds : Adds (Reported s actions) (runLogged s p) := by
  refine adds_bind (adds_log (.info _)) fun _ => adds_bind ?_ fun r => ?_
  · exact adds_bind (payloadsFor_adds s hp) fun b => carryOut_adds s hp b _
  · cases r with
    | ok _ => exact adds_bind (adds_log (.debug _)) fun _ => adds_pure _
    | error e => exact adds_bind (adds_log (.failed hp _)) fun _ => adds_pure _

end Actions

/-- **A run adds nothing else**, and does not look back. -/
theorem runAll_adds (s : Setup σ) {actions list : List Prepared} (hl : ∀ p ∈ list, p ∈ actions) :
    Adds (Reported s actions) (runAll s list) := by
  induction list with
  | nil => exact adds_pure _
  | cons p rest ih =>
    exact adds_bind (runLogged_adds s (hl p List.mem_cons_self)) fun _ =>
      adds_bind (ih fun p hp => hl p (List.mem_cons_of_mem _ hp)) fun _ => adds_pure _

/-- **What an execution reports.** -/
theorem execute_reported (s : Setup σ) (actions : List Prepared) (w : World σ) :
    ∀ e ∈ (execute s actions w).2.events, Reported s actions e := by
  obtain ⟨es, he, hr⟩ := runAll_adds s (fun _ hp => hp) w.opened
  have hevents : (execute s actions w).2.events = es := by
    show ((runAll s actions).run (w.opened.recalling [])).2.events = es
    rw [hr]
    rfl
  rwa [hevents]

/-! ## Log lines make no difference -/

/-- A step to which log lines make no difference: from a world with more of them behind it, the
result is the same, and so is the world that it leaves, but for these lines. -/
def Oblivious (x : Run σ α) : Prop :=
  ∀ (w : World σ) (lines : List LogLine), ∃ es, (x.run w).2.events = w.events ++ es ∧
    x.run (w.logging lines) =
      ((x.run w).1, (x.run w).2.recalling ((w.logging lines).events ++ es))

theorem Adds.oblivious {P : Event → Prop} {x : Run σ α} (h : Adds P x) : Oblivious x := by
  intro w lines
  obtain ⟨es, _, hr⟩ := h w
  refine ⟨es, ?_, hr _⟩
  have hw : x.run w = ((x.run w).1, (x.run w).2.recalling (w.events ++ es)) := hr w.events
  exact congrArg (·.2.events) hw

theorem carryOut_oblivious (s : Setup σ) (p : Prepared) (b : Payloads) (plan : Plan) :
    Oblivious (carryOut s p b plan) :=
  (carryOut_adds s (List.mem_singleton_self p) b plan).oblivious

theorem runAll_oblivious (s : Setup σ) (actions : List Prepared) : Oblivious (runAll s actions) :=
  (runAll_adds s fun _ hp => hp).oblivious

end Reconcile
