import Reconcile.Proofs.Run.Cancellation
import Reconcile.Proofs.Run.Enactment
import Reconcile.Proofs.Run.Templates
import Reconcile.Proofs.Url.Schemes

/-!
# Addresses of valid recipes

A recipe is valid only if its addresses start with `http://` or `https://`, blanks aside.

* `Recipe.isValid_endpoint`, `Recipe.isValid_address` — what a valid recipe says about them.
* `Plan.Sound` — a plan that fails in a certain way only if one of its requests does;
  `Plan.sound_of` — the plan of a strategy, for every way but a failed extraction.
* `Enactment.Holds.sound` — so an action does; `Enactment.Holds.isRelative_iff` — it fails for want
  of a scheme exactly when its endpoint hides it; `credentialFor_noScheme_iff` — and an exchange for
  a credential likewise.
* `execute_addresses` — so only such addresses are lost, and every request goes to one of the two
  schemes; `execute_hiddenScheme` — a valid recipe that loses its only address.
-/

namespace Reconcile

variable {σ : Type}

/-! ## Checked addresses -/

theorem hasHttpScheme_of_addressFindings {path address : String}
    (h : addressFindings path address = []) : hasHttpScheme (Text.trim address) = true := by
  unfold addressFindings at h
  dsimp only at h
  split at h
  · cases h
  · exact demand_eq_nil_iff.mp h

/-- The address at which an entry asks for its credential. -/
def Auth.address? : Auth → Option String
  | .clientCredentials _ _ oauth | .ownerPassword _ _ oauth _ _ => some oauth.serverUrl
  | .tokenLogin login => some login.authUrl
  | .noAuth | .basic .. | .static .. => none

namespace Recipe

variable {r : Recipe}

/-- The endpoints of a valid recipe. -/
theorem isValid_endpoint (h : r.isValid = true) {p : Prepared} (hp : p ∈ r.schedule) :
    hasHttpScheme (Text.trim p.action.endpoint) = true := by
  obtain ⟨name, a, hm, rfl⟩ := r.mem_schedule.mp hp
  rw [isValid, violations, List.isEmpty_iff, List.append_eq_nil_iff] at h
  have hentry := List.flatMap_eq_nil_iff.mp h.2 (name, a) hm
  simp only [seedEntryFindings, actionFindings, List.append_eq_nil_iff] at hentry
  obtain ⟨_, ⟨⟨⟨⟨⟨hendpoint, _⟩, _⟩, _⟩, _⟩, _⟩⟩ := hentry
  exact hasHttpScheme_of_addressFindings hendpoint

/-- The addresses of the entries of a valid recipe. -/
theorem isValid_address (h : r.isValid = true) {name address : String} {a : Auth}
    (hm : (name, a) ∈ r.auth.entries) (ha : a.address? = some address) :
    hasHttpScheme (Text.trim address) = true := by
  rw [isValid, violations, List.isEmpty_iff, List.append_eq_nil_iff] at h
  have hentry := List.flatMap_eq_nil_iff.mp h.1 (name, a) hm
  rw [authEntryFindings, List.append_eq_nil_iff] at hentry
  have hfindings := hentry.2
  cases a with
  | noAuth => cases ha
  | basic username password => cases ha
  | static header value => cases ha
  | clientCredentials clientId clientSecret oauth =>
    cases ha
    rw [authFindings, List.append_eq_nil_iff] at hfindings
    exact hasHttpScheme_of_addressFindings hfindings.2
  | ownerPassword clientId clientSecret oauth user pass =>
    cases ha
    rw [authFindings, List.append_eq_nil_iff] at hfindings
    exact hasHttpScheme_of_addressFindings hfindings.2
  | tokenLogin login =>
    cases ha
    simp only [authFindings, List.append_eq_nil_iff] at hfindings
    exact hasHttpScheme_of_addressFindings hfindings.1.1

end Recipe

/-! ## Failures of plans -/

/-- A plan that fails in some way only if one of its requests does. -/
inductive Plan.Sound (bad : ActionError → Prop) : Plan → Prop
  | done {result : Except ActionError Unit} (h : ∀ e, result = .error e → ¬ bad e) :
      Sound bad (.done result)
  | remark {message : String} {next : Plan} (h : next.Sound bad) : Sound bad (.remark message next)
  | request {verb : Verb} {id : Option String} {payload : Payload}
      {next : Except ActionError (List UInt8) → Plan}
      (h : ∀ a, (∀ e, a = .error e → ¬ bad e) → (next a).Sound bad) :
      Sound bad (.request verb id payload next)

namespace Plan

variable {bad : ActionError → Prop} {a : Action} {name : String}

theorem sound_fail {e : ActionError} (h : ¬ bad e) : (done (.error e)).Sound bad :=
  .done fun _ he => Except.error.inj he ▸ h

theorem sound_last (verb : Verb) (id : Option String) (payload : Payload) :
    (last verb id payload).Sound bad := by
  refine .request fun r hr => ?_
  cases r with
  | ok body => exact .done fun _ he => by cases he
  | error e => exact sound_fail (hr e rfl)

theorem sound_orFail {α : Type} {r : Except ActionError α} {next : α → Plan}
    (hr : ∀ e, r = .error e → ¬ bad e) (h : ∀ x, r = .ok x → (next x).Sound bad) :
    (orFail r next).Sound bad := by
  cases r with
  | ok x => exact h x rfl
  | error e => exact sound_fail (hr e rfl)

theorem sound_orFallBack {r : Except ActionError (List UInt8)} {next : Option (List UInt8) → Plan}
    (hr : ∀ e, r = .error e → ¬ bad e) (h : ∀ body?, (next body?).Sound bad) :
    (orFallBack r next).Sound bad := by
  match r with
  | .ok body => exact h (some body)
  | .error (.http d) =>
    show Sound bad (if d.allowsFallback then remark _ (next none) else done _)
    split
    · exact .remark (h none)
    · exact sound_fail (hr _ rfl)
  | .error (.extract _ _) => exact sound_fail (hr _ rfl)
  | .error (.invalidUrl _ _ _) => exact sound_fail (hr _ rfl)

theorem sound_ask {next : Except ActionError (List UInt8) → Plan}
    (h : ∀ r, (∀ e, r = .error e → ¬ bad e) → (next r).Sound bad) : (ask next).Sound bad :=
  .request h

theorem sound_create : create.Sound bad := sound_last _ _ _

theorem sound_done : (done (.ok ())).Sound bad :=
  .done fun _ h => by cases h

section Strategies

variable (hbad : ∀ cause, ¬ bad (.extract name cause))
include hbad

theorem not_bad_of_found {body : List UInt8} :
    ∀ e, found name a body = .error e → ¬ bad e := by
  intro e he
  unfold found at he
  cases hx : extractText body a.find with
  | ok s => simp [hx] at he
  | error cause =>
    simp only [hx, mapError_error, Except.error.injEq] at he
    exact he ▸ hbad cause

theorem not_bad_of_locate {body : List UInt8} :
    ∀ e, locate name a body = .error e → ¬ bad e := by
  intro e he
  unfold locate at he
  split at he
  · cases he
  · split at he
    · cases he
    · cases hx : found name a body with
      | ok s => simp [hx, Except.map] at he
      | error e' =>
        simp only [hx, Except.map, Except.error.injEq] at he
        exact he ▸ not_bad_of_found hbad e' hx

theorem sound_getPost : (getPost name a).Sound bad := by
  unfold getPost
  refine sound_ask fun r hr => sound_orFail hr fun body _ => ?_
  refine sound_orFail (not_bad_of_locate hbad) fun t _ => ?_
  cases t with
  | none => exact sound_create
  | some t => exact .remark sound_done

theorem sound_findPost : (findPost name a).Sound bad := by
  unfold findPost
  refine sound_ask fun r hr => sound_orFail hr fun body _ => ?_
  refine sound_orFail (not_bad_of_found hbad) fun t _ => ?_
  split
  · exact sound_create
  · exact .remark sound_done

theorem sound_findElsePost (verb : Verb) (payload : Payload) :
    (findElsePost name a verb payload).Sound bad := by
  unfold findElsePost
  refine sound_ask fun r hr => sound_orFail hr fun body _ => ?_
  refine sound_orFail (not_bad_of_found hbad) fun t _ => ?_
  split
  · exact sound_create
  · exact sound_last _ _ _

theorem sound_findDeletePost : (findDeletePost name a).Sound bad := by
  unfold findDeletePost
  refine sound_ask fun r hr => sound_orFallBack hr fun body? => ?_
  cases body? with
  | none => exact sound_create
  | some body =>
    refine sound_orFail (not_bad_of_found hbad) fun t _ => ?_
    split
    · exact sound_create
    · exact .request fun r' hr' => sound_orFallBack hr' fun _ => sound_create

theorem sound_getPutPost : (getPutPost name a).Sound bad := by
  unfold getPutPost
  refine sound_ask fun r hr => sound_orFallBack hr fun body? => ?_
  cases body? with
  | none => exact sound_create
  | some body =>
    refine sound_orFail (not_bad_of_locate hbad) fun t _ => ?_
    cases t with
    | none => exact sound_create
    | some t => exact sound_last _ _ _

/-- **The plan of a strategy fails only as its requests do**, or because an expression fails. -/
theorem sound_of : (Plan.of name a).Sound bad := by
  unfold Plan.of
  cases a.strategy with
  | getPost => exact sound_getPost hbad
  | findPost => exact sound_findPost hbad
  | findPutPost => exact sound_findElsePost hbad _ _
  | findPatchPost => exact sound_findElsePost hbad _ _
  | findDeletePost => exact sound_findDeletePost hbad
  | getPutPost => exact sound_getPutPost hbad
  | putPost =>
    refine .request fun r hr => sound_orFallBack hr fun body? => ?_
    cases body? with
    | none => exact sound_create
    | some body => exact sound_done
  | put => exact sound_last _ _ _
  | post => exact sound_create

end Strategies

end Plan

/-! ## Failures of actions -/

/-- The failure of a request whose address has no scheme. -/
def ActionError.IsRelative (e : ActionError) : Prop :=
  ∃ name url, e = .invalidUrl name url .noScheme

section Actions

variable {s : Setup σ} {p : Prepared} {w w' : World σ}

theorem Setup.exists_rawUrl (s : Setup σ) (p : Prepared) (store : Table Json) (verb : Verb)
    (id : Option String) : ∃ more, s.rawUrl p store verb id = p.action.endpoint ++ more := by
  cases id with
  | none => exact ⟨_, rfl⟩
  | some id => exact ⟨_, String.append_assoc ..⟩

/-- A request whose address is malformed fails so. -/
theorem Performed.of_malformed {verb : Verb} {id : Option String} {body : List UInt8}
    {out : Except ClockOverflow (Except ActionError (List UInt8))} {cause : UrlError}
    (h : Performed s p verb id body w out w')
    (hu : Url.parse (s.rawUrl p w.store verb id) = .error cause) :
    out = .ok (.error (.invalidUrl p.name (s.rawUrl p w.store verb id) cause)) := by
  cases h with
  | malformed lines hu' =>
    rw [hu] at hu'
    cases hu'
    rfl
  | overrun lines hu' => rw [hu] at hu'; cases hu'
  | unsent lines hu' => rw [hu] at hu'; cases hu'
  | exchanged lines hu' => rw [hu] at hu'; cases hu'

/-- A request of an action with a checked endpoint finds a scheme, unless the endpoint hides it. -/
theorem Performed.not_isRelative {verb : Verb} {id : Option String} {body : List UInt8}
    {out : Except ClockOverflow (Except ActionError (List UInt8))}
    (h : Performed s p verb id body w out w')
    (hc : hasHttpScheme (Text.trim p.action.endpoint) = true)
    (hn : Url.hidesScheme p.action.endpoint = false) :
    ∀ e, out = .ok (.error e) → ¬ e.IsRelative := by
  rintro e he ⟨name, url, rfl⟩
  have hhttp : ∀ {r : Except Diagnostic (List UInt8)},
      r.mapError ActionError.http ≠ .error (.invalidUrl name url .noScheme) := by
    intro r hr
    cases r <;> cases hr
  cases h with
  | malformed lines hu =>
    cases he
    obtain ⟨more, hmore⟩ := s.exists_rawUrl p w.store verb id
    have hreads := Url.parse_of_checked hc hn more
    rw [← hmore, hu] at hreads
    exact hreads rfl
  | overrun lines hu hd => cases he
  | unsent lines hu hd hw => cases he
  | exchanged lines hu hd hw => exact hhttp (Except.ok.inj he)

/-- A plan whose requests do not fail in some way does not either. -/
theorem Enacted.sound {b : Payloads} {plan : Plan} {rounds : List (Round σ)}
    {out : Except ClockOverflow (Except ActionError Unit)} {bad : ActionError → Prop}
    (h : Enacted s p b plan w rounds out w') (hp : plan.Sound bad)
    (hr : ∀ r ∈ rounds, ∀ e, r.out = .ok (.error e) → ¬ bad e) :
    ∀ e, out = .ok (.error e) → ¬ bad e := by
  induction h with
  | done result w =>
    cases hp with
    | done hp =>
      rintro e ⟨⟩
      exact hp e rfl
  | remark h ih =>
    cases hp with
    | remark hp => exact ih hp hr
  | request hround h ih =>
    cases hp with
    | request hp =>
      obtain ⟨hfirst, hrest⟩ := List.forall_mem_cons.mp hr
      exact ih (hp _ fun e he => hfirst e (congrArg Except.ok he)) hrest
  | halted hround =>
    rintro e ⟨⟩

/-- **An action fails only as its requests do**, or because an expression fails. -/
theorem Enactment.Holds.sound {e : Enactment σ} (h : e.Holds s) {good : ActionError → Prop}
    (hextract : ∀ cause, good (.extract e.action.name cause))
    (hp : ∀ {verb : Verb} {id : Option String} {body : List UInt8} {w w' : World σ}
      {out : Except ClockOverflow (Except ActionError (List UInt8))},
      Performed s e.action verb id body w out w' → ∀ error, out = .ok (.error error) → good error) :
    ∀ error, e.out = .ok (.error error) → good error := by
  obtain ⟨lines, henacted⟩ := h.enacted
  have hplan : (Plan.of e.action.name e.action.action).Sound fun error => ¬ good error :=
    Plan.sound_of fun cause hbad => hbad (hextract cause)
  intro error hout
  refine by_contra (henacted.sound hplan (fun r hr error hout hbad => ?_) error hout)
  have hcases := perform_cases s r.action r.verb r.id r.body r.before
  rw [(henacted.course.holds r hr).ran, henacted.own r hr] at hcases
  exact hbad (hp hcases error hout)

/-- **An action fails for want of a scheme exactly when its endpoint hides it.** -/
theorem Enactment.Holds.isRelative_iff {e : Enactment σ} (h : e.Holds s)
    (hc : hasHttpScheme (Text.trim e.action.action.endpoint) = true) :
    (∃ error, e.out = .ok (.error error) ∧ error.IsRelative) ↔
      Url.hidesScheme e.action.action.endpoint = true := by
  obtain ⟨lines, henacted⟩ := h.enacted
  constructor
  · rintro ⟨error, hout, hbad⟩
    by_contra hn
    rw [Bool.not_eq_true] at hn
    refine h.sound ?_ (fun hperformed => hperformed.not_isRelative hc hn) error hout hbad
    rintro cause ⟨_, _, ⟨⟩⟩
  · intro hhides
    obtain ⟨payload, next, hplan, hnext⟩ := Plan.of_eq_request e.action.name e.action.action
    rw [hplan] at henacted
    -- the first request has no scheme, and no plan goes on after that
    have hfirst : ∀ {w₁ : World σ} {out : Except ClockOverflow (Except ActionError (List UInt8))}
        {body : List UInt8}, (perform s e.action e.action.action.strategy.firstVerb none body).run
          (e.before.logging lines) = (out, w₁) →
        ∃ url, out = .ok (.error (.invalidUrl e.action.name url .noScheme)) := by
      intro w₁ out body hrun
      obtain ⟨more, hmore⟩ := s.exists_rawUrl e.action (e.before.logging lines).store
        e.action.action.strategy.firstVerb none
      have hcases := perform_cases s e.action e.action.action.strategy.firstVerb none body
        (e.before.logging lines)
      rw [hrun] at hcases
      exact ⟨_, hcases.of_malformed (by rw [hmore]; exact Url.parse_of_hidesScheme hhides more)⟩
    generalize hbefore : e.before.logging lines = w₀ at henacted hfirst
    generalize e.rounds = rounds, e.out = out, e.after = w' at henacted ⊢
    cases henacted with
    | request hround hrest =>
      obtain ⟨url, ha⟩ := hfirst hround.ran
      cases ha
      rw [hnext _ rfl] at hrest
      cases hrest
      exact ⟨_, rfl, _, _, rfl⟩
    | halted hround =>
      obtain ⟨url, ha⟩ := hfirst hround.ran
      cases ha

end Actions

/-! ## Failures of exchanges for credentials -/

section Credentials

variable {s : Setup σ} {a : Auth} {name address : String}

/-- An entry asks where its address says. -/
theorem Auth.question?_of_address (limits : Limits) (ha : a.address? = some address) :
    ∃ ask : Url → Request, (∀ url, (ask url).url = url) ∧
      a.question? limits =
        some (((Url.parse address).mapError (.invalidUrl address)).map ask) := by
  cases a with
  | noAuth => cases ha
  | basic username password => cases ha
  | static header value => cases ha
  | clientCredentials clientId clientSecret oauth => cases ha; exact ⟨_, fun _ => rfl, rfl⟩
  | ownerPassword clientId clientSecret oauth user pass => cases ha; exact ⟨_, fun _ => rfl, rfl⟩
  | tokenLogin login => cases ha; exact ⟨_, fun _ => rfl, rfl⟩

theorem Auth.address?_of_question {limits : Limits} {q : Except AuthError Request}
    (h : a.question? limits = some q) : ∃ address, a.address? = some address := by
  cases a with
  | noAuth => cases h
  | basic username password => cases h
  | static header value => cases h
  | clientCredentials clientId clientSecret oauth => exact ⟨_, rfl⟩
  | ownerPassword clientId clientSecret oauth user pass => exact ⟨_, rfl⟩
  | tokenLogin login => exact ⟨_, rfl⟩

theorem loginCredential_ne_invalidUrl (login : TokenLogin) (r : Response) (url : String)
    (cause : UrlError) : loginCredential login r ≠ .error (.invalidUrl url cause) := by
  unfold loginCredential
  intro h
  split at h
  · cases h
  · dsimp only at h
    split at h <;> cases h

/-- The reply of a server says nothing about its address. -/
theorem Auth.grants_ne_invalidUrl (a : Auth) (x : Exchange) (url : String) (cause : UrlError) :
    a.grants x ≠ .ok (.error (.invalidUrl url cause)) := by
  rw [Ne, Auth.grants_error_iff]
  unfold fault?
  intro h
  split at h
  · cases h
  · cases h
  · split at h
    · cases h
    · split at h
      · split at h
        · rename_i e he
          cases h
          exact loginCredential_ne_invalidUrl _ _ _ _ he
        · cases h
      · split at h <;> cases h

/-- Asking a server fails with a malformed address exactly when its address is. -/
theorem acquisition_malformed_iff {acquire : Run σ (Except AuthError Credential)}
    (hacquire : acquisition? s a = some acquire) (ha : a.address? = some address) {w : World σ}
    (hw : w.cancelled = false) (url : String) (cause : UrlError) :
    (acquire.run w).1 = .ok (.error (.invalidUrl url cause)) ↔
      url = address ∧ Url.parse address = .error cause := by
  obtain ⟨ask, -, hquestion⟩ := Auth.question?_of_address s.limits ha
  rcases acquisition_run hacquire hw with ⟨e, hq, hrun⟩ | ⟨q, hq, hrun⟩
  · rw [hquestion] at hq
    rw [hrun]
    cases hp : Url.parse address with
    | ok u => simp [hp, Except.map] at hq
    | error cause' =>
      simp only [hp, mapError_error, Except.map, Option.some.injEq, Except.error.injEq] at hq
      rw [← hq]
      simp only [Except.ok.injEq, Except.error.injEq, AuthError.invalidUrl.injEq]
      exact and_congr_left fun _ => eq_comm
  · rw [hquestion] at hq
    rw [hrun]
    cases hp : Url.parse address with
    | ok u => simp [Auth.grants_ne_invalidUrl]
    | error cause' => simp [hp, Except.map] at hq

/-- A cancelled run asks for no credential. -/
theorem acquireAnew_malformed_iff {acquire : Run σ (Except AuthError Credential)}
    (hacquire : acquisition? s a = some acquire) (ha : a.address? = some address) (w : World σ)
    (url : String) (cause : UrlError) :
    ((acquireAnew name acquire).run w).1 = .ok (.error (.invalidUrl url cause)) ↔
      (url = address ∧ Url.parse address = .error cause) ∧ w.cancelled = false := by
  cases hw : w.cancelled with
  | true =>
    have hrun : ((acquireAnew name acquire).run w).1 = .ok (.error .cancelled) := by
      simp [acquireAnew, isCancelled, run_bind, hw]
    rw [hrun]
    simp
  | false =>
    rw [← acquisition_malformed_iff hacquire ha hw]
    simp only [acquireAnew, isCancelled, run_bind, run_get, run_pure, hw, Bool.false_eq_true,
      if_false, and_true]
    rcases acquire.run w with ⟨e | e | c, w'⟩
    · simp
    · simp
    · have hrun : ((log .debug ("obtained token for " ++ name) >>= fun _ =>
          modify (fun w => { w with cache := w.cache.insert name c }) >>= fun _ =>
            pure (.ok c) : Run σ (Except AuthError Credential)).run w').1 = .ok (.ok c) := rfl
      exact iff_of_false (by rw [hrun]; simp) (by simp)

/-- A fresh credential is not asked for. -/
theorem cachedOrAcquired_malformed_iff {acquire : Run σ (Except AuthError Credential)}
    (hacquire : acquisition? s a = some acquire) (ha : a.address? = some address) (w : World σ)
    (url : String) (cause : UrlError) :
    ((cachedOrAcquired name acquire).run w).1 = .ok (.error (.invalidUrl url cause)) ↔
      (url = address ∧ Url.parse address = .error cause) ∧ w.cancelled = false ∧
        w.fresh? name = none := by
  simp only [cachedOrAcquired, run_bind, run_get, World.fresh?]
  cases hc : w.cache.get? name with
  | none =>
    rw [acquireAnew_malformed_iff hacquire ha]
    simp
  | some c =>
    by_cases hf : c.isFresh w.now = true
    · simp [hf]
    · simp only [hf, Bool.false_eq_true, if_false, run_bind, log_run]
      rw [acquireAnew_malformed_iff hacquire ha]
      simp [hf]

/-- **An exchange for a credential fails for want of a scheme exactly when its address hides it**,
where it is made at all. -/
theorem credentialFor_isRelative_iff (ha : a.address? = some address)
    (hc : hasHttpScheme (Text.trim address) = true) (w : World σ) (url : String) :
    ((credentialFor s name a).run w).1 = .ok (.error (.invalidUrl url .noScheme)) ↔
      (url = address ∧ Url.hidesScheme address = true) ∧ w.cancelled = false ∧
        w.fresh? name = none := by
  have hparse : Url.parse address = .error .noScheme ↔ Url.hidesScheme address = true := by
    constructor
    · intro hp
      by_contra hn
      rw [Bool.not_eq_true] at hn
      have hreads := Url.parse_of_checked hc hn ""
      rw [String.append_empty, hp] at hreads
      exact hreads rfl
    · intro hh
      have hp := Url.parse_of_hidesScheme hh ""
      rwa [String.append_empty] at hp
  obtain ⟨acquire, hacquire⟩ : ∃ acquire, acquisition? s a = some acquire := by
    cases a with
    | noAuth => cases ha
    | basic username password => cases ha
    | static header value => cases ha
    | clientCredentials clientId clientSecret oauth => exact ⟨_, rfl⟩
    | ownerPassword clientId clientSecret oauth user pass => exact ⟨_, rfl⟩
    | tokenLogin login => exact ⟨_, rfl⟩
  rw [← hparse, ← cachedOrAcquired_malformed_iff hacquire ha]
  simp only [credentialFor, hacquire, run_bind]
  rcases (cachedOrAcquired name acquire).run w with ⟨e | e | c, w'⟩ <;> simp [Except.map]

end Credentials

/-! ## Executions -/

section Executions

variable {s : Setup σ} {r : Recipe}

theorem Setup.mem_of_entry? {ref : String} {a : Auth} (h : s.entry? ref = some a) :
    (ref, a) ∈ s.auth.entries := by
  unfold entry? at h
  split at h
  · cases h
  · obtain ⟨⟨name, b⟩, hfind, rfl⟩ := Option.map_eq_some_iff.mp h
    have hname : name = ref := by simpa using List.find?_some hfind
    exact hname ▸ List.mem_of_find?_eq_some hfind

/-- The exchanges of a round go to checked addresses. -/
theorem Round.Holds.scheme {round : Round σ} (h : r.isValid = true) (hs : s.auth = r.auth)
    (hround : round.Holds s) (ha : round.action ∈ r.schedule) :
    ∀ x ∈ round.exchanges, x.request.url.scheme = "http" ∨ x.request.url.scheme = "https" := by
  have hread : ∀ {address more : String} {url : Url},
      hasHttpScheme (Text.trim address) = true → Url.parse (address ++ more) = .ok url →
      url.scheme = "http" ∨ url.scheme = "https" := by
    intro address more url hc hp
    cases hh : Url.hidesScheme address with
    | true =>
      rw [Url.parse_of_hidesScheme hh] at hp
      cases hp
    | false =>
      have hreads := Url.parse_of_checked hc hh more
      rw [hp] at hreads
      exact hreads
  intro x hx
  rcases List.mem_append.mp hx with hx | hx
  · obtain ⟨-, a, hentry, hquestion⟩ := hround.asks x (by simpa using hx)
    obtain ⟨address, haddress⟩ := Auth.address?_of_question hquestion
    obtain ⟨ask, hask, hq⟩ := Auth.question?_of_address s.limits haddress
    have hc := Recipe.isValid_address h (hs ▸ Setup.mem_of_entry? hentry) haddress
    rw [hquestion] at hq
    cases hp : Url.parse address with
    | error cause => simp [hp, Except.map] at hq
    | ok url =>
      simp only [hp, mapError_ok, Except.map, Option.some.injEq, Except.ok.injEq] at hq
      rw [hq, hask]
      have hp : Url.parse (address ++ "") = .ok url := by rw [String.append_empty, hp]
      exact hread hc hp
  · obtain ⟨url, hsends⟩ := hround.sent x (by simpa using hx)
    obtain ⟨more, hmore⟩ := s.exists_rawUrl round.action round.before.store round.verb round.id
    have hp := hsends.address
    rw [hmore] at hp
    rw [hsends.request]
    exact hread (Recipe.isValid_endpoint h ha) hp

/-- **Addresses of valid recipes.** In every execution of a valid recipe, every request that is
sent, for a credential or for an action, goes to an `http` or an `https` address.  An action fails
for want of a scheme exactly when its endpoint starts with a blank that does not count as one for
addresses.  An exchange for a credential fails so exactly when its address does, where one is made:
the run is not cancelled, and no fresh credential is cached. -/
theorem execute_addresses (h : r.isValid = true) (hs : s.auth = r.auth) (w : World σ) :
    (∀ q ∈ (execute s r.schedule w).2.sent,
      q.2.url.scheme = "http" ∨ q.2.url.scheme = "https") ∧
    (∃ es, Enactments s r.schedule w.opened es (execute s r.schedule w).2 ∧
      ∀ e ∈ es, (∃ error, e.out = .ok (.error error) ∧ error.IsRelative) ↔
        Url.hidesScheme e.action.action.endpoint = true) ∧
    ∀ name a address, (name, a) ∈ r.auth.entries → a.address? = some address →
      ∀ (w : World σ) url,
        ((credentialFor s name a).run w).1 = .ok (.error (.invalidUrl url .noScheme)) ↔
          (url = address ∧ Url.hidesScheme address = true) ∧ w.cancelled = false ∧
            w.fresh? name = none := by
  refine ⟨?_, ?_, ?_⟩
  · obtain ⟨rounds, hcourse, ha, hsent⟩ := execute_course s r.schedule w
    intro q hq
    rw [hsent] at hq
    obtain ⟨x, hx, rfl⟩ := List.mem_map.mp hq
    obtain ⟨round, hround, hx⟩ := List.mem_flatMap.mp hx
    exact (hcourse.holds round hround).scheme h hs (ha round hround) x hx
  · obtain ⟨es, hes⟩ := runAll_enactments s r.schedule w.opened
    refine ⟨es, hes, fun e he => (hes.holds e he).isRelative_iff ?_⟩
    exact Recipe.isValid_endpoint h (hes.actions_isPrefix.subset (List.mem_map_of_mem he))
  · intro name a address hm ha w url
    exact credentialFor_isRelative_iff ha (Recipe.isValid_address h hm ha) w url

end Executions

/-- A recipe whose endpoint and login start with a no-break space. -/
def Recipe.hiddenScheme : Recipe where
  auth := .ofList [("l", .tokenLogin { authUrl := "\u00a0http://h/login" })]
  seed := .ofList
    [("a", { strategy := .put, endpoint := "\u00a0http://h/r" }),
      ("b", { strategy := .put, endpoint := " https://h/r", authRef := "l" })]

theorem execute_addresses_hiddenScheme :
    let s : Setup Script :=
      { transport := Script.transport, auth := Recipe.hiddenScheme.auth }
    let w : World Script := { transport := [] }
    Recipe.hiddenScheme.isValid = true ∧
      (execute s Recipe.hiddenScheme.schedule w).2.sent.map (fun q => q.2.url.text) =
        ["https://h/r"] ∧
      ∀ q ∈ (execute s Recipe.hiddenScheme.schedule w).2.sent,
        q.2.url.scheme = "http" ∨ q.2.url.scheme = "https" := by
  intro s w
  have hvalid : Recipe.hiddenScheme.isValid = true := by decide +kernel
  have hs : Recipe.hiddenScheme.schedule = Recipe.hiddenScheme.actions :=
    Recipe.schedule_of_sorted _ (by decide +kernel)
  refine ⟨hvalid, ?_, (execute_addresses hvalid rfl w).1⟩
  rw [hs]
  decide +kernel

/-- **A valid recipe may lose its addresses**: its first action and its login fail for want of a
scheme, although both addresses were checked. -/
theorem execute_hiddenScheme :
    let s : Setup Script :=
      { transport := Script.transport, auth := Recipe.hiddenScheme.auth }
    let w : World Script := { transport := [] }
    Recipe.hiddenScheme.isValid = true ∧
      (execute s Recipe.hiddenScheme.schedule w).1.toOption.bind List.head? =
        some (.invalidUrl "a" "\u00a0http://h/r" .noScheme) ∧
      ⟨.error, "failed to obtain credentials for l: invalid token endpoint \u00a0http://h/login: " ++
        "relative URL without a base"⟩ ∈ (execute s Recipe.hiddenScheme.schedule w).2.logs := by
  intro s w
  have hvalid : Recipe.hiddenScheme.isValid = true := by decide +kernel
  have hs : Recipe.hiddenScheme.schedule = Recipe.hiddenScheme.actions :=
    Recipe.schedule_of_sorted _ (by decide +kernel)
  refine ⟨hvalid, ?_, ?_⟩
  · rw [hs]
    decide +kernel
  · rw [hs]
    decide +kernel

end Reconcile
