import Reconcile.Proofs.Run.Paths

/-!
# Attaching credentials

What can happen when a request is to carry the credential of an entry.

* `Auth.question?` — the request with which an entry asks its server, and `Auth.grants` what it
  makes of the exchange; `Auth.configured?` — the credential of an entry that asks no server;
  `Auth.asksServer` — whether an entry asks one.
* `Inquiry` — how a credential is asked for; `Inquiry.sent` — what is sent for it;
  `acquireToken_inquiry`, `acquireLogin_inquiry` — token endpoints and logins are asked so.
* `acquisition_run` — an entry that asks a server makes one exchange, or fails at once.
* `Acquired` — the ways in which a credential is looked for anew; `acquireAnew_cases`.
* `Decorated` — the seven ways in which a request comes out, each with the world after it;
  `decorate_cases` — there are no others.
* `Decorated.path` — at most one exchange is made, and it is for a token.
-/

namespace Reconcile

variable {σ : Type}

/-! ## Questions and grants -/

/-- The request with which an entry asks its server for a credential, if it has a server: an error
when its address is malformed. -/
def Auth.question? (limits : Limits) : Auth → Option (Except AuthError Request)
  | .clientCredentials clientId clientSecret oauth =>
    some (((Url.parse oauth.serverUrl).mapError (.invalidUrl oauth.serverUrl)).map fun url =>
      tokenRequest limits url oauth clientId clientSecret .clientCredentials)
  | .ownerPassword clientId clientSecret oauth user pass =>
    some (((Url.parse oauth.serverUrl).mapError (.invalidUrl oauth.serverUrl)).map fun url =>
      tokenRequest limits url oauth clientId clientSecret (.password user pass))
  | .tokenLogin login =>
    some (((Url.parse login.authUrl).mapError (.invalidUrl login.authUrl)).map fun url =>
      loginRequest limits url login)
  | .noAuth | .basic .. | .static .. => none

/-- The credential of an entry that asks no server. -/
def Auth.configured? : Auth → Option Credential
  | .basic username password =>
    some { header := "Authorization", value := basicValue username password }
  | .static header value => some { header, value }
  | _ => none

/-- Whether an entry gets its credential from a server. -/
def Auth.asksServer : Auth → Bool
  | clientCredentials .. | ownerPassword .. | tokenLogin _ => true
  | noAuth | basic .. | static .. => false

theorem Auth.asksServer_of_question {a : Auth} {limits : Limits} {q : Except AuthError Request}
    (h : a.question? limits = some q) : a.asksServer = true := by
  cases a <;> first | rfl | cases h

/-- An entry that asks a server has a request for it, or an address that cannot be read. -/
theorem Auth.question_of_asksServer {a : Auth} (h : a.asksServer = true) (limits : Limits) :
    ∃ q, a.question? limits = some q := by
  cases a <;> first | exact ⟨_, rfl⟩ | cases h

/-- The credential of a token that came at some second; its expiry may be beyond the clock. -/
def Token.credentialAt (t : Token) (now : Nat) : Except ClockOverflow Credential :=
  match t.lifetime with
  | none => .ok { header := "Authorization", value := t.headerValue }
  | some seconds =>
    if lastSecond < now + seconds then .error {}
    else
      .ok { header := "Authorization", value := t.headerValue, expiresAt := some (now + seconds) }

/-- What an entry makes of the answer of a token endpoint. -/
def tokenGrant (x : Exchange) : Except ClockOverflow (Except AuthError Credential) :=
  match accepted x.reply.result? with
  | .error e => .ok (.error e)
  | .ok r =>
    match Token.ofResponse r with
    | .error e => .ok (.error (.exchange e))
    | .ok t => (t.credentialAt x.time).map .ok

/-- What an entry makes of the answer of a login. -/
def loginGrant (login : TokenLogin) (x : Exchange) : Except AuthError Credential :=
  match accepted x.reply.result? with
  | .error e => .error e
  | .ok r => loginCredential login r

/-- What an entry makes of the answer of its server. -/
def Auth.grants : Auth → Exchange → Except ClockOverflow (Except AuthError Credential)
  | .tokenLogin login, x => .ok (loginGrant login x)
  | _, x => tokenGrant x

theorem tokenCredential_run (t : Token) (w : World σ) :
    (tokenCredential t).run w = (t.credentialAt w.now, w) := by
  simp only [tokenCredential, Token.credentialAt]
  cases t.lifetime with
  | none => rfl
  | some seconds =>
    simp only [Option.mapM_some, run_bind, run_map, momentAfter, run_get]
    by_cases h : lastSecond < w.now + seconds
    · simp only [h, if_true, run_throw]
    · simp only [h, if_false, run_pure]

section Asking

variable {s : Setup σ} {a : Auth} {acquire : Run σ (Except AuthError Credential)}

/-- How a credential is asked for: with no request, or in a cancelled run, asking fails at once, and
else it makes one exchange. -/
structure Inquiry (s : Setup σ) (acquire : Run σ (Except AuthError Credential))
    (q : Except AuthError Request)
    (grant : Exchange → Except ClockOverflow (Except AuthError Credential)) : Prop where
  malformed : ∀ e, q = .error e → ∀ w, acquire.run w = (.ok (.error e), w)
  stopped : ∀ w, w.cancelled = true → ∃ e, acquire.run w = (.ok (.error e), w)
  exchanges : ∀ r, q = .ok r → ∀ w, w.cancelled = false →
    acquire.run w = (grant (w.exchange s .token r), w.exchanged s .token r)

namespace Inquiry

variable {q : Except AuthError Request}
  {grant : Exchange → Except ClockOverflow (Except AuthError Credential)}

theorem of_error (e : AuthError) : Inquiry s (pure (.error e)) (.error e) grant where
  malformed := by
    rintro _ ⟨⟩ w
    rfl
  stopped := fun w _ => ⟨e, rfl⟩
  exchanges := by rintro _ ⟨⟩

theorem of_submit {r : Request}
    {heard : Option (Except HttpError Response) → Run σ (Except AuthError Credential)}
    (hstopped : ∀ w, ∃ e, (heard none).run w = (.ok (.error e), w))
    (hheard : ∀ w : World σ, (heard (w.reply s r).result?).run (w.exchanged s .token r) =
      (grant (w.exchange s .token r), w.exchanged s .token r)) :
    Inquiry s (submit s .token r >>= heard) (.ok r) grant where
  malformed := by rintro _ ⟨⟩
  stopped := by
    intro w hw
    rw [run_bind_ok (submit_run_cancelled s _ _ hw)]
    exact hstopped w
  exchanges := by
    rintro _ ⟨⟩ w hw
    rw [run_bind_ok (submit_run_open s _ _ hw)]
    exact hheard w

/-- **Asking sends one request**, if there is one, unless the run is cancelled. -/
theorem sent (h : Inquiry s acquire q grant) (w : World σ) :
    (acquire.run w).2.sent =
      w.sent ++ if w.cancelled then [] else q.toOption.toList.map fun r => (.token, r) := by
  cases hw : w.cancelled with
  | true =>
    obtain ⟨e, hrun⟩ := h.stopped w hw
    rw [hrun]
    exact (List.append_nil _).symm
  | false =>
    cases q with
    | error e =>
      rw [h.malformed e rfl w]
      exact (List.append_nil _).symm
    | ok r =>
      rw [h.exchanges r rfl w hw, World.exchanged_sent]
      rfl

end Inquiry

theorem acquireToken_inquiry (s : Setup σ) (oauth : OAuth) (clientId clientSecret : String)
    (grant : Grant) :
    Inquiry s (acquireToken s oauth clientId clientSecret grant)
      (((Url.parse oauth.serverUrl).mapError (.invalidUrl oauth.serverUrl)).map fun url =>
        tokenRequest s.limits url oauth clientId clientSecret grant) tokenGrant := by
  unfold acquireToken
  cases Url.parse oauth.serverUrl with
  | error e => exact .of_error _
  | ok url =>
    refine .of_submit (fun w => ⟨_, rfl⟩) fun w => ?_
    generalize tokenRequest s.limits url oauth clientId clientSecret grant = q
    simp only [tokenGrant, World.exchange]
    cases accepted (w.reply s q).result? with
    | error e => rfl
    | ok r =>
      dsimp only
      cases Token.ofResponse r with
      | error e => rfl
      | ok t =>
        simp only [run_bind, tokenCredential_run, World.exchanged_now]
        cases t.credentialAt (w.now + (w.reply s q).elapsed) <;> rfl

theorem acquireLogin_inquiry (s : Setup σ) (login : TokenLogin) :
    Inquiry s (acquireLogin s login)
      (((Url.parse login.authUrl).mapError (.invalidUrl login.authUrl)).map fun url =>
        loginRequest s.limits url login) (fun x => .ok (loginGrant login x)) := by
  unfold acquireLogin
  cases Url.parse login.authUrl with
  | error e => exact .of_error _
  | ok url =>
    refine .of_submit (fun w => ⟨_, rfl⟩) fun w => ?_
    simp only [loginGrant, World.exchange]
    cases accepted (w.reply s (loginRequest s.limits url login)).result? <;> rfl

/-- An entry that gets its credential from a server asks for it so. -/
theorem acquisition?_eq_some (ha : acquisition? s a = some acquire) :
    ∃ q, a.question? s.limits = some q ∧ Inquiry s acquire q a.grants := by
  cases a with
  | noAuth => cases ha
  | basic username password => cases ha
  | static header value => cases ha
  | clientCredentials clientId clientSecret oauth =>
    cases ha
    exact ⟨_, rfl, acquireToken_inquiry s oauth clientId clientSecret _⟩
  | ownerPassword clientId clientSecret oauth user pass =>
    cases ha
    exact ⟨_, rfl, acquireToken_inquiry s oauth clientId clientSecret _⟩
  | tokenLogin login =>
    cases ha
    exact ⟨_, rfl, acquireLogin_inquiry s login⟩

theorem acquisition?_of_question {q : Except AuthError Request}
    (hq : a.question? s.limits = some q) : ∃ acquire, acquisition? s a = some acquire := by
  cases a with
  | noAuth => cases hq
  | basic username password => cases hq
  | static header value => cases hq
  | clientCredentials clientId clientSecret oauth => exact ⟨_, rfl⟩
  | ownerPassword clientId clientSecret oauth user pass => exact ⟨_, rfl⟩
  | tokenLogin login => exact ⟨_, rfl⟩

/-- **Asking a server.** An entry with a malformed address fails at once, and any other makes one
exchange. -/
theorem acquisition_run (ha : acquisition? s a = some acquire) {w : World σ}
    (hw : w.cancelled = false) :
    (∃ e, a.question? s.limits = some (.error e) ∧ acquire.run w = (.ok (.error e), w)) ∨
      ∃ q, a.question? s.limits = some (.ok q) ∧
        acquire.run w = (a.grants (w.exchange s .token q), w.exchanged s .token q) := by
  obtain ⟨q, hq, hinquiry⟩ := acquisition?_eq_some ha
  cases q with
  | error e => exact .inl ⟨e, hq, hinquiry.malformed e rfl w⟩
  | ok r => exact .inr ⟨r, hq, hinquiry.exchanges r rfl w hw⟩

end Asking

/-! ## Ways of attaching -/

/-- A request with a credential. -/
def Request.carrying (r : Request) (c : Credential) : Request :=
  { r with headers := r.headers.set c.header c.value }

/-- The entry that a reference names. -/
def Setup.entry? (s : Setup σ) (ref : String) : Option Auth :=
  if ref.isEmpty then none else s.auth.get? ref

/-- The cached credential of an entry, while it is fresh. -/
def World.fresh? (w : World σ) (name : String) : Option Credential :=
  (w.cache.get? name).filter fun c => c.isFresh w.now

/-- The ways in which a request comes out when it is to carry the credential of an entry. -/
inductive Decorated (s : Setup σ) (ref : String) (r : Request) (w : World σ) :
    Except ClockOverflow (Request × List String) → World σ → Prop
  /-- No entry, or one without a credential. -/
  | bare (lines : List LogLine) (hn : ∀ a, s.entry? ref = some a → a = .noAuth) :
      Decorated s ref r w (.ok (r, [])) (w.logging lines)
  /-- The credential of an entry that asks no server. -/
  | configured {a : Auth} {c : Credential} (ha : s.entry? ref = some a)
      (hc : a.configured? = some c) : Decorated s ref r w (.ok (r.carrying c, [c.header])) w
  /-- A cached credential. -/
  | cached {a : Auth} {q : Except AuthError Request} {c : Credential}
      (ha : s.entry? ref = some a) (hq : a.question? s.limits = some q)
      (hf : w.fresh? ref = some c) : Decorated s ref r w (.ok (r.carrying c, [c.header])) w
  /-- No credential, and no exchange for one either. -/
  | unasked {a : Auth} {q : Except AuthError Request} (lines : List LogLine)
      (ha : s.entry? ref = some a) (hq : a.question? s.limits = some q)
      (hf : w.fresh? ref = none) (hu : w.cancelled = true ∨ ∃ e, q = .error e) :
      Decorated s ref r w (.ok (r, [])) (w.logging lines)
  /-- No credential after an exchange for one. -/
  | refused {a : Auth} {q : Request} {e : AuthError} (before after : List LogLine)
      (ha : s.entry? ref = some a) (hq : a.question? s.limits = some (.ok q))
      (hf : w.fresh? ref = none) (hw : w.cancelled = false)
      (hg : a.grants (w.exchange s .token q) = .ok (.error e)) :
      Decorated s ref r w (.ok (r, []))
        (((w.logging before).exchanged s .token q).logging after)
  /-- A new credential, which is cached. -/
  | granted {a : Auth} {q : Request} {c : Credential} (before after : List LogLine)
      (ha : s.entry? ref = some a) (hq : a.question? s.limits = some (.ok q))
      (hf : w.fresh? ref = none) (hw : w.cancelled = false)
      (hg : a.grants (w.exchange s .token q) = .ok (.ok c)) :
      Decorated s ref r w (.ok (r.carrying c, [c.header]))
        ((((w.logging before).exchanged s .token q).logging after).caching ref c)
  /-- A new credential whose expiry is beyond the clock. -/
  | overrun {a : Auth} {q : Request} {e : ClockOverflow} (before : List LogLine)
      (ha : s.entry? ref = some a) (hq : a.question? s.limits = some (.ok q))
      (hf : w.fresh? ref = none) (hw : w.cancelled = false)
      (hg : a.grants (w.exchange s .token q) = .error e) :
      Decorated s ref r w (.error e) ((w.logging before).exchanged s .token q)

/-- A credential that was looked for anew, from a world in which some lines were logged. -/
inductive Acquired (s : Setup σ) (name : String) (a : Auth) (w : World σ) :
    Except ClockOverflow (Except AuthError Credential) → World σ → Prop
  | unasked {q : Except AuthError Request} (e : AuthError) (hq : a.question? s.limits = some q)
      (hu : w.cancelled = true ∨ ∃ e, q = .error e) : Acquired s name a w (.ok (.error e)) w
  | refused {q : Request} {e : AuthError} (hq : a.question? s.limits = some (.ok q))
      (hw : w.cancelled = false) (hg : a.grants (w.exchange s .token q) = .ok (.error e)) :
      Acquired s name a w (.ok (.error e)) (w.exchanged s .token q)
  | granted {q : Request} {c : Credential} (lines : List LogLine)
      (hq : a.question? s.limits = some (.ok q)) (hw : w.cancelled = false)
      (hg : a.grants (w.exchange s .token q) = .ok (.ok c)) :
      Acquired s name a w (.ok (.ok c)) (((w.exchanged s .token q).logging lines).caching name c)
  | overrun {q : Request} {e : ClockOverflow} (hq : a.question? s.limits = some (.ok q))
      (hw : w.cancelled = false) (hg : a.grants (w.exchange s .token q) = .error e) :
      Acquired s name a w (.error e) (w.exchanged s .token q)

theorem acquireAnew_cases {s : Setup σ} {a : Auth}
    {acquire : Run σ (Except AuthError Credential)} (ha : acquisition? s a = some acquire)
    (name : String) (w : World σ) :
    Acquired s name a w ((acquireAnew name acquire).run w).1
      ((acquireAnew name acquire).run w).2 := by
  obtain ⟨q, hq, -⟩ := acquisition?_eq_some ha
  simp only [acquireAnew, isCancelled, run_bind, run_get, run_pure]
  cases hw : w.cancelled with
  | true => exact .unasked _ hq (.inl hw)
  | false =>
    simp only [Bool.false_eq_true, if_false, run_bind]
    rcases acquisition_run ha hw with ⟨e, hq, hr⟩ | ⟨q, hq, hr⟩
    · rw [hr]
      exact .unasked e hq (.inr ⟨e, rfl⟩)
    · rw [hr]
      rcases hg : a.grants (w.exchange s .token q) with e | e | c
      · exact .overrun hq hw hg
      · exact .refused hq hw hg
      · exact .granted [⟨.debug, "obtained token for " ++ name⟩] hq hw hg

/-- The cached credential of an entry while it is fresh, and else a new one. -/
theorem cachedOrAcquired_cases {s : Setup σ} {a : Auth}
    {acquire : Run σ (Except AuthError Credential)} (ha : acquisition? s a = some acquire)
    (name : String) (w : World σ) :
    (∃ c, w.fresh? name = some c ∧ (cachedOrAcquired name acquire).run w = (.ok (.ok c), w)) ∨
      w.fresh? name = none ∧ ∃ before,
        Acquired s name a (w.logging before) ((cachedOrAcquired name acquire).run w).1
          ((cachedOrAcquired name acquire).run w).2 := by
  simp only [cachedOrAcquired, run_bind, run_get, World.fresh?]
  cases hc : w.cache.get? name with
  | none =>
    refine .inr ⟨rfl, [], ?_⟩
    rw [World.logging_nil]
    exact acquireAnew_cases ha name w
  | some c =>
    by_cases hf : c.isFresh w.now = true
    · exact .inl ⟨c, by simp [hf], by simp only [hf, if_true, run_pure]⟩
    · refine .inr ⟨by simp [hf],
        [⟨.debug, "token for " ++ name ++ " expired, requesting a new one"⟩], ?_⟩
      simp only [hf]
      exact acquireAnew_cases ha name _

/-- A request without an entry, or with one that has no credential, stays as it is. -/
theorem Decorated.unchanged {s : Setup σ} {ref : String} {r : Request} {w : World σ}
    (hn : ∀ a, s.entry? ref = some a → a = .noAuth) : Decorated s ref r w (.ok (r, [])) w := by
  have h : Decorated s ref r w (.ok (r, [])) (w.logging []) := .bare [] hn
  rwa [World.logging_nil] at h

/-- **A request comes out in one of seven ways.** -/
theorem decorate_cases (s : Setup σ) (ref : String) (r : Request) (w : World σ) :
    Decorated s ref r w ((decorate s ref r).run w).1 ((decorate s ref r).run w).2 := by
  cases hr : ref.isEmpty with
  | true =>
    simp only [decorate, hr, if_true, run_pure]
    exact .unchanged (by simp [Setup.entry?, hr])
  | false =>
    have he : s.entry? ref = s.auth.get? ref := by simp [Setup.entry?, hr]
    simp only [decorate, hr, Bool.false_eq_true, if_false]
    cases ha : s.auth.get? ref with
    | none =>
      simp only [run_bind, log_run, run_pure]
      exact .bare _ (by simp [he, ha])
    | some a =>
      rw [ha] at he
      simp only [credentialFor]
      cases hq : acquisition? s a with
      | none =>
        cases a with
        | noAuth =>
          simp only [run_bind, run_pure]
          exact .unchanged (by rw [he]; rintro a ⟨⟩; rfl)
        | basic username password => exact .configured he rfl
        | static header value => exact .configured he rfl
        | clientCredentials clientId clientSecret oauth => cases hq
        | ownerPassword clientId clientSecret oauth user pass => cases hq
        | tokenLogin login => cases hq
      | some acquire =>
        obtain ⟨q, hq', -⟩ := acquisition?_eq_some hq
        rcases cachedOrAcquired_cases hq ref w with ⟨c, hf, hx⟩ | ⟨hf, before, hx⟩
        · simp only [run_bind, hx, run_pure, Except.map]
          exact .cached he hq' hf
        · rcases hout : (cachedOrAcquired ref acquire).run w with ⟨out, w'⟩
          rw [hout] at hx
          generalize hb : w.logging before = w₁ at hx
          cases hx with
          | unasked e hq hu =>
            subst hb
            simp only [run_bind, hout, run_pure, log_run, Except.map, World.logging_logging]
            exact .unasked _ he hq hf hu
          | refused hq hw hg =>
            subst hb
            simp only [run_bind, hout, run_pure, log_run, Except.map]
            exact .refused _ _ he hq hf hw hg
          | granted lines hq hw hg =>
            subst hb
            simp only [run_bind, hout, run_pure, Except.map]
            exact .granted _ _ he hq hf hw hg
          | overrun hq hw hg =>
            subst hb
            simp only [run_bind, hout]
            exact .overrun _ he hq hf hw hg

/-! ## What every way has in common -/

namespace Decorated

variable {s : Setup σ} {ref : String} {r r' : Request} {w w' : World σ} {names : List String}
  {out : Except ClockOverflow (Request × List String)}

/-- **At most one exchange is made, and it is for a token.** -/
theorem path (h : Decorated s ref r w out w') :
    ∃ xs, Path s w xs w' ∧ xs.length ≤ 1 ∧ ∀ x ∈ xs, x.purpose = .token := by
  have hex : ∀ (q : Request) (before : List LogLine), w.cancelled = false →
      Path s w [w.exchange s .token q] ((w.logging before).exchanged s .token q) :=
    fun q before hw => (Path.refl.logging before).exchanging .token q hw
  cases h with
  | bare lines => exact ⟨[], Path.refl.logging lines, by simp, by simp⟩
  | configured => exact ⟨[], .refl, by simp, by simp⟩
  | cached => exact ⟨[], .refl, by simp, by simp⟩
  | unasked lines => exact ⟨[], Path.refl.logging lines, by simp, by simp⟩
  | refused before after _ _ _ hw =>
    exact ⟨_, (hex _ before hw).logging after, by simp, by simp [World.exchange]⟩
  | granted before after _ _ _ hw =>
    exact ⟨_, ((hex _ before hw).logging after).caching _ _, by simp, by simp [World.exchange]⟩
  | overrun before _ _ _ hw => exact ⟨_, hex _ before hw, by simp, by simp [World.exchange]⟩

theorem store (h : Decorated s ref r w out w') : w'.store = w.store := by
  cases h <;> rfl

/-- No request for an action is sent. -/
theorem targets (h : Decorated s ref r w out w') : w'.targets = w.targets := by
  obtain ⟨xs, hx, _, ht⟩ := h.path
  have hnone : ∀ x ∈ xs, x.target? = none := by
    intro x hx
    rw [Exchange.target?, ht x hx]
  rw [hx.targets, List.filterMap_eq_nil_iff.mpr hnone, List.append_nil]

/-- Only the headers of a request change. -/
theorem request (h : Decorated s ref r w (.ok (r', names)) w') :
    r' = { r with headers := r'.headers } := by
  cases h <;> rfl

/-- In a cancelled run nothing happens but that some lines are logged. -/
theorem of_cancelled (h : Decorated s ref r w out w') (hw : w.cancelled = true) :
    ∃ r' names lines, out = .ok (r', names) ∧ w' = w.logging lines := by
  cases h with
  | bare lines => exact ⟨_, _, lines, rfl, rfl⟩
  | configured => exact ⟨_, _, [], rfl, w.logging_nil.symm⟩
  | cached => exact ⟨_, _, [], rfl, w.logging_nil.symm⟩
  | unasked lines => exact ⟨_, _, lines, rfl, rfl⟩
  | refused _ _ _ _ _ hc => rw [hw] at hc; cases hc
  | granted _ _ _ _ _ hc => rw [hw] at hc; cases hc
  | overrun _ _ _ _ hc => rw [hw] at hc; cases hc

end Decorated

end Reconcile
