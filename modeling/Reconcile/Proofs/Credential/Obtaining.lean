import Reconcile.Proofs.Credential.Calls
import Reconcile.Proofs.Run.HeaderLines

/-!
# What a request obtains

The credential that a request carries depends on its entry, on what is cached for it and on the
reply of its server, and on nothing else.

* `Asks` — an exchange for the credential of an entry; `Decorated.asks` — the exchanges that a
  request makes, and when they stop the run.
* `World.credential?` — the credential that a request obtains, and `World.credential?_eq_some` where
  it comes from; `Decorated.bears` — the request comes out with it; `Decorated.obtained` — and but
  for its headers as it was.
* `Auth.fault?` — what is wrong with the reply of a server; `Fruitless` — the ways in which a
  request obtains nothing; `World.credential?_of_fruitless`,
  `World.fruitless_of_credential?_eq_none` — there are no others.
-/

namespace Reconcile

variable {σ : Type}

/-! ## Exchanges for credentials -/

/-- An exchange for the credential of an entry. -/
def Asks (s : Setup σ) (ref : String) (x : Exchange) : Prop :=
  x.purpose = .token ∧ ∃ a, s.entry? ref = some a ∧ a.question? s.limits = some (.ok x.request)

theorem World.asks_of_asking {s : Setup σ} {w : World σ} {ref : String} {a : Auth} {x : Exchange}
    (h : w.asking? s ref = some (a, x)) : Asks s ref x := by
  obtain ⟨_, _, ha, q, hq, rfl⟩ := World.asking?_eq_some.mp h
  exact ⟨rfl, a, ha, hq⟩

/-- **A request makes one exchange or none**, and the run stops meanwhile exactly when the clock
cannot tell when the token that came stops being valid. -/
theorem Decorated.asks {s : Setup σ} {ref : String} {r : Request} {w w' : World σ}
    {out : Except ClockOverflow (Request × List String)} (h : Decorated s ref r w out w') :
    Path s w ((w.asking? s ref).map Prod.snd).toList w' ∧
      (out = .error {} ↔ ∃ a x, w.asking? s ref = some (a, x) ∧ a.grants x = .error {}) := by
  have hpath : ∀ (q : Request) (before : List LogLine), w.cancelled = false →
      Path s w [w.exchange s .token q] ((w.logging before).exchanged s .token q) :=
    fun q before hw => (Path.refl.logging before).exchanging .token q hw
  have hunasked : w.asking? s ref = none → Path s w [] w' → out ≠ .error {} →
      Path s w ((w.asking? s ref).map Prod.snd).toList w' ∧
        (out = .error {} ↔ ∃ a x, w.asking? s ref = some (a, x) ∧ a.grants x = .error {}) := by
    intro hn hp hout
    rw [hn]
    exact ⟨hp, iff_of_false hout fun ⟨_, _, hx, _⟩ => Option.some_ne_none _ hx.symm⟩
  have hasked : ∀ {a : Auth} {q : Request}, s.entry? ref = some a →
      a.question? s.limits = some (.ok q) → w.fresh? ref = none → w.cancelled = false →
      Path s w [w.exchange s .token q] w' →
      (out = .error {} ↔ a.grants (w.exchange s .token q) = .error {}) →
      Path s w ((w.asking? s ref).map Prod.snd).toList w' ∧
        (out = .error {} ↔ ∃ a x, w.asking? s ref = some (a, x) ∧ a.grants x = .error {}) := by
    intro a q ha hq hf hw hp hout
    rw [World.asking?_eq_some.mpr ⟨hw, hf, ha, q, hq, rfl⟩]
    refine ⟨hp, hout.trans ⟨fun hg => ⟨a, _, rfl, hg⟩, ?_⟩⟩
    rintro ⟨_, _, ⟨⟩, hg⟩
    exact hg
  cases h with
  | bare lines hn =>
    exact hunasked (World.asking?_of_bare hn) (Path.refl.logging lines) (by simp)
  | configured ha hc => exact hunasked (World.asking?_of_configured ha hc) .refl (by simp)
  | cached ha hq hf => exact hunasked (World.asking?_of_fresh hf) .refl (by simp)
  | unasked lines ha hq hf hu =>
    exact hunasked (World.asking?_of_unasked ha hq hu) (Path.refl.logging lines) (by simp)
  | refused before after ha hq hf hw hg =>
    exact hasked ha hq hf hw ((hpath _ before hw).logging after) (by simp [hg])
  | granted before after ha hq hf hw hg =>
    exact hasked ha hq hf hw (((hpath _ before hw).logging after).caching ref _) (by simp [hg])
  | overrun before ha hq hf hw hg =>
    exact hasked ha hq hf hw (hpath _ before hw) (by simp [hg])

/-! ## The credential of a request -/

/-- The credential that a request obtains: that of an entry that asks no server, else the cached
one while it is fresh, else the one that its exchange gives. -/
def World.credential? (w : World σ) (s : Setup σ) (ref : String) : Option Credential :=
  match s.entry? ref with
  | none => none
  | some a =>
    match a.question? s.limits with
    | none => a.configured?
    | some _ => (w.fresh? ref).or (w.granting? s ref)

/-- A request with a credential or without one, and the names of the headers that carry it. -/
def Request.given (r : Request) : Option Credential → Request × List String
  | none => (r, [])
  | some c => (r.carrying c, [c.header])

/-- What is wrong with the reply of an entry's server. -/
def Auth.fault? (a : Auth) (x : Exchange) : Option AuthError :=
  match x.reply.result? with
  | none => some .cancelled
  | some (.error e) => some (.transport e)
  | some (.ok r) =>
    if 201 < r.status then some (.badStatus r.status)
    else
      match a with
      | .tokenLogin login =>
        match loginCredential login r with
        | .error e => some e
        | .ok _ => none
      | _ =>
        match Token.ofResponse r with
        | .error e => some (.exchange e)
        | .ok _ => none

/-- The ways in which a request obtains nothing. -/
inductive Fruitless (s : Setup σ) (w : World σ) (ref : String) : Prop
  /-- It refers to nothing. -/
  | empty (h : ref = "")
  /-- Its entry is not declared. -/
  | undeclared (h : s.auth.get? ref = none)
  /-- Its entry has no credential. -/
  | noAuth (h : s.entry? ref = some .noAuth)
  /-- The run is cancelled before its server can be asked. -/
  | cancelled {a : Auth} {q : Except AuthError Request} (ha : s.entry? ref = some a)
      (hq : a.question? s.limits = some q) (hf : w.fresh? ref = none) (hw : w.cancelled = true)
  /-- The address of its server is malformed. -/
  | malformed {a : Auth} {e : AuthError} (ha : s.entry? ref = some a)
      (hq : a.question? s.limits = some (.error e)) (hf : w.fresh? ref = none)
  /-- The reply of its server is of no use. -/
  | refused {a : Auth} {x : Exchange} {e : AuthError} (hx : w.asking? s ref = some (a, x))
      (he : a.fault? x = some e)

section Obtaining

variable {s : Setup σ} {w w' : World σ} {ref : String} {a : Auth}

theorem World.credential?_of_no_entry (ha : s.entry? ref = none) :
    w.credential? s ref = none := by
  simp only [credential?, ha]

theorem World.credential?_of_configured {c : Credential} (ha : s.entry? ref = some a)
    (hc : a.configured? = some c) : w.credential? s ref = some c := by
  simp only [credential?, ha, Auth.question?_of_configured hc, hc]

theorem World.credential?_of_question {q : Except AuthError Request} (ha : s.entry? ref = some a)
    (hq : a.question? s.limits = some q) :
    w.credential? s ref = (w.fresh? ref).or (w.granting? s ref) := by
  simp only [credential?, ha, hq]

theorem World.credential?_of_noAuth (ha : s.entry? ref = some .noAuth) :
    w.credential? s ref = none := by
  simp only [credential?, ha]
  rfl

/-- **The credential that a request obtains** is that of an entry that asks no server, or a cached
and fresh one, or the one that its exchange gives. -/
theorem World.credential?_eq_some {c : Credential} :
    w.credential? s ref = some c ↔
      ∃ a, s.entry? ref = some a ∧
        (a.configured? = some c ∨
          a.asksServer = true ∧ (w.fresh? ref = some c ∨ w.granting? s ref = some c)) := by
  cases ha : s.entry? ref with
  | none =>
    rw [World.credential?_of_no_entry ha]
    simp
  | some a =>
    cases hq : a.question? s.limits with
    | none =>
      have hserver : a.asksServer = false := by
        cases h : a.asksServer with
        | false => rfl
        | true =>
          obtain ⟨q, hq'⟩ := Auth.question_of_asksServer h s.limits
          cases hq.symm.trans hq'
      simp [World.credential?, ha, hq, hserver]
    | some q =>
      have hserver := Auth.asksServer_of_question hq
      have hc : a.configured? = none := by
        cases h : a.configured? with
        | none => rfl
        | some d =>
          rw [Auth.question?_of_configured h] at hq
          cases hq
      -- an exchange is made only when no fresh credential is cached
      have hexclusive : w.granting? s ref = some c → w.fresh? ref = none := by
        intro hg
        cases hx : w.asking? s ref with
        | none =>
          rw [World.granting?_of_asking_none hx] at hg
          cases hg
        | some ax => exact (World.asking?_eq_some.mp hx).2.1
      rw [World.credential?_of_question ha hq, Option.or_eq_some_iff]
      constructor
      · rintro (hf | ⟨_, hg⟩)
        · exact ⟨a, rfl, .inr ⟨hserver, .inl hf⟩⟩
        · exact ⟨a, rfl, .inr ⟨hserver, .inr hg⟩⟩
      · rintro ⟨b, ⟨⟩, hd | ⟨_, hf | hg⟩⟩
        · rw [hc] at hd
          cases hd
        · exact .inl hf
        · exact .inr ⟨hexclusive hg, hg⟩

/-- **A request comes out with the credential that it obtains**, and with none if it obtains
none. -/
theorem Decorated.bears {r : Request} {out : Request × List String}
    (h : Decorated s ref r w (.ok out) w') : out = r.given (w.credential? s ref) := by
  have hbare : w.credential? s ref = none → (r, []) = r.given (w.credential? s ref) := by
    intro hn
    rw [hn]
    rfl
  have hcarrying : ∀ {c : Credential}, w.credential? s ref = some c →
      (r.carrying c, [c.header]) = r.given (w.credential? s ref) := by
    intro c hc
    rw [hc]
    rfl
  cases h with
  | bare lines hn =>
    apply hbare
    cases ha : s.entry? ref with
    | none => exact World.credential?_of_no_entry ha
    | some a => exact World.credential?_of_noAuth (hn a ha ▸ ha)
  | configured ha hc => exact hcarrying (World.credential?_of_configured ha hc)
  | cached ha hq hf =>
    apply hcarrying
    rw [World.credential?_of_question ha hq, hf, Option.some_or]
  | unasked lines ha hq hf hu =>
    apply hbare
    rw [World.credential?_of_question ha hq, hf,
      World.granting?_of_asking_none (World.asking?_of_unasked ha hq hu), Option.or_none]
  | refused before after ha hq hf hw hg =>
    apply hbare
    rw [World.credential?_of_question ha hq, hf, Option.none_or]
    refine World.granting?_of_grants_ne (World.asking?_eq_some.mpr ⟨hw, hf, ha, _, hq, rfl⟩) ?_
    rw [hg]
    rintro c ⟨⟩
  | granted before after ha hq hf hw hg =>
    apply hcarrying
    rw [World.credential?_of_question ha hq, hf, Option.none_or]
    exact World.granting?_eq_some.mpr
      ⟨_, _, World.asking?_eq_some.mpr ⟨hw, hf, ha, _, hq, rfl⟩, hg⟩

/-- But for its headers, a request of an action comes out as it was. -/
theorem Decorated.obtained {p : Prepared} {r r' : Request} {names : List String}
    (h : Decorated s p.action.authRef r w (.ok (r', names)) w') (hr : r.headers = p.headers) :
    r' = { r with headers := p.attaching (w.credential? s p.action.authRef) } := by
  have hb := h.bears
  cases hc : w.credential? s p.action.authRef with
  | none =>
    rw [hc] at hb
    cases hb
    rw [Prepared.attaching, ← hr]
  | some c =>
    rw [hc] at hb
    cases hb
    rw [Request.carrying, hr]
    rfl

/-- An entry makes nothing of a reply exactly when something is wrong with it. -/
theorem Auth.grants_error_iff {x : Exchange} {e : AuthError} :
    a.grants x = .ok (.error e) ↔ a.fault? x = some e := by
  have htoken : tokenGrant x = .ok (.error e) ↔ Auth.noAuth.fault? x = some e := by
    unfold tokenGrant fault?
    generalize x.reply.result? = result
    rcases result with _ | e' | r
    · simp [accepted]
    · simp [accepted]
    · by_cases hr : 201 < r.status
      · simp [accepted, hr]
      · cases ht : Token.ofResponse r with
        | error e' => simp [accepted, hr, ht]
        | ok t => cases hc : t.credentialAt x.time <;> simp [accepted, hr, ht, hc, Except.map]
  cases a with
  | tokenLogin login =>
    show Except.ok (loginGrant login x) = _ ↔ _
    unfold loginGrant fault?
    generalize x.reply.result? = result
    rcases result with _ | e' | r
    · simp [accepted]
    · simp [accepted]
    · by_cases hr : 201 < r.status
      · simp [accepted, hr]
      · cases hc : loginCredential login r <;> simp [accepted, hr, hc]
  | _ => exact htoken

/-- An entry that asks no server and has no credential of its own has none at all. -/
theorem Auth.eq_noAuth {limits : Limits} (hq : a.question? limits = none)
    (hc : a.configured? = none) : a = .noAuth := by
  cases a with
  | noAuth => rfl
  | basic username password => cases hc
  | static header value => cases hc
  | clientCredentials clientId clientSecret oauth => cases hq
  | ownerPassword clientId clientSecret oauth user pass => cases hq
  | tokenLogin login => cases hq

/-- **A request obtains nothing** in each of these ways. -/
theorem World.credential?_of_fruitless (h : Fruitless s w ref) : w.credential? s ref = none := by
  have hunasked : ∀ {a : Auth} {q : Except AuthError Request}, s.entry? ref = some a →
      a.question? s.limits = some q → w.fresh? ref = none → w.asking? s ref = none →
      w.credential? s ref = none := by
    intro a q ha hq hf hn
    rw [World.credential?_of_question ha hq, hf, World.granting?_of_asking_none hn, Option.or_none]
  cases h with
  | empty h =>
    apply World.credential?_of_no_entry
    rw [h]
    rfl
  | undeclared h =>
    apply World.credential?_of_no_entry
    rw [Setup.entry?, h, ite_self]
  | noAuth h => exact World.credential?_of_noAuth h
  | cancelled ha hq hf hw => exact hunasked ha hq hf (World.asking?_of_cancelled hw)
  | malformed ha hq hf =>
    exact hunasked ha hq hf (World.asking?_of_unasked ha hq (.inr ⟨_, rfl⟩))
  | refused hx he =>
    obtain ⟨_, hf, ha, q, hq, _⟩ := World.asking?_eq_some.mp hx
    rw [World.credential?_of_question ha hq, hf, Option.none_or]
    refine World.granting?_of_grants_ne hx ?_
    rw [Auth.grants_error_iff.mpr he]
    rintro c ⟨⟩

/-- **There are no other ways**, unless the clock stops the run. -/
theorem World.fruitless_of_credential?_eq_none (h : w.credential? s ref = none)
    (hg : ∀ a x, w.asking? s ref = some (a, x) → a.grants x ≠ .error {}) :
    Fruitless s w ref := by
  cases ha : s.entry? ref with
  | none =>
    unfold Setup.entry? at ha
    split at ha
    · rename_i hr
      exact .empty (String.isEmpty_iff.mp hr)
    · exact .undeclared ha
  | some a =>
    cases hq : a.question? s.limits with
    | none =>
      simp only [World.credential?, ha, hq] at h
      exact .noAuth (Auth.eq_noAuth hq h ▸ ha)
    | some q =>
      rw [World.credential?_of_question ha hq, Option.or_eq_none_iff] at h
      obtain ⟨hf, hn⟩ := h
      cases hx : w.asking? s ref with
      | some ax =>
        obtain ⟨b, x⟩ := ax
        rw [World.granting?, hx] at hn
        rcases hgx : b.grants x with e | e | c
        · exact absurd hgx (hg b x hx)
        · exact .refused hx (Auth.grants_error_iff.mp hgx)
        · simp [hgx] at hn
      | none =>
        cases hw : w.cancelled with
        | true => exact .cancelled ha hq hf hw
        | false =>
          rcases q with e | q
          · exact .malformed ha hq hf
          · -- the server would be asked
            rw [World.asking?_eq_some.mpr ⟨hw, hf, ha, q, hq, rfl⟩] at hx
            cases hx

end Obtaining

end Reconcile
