import Reconcile.Proofs.Credential.TokenReplies
import Reconcile.Proofs.Run.Course

/-!
# Lifetimes of tokens

A token is cached with the second at which it stops being valid. Of a token that lasts longer than
the clock runs there is no such second, and the run stops for good.

* `Takes` — an exchange with a token endpoint that grants a token, and its lifetime;
  `Takes.grants` — the credential that comes of it.
* `Outlives` — a lifetime that ends beyond the clock; `Auth.grants_overrun_iff` — the only thing
  in an exchange that stops the run.
* `Round.Holds.stopped_iff` — a round is stopped by the lifetime of the token that it asked for.
* `lifetimes_within_clock` — no lifetime within the clock stops a request or an execution;
  `decorate_everlasting` — one beyond it does.
-/

namespace Reconcile

variable {σ : Type} {s : Setup σ} {ref : String} {a : Auth} {x : Exchange}

/-! ## Exchanges that grant tokens -/

/-- An exchange with a token endpoint that is taken, and the token that it grants. -/
structure Takes (s : Setup σ) (ref : String) (x : Exchange) (access type : String)
    (lifetime : Option Nat) : Prop where
  asks : Asks s ref x
  /-- Logins tell no lifetime. -/
  endpoint : ∀ login, s.entry? ref ≠ some (.tokenLogin login)
  reply : ∃ reply, x.reply.result? = some (.ok reply) ∧ reply.status = 200 ∧
    reply.Grants access type lifetime

/-- A lifetime that ends beyond the clock. -/
def Outlives (x : Exchange) (lifetime : Option Nat) : Prop :=
  ∃ seconds, lifetime = some seconds ∧ lastSecond < x.time + seconds

/-- The credential of a token that was granted by an exchange. -/
def Exchange.bearer (x : Exchange) (access type : String) (lifetime : Option Nat) : Credential where
  header := "Authorization"
  value := tokenWord type ++ " " ++ access
  expiresAt := lifetime.map (x.time + ·)

theorem not_outlives_iff {lifetime : Option Nat} :
    ¬ Outlives x lifetime ↔ ∀ seconds, lifetime = some seconds → x.time + seconds ≤ lastSecond := by
  simp only [Outlives, not_exists, not_and, Nat.not_lt]

theorem Token.credentialAt_of_lt {t : Token} {now seconds : Nat} (hl : t.lifetime = some seconds)
    (h : lastSecond < now + seconds) : t.credentialAt now = .error {} := by
  simp only [Token.credentialAt, hl, h, if_true]

/-- **What comes of a token that is granted**: its credential, unless it outlives the clock. -/
theorem Takes.grants {access type : String} {lifetime : Option Nat}
    (h : Takes s ref x access type lifetime) (ha : s.entry? ref = some a) :
    (¬ Outlives x lifetime → a.grants x = .ok (.ok (x.bearer access type lifetime))) ∧
      (Outlives x lifetime → a.grants x = .error {}) := by
  obtain ⟨reply, hr, hstatus, hg⟩ := h.reply
  have hlogin : ∀ login, a ≠ .tokenLogin login := by
    rintro login rfl
    exact h.endpoint login ha
  have htoken : Token.ofResponse reply = .ok ⟨access, Text.toSmall type, lifetime⟩ :=
    Token.ofResponse_eq_ok_iff.mpr ⟨hstatus, type, hg, rfl⟩
  have hgrants := Auth.grants_token hr (by omega) hlogin
  rw [htoken] at hgrants
  dsimp only at hgrants
  refine ⟨fun hclock => ?_, fun ⟨seconds, hl, hclock⟩ => ?_⟩
  · rw [hgrants, Token.credentialAt_of_le (not_outlives_iff.mp hclock), Token.headerValue,
      Token.label_eq rfl]
    rfl
  · rw [hgrants, Token.credentialAt_of_lt hl hclock]
    rfl

theorem accepted_eq_ok_iff {answer : Option (Except HttpError Response)} {r : Response} :
    accepted answer = .ok r ↔ answer = some (.ok r) ∧ r.status ≤ 201 := by
  rcases answer with _ | e | q
  · simp [accepted]
  · simp [accepted]
  · by_cases hq : q.status > 201
    · simp only [accepted, hq, if_true]
      refine iff_of_false (by rintro ⟨⟩) ?_
      rintro ⟨⟨⟩, hle⟩
      omega
    · simp only [accepted, hq, if_false, Except.ok.injEq, Option.some.injEq]
      refine ⟨?_, And.left⟩
      rintro rfl
      exact ⟨rfl, by omega⟩

/-- A token whose expiry is beyond the clock, and the reply that granted it. -/
theorem exists_token_of_overrun (h : tokenGrant x = .error {}) :
    ∃ reply t, x.reply.result? = some (.ok reply) ∧ Token.ofResponse reply = .ok t ∧
      t.credentialAt x.time = .error {} := by
  unfold tokenGrant at h
  cases hreply : accepted x.reply.result? with
  | error e => simp [hreply] at h
  | ok reply =>
    cases ht : Token.ofResponse reply with
    | error e => simp [hreply, ht] at h
    | ok t =>
      refine ⟨reply, t, (accepted_eq_ok_iff.mp hreply).1, ht, ?_⟩
      cases hc : t.credentialAt x.time with
      | error e => rfl
      | ok c => simp [hreply, ht, hc, Except.map] at h

/-- **Only a token that outlives the clock stops a run.** -/
theorem Auth.grants_overrun_iff (hx : Asks s ref x) (ha : s.entry? ref = some a) :
    a.grants x = .error {} ↔
      ∃ access type lifetime, Takes s ref x access type lifetime ∧ Outlives x lifetime := by
  constructor
  · intro h
    have hlogin : ∀ login, a ≠ .tokenLogin login := by
      rintro login rfl
      cases h
    have htoken : tokenGrant x = .error {} := by
      cases a with
      | tokenLogin login => exact absurd rfl (hlogin login)
      | _ => exact h
    obtain ⟨reply, t, hr, ht, hc⟩ := exists_token_of_overrun htoken
    obtain ⟨hstatus, type, hg, -⟩ := Token.ofResponse_eq_ok_iff.mp ht
    refine ⟨_, _, _, ⟨hx, fun login hl => ?_, reply, hr, hstatus, hg⟩, ?_⟩
    · rw [ha] at hl
      exact hlogin login (Option.some.inj hl)
    · by_contra hclock
      rw [Token.credentialAt_of_le (not_outlives_iff.mp hclock)] at hc
      cases hc
  · rintro ⟨access, type, lifetime, htakes, hclock⟩
    exact (htakes.grants ha).2 hclock

/-! ## Rounds and runs -/

/-- A round with an exchange that outlives the clock. -/
def Round.Outlived (s : Setup σ) (r : Round σ) : Prop :=
  ∃ x ∈ r.asked, ∃ access type lifetime,
    Takes s r.action.action.authRef x access type lifetime ∧ Outlives x lifetime

/-- An exchange for a credential does not stop the run when the request comes out. -/
theorem Decorated.grants_ne_overrun {r : Request} {w w' : World σ} {out : Request × List String}
    (h : Decorated s ref r w (.ok out) w') (hx : w.asking? s ref = some (a, x)) :
    a.grants x ≠ .error {} := by
  intro hg
  cases h.asks.2.mpr ⟨a, x, hx, hg⟩

/-- An exchange for a credential that was made for a request does not stop the run when the request
comes to its end. -/
theorem Performed.grants_ne_overrun {p : Prepared} {verb : Verb} {id : Option String}
    {body : List UInt8} {w w' : World σ} {out : Except ActionError (List UInt8)}
    (h : Performed s p verb id body w (.ok out) w') {xs : List Exchange} (hpath : Path s w xs w')
    (hmem : x ∈ xs) (hx : w.asking? s p.action.authRef = some (a, x)) : a.grants x ≠ .error {} := by
  cases h with
  | malformed lines hu =>
    -- nothing is sent then, but the exchange was
    have hsent : w.sent ++ [] = w.sent ++ _ :=
      (List.append_nil _).trans ((World.logging_sent w lines).symm.trans hpath.sent)
    have hnil := List.map_eq_nil_iff.mp (List.append_cancel_left hsent).symm
    rw [hnil] at hmem
    cases hmem
  | unsent lines hu hd hw => exact hd.grants_ne_overrun hx
  | exchanged lines hu hd hw => exact hd.grants_ne_overrun hx

/-- **A round is stopped by a token that outlives the clock**, and by nothing else. -/
theorem Round.Holds.stopped_iff {r : Round σ} (h : r.Holds s) :
    r.stopped = true ↔ r.Outlived s := by
  constructor
  · intro hstopped
    obtain ⟨e, he⟩ : ∃ e, r.out = .error e := by
      unfold Round.stopped at hstopped
      split at hstopped
      · exact ⟨_, ‹_›⟩
      · cases hstopped
    obtain ⟨-, x, hx, a, ha, hg⟩ := h.overrun e he
    exact ⟨x, hx, (Auth.grants_overrun_iff (h.asks x hx) ha).mp hg⟩
  · rintro ⟨x, hx, hlong⟩
    obtain ⟨a, hax⟩ := h.asked x hx
    have hentry : s.entry? r.action.action.authRef = some a := (World.asking?_eq_some.mp hax).2.2.1
    have hg : a.grants x = .error {} := (Auth.grants_overrun_iff (h.asks x hx) hentry).mpr hlong
    have hmem : x ∈ r.exchanges := List.mem_append_left _ (Option.mem_toList.mpr hx)
    have hp := perform_cases s r.action r.verb r.id r.body r.before
    rw [h.ran] at hp
    unfold Round.stopped
    cases hout : r.out with
    | error e => rfl
    | ok out =>
      rw [hout] at hp
      exact absurd hg (hp.grants_ne_overrun h.path hmem hax)

/-! ## Lifetimes and the clock -/

/-- **No lifetime within the clock stops a request**, which comes out with the token and leaves it
in the cache until then, **or an execution**. A token that outlives the clock does: its request does
not come out, nothing is cached, and the execution has no result. -/
theorem lifetimes_within_clock (s : Setup σ) :
    (∀ (w : World σ) (ref : String) (a : Auth) (x : Exchange) (access type : String)
      (lifetime : Option Nat) (r : Request), w.asking? s ref = some (a, x) →
      Takes s ref x access type lifetime →
      let run := (decorate s ref r).run w
      let c := x.bearer access type lifetime
      ((∀ seconds, lifetime = some seconds → x.time + seconds ≤ lastSecond) →
        run.1 = .ok (r.carrying c, [c.header]) ∧ run.2.cache = w.cache.insert ref c) ∧
      (∀ seconds, lifetime = some seconds → lastSecond < x.time + seconds →
        run.1 = .error {} ∧ run.2.cache = w.cache)) ∧
    ∀ (actions : List Prepared) (w : World σ),
      ∃ rounds, Course s w.opened rounds (execute s actions w).2 ∧
        (∀ r ∈ rounds, r.action ∈ actions) ∧
        ((∃ errors, (execute s actions w).1 = .ok errors) ↔
          ∀ r ∈ rounds, ∀ x ∈ r.asked, ∀ access type seconds,
            Takes s r.action.action.authRef x access type (some seconds) →
            x.time + seconds ≤ lastSecond) := by
  refine ⟨fun w ref a x access type lifetime r hx htakes => ?_, fun actions w => ?_⟩
  · intro run c
    obtain ⟨hout, -⟩ := decorate_of_asking hx r
    have hcache := (decorate_cases s ref r w).cache_eq
    obtain ⟨hwithin, hbeyond⟩ := htakes.grants (World.asking?_eq_some.mp hx).2.2.1
    simp only [World.granting?, hx] at hcache
    refine ⟨fun hclock => ?_, fun seconds hl hclock => ?_⟩
    · rw [hwithin (not_outlives_iff.mpr hclock)] at hout hcache
      exact ⟨hout, hcache⟩
    · rw [hbeyond ⟨seconds, hl, hclock⟩] at hout hcache
      exact ⟨hout, hcache⟩
  · obtain ⟨rounds, hc, ha, he⟩ := runAll_ended s actions w.opened
    refine ⟨rounds, hc, ha, ?_⟩
    have hok : (∃ errors, (execute s actions w).1 = .ok errors) ↔
        ¬ (execute s actions w).1 = .error {} := by
      cases (execute s actions w).1 <;> simp
    rw [hok, show (execute s actions w).1 = .error {} ↔ _ from he.error_iff]
    constructor
    · intro hnone r hr x hx access type seconds htakes
      by_contra hclock
      refine hnone ⟨r, hr, (hc.holds r hr).stopped_iff.mpr ?_⟩
      exact ⟨x, hx, access, type, _, htakes, seconds, rfl, Nat.lt_of_not_le hclock⟩
    · rintro hclock ⟨r, hr, hstopped⟩
      obtain ⟨x, hx, access, type, _, htakes, seconds, rfl, hbeyond⟩ :=
        (hc.holds r hr).stopped_iff.mp hstopped
      exact absurd (hclock r hr x hx access type seconds htakes) (Nat.not_le_of_lt hbeyond)

/-- A reply that grants a token with a lifetime. -/
def Response.lasting (seconds : Nat) : Response where
  status := 200
  headers := .ofList [("Content-Type", "application/json")]
  body := Text.Utf8.encode ("\x7b\"access_token\":\"t\",\"token_type\":\"bearer\"," ++
    "\"expires_in\":" ++ toString seconds ++ "\x7d")

/-- A world in which the token endpoint grants a token with a lifetime. -/
def World.lasting (seconds : Nat) : World Script where
  transport := [⟨"POST", "/token", [{ outcome := .response (.lasting seconds) }]⟩]

theorem World.lasting_takes {seconds : Nat}
    (h : Token.ofResponse (.lasting seconds) = .ok ⟨"t", "bearer", some seconds⟩) :
    ∃ a x type, (World.lasting seconds).asking? bothServers "o" = some (a, x) ∧
      Takes bothServers "o" x "t" type (some seconds) ∧ x.time = 0 ∧ tokenWord type = "Bearer" := by
  let url : Url := { scheme := "http", host := some (.name "h"), path := .rooted ["token"] }
  let oauth : OAuth := { serverUrl := "http://h/token" }
  let question := tokenRequest {} url oauth "i" "s" .clientCredentials
  have hurl : Url.parse oauth.serverUrl = .ok url := by decide +kernel
  have hquestion : (Auth.clientCredentials "i" "s" oauth).question? bothServers.limits =
      some (.ok question) := by
    rw [Auth.question?, hurl]
    rfl
  have hentry : bothServers.entry? "o" = some (.clientCredentials "i" "s" oauth) := by
    decide +kernel
  have hx : (World.lasting seconds).asking? bothServers "o" =
      some (_, (World.lasting seconds).exchange bothServers .token question) :=
    World.asking?_eq_some.mpr ⟨rfl, rfl, hentry, question, hquestion, rfl⟩
  have hr : (World.lasting seconds).reply bothServers question =
      .answered false 0 (.ok (.lasting seconds)) := by
    rfl
  obtain ⟨hstatus, type, hg, hkind⟩ := Token.ofResponse_eq_ok_iff.mp h
  have hbearer : Text.sameIgnoringCase type "bearer" = true := by
    rw [← sameIgnoringCase_toSmall_bearer type, hkind]
    exact Text.sameIgnoringCase_refl _
  refine ⟨_, _, type, hx, ⟨World.asks_of_asking hx, ?_, _, ?_, hstatus, hg⟩, ?_,
    if_pos (.inr hbearer)⟩
  · rw [hentry]
    rintro login ⟨⟩
  · rw [World.exchange, hr]
    rfl
  · rw [World.exchange, hr]
    rfl

/-- A token that lasts to the last second of the clock. -/
theorem lifetimes_within_clock_last :
    ∃ a x type, (World.lasting lastSecond).asking? bothServers "o" = some (a, x) ∧
      Takes bothServers "o" x "t" type (some lastSecond) ∧
      ((decorate bothServers "o" .plain).run (.lasting lastSecond)).1 =
        .ok (.bearing, ["Authorization"]) := by
  have htoken : Token.ofResponse (.lasting lastSecond) = .ok ⟨"t", "bearer", some lastSecond⟩ := by
    decide +kernel
  obtain ⟨a, x, type, hx, htakes, htime, hword⟩ := World.lasting_takes htoken
  have hwithin := (lifetimes_within_clock bothServers).1 _ _ a x "t" type _ .plain hx htakes
  have hlast : ∀ seconds, some lastSecond = some seconds → x.time + seconds ≤ lastSecond := by
    rintro _ ⟨⟩
    rw [htime, Nat.zero_add]
  refine ⟨a, x, type, hx, htakes, ?_⟩
  rw [(hwithin.1 hlast).1, Exchange.bearer, hword, htime]
  decide +kernel

/-- **A lifetime can stop a request**: a token that is granted for the greatest number of seconds
that a reply can tell. -/
theorem decorate_everlasting :
    ∃ a x type, (World.lasting 18446744073709551615).asking? bothServers "o" = some (a, x) ∧
      Takes bothServers "o" x "t" type (some 18446744073709551615) ∧
      ((decorate bothServers "o" .plain).run (.lasting 18446744073709551615)).1 = .error {} := by
  have htoken : Token.ofResponse (.lasting 18446744073709551615) =
      .ok ⟨"t", "bearer", some 18446744073709551615⟩ := by
    decide +kernel
  have hstops : ((decorate bothServers "o" .plain).run (.lasting 18446744073709551615)).1 =
      .error {} := by
    decide +kernel
  obtain ⟨a, x, type, hx, htakes, -, -⟩ := World.lasting_takes htoken
  exact ⟨a, x, type, hx, htakes, hstops⟩

end Reconcile
