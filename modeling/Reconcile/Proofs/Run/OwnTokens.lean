import Mathlib.Control.Monad.Basic
import Reconcile.Http.Script
import Reconcile.Proofs.Run.Course

/-!
# Credentials of one execution

* `Visit.Current` — what a call for a credential does, given the calls before it: what it sends,
  attaches and caches; `visits_current` — every call does so.
* `Gave` — an exchange that gave the credential of an entry; `Course.gave` — what is cached in a run
  was given by its own exchanges.
* `Round.Current` — what a request of an action carries, given the rounds before it.
* `credentials_are_current` — calls for credentials and executions with all that is cached.
-/

namespace Reconcile

variable {σ : Type}

/-! ## Calls -/

/-- What a call for the credential of an entry does, given the calls before it. -/
structure Visit.Current (s : Setup σ) (pre : List (Visit σ)) (v : Visit σ) : Prop where
  /-- What is cached for an entry is what its latest successful exchange gave. -/
  cached : ∀ name, v.before.cache.get? name = latest s name pre
  /-- The call makes an exchange exactly if its entry asks a server, what is cached for the entry
  is not fresh, and the run is not cancelled; it asks what the entry asks. -/
  asks : ∀ a x, v.before.asking? s v.call.ref = some (a, x) ↔
    s.entry? v.call.ref = some a ∧ a.asksServer = true ∧
      (∀ c, v.before.cache.get? v.call.ref = some c → c.isFresh v.before.now = false) ∧
      v.before.cancelled = false ∧
      ∃ q, a.question? s.limits = some (.ok q) ∧ x = v.before.exchange s .token q
  /-- It sends the request of that exchange, and nothing else. -/
  sent : v.after.sent = v.before.sent ++
    (v.before.asking? s v.call.ref).toList.map fun ax => (.token, ax.2.request)
  /-- It is stopped only by a token whose expiry is beyond the clock. -/
  stopped : v.out = .error {} ↔
    ∃ a x, v.before.asking? s v.call.ref = some (a, x) ∧ a.grants x = .error {}
  /-- The request comes out with the credential that it obtains. -/
  out : ∀ out, v.out = .ok out → out = v.call.request.given (v.before.credential? s v.call.ref)
  /-- That is the one of an entry that asks no server, or the one of the latest successful exchange
  for the entry, still fresh, or the one that the exchange of this call gives. -/
  attached : ∀ c, v.before.credential? s v.call.ref = some c ↔
    ∃ a, s.entry? v.call.ref = some a ∧
      (a.configured? = some c ∨
        a.asksServer = true ∧
          (latest s v.call.ref pre = some c ∧ c.isFresh v.before.now = true ∨
            v.before.granting? s v.call.ref = some c))
  /-- An entry that asks no server gives its credential with no exchange. -/
  configured : ∀ a c, s.entry? v.call.ref = some a → a.configured? = some c →
    v.after.sent = v.before.sent ∧ v.out = .ok (v.call.request.carrying c, [c.header])
  /-- If no exchange succeeds the cache stays as it was. -/
  kept : v.before.granting? s v.call.ref = none → v.after.cache = v.before.cache
  /-- If the exchange of the last call for the entry failed, this call asks again, unless the run
  is cancelled. -/
  again : ∀ first mid u a x, pre = first ++ u :: mid → u.call.ref = v.call.ref →
    (∀ m ∈ mid, m.call.ref ≠ v.call.ref) → u.before.asking? s u.call.ref = some (a, x) →
    u.before.granting? s u.call.ref = none → v.before.cancelled = false →
    ∃ y, v.before.asking? s v.call.ref = some (a, y) ∧
      v.after.sent = v.before.sent ++ [(.token, y.request)]
  /-- What calls for other entries do afterwards is what they would do if this call had cached
  nothing. -/
  elsewhere : ∀ later : List Call, (∀ c ∈ later, c.ref ≠ v.call.ref) →
    (visits s later v.after).map Visit.shown =
      (visits s later (v.after.recached v.before)).map Visit.shown

/-- **Every call does what it should**, given the calls before it. -/
theorem visits_current {s : Setup σ} {calls : List Call} {w : World σ}
    {pre post : List (Visit σ)} {v : Visit σ}
    (h : visits s calls w.opened = pre ++ v :: post) : v.Current s pre := by
  have hd := visits_decorated h
  have hcached : ∀ name, v.before.cache.get? name = latest s name pre := fun name =>
    (visits_cache h name).trans Option.or_none
  refine {
    cached := hcached
    asks := fun _ _ => World.asking?_iff
    sent := hd.asked
    stopped := hd.asks.2
    out := fun out hout => ?_
    attached := fun c => ?_
    configured := fun a c ha hc => ?_
    kept := fun hg => ?_
    again := fun first mid u a x hpre hu hmid hask hg hw => ?_
    elsewhere := fun later hl => visits_after h hl }
  · rw [hout] at hd
    exact hd.bears
  · have hfresh : v.before.fresh? v.call.ref = some c ↔
        latest s v.call.ref pre = some c ∧ c.isFresh v.before.now = true := by
      rw [World.fresh?, hcached, Option.filter_eq_some_iff]
    rw [World.credential?_eq_some, hfresh]
  · have hnone := World.asking?_of_configured (w := v.before) ha hc
    have hsent := hd.asked
    rw [hnone] at hsent
    refine ⟨hsent.trans (List.append_nil _), ?_⟩
    cases ho : v.out with
    | error e =>
      obtain ⟨_, _, hx, _⟩ := hd.asks.2.mp ho
      cases hnone.symm.trans hx
    | ok out =>
      rw [ho] at hd
      rw [hd.bears, World.credential?_of_configured ha hc]
      rfl
  · rw [hd.cache_eq, hg]
  · rw [hpre, List.append_assoc, List.cons_append] at h
    rcases visits_again h hask hg (fun m hm => hu ▸ hmid m hm) hu.symm with hc | ⟨y, hy⟩
    · cases hw.symm.trans hc
    · refine ⟨y, hy, ?_⟩
      rw [hd.asked, hy]
      rfl

/-! ## Executions -/

/-- An exchange that gave the credential of an entry. -/
def Gave (s : Setup σ) (name : String) (c : Credential) (x : Exchange) : Prop :=
  x.purpose = .token ∧ ∃ a, s.entry? name = some a ∧
    a.question? s.limits = some (.ok x.request) ∧ a.grants x = .ok (.ok c)

/-- What a round of a run sends, given the rounds before it. -/
structure Round.Current (s : Setup σ) (pre : List (Round σ)) (r : Round σ) : Prop where
  /-- It asks for a credential what the entry of its action asks. -/
  asks : ∀ x ∈ r.asked, Asks s r.action.action.authRef x
  /-- Its request carries the credential that it obtained. -/
  carries : ∀ x ∈ r.sent, x.request.headers =
    r.action.attaching (r.before.credential? s r.action.action.authRef)
  /-- That is the one of an entry that asks no server, or one that an exchange of the same run
  gave. -/
  own : ∀ x ∈ r.sent, ∀ c, r.before.credential? s r.action.action.authRef = some c →
    (∃ a, s.entry? r.action.action.authRef = some a ∧ a.configured? = some c) ∨
      ∃ q ∈ pre.flatMap Round.exchanges ++ r.asked.toList, Gave s r.action.action.authRef c q

section Executions

variable {s : Setup σ} {w w' : World σ} {name : String} {c : Credential}

/-- The exchange of a request gave what it granted. -/
theorem World.gave_of_asking {ref : String} {a : Auth} {x : Exchange}
    (hx : w.asking? s ref = some (a, x)) (hg : a.grants x = .ok (.ok c)) : Gave s ref c x := by
  obtain ⟨_, _, ha, q, hq, rfl⟩ := World.asking?_eq_some.mp hx
  exact ⟨rfl, a, ha, hq, hg⟩

/-- **What one request caches**: what its exchange gave, which is the first thing that it sends. -/
theorem Performed.caches {p : Prepared} {verb : Verb} {id : Option String} {body : List UInt8}
    {out : Except ClockOverflow (Except ActionError (List UInt8))}
    (h : Performed s p verb id body w out w') :
    w'.cache = w.cache ∨
      ∃ a x c more, w.asking? s p.action.authRef = some (a, x) ∧ a.grants x = .ok (.ok c) ∧
        w'.cache = w.cache.insert p.action.authRef c ∧
        w'.sent = w.sent ++ (.token, x.request) :: more := by
  -- what was cached while the request got its credential, whatever is sent then
  have hcached : ∀ {lines : List LogLine} {r : Request} {w₁ : World σ}
      {out : Except ClockOverflow (Request × List String)} (more : List (Purpose × Request)),
      Decorated s p.action.authRef r (w.logging lines) out w₁ → w'.cache = w₁.cache →
      w'.sent = w₁.sent ++ more →
      w'.cache = w.cache ∨
        ∃ a x c more, w.asking? s p.action.authRef = some (a, x) ∧ a.grants x = .ok (.ok c) ∧
          w'.cache = w.cache.insert p.action.authRef c ∧
          w'.sent = w.sent ++ (.token, x.request) :: more := by
    intro lines r w₁ out more hd hcache hsent
    rcases hd.asking with ⟨_, _, hc⟩ | ⟨a, x, hx, hs, ⟨c, hg, hc⟩ | ⟨_, hc⟩⟩
    · exact .inl (hcache.trans hc)
    · refine .inr ⟨a, x, c, more, hx, hg, hcache.trans hc, ?_⟩
      rw [hsent, hs, World.logging_sent, List.append_assoc]
      rfl
    · exact .inl (hcache.trans hc)
  cases h with
  | malformed lines => exact .inl rfl
  | overrun lines _ hd => exact hcached [] hd rfl (List.append_nil _).symm
  | unsent lines _ hd =>
    refine hcached [] hd rfl ?_
    rw [World.logging_sent, List.append_nil]
  | @exchanged url r names w₁ lines _ hd =>
    refine hcached [(.target, r)] hd rfl ?_
    rw [World.logging_sent]
    show ((w₁.logging [p.headerLine verb url r names]).exchanged s .target r).sent = _
    rw [World.exchanged_sent, World.logging_sent]

/-- A credential that is cached after a round was cached before or given meanwhile. -/
theorem Round.Holds.gave {r : Round σ} (h : r.Holds s) (hc : r.after.cache.get? name = some c) :
    r.before.cache.get? name = some c ∨ ∃ x ∈ r.exchanges, Gave s name c x := by
  have hp := perform_cases s r.action r.verb r.id r.body r.before
  rw [h.ran] at hp
  rcases hp.caches with hcache | ⟨a, x, d, more, hx, hg, hcache, hsent⟩
  · exact .inl (hcache ▸ hc)
  · by_cases hn : name = r.action.action.authRef
    · rw [hcache, hn, Table.get?_insert_self] at hc
      cases hc
      refine .inr ⟨x, List.mem_append_left _ ?_, hn ▸ World.gave_of_asking hx hg⟩
      -- the first exchange of the round is one for a credential, hence this one
      have hfirst := List.append_cancel_left (h.path.sent.symm.trans hsent)
      rw [Round.exchanges] at hfirst
      cases hasked : r.asked with
      | some y =>
        obtain ⟨b, hy⟩ := h.asked y hasked
        cases hx.symm.trans hy
        exact List.mem_cons_self
      | none =>
        rw [hasked] at hfirst
        cases hr : r.sent with
        | none =>
          rw [hr] at hfirst
          cases hfirst
        | some y =>
          obtain ⟨url, hy⟩ := h.sent y hr
          rw [hr] at hfirst
          have hpurpose : y.purpose = .token := congrArg Prod.fst (List.head_eq_of_cons_eq hfirst)
          cases hy.purpose.symm.trans hpurpose
    · rw [hcache, Table.get?_insert_of_ne hn] at hc
      exact .inl hc

/-- **What is cached in a run was given by its own exchanges**, or cached when it started. -/
theorem Course.gave {rounds : List (Round σ)} (h : Course s w rounds w')
    (hc : w'.cache.get? name = some c) :
    w.cache.get? name = some c ∨ ∃ x ∈ rounds.flatMap Round.exchanges, Gave s name c x := by
  induction h with
  | done lines => exact .inl hc
  | round lines hb hr _ ih =>
    rw [List.flatMap_cons]
    rcases ih hc with hc | ⟨x, hx, hg⟩
    · rcases hr.gave hc with hc | ⟨x, hx, hg⟩
      · rw [hb] at hc
        exact .inl hc
      · exact .inr ⟨x, List.mem_append_left _ hx, hg⟩
    · exact .inr ⟨x, List.mem_append_right _ hx, hg⟩

/-- **A round carries only credentials that its own run was given.** -/
theorem Course.current {pre post : List (Round σ)} {r : Round σ}
    (h : Course s w.opened (pre ++ r :: post) w') : r.Current s pre := by
  have hr := h.holds r (List.mem_append_right _ List.mem_cons_self)
  refine ⟨hr.asks, fun x hx => ?_, fun x hx c hc => ?_⟩
  · obtain ⟨url, hs⟩ := hr.sent x hx
    rw [hs.request]
  · obtain ⟨url, hs⟩ := hr.sent x hx
    obtain ⟨a, ha, hconf | ⟨_, hf | hg⟩⟩ := World.credential?_eq_some.mp hc
    · exact .inl ⟨a, ha, hconf⟩
    · rcases h.split.1.gave (Option.filter_eq_some_iff.mp hf).1 with hstart | ⟨q, hq, hgave⟩
      · cases hstart
      · exact .inr ⟨q, List.mem_append_left _ hq, hgave⟩
    · obtain ⟨b, q, hq, hg⟩ := World.granting?_eq_some.mp hg
      refine .inr ⟨q, List.mem_append_right _ ?_, World.gave_of_asking hq hg⟩
      rw [hs.asked, hq]
      exact List.mem_cons_self

end Executions

/-- **Credentials are current.**  Take calls for credentials, one after the other, of any entries in
any order, that start with an empty cache: each of them does what `Visit.Current` says, given those
before it.

And every execution, whatever executions were before, is made of rounds that do what `Round.Current`
says: its requests carry only credentials of entries that ask no server, and such as its own
exchanges gave. -/
theorem credentials_are_current (s : Setup σ) :
    (∀ (calls : List Call) (w : World σ) (pre post : List (Visit σ)) (v : Visit σ),
      visits s calls w.opened = pre ++ v :: post → v.Current s pre) ∧
    ∀ (actions : List Prepared) (w : World σ),
      ∃ rounds, Course s w.opened rounds (execute s actions w).2 ∧
        (∀ r ∈ rounds, r.action ∈ actions) ∧
        (execute s actions w).2.sent =
          (rounds.flatMap Round.exchanges).map (fun x => (x.purpose, x.request)) ∧
        ∀ pre r post, rounds = pre ++ r :: post → r.Current s pre := by
  refine ⟨fun calls w pre post v h => visits_current h, fun actions w => ?_⟩
  obtain ⟨rounds, hc, ha, hsent⟩ := execute_course s actions w
  refine ⟨rounds, hc, ha, hsent, fun pre r post hrounds => ?_⟩
  rw [hrounds] at hc
  exact hc.current

/-- A request that is to carry credentials. -/
def probe : Request where
  method := .get
  url := { scheme := "http", host := some (.name "target"), path := .rooted ["r"] }

/-- A setup with an entry that asks a server and one that does not. -/
def twoEntries : Setup Script where
  transport := Script.transport
  auth := .ofList
    [("o", .clientCredentials "i" "s" { serverUrl := "http://h/token" }), ("b", .basic "u" "p")]

/-- A script whose token endpoint grants a token for an hour. -/
def Script.granting : Script :=
  [⟨"POST", "/token", [{ outcome := .response {
      status := 200
      body := Text.Utf8.encode
        "\x7b\"access_token\":\"t\",\"token_type\":\"bearer\",\"expires_in\":3600\x7d" } }]⟩]

theorem credentials_are_current_cached :
    let w : World Script := { transport := Script.granting }
    ∃ u v : Visit Script, visits twoEntries [⟨"o", probe, 0, false⟩, ⟨"o", probe, 10, false⟩]
        w.opened = [u, v] ∧
      u.after.sent.length = 1 ∧ v.after.sent = v.before.sent ∧
      ∃ c, latest twoEntries "o" [u] = some c ∧ v.out = .ok (probe.carrying c, [c.header]) := by
  intro w
  have hl : (visits twoEntries [⟨"o", probe, 0, false⟩, ⟨"o", probe, 10, false⟩]
      w.opened).length = 2 := by decide +kernel
  obtain ⟨u, v, h⟩ : ∃ u v, visits twoEntries
      [⟨"o", probe, 0, false⟩, ⟨"o", probe, 10, false⟩] w.opened = [u, v] :=
    ⟨_, _, List.eq_getElem_of_length_eq_two _ hl⟩
  have hcall : (visits twoEntries [⟨"o", probe, 0, false⟩, ⟨"o", probe, 10, false⟩] w.opened).map
      (fun v => (v.call.ref, v.call.request, v.after.sent.length)) =
      [("o", probe, 1), ("o", probe, 1)] := by decide +kernel
  have hgave : (visits twoEntries [⟨"o", probe, 0, false⟩, ⟨"o", probe, 10, false⟩] w.opened).map
      (fun v => ((v.before.asking? twoEntries "o").isNone, v.out.toOption.map Prod.snd)) =
      [(false, some ["Authorization"]), (true, some ["Authorization"])] := by decide +kernel
  rw [h] at hcall hgave
  simp only [List.map_cons, List.map_nil, List.cons.injEq, Prod.mk.injEq, and_true] at hcall hgave
  obtain ⟨⟨_, _, hus⟩, hvr, hvq, _⟩ := hcall
  obtain ⟨_, hva, hvn⟩ := hgave
  have hnone := Option.isNone_iff_eq_none.mp hva
  have hcurrent := (credentials_are_current twoEntries).1 _ w [u] [] v h
  refine ⟨u, v, h, hus, ?_, ?_⟩
  · rw [hcurrent.sent, hvr, hnone]
    exact List.append_nil _
  · cases ho : v.out with
    | error e =>
      rw [ho] at hvn
      cases hvn
    | ok out =>
      have hout := hcurrent.out out ho
      rw [ho, hout, hvr, hvq] at hvn
      rw [hvr, hvq] at hout
      cases hc : v.before.credential? twoEntries "o" with
      | none =>
        rw [hc] at hvn
        cases hvn
      | some c =>
        rw [hc] at hout
        obtain ⟨a, ha, hconf | ⟨_, ⟨hlatest, _⟩ | hg⟩⟩ := (hcurrent.attached c).mp (hvr ▸ hc)
        · have he : (twoEntries.entry? "o").bind Auth.configured? = none := by decide +kernel
          rw [← hvr, ha, Option.bind_some, hconf] at he
          cases he
        · exact ⟨c, hvr ▸ hlatest, congrArg _ hout⟩
        · rw [hvr, World.granting?_of_asking_none hnone] at hg
          cases hg

/-- A script whose token endpoint cancels the run in place of an answer. -/
def Script.interrupting : Script :=
  [⟨"POST", "/token", [{ cancel := .instead, outcome := .failure .timeout }]⟩]

/-- **Not every credential comes from an exchange, and not every failed exchange is made again**:
an entry that asks no server has its credential at once, and a run that was cancelled asks nothing
any more. -/
theorem credential_without_exchange :
    ((decorate twoEntries "b" probe).run { transport := [] }).1 =
        .ok (probe.carrying { header := "Authorization", value := "Basic dTpw" },
          ["Authorization"]) ∧
      ((decorate twoEntries "b" probe).run { transport := [] }).2.sent = [] ∧
      (visits twoEntries [⟨"o", probe, 0, false⟩, ⟨"o", probe, 0, false⟩]
        { transport := Script.interrupting }).map
          (fun v => (v.before.sent.length, v.after.sent.length)) = [(0, 1), (1, 1)] := by
  decide +kernel

end Reconcile
