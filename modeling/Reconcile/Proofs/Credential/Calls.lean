import Reconcile.Proofs.Run.TwoRuns

/-!
# Calls for credentials

What calls for credentials do to each other, one after the other and in any order of names.

* `World.asking?` — the exchange that a call makes; `World.granting?` — the credential that comes
  of it.
* `Decorated.asked`, `Decorated.cache_eq` — what a call sends, and what it caches.
* `visits` — calls one after the other; `latest` — the credential that the last successful exchange
  for an entry gave.
* `visits_cache` — the cache holds for each entry what its latest successful exchange gave.
* `visits_again` — an entry whose exchange failed is asked again.
* `Visit.shown` — what a call gives, sends and logs; `visits_elsewhere` — calls for other entries do
  not depend on what is cached for one.
-/

namespace Reconcile

variable {σ : Type}

/-! ## One call -/

/-- The exchange that a call for the credential of an entry makes, and the entry. -/
def World.asking? (w : World σ) (s : Setup σ) (ref : String) : Option (Auth × Exchange) :=
  if w.cancelled || (w.fresh? ref).isSome then none
  else
    match s.entry? ref with
    | none => none
    | some a =>
      match a.question? s.limits with
      | some (.ok q) => some (a, w.exchange s .token q)
      | _ => none

/-- The credential that the exchange of a call gives. -/
def World.granting? (w : World σ) (s : Setup σ) (ref : String) : Option Credential :=
  match w.asking? s ref with
  | none => none
  | some (a, x) =>
    match a.grants x with
    | .ok (.ok c) => some c
    | _ => none

/-- An entry that asks a server has a credential of no other kind. -/
theorem Auth.question?_of_configured {a : Auth} {c : Credential} (h : a.configured? = some c)
    (limits : Limits) : a.question? limits = none := by
  cases a <;> first | rfl | cases h

section Asking

variable {s : Setup σ} {w : World σ} {ref : String} {a : Auth}

theorem World.asking?_eq_some {x : Exchange} :
    w.asking? s ref = some (a, x) ↔
      w.cancelled = false ∧ w.fresh? ref = none ∧ s.entry? ref = some a ∧
        ∃ q, a.question? s.limits = some (.ok q) ∧ x = w.exchange s .token q := by
  unfold asking?
  constructor
  · intro h
    split at h
    · cases h
    · rename_i hc
      rw [Bool.or_eq_true, not_or, Bool.not_eq_true, Option.not_isSome_iff_eq_none] at hc
      cases ha : s.entry? ref with
      | none => rw [ha] at h; cases h
      | some b =>
        rw [ha] at h
        dsimp only at h
        split at h
        · rename_i q hq
          cases h
          exact ⟨hc.1, hc.2, rfl, q, hq, rfl⟩
        · cases h
  · rintro ⟨hw, hf, ha, q, hq, rfl⟩
    rw [hw, hf, ha]
    dsimp only
    rw [hq]
    rfl

/-- A call makes an exchange exactly for an entry that asks a server, of which no fresh credential
is cached. -/
theorem World.asking?_iff {x : Exchange} :
    w.asking? s ref = some (a, x) ↔
      s.entry? ref = some a ∧ a.asksServer = true ∧
        (∀ c, w.cache.get? ref = some c → c.isFresh w.now = false) ∧ w.cancelled = false ∧
        ∃ q, a.question? s.limits = some (.ok q) ∧ x = w.exchange s .token q := by
  have hfresh : w.fresh? ref = none ↔
      ∀ c, w.cache.get? ref = some c → c.isFresh w.now = false := by
    simp only [fresh?, Option.filter_eq_none_iff, Bool.not_eq_true]
  rw [asking?_eq_some, hfresh]
  constructor
  · rintro ⟨hw, hf, ha, q, hq, hx⟩
    exact ⟨ha, Auth.asksServer_of_question hq, hf, hw, q, hq, hx⟩
  · rintro ⟨ha, _, hf, hw, hq⟩
    exact ⟨hw, hf, ha, hq⟩

theorem World.asking?_of_fresh {c : Credential} (hf : w.fresh? ref = some c) :
    w.asking? s ref = none := by
  rw [asking?, hf, Option.isSome_some, Bool.or_true, if_pos rfl]

theorem World.asking?_of_cancelled (hw : w.cancelled = true) : w.asking? s ref = none := by
  rw [asking?, hw, Bool.true_or, if_pos rfl]

theorem World.asking?_of_no_entry (ha : s.entry? ref = none) : w.asking? s ref = none := by
  rw [asking?, ha, ite_self]

theorem World.asking?_of_no_question (ha : s.entry? ref = some a)
    (hq : ∀ q, a.question? s.limits ≠ some (.ok q)) : w.asking? s ref = none := by
  cases h : w.asking? s ref with
  | none => rfl
  | some ax =>
    obtain ⟨_, _, hb, q, hbq, _⟩ := asking?_eq_some.mp h
    rw [ha] at hb
    cases hb
    exact absurd hbq (hq q)

theorem World.asking?_of_bare (hn : ∀ a, s.entry? ref = some a → a = .noAuth) :
    w.asking? s ref = none := by
  cases ha : s.entry? ref with
  | none => exact asking?_of_no_entry ha
  | some a =>
    refine asking?_of_no_question ha fun q hq => ?_
    rw [hn a ha] at hq
    cases hq

theorem World.asking?_of_configured {c : Credential} (ha : s.entry? ref = some a)
    (hc : a.configured? = some c) : w.asking? s ref = none := by
  refine asking?_of_no_question ha fun q hq => ?_
  rw [Auth.question?_of_configured hc] at hq
  cases hq

theorem World.asking?_of_unasked {q : Except AuthError Request} (ha : s.entry? ref = some a)
    (hq : a.question? s.limits = some q) (hu : w.cancelled = true ∨ ∃ e, q = .error e) :
    w.asking? s ref = none := by
  rcases hu with hw | ⟨e, rfl⟩
  · exact asking?_of_cancelled hw
  · refine asking?_of_no_question ha fun q hq' => ?_
    rw [hq] at hq'
    cases hq'

theorem World.granting?_eq_some {c : Credential} :
    w.granting? s ref = some c ↔
      ∃ a x, w.asking? s ref = some (a, x) ∧ a.grants x = .ok (.ok c) := by
  unfold granting?
  constructor
  · intro h
    split at h
    · cases h
    · rename_i a x hx
      split at h
      · rename_i hg
        cases h
        exact ⟨a, x, hx, hg⟩
      · cases h
  · rintro ⟨a, x, hx, hg⟩
    simp only [hx, hg]

theorem World.granting?_of_grants_ne {x : Exchange} (hx : w.asking? s ref = some (a, x))
    (hg : ∀ c, a.grants x ≠ .ok (.ok c)) : w.granting? s ref = none := by
  rw [Option.eq_none_iff_forall_ne_some]
  intro c hc
  obtain ⟨b, y, hy, hgy⟩ := granting?_eq_some.mp hc
  cases hx.symm.trans hy
  exact hg c hgy

theorem World.granting?_of_asking_none (h : w.asking? s ref = none) :
    w.granting? s ref = none := by
  rw [granting?, h]

end Asking

namespace Decorated

variable {s : Setup σ} {ref : String} {r r' : Request} {w w' : World σ} {names : List String}
  {out : Except ClockOverflow (Request × List String)}

/-- The exchange of a call and what comes of it, for each way in which a request comes out. -/
theorem asking (h : Decorated s ref r w out w') :
    (w.asking? s ref = none ∧ w'.sent = w.sent ∧ w'.cache = w.cache) ∨
      ∃ a x, w.asking? s ref = some (a, x) ∧ w'.sent = w.sent ++ [(.token, x.request)] ∧
        ((∃ c, a.grants x = .ok (.ok c) ∧ w'.cache = w.cache.insert ref c) ∨
          (∀ c, a.grants x ≠ .ok (.ok c)) ∧ w'.cache = w.cache) := by
  cases h with
  | bare lines hn => exact .inl ⟨World.asking?_of_bare hn, World.logging_sent w lines, rfl⟩
  | configured ha hc => exact .inl ⟨World.asking?_of_configured ha hc, rfl, rfl⟩
  | cached ha hq hf => exact .inl ⟨World.asking?_of_fresh hf, rfl, rfl⟩
  | unasked lines ha hq hf hu =>
    exact .inl ⟨World.asking?_of_unasked ha hq hu, World.logging_sent w lines, rfl⟩
  | refused before after ha hq hf hw hg =>
    refine .inr ⟨_, _, World.asking?_eq_some.mpr ⟨hw, hf, ha, _, hq, rfl⟩, ?_, .inr ⟨?_, rfl⟩⟩
    · rw [World.logging_sent, World.exchanged_sent, World.logging_sent]
      rfl
    · rw [hg]
      rintro c ⟨⟩
  | granted before after ha hq hf hw hg =>
    refine .inr ⟨_, _, World.asking?_eq_some.mpr ⟨hw, hf, ha, _, hq, rfl⟩, ?_,
      .inl ⟨_, hg, rfl⟩⟩
    show (((w.logging before).exchanged s .token _).logging after).sent = _
    rw [World.logging_sent, World.exchanged_sent, World.logging_sent]
    rfl
  | overrun before ha hq hf hw hg =>
    refine .inr ⟨_, _, World.asking?_eq_some.mpr ⟨hw, hf, ha, _, hq, rfl⟩, ?_, .inr ⟨?_, rfl⟩⟩
    · rw [World.exchanged_sent, World.logging_sent]
      rfl
    · rw [hg]
      rintro c ⟨⟩

/-- **What a call sends**: the exchange that it makes, and nothing else. -/
theorem asked (h : Decorated s ref r w out w') :
    w'.sent = w.sent ++ (w.asking? s ref).toList.map fun ax => (.token, ax.2.request) := by
  rcases h.asking with ⟨ha, hs, _⟩ | ⟨a, x, ha, hs, _⟩
  · rw [ha, hs]
    exact (List.append_nil _).symm
  · rw [ha, hs, Option.toList_some, List.map_singleton]

/-- **What a call caches**: the credential that its exchange gives, and nothing else. -/
theorem cache_eq (h : Decorated s ref r w out w') :
    w'.cache =
      match w.granting? s ref with
      | some c => w.cache.insert ref c
      | none => w.cache := by
  rcases h.asking with ⟨ha, _, hc⟩ | ⟨a, x, ha, _, ⟨c, hg, hc⟩ | ⟨hg, hc⟩⟩
  · rw [World.granting?_of_asking_none ha, hc]
  · rw [World.granting?_eq_some.mpr ⟨a, x, ha, hg⟩, hc]
  · rw [World.granting?_of_grants_ne ha hg, hc]

theorem now_le (h : Decorated s ref r w out w') : w.now ≤ w'.now := by
  cases h with
  | bare => exact Nat.le_refl _
  | configured => exact Nat.le_refl _
  | cached => exact Nat.le_refl _
  | unasked => exact Nat.le_refl _
  | refused => exact Nat.le_add_right _ _
  | granted => exact Nat.le_add_right _ _
  | overrun => exact Nat.le_add_right _ _

end Decorated

/-! ## Calls one after the other -/

/-- A call for the credential of an entry: the request that is to carry it, the seconds that pass
before, and whether the run is cancelled meanwhile. -/
structure Call where
  ref : String
  request : Request
  elapsed : Nat := 0
  cancels : Bool := false

/-- A call, the world in which it starts, what it gives and the world after it. -/
structure Visit (σ : Type) where
  call : Call
  before : World σ
  out : Except ClockOverflow (Request × List String)
  after : World σ

/-- The world in which a call starts. -/
def World.awaiting (w : World σ) (c : Call) : World σ :=
  { w with now := w.now + c.elapsed, cancelled := w.cancelled || c.cancels }

/-- A call that is made in a world. -/
def World.visit (w : World σ) (s : Setup σ) (c : Call) : Visit σ :=
  let x := (decorate s c.ref c.request).run (w.awaiting c)
  ⟨c, w.awaiting c, x.1, x.2⟩

/-- Calls one after the other. They end with one that is stopped by the clock. -/
def visits (s : Setup σ) : List Call → World σ → List (Visit σ)
  | [], _ => []
  | c :: rest, w =>
    let v := w.visit s c
    match v.out with
    | .error _ => [v]
    | .ok _ => v :: visits s rest v.after

/-- The credential that the last successful exchange for an entry gave. -/
def latest (s : Setup σ) (name : String) (vs : List (Visit σ)) : Option Credential :=
  (vs.filterMap fun v => if v.call.ref = name then v.before.granting? s name else none).getLast?

section Sequences

variable {s : Setup σ} {calls : List Call} {w : World σ} {u v : Visit σ}
  {pre mid post vs : List (Visit σ)}

theorem visits_cons (h : visits s calls w = v :: vs) :
    ∃ c rest, v = w.visit s c ∧ vs = visits s rest v.after := by
  cases calls with
  | nil => cases h
  | cons c rest =>
    simp only [visits] at h
    split at h
    · cases h
      exact ⟨c, [], rfl, rfl⟩
    · cases h
      exact ⟨c, rest, rfl, rfl⟩

/-- Any call starts calls of its own. -/
theorem visits_suffix (h : visits s calls w = pre ++ v :: vs) :
    ∃ rest w', visits s rest w' = v :: vs := by
  induction pre generalizing calls w with
  | nil => exact ⟨calls, w, h⟩
  | cons u pre ih =>
    obtain ⟨c, rest, _, hvs⟩ := visits_cons h
    exact ih hvs.symm

theorem World.visit_decorated (w : World σ) (s : Setup σ) (c : Call) :
    Decorated s c.ref c.request (w.visit s c).before (w.visit s c).out (w.visit s c).after :=
  decorate_cases s c.ref c.request (w.awaiting c)

/-- Every call comes out in one of the ways of a request. -/
theorem visits_decorated (h : visits s calls w = pre ++ v :: post) :
    Decorated s v.call.ref v.call.request v.before v.out v.after := by
  obtain ⟨rest, w', h'⟩ := visits_suffix h
  obtain ⟨c, _, rfl, _⟩ := visits_cons h'
  exact w'.visit_decorated s c

/-- Time does not run back. -/
theorem visits_now (h : visits s calls w = pre ++ v :: post) : w.now ≤ v.before.now := by
  induction pre generalizing calls w with
  | nil =>
    obtain ⟨c, _, rfl, _⟩ := visits_cons h
    exact Nat.le_add_right _ _
  | cons u pre ih =>
    obtain ⟨c, rest, rfl, hvs⟩ := visits_cons h
    have hstart : w.now ≤ (w.visit s c).before.now := Nat.le_add_right _ _
    have hcall := (w.visit_decorated s c).now_le
    have hrest := ih hvs.symm
    omega

theorem latest_cons (name : String) :
    latest s name (v :: vs) =
      (latest s name vs).or (if v.call.ref = name then v.before.granting? s name else none) := by
  rw [latest, latest, List.filterMap_cons]
  cases (if v.call.ref = name then v.before.granting? s name else none) with
  | none => rw [Option.or_none]
  | some c =>
    rw [List.getLast?_cons]
    cases (vs.filterMap _).getLast? <;> rfl

/-- After a call the cache holds what it gave, and else what it held before. -/
theorem World.visit_cache (w : World σ) (s : Setup σ) (c : Call) (name : String) :
    (w.visit s c).after.cache.get? name =
      (if c.ref = name then (w.visit s c).before.granting? s name else none).or
        (w.cache.get? name) := by
  rw [(w.visit_decorated s c).cache_eq]
  by_cases hn : c.ref = name
  · rw [if_pos hn, hn]
    cases (w.visit s c).before.granting? s name with
    | none => rfl
    | some x => rw [Option.some_or, Table.get?_insert_self]
  · rw [if_neg hn, Option.none_or]
    cases (w.visit s c).before.granting? s c.ref with
    | none => rfl
    | some x => exact Table.get?_insert_of_ne (fun e => hn e.symm) _ x

/-- **The cache holds for each entry what its latest successful exchange gave.** -/
theorem visits_cache (h : visits s calls w = pre ++ v :: post) (name : String) :
    v.before.cache.get? name = (latest s name pre).or (w.cache.get? name) := by
  induction pre generalizing calls w with
  | nil =>
    obtain ⟨c, _, rfl, _⟩ := visits_cons h
    rfl
  | cons u pre ih =>
    obtain ⟨c, rest, rfl, hvs⟩ := visits_cons h
    rw [ih hvs.symm, World.visit_cache, latest_cons, Option.or_assoc]
    rfl

theorem Credential.isFresh_of_le {c : Credential} {now later : Nat} (hle : now ≤ later)
    (hf : c.isFresh later = true) : c.isFresh now = true := by
  unfold isFresh at hf ⊢
  split at hf
  · rfl
  · rw [decide_eq_true_eq] at hf ⊢
    omega

/-- **An entry whose exchange failed is asked again**, unless the run is cancelled by then. -/
theorem visits_again {a : Auth} {x : Exchange}
    (h : visits s calls w = pre ++ u :: (mid ++ v :: post))
    (hu : u.before.asking? s u.call.ref = some (a, x))
    (hg : u.before.granting? s u.call.ref = none) (hmid : ∀ m ∈ mid, m.call.ref ≠ u.call.ref)
    (hv : v.call.ref = u.call.ref) :
    v.before.cancelled = true ∨ ∃ y, v.before.asking? s v.call.ref = some (a, y) := by
  obtain ⟨hw, hf, ha, q, hq, rfl⟩ := World.asking?_eq_some.mp hu
  obtain ⟨rest, w', h'⟩ := visits_suffix h
  obtain ⟨c, rest', rfl, hvs⟩ := visits_cons h'
  change (w'.visit s c).before.fresh? c.ref = none at hf
  have hnow : (w'.visit s c).before.now ≤ v.before.now :=
    Nat.le_trans (w'.visit_decorated s c).now_le (visits_now hvs.symm)
  have hlatest : latest s c.ref mid = none := by
    have hnil : (mid.filterMap fun m => if m.call.ref = c.ref then m.before.granting? s c.ref
        else none) = [] := List.filterMap_eq_nil_iff.mpr fun m hm => if_neg (hmid m hm)
    rw [latest, hnil, List.getLast?_nil]
  have hcache : v.before.cache.get? c.ref = (w'.visit s c).before.cache.get? c.ref := by
    rw [visits_cache hvs.symm, World.visit_cache, hlatest, Option.none_or, if_pos rfl]
    exact congrArg (Option.or · _) hg
  have hfresh : v.before.fresh? c.ref = none := by
    cases hc : v.before.fresh? c.ref with
    | none => rfl
    | some k =>
      obtain ⟨hk, hkf⟩ := Option.filter_eq_some_iff.mp hc
      have hold : (w'.visit s c).before.fresh? c.ref = some k :=
        Option.filter_eq_some_iff.mpr ⟨hcache ▸ hk, Credential.isFresh_of_le hnow hkf⟩
      rw [hold] at hf
      cases hf
  cases hc : v.before.cancelled with
  | true => exact .inl rfl
  | false =>
    rw [hv]
    exact .inr ⟨_, World.asking?_eq_some.mpr ⟨hc, hfresh, ha, q, hq, rfl⟩⟩

end Sequences

/-! ## Calls for other entries -/

section Elsewhere

variable {names : String → Prop} {s : Setup σ}

/-- What an entry is granted does not depend on what is cached for others. -/
theorem agree_acquisition {a : Auth} {acquire : Run σ (Except AuthError Credential)}
    (ha : acquisition? s a = some acquire) : Agree names Eq acquire acquire := by
  cases a with
  | noAuth => cases ha
  | basic username password => cases ha
  | static header value => cases ha
  | clientCredentials clientId clientSecret oauth =>
    cases ha
    exact agree_acquireToken rfl fun _ => rfl
  | ownerPassword clientId clientSecret oauth user pass =>
    cases ha
    exact agree_acquireToken rfl fun _ => rfl
  | tokenLogin login =>
    cases ha
    exact agree_acquireLogin rfl (fun _ => rfl) fun _ => rfl

theorem agree_decorate_self {ref : String} (hn : names ref) (r : Request) :
    Agree names Eq (decorate s ref r) (decorate s ref r) := by
  unfold decorate
  split
  · exact agree_pure rfl
  · cases s.auth.get? ref with
    | none => exact agree_bind_eq (agree_log _ _) fun _ => agree_pure rfl
    | some a =>
      have hc : Agree names Eq (credentialFor s ref a) (credentialFor s ref a) := by
        unfold credentialFor
        cases ha : acquisition? s a with
        | some acquire =>
          exact agree_bind_eq (agree_cachedOrAcquired hn (agree_acquisition ha))
            fun _ => agree_pure rfl
        | none => cases a <;> exact agree_pure rfl
      refine agree_bind_eq hc fun c => ?_
      match c with
      | .error e => exact agree_bind_eq (agree_log _ _) fun _ => agree_pure rfl
      | .ok none => exact agree_pure rfl
      | .ok (some c) => exact agree_pure rfl

theorem World.Alike.awaiting {w₁ w₂ : World σ} (h : w₁.Alike names w₂) (c : Call) :
    (w₁.awaiting c).Alike names (w₂.awaiting c) :=
  ⟨h.transport, congrArg (· || c.cancels) h.cancelled, congrArg (· + c.elapsed) h.now, h.cache,
    h.store, h.logs⟩

/-- What a call asks depends on what is cached for its own entry only. -/
theorem World.Alike.asking? {w₁ w₂ : World σ} (h : w₁.Alike names w₂) {ref : String}
    (hn : names ref) : w₁.asking? s ref = w₂.asking? s ref := by
  have hf : w₁.fresh? ref = w₂.fresh? ref := by
    rw [World.fresh?, World.fresh?, h.cache ref hn, h.now]
  have hx : ∀ q, w₁.exchange s .token q = w₂.exchange s .token q := by
    intro q
    rw [World.exchange, World.exchange, World.reply, World.reply, h.transport, h.now]
  simp only [World.asking?, h.cancelled, hf, hx]

/-- The requests that a call sends. -/
def Visit.requests (v : Visit σ) : List (Purpose × Request) :=
  v.after.sent.drop v.before.sent.length

theorem World.visit_requests (w : World σ) (s : Setup σ) (c : Call) :
    (w.visit s c).requests =
      ((w.awaiting c).asking? s c.ref).toList.map fun ax => (.token, ax.2.request) := by
  rw [Visit.requests, (w.visit_decorated s c).asked]
  exact List.drop_left

/-- What shows of a call: what it gives, the requests that it sends, and what is logged by then. -/
def Visit.shown (v : Visit σ) :
    Except ClockOverflow (Request × List String) × List (Purpose × Request) × List LogLine :=
  (v.out, v.requests, v.after.logs)

/-- **Calls for some entries do not depend on what is cached for others.** -/
theorem visits_elsewhere {calls : List Call} (hc : ∀ c ∈ calls, names c.ref) {w₁ w₂ : World σ}
    (h : w₁.Alike names w₂) :
    (visits s calls w₁).map Visit.shown = (visits s calls w₂).map Visit.shown := by
  induction calls generalizing w₁ w₂ with
  | nil => rfl
  | cons c rest ih =>
    have hn : names c.ref := hc c List.mem_cons_self
    obtain ⟨hout, hafter⟩ := agree_decorate_self (s := s) hn c.request _ _ (h.awaiting c)
    have hout : (w₁.visit s c).out = (w₂.visit s c).out := hout.eq
    have hsent : (w₁.visit s c).requests = (w₂.visit s c).requests := by
      rw [World.visit_requests, World.visit_requests, (h.awaiting c).asking? hn]
    have hshown : (w₁.visit s c).shown = (w₂.visit s c).shown :=
      Prod.ext hout (Prod.ext hsent hafter.logs)
    simp only [visits, hout]
    cases (w₂.visit s c).out with
    | error e => exact congrArg ([·]) hshown
    | ok x =>
      have hrest := ih (fun d hd => hc d (List.mem_cons_of_mem _ hd)) hafter
      simp only [List.map_cons, hshown]
      exact congrArg _ hrest

/-- The names of the entries other than one. -/
def otherThan (ref name : String) : Prop := name ≠ ref

/-- The cache as another world has it. -/
def World.recached (w : World σ) (other : World σ) : World σ :=
  { w with cache := other.cache }

/-- After a call, the calls for other entries show what they would show if it had cached
nothing. -/
theorem visits_after {calls : List Call} {w : World σ} {pre post : List (Visit σ)} {v : Visit σ}
    (h : visits s calls w = pre ++ v :: post) {later : List Call}
    (hl : ∀ c ∈ later, c.ref ≠ v.call.ref) :
    (visits s later v.after).map Visit.shown =
      (visits s later (v.after.recached v.before)).map Visit.shown := by
  have hother : ∀ c ∈ later, otherThan v.call.ref c.ref := hl
  refine visits_elsewhere hother ⟨rfl, rfl, rfl, fun name hn => ?_, rfl, rfl⟩
  show v.after.cache.get? name = v.before.cache.get? name
  rw [(visits_decorated h).cache_eq]
  cases v.before.granting? s v.call.ref with
  | none => rfl
  | some c => exact Table.get?_insert_of_ne hn _ c

end Elsewhere

end Reconcile
