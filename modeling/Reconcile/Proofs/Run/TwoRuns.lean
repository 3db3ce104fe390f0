import Reconcile.Http.Script
import Reconcile.Proofs.Credential.Attaching
import Reconcile.Proofs.Tables

/-!
# Two runs side by side

* `World.Alike` — worlds that differ at most in the requests that were sent and in the cached
  credentials of some entries.
* `Agree` — steps that lead from worlds that are alike to worlds that are alike, with results that
  are related.
* `agree_bind` — one step after another; `agree_get`, `agree_log`, `agree_submit` and the others —
  the steps that runs are made of.
* `agree_cachedOrAcquired` — a credential is the same in both when what it comes from is.
* `Transport.ByRoute` — a transport that looks at nothing but where a request goes;
  `Script.transport_byRoute` — a script is one.
-/

namespace Reconcile

variable {σ α β γ δ : Type}

/-! ## Worlds -/

@[simp] theorem World.logging_logs (w : World σ) (lines : List LogLine) :
    (w.logging lines).logs = w.logs ++ lines := by
  simp only [World.logs, World.logging, List.filterMap_append, List.filterMap_map]
  exact congrArg (w.logs ++ ·) List.filterMap_some

@[simp] theorem World.exchanged_logs (w : World σ) (s : Setup σ) (purpose : Purpose)
    (r : Request) : (w.exchanged s purpose r).logs = w.logs := by
  simp [World.logs, World.exchanged, List.filterMap_append]

/-- Worlds that differ at most in the requests that were sent, and in the cached credentials of
entries with other names than these. -/
structure World.Alike (names : String → Prop) (w₁ w₂ : World σ) : Prop where
  transport : w₁.transport = w₂.transport
  cancelled : w₁.cancelled = w₂.cancelled
  now : w₁.now = w₂.now
  cache : ∀ name, names name → w₁.cache.get? name = w₂.cache.get? name
  store : w₁.store = w₂.store
  logs : w₁.logs = w₂.logs

namespace World.Alike

variable {names : String → Prop} {w₁ w₂ : World σ}

theorem refl (w : World σ) : w.Alike names w := ⟨rfl, rfl, rfl, fun _ _ => rfl, rfl, rfl⟩

theorem logging (h : w₁.Alike names w₂) (lines : List LogLine) :
    (w₁.logging lines).Alike names (w₂.logging lines) := by
  refine ⟨h.transport, h.cancelled, h.now, h.cache, h.store, ?_⟩
  rw [logging_logs, logging_logs, h.logs]

theorem storing (h : w₁.Alike names w₂) (store : Table Json) :
    (w₁.storing store).Alike names (w₂.storing store) :=
  ⟨h.transport, h.cancelled, h.now, h.cache, rfl, h.logs⟩

theorem caching (h : w₁.Alike names w₂) (name : String) (c : Credential) :
    (w₁.caching name c).Alike names (w₂.caching name c) := by
  refine ⟨h.transport, h.cancelled, h.now, fun other ho => ?_, h.store, h.logs⟩
  show (w₁.cache.insert name c).get? other = (w₂.cache.insert name c).get? other
  by_cases he : other = name
  · rw [he, Table.get?_insert_self, Table.get?_insert_self]
  · rw [Table.get?_insert_of_ne he, Table.get?_insert_of_ne he, h.cache other ho]

/-- Requests may differ where the replies to them do not. -/
theorem exchanged (h : w₁.Alike names w₂) {s₁ s₂ : Setup σ} {r₁ r₂ : Request} (purpose : Purpose)
    (hx : s₁.transport r₁ w₁.transport = s₂.transport r₂ w₂.transport) :
    (w₁.exchanged s₁ purpose r₁).Alike names (w₂.exchanged s₂ purpose r₂) := by
  have hr : w₁.reply s₁ r₁ = w₂.reply s₂ r₂ := congrArg Prod.fst hx
  refine ⟨congrArg Prod.snd hx, ?_, ?_, h.cache, h.store, ?_⟩
  · rw [exchanged_cancelled, exchanged_cancelled, h.cancelled, hr]
  · rw [exchanged_now, exchanged_now, h.now, hr]
  · rw [exchanged_logs, exchanged_logs, h.logs]

end World.Alike

/-! ## Steps -/

/-- Results that are related; a run that is stopped by the clock is so in both. -/
def ResultsAgree (P : α → β → Prop) : Except ClockOverflow α → Except ClockOverflow β → Prop
  | .ok a, .ok b => P a b
  | .error _, .error _ => True
  | _, _ => False

/-- Equal results are the same. -/
theorem ResultsAgree.eq {r₁ r₂ : Except ClockOverflow α} (h : ResultsAgree Eq r₁ r₂) : r₁ = r₂ := by
  match r₁, r₂, h with
  | .ok _, .ok _, h => exact congrArg _ h
  | .error _, .error _, _ => rfl

/-- Steps that lead from worlds that are alike to worlds that are alike, with results that are
related. -/
def Agree (names : String → Prop) (P : α → β → Prop) (x : Run σ α) (y : Run σ β) : Prop :=
  ∀ w₁ w₂ : World σ, w₁.Alike names w₂ →
    ResultsAgree P (x.run w₁).1 (y.run w₂).1 ∧ (x.run w₁).2.Alike names (y.run w₂).2

section Rules

variable {names : String → Prop} {P : α → β → Prop} {Q : γ → δ → Prop}

theorem agree_pure {a : α} {b : β} (h : P a b) : Agree names P (pure a : Run σ α) (pure b) :=
  fun _ _ hw => ⟨h, hw⟩

theorem agree_bind {x : Run σ α} {y : Run σ β} {f : α → Run σ γ} {g : β → Run σ δ}
    (hx : Agree names P x y) (hf : ∀ a b, P a b → Agree names Q (f a) (g b)) :
    Agree names Q (x >>= f) (y >>= g) := by
  intro w₁ w₂ hw
  obtain ⟨hr, hw'⟩ := hx w₁ w₂ hw
  rcases h₁ : x.run w₁ with ⟨e₁ | a, w₁'⟩ <;> rcases h₂ : y.run w₂ with ⟨e₂ | b, w₂'⟩ <;>
    rw [h₁, h₂] at hr hw'
  · rw [run_bind_error h₁, run_bind_error h₂]
    exact ⟨trivial, hw'⟩
  · cases hr
  · cases hr
  · rw [run_bind_ok h₁, run_bind_ok h₂]
    exact hf a b hr w₁' w₂' hw'

theorem agree_bind_eq {x y : Run σ α} {f : α → Run σ γ} {g : α → Run σ δ} (hx : Agree names Eq x y)
    (hf : ∀ a, Agree names Q (f a) (g a)) : Agree names Q (x >>= f) (y >>= g) :=
  agree_bind hx fun a _ h => h ▸ hf a

/-- Worlds that are alike may be looked at. -/
theorem agree_get {f : World σ → Run σ γ} {g : World σ → Run σ δ}
    (h : ∀ w₁ w₂, w₁.Alike names w₂ → Agree names Q (f w₁) (g w₂)) :
    Agree names Q (get >>= f) (get >>= g) :=
  fun w₁ w₂ hw => h w₁ w₂ hw w₁ w₂ hw

theorem agree_modify {f g : World σ → World σ}
    (h : ∀ w₁ w₂, w₁.Alike names w₂ → (f w₁).Alike names (g w₂)) :
    Agree names Eq (modify f : Run σ PUnit) (modify g) :=
  fun w₁ w₂ hw => ⟨rfl, h w₁ w₂ hw⟩

theorem agree_log (level : LogLevel) (message : String) :
    Agree names Eq (log level message : Run σ Unit) (log level message) :=
  fun _ _ hw => ⟨rfl, hw.logging [⟨level, message⟩]⟩

theorem agree_isCancelled : Agree names Eq (isCancelled : Run σ Bool) isCancelled :=
  agree_get fun _ _ hw => agree_pure hw.cancelled

/-- Requests may differ where the replies to them do not. -/
theorem agree_submit {s₁ s₂ : Setup σ} (purpose : Purpose) {r₁ r₂ : Request}
    (hx : s₁.transport r₁ = s₂.transport r₂) :
    Agree names Eq (submit s₁ purpose r₁) (submit s₂ purpose r₂) := by
  intro w₁ w₂ hw
  cases hc : w₁.cancelled with
  | true =>
    rw [submit_run_cancelled s₁ purpose r₁ hc,
      submit_run_cancelled s₂ purpose r₂ (hw.cancelled ▸ hc)]
    exact ⟨rfl, hw⟩
  | false =>
    have hx' : s₁.transport r₁ w₁.transport = s₂.transport r₂ w₂.transport := by
      rw [hx, hw.transport]
    rw [submit_run_open s₁ purpose r₁ hc, submit_run_open s₂ purpose r₂ (hw.cancelled ▸ hc)]
    have hr : (w₁.reply s₁ r₁).result? = (w₂.reply s₂ r₂).result? :=
      congrArg (fun a => a.1.result?) hx'
    exact ⟨hr, hw.exchanged purpose hx'⟩

end Rules

/-! ## Credentials -/

section Credentials

variable {names : String → Prop} {s₁ s₂ : Setup σ}

theorem agree_tokenCredential (t : Token) :
    Agree names Eq (tokenCredential t : Run σ Credential) (tokenCredential t) := by
  intro w₁ w₂ hw
  rw [tokenCredential_run, tokenCredential_run, hw.now]
  refine ⟨?_, hw⟩
  cases t.credentialAt w₂.now with
  | ok c => exact rfl
  | error e => exact trivial

/-- Tokens are the same when they are asked for at the same address, with the same replies. -/
theorem agree_acquireToken {o₁ o₂ : OAuth} {id₁ id₂ secret₁ secret₂ : String}
    {grant₁ grant₂ : Grant} (ho : o₁.serverUrl = o₂.serverUrl)
    (hx : ∀ url, s₁.transport (tokenRequest s₁.limits url o₁ id₁ secret₁ grant₁) =
      s₂.transport (tokenRequest s₂.limits url o₂ id₂ secret₂ grant₂)) :
    Agree names Eq (acquireToken s₁ o₁ id₁ secret₁ grant₁)
      (acquireToken s₂ o₂ id₂ secret₂ grant₂) := by
  unfold acquireToken
  rw [ho]
  rcases Url.parse o₂.serverUrl with e | url
  · exact agree_pure rfl
  · refine agree_bind_eq (agree_submit .token (hx url)) fun answer => ?_
    rcases accepted answer with e | r
    · exact agree_pure rfl
    · dsimp only
      rcases Token.ofResponse r with e | t
      · exact agree_pure rfl
      · exact agree_bind_eq (agree_tokenCredential t) fun _ => agree_pure rfl

/-- Logins likewise. -/
theorem agree_acquireLogin {l₁ l₂ : TokenLogin} (hu : l₁.authUrl = l₂.authUrl)
    (hc : ∀ r, loginCredential l₁ r = loginCredential l₂ r)
    (hx : ∀ url, s₁.transport (loginRequest s₁.limits url l₁) =
      s₂.transport (loginRequest s₂.limits url l₂)) :
    Agree names Eq (acquireLogin s₁ l₁) (acquireLogin s₂ l₂) := by
  unfold acquireLogin
  rw [hu]
  rcases Url.parse l₂.authUrl with e | url
  · exact agree_pure rfl
  · refine agree_bind_eq (agree_submit .token (hx url)) fun answer => ?_
    rcases accepted answer with e | r
    · exact agree_pure rfl
    · exact agree_pure (hc r)

variable {x₁ x₂ : Run σ (Except AuthError Credential)}

theorem agree_acquireAnew (name : String) (hx : Agree names Eq x₁ x₂) :
    Agree names Eq (acquireAnew name x₁) (acquireAnew name x₂) := by
  refine agree_bind_eq agree_isCancelled fun c => ?_
  cases c with
  | true => exact agree_pure rfl
  | false =>
    refine agree_bind_eq hx fun r => ?_
    cases r with
    | error e => exact agree_pure rfl
    | ok c =>
      refine agree_bind_eq (agree_log _ _) fun _ => ?_
      exact agree_bind_eq (agree_modify fun _ _ hw => hw.caching name c) fun _ => agree_pure rfl

theorem agree_cachedOrAcquired {name : String} (hn : names name) (hx : Agree names Eq x₁ x₂) :
    Agree names Eq (cachedOrAcquired name x₁) (cachedOrAcquired name x₂) := by
  refine agree_get fun w₁ w₂ hw => ?_
  rw [hw.cache name hn, hw.now]
  cases w₂.cache.get? name with
  | none => exact agree_acquireAnew name hx
  | some c =>
    dsimp only
    split
    · exact agree_pure rfl
    · exact agree_bind_eq (agree_log _ _) fun _ => agree_acquireAnew name hx

end Credentials

/-! ## Transports -/

/-- A transport that looks at the method and the path of a request and at the limits of its answer,
and at nothing else. -/
def Transport.ByRoute (t : Transport σ) : Prop :=
  ∀ r₁ r₂ : Request, r₁.method = r₂.method → r₁.url.pathText = r₂.url.pathText →
    r₁.limits = r₂.limits → t r₁ = t r₂

theorem Script.next?_congr {r₁ r₂ : Request} (hm : r₁.method = r₂.method)
    (hu : r₁.url.pathText = r₂.url.pathText) (script : Script) :
    next? r₁ script = next? r₂ script := by
  induction script with
  | nil => rfl
  | cons route rest ih =>
    have hf : route.isFor r₁ = route.isFor r₂ := by rw [Route.isFor, Route.isFor, hm, hu]
    rw [next?, next?, hf, ih]

/-- **A script looks at nothing but where a request goes.** -/
theorem Script.transport_byRoute : Transport.ByRoute Script.transport := by
  intro r₁ r₂ hm hu hl
  funext script
  have hr : ∀ a, reply r₁ a = reply r₂ a := by
    intro a
    rw [reply, reply, hl]
  rw [transport, transport, next?_congr hm hu]
  cases next? r₂ script with
  | none => rfl
  | some a => simp only [hr]

end Reconcile
