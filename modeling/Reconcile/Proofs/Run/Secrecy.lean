import Mathlib.Control.Monad.Basic
import Reconcile.Proofs.Run.Announcements
import Reconcile.Proofs.Run.TwoRuns
import Reconcile.Proofs.Tables

/-!
# Secrets stay out of logs and errors

* `Recipe.withoutSecrets` — a recipe with its secrets taken out.
* `agree_decorate` — with other secrets a request gets other headers, but they are logged alike.
* `agree_runAll` — with other secrets a run logs the same, fails the same and keeps the same.
-/

namespace Reconcile

variable {σ : Type}

/-! ## Recipes without secrets -/

/-- The settings of a token endpoint without the password of the owner. -/
def OAuth.withoutSecrets (o : OAuth) : OAuth :=
  { o with ownerPass := none }

/-- The settings of a login without the values of its credential. -/
def TokenLogin.withoutSecrets (l : TokenLogin) : TokenLogin :=
  { l with credential := l.credential.mapValues fun _ => .null }

/-- An entry without its secrets. -/
def Auth.withoutSecrets : Auth → Auth
  | noAuth => noAuth
  | basic username _ => basic username ""
  | clientCredentials clientId _ oauth => clientCredentials clientId "" oauth.withoutSecrets
  | ownerPassword clientId _ oauth user _ => ownerPassword clientId "" oauth.withoutSecrets user ""
  | tokenLogin login => tokenLogin login.withoutSecrets
  | static header _ => static header ""

/-- A recipe without its secrets. -/
def Recipe.withoutSecrets (r : Recipe) : Recipe :=
  { r with auth := r.auth.mapValues Auth.withoutSecrets }

/-- Setups that differ at most in the secrets of their entries. -/
structure Setup.Alike (s₁ s₂ : Setup σ) : Prop where
  transport : s₁.transport = s₂.transport
  auth : s₁.auth.mapValues Auth.withoutSecrets = s₂.auth.mapValues Auth.withoutSecrets
  environment : s₁.environment = s₂.environment
  limits : s₁.limits = s₂.limits

theorem Setup.Alike.get? {s₁ s₂ : Setup σ} (h : s₁.Alike s₂) (name : String) :
    (s₁.auth.get? name).map Auth.withoutSecrets = (s₂.auth.get? name).map Auth.withoutSecrets := by
  rw [← Dict.get?_mapValues, h.auth, Dict.get?_mapValues]

/-! ## Steps that look at no secrets -/

/-- The names of all entries. -/
def allNames (_ : String) : Prop := True

theorem agree_keepVariable (p : Prepared) (body : List UInt8) (name expr : String) :
    Agree allNames Eq (keepVariable p body name expr : Run σ Unit)
      (keepVariable p body name expr) := by
  unfold keepVariable
  rcases extract body expr with e | _ | v
  · exact agree_log _ _
  · exact agree_pure rfl
  · refine agree_modify fun w₁ w₂ hw => ?_
    have h := hw.storing (w₁.store.insert name v)
    rw [show w₂.storing (w₁.store.insert name v) = w₂.storing (w₂.store.insert name v) by
      rw [hw.store]] at h
    exact h

theorem agree_keepVariables (p : Prepared) (body : List UInt8) (vars : List (String × String)) :
    Agree allNames Eq (vars.forM fun v => keepVariable p body v.1 v.2 : Run σ PUnit)
      (vars.forM fun v => keepVariable p body v.1 v.2) := by
  induction vars with
  | nil => exact agree_pure rfl
  | cons v vars ih => exact agree_bind_eq (agree_keepVariable p body v.1 v.2) fun _ => ih

theorem agree_receive (p : Prepared) (d : Diagnostic) (a : Option (Except HttpError Response)) :
    Agree allNames Eq (receive p d a : Run σ _) (receive p d a) := by
  match a with
  | none => exact agree_pure rfl
  | some (.error e) => exact agree_bind_eq (agree_log _ _) fun _ => agree_pure rfl
  | some (.ok r) =>
    refine agree_bind_eq (agree_log _ _) fun _ => ?_
    cases d.classify r.status r.body with
    | some d => exact agree_pure rfl
    | none => exact agree_bind_eq (agree_keepVariables p r.body _) fun _ => agree_pure rfl

/-! ## Headers -/

/-- **The value of a header that carries a credential does not show.** -/
theorem Headers.redacted_set (h : Headers) (name value value' : String) :
    (h.set name value).redacted [name] = (h.set name value').redacted [name] := by
  apply Table.ext
  have hs : isSecret [name] name = true := by
    simp [isSecret, Text.sameIgnoringCase_refl]
  exact Table.map_set_congr (f := fun n v => if isSecret [name] n then mask else v)
    (by rw [if_pos hs, if_pos hs]) _

/-- Requests that go the same way and are logged alike, with the names of the headers that carry
their credentials. -/
structure ShownAlike (x₁ x₂ : Request × List String) : Prop where
  names : x₁.2 = x₂.2
  method : x₁.1.method = x₂.1.method
  url : x₁.1.url = x₂.1.url
  limits : x₁.1.limits = x₂.1.limits
  headers : x₁.1.headers.redacted x₁.2 = x₂.1.headers.redacted x₂.2

theorem ShownAlike.refl (x : Request × List String) : ShownAlike x x :=
  ⟨rfl, rfl, rfl, rfl, rfl⟩

theorem ShownAlike.carrying (r : Request) {c₁ c₂ : Credential} (h : c₁.header = c₂.header) :
    ShownAlike (r.carrying c₁, [c₁.header]) (r.carrying c₂, [c₂.header]) := by
  refine ⟨congrArg ([·]) h, rfl, rfl, rfl, ?_⟩
  show (r.headers.set c₁.header c₁.value).redacted [c₁.header] =
    (r.headers.set c₂.header c₂.value).redacted [c₂.header]
  rw [h]
  exact Headers.redacted_set _ _ _ _

/-! ## Steps that look at secrets -/

theorem OAuth.serverUrl_eq {o₁ o₂ : OAuth} (h : o₁.withoutSecrets = o₂.withoutSecrets) :
    o₁.serverUrl = o₂.serverUrl := by
  have hu : o₁.withoutSecrets.serverUrl = o₂.withoutSecrets.serverUrl := by rw [h]
  exact hu

theorem TokenLogin.authUrl_eq {l₁ l₂ : TokenLogin} (h : l₁.withoutSecrets = l₂.withoutSecrets) :
    l₁.authUrl = l₂.authUrl := by
  have hu : l₁.withoutSecrets.authUrl = l₂.withoutSecrets.authUrl := by rw [h]
  exact hu

/-- What a login is answered does not depend on what it was asked with. -/
theorem loginCredential_withoutSecrets (l : TokenLogin) (r : Response) :
    loginCredential l.withoutSecrets r = loginCredential l r := by
  have hk : l.withoutSecrets.responseKey = l.responseKey := rfl
  rw [loginCredential, loginCredential, hk]
  cases extractText r.body l.responseKey <;> rfl

section Secrets

variable {s₁ s₂ : Setup σ} (hs : s₁.Alike s₂) (ht : Transport.ByRoute s₁.transport)

include hs ht

/-- Entries that differ in their secrets give credentials for the same header. -/
theorem agree_credentialFor (name : String) {a₁ a₂ : Auth}
    (ha : a₁.withoutSecrets = a₂.withoutSecrets) :
    Agree allNames
      (fun c₁ c₂ => c₁.map (Option.map Credential.header) = c₂.map (Option.map Credential.header))
      (credentialFor s₁ name a₁) (credentialFor s₂ name a₂) := by
  have hcached : ∀ {x₁ x₂ : Run σ (Except AuthError Credential)}, Agree allNames Eq x₁ x₂ →
      Agree allNames (fun c₁ c₂ : Except AuthError (Option Credential) =>
          c₁.map (Option.map Credential.header) = c₂.map (Option.map Credential.header))
        (do pure ((← cachedOrAcquired name x₁).map some))
        (do pure ((← cachedOrAcquired name x₂).map some)) := fun hx =>
    agree_bind_eq (agree_cachedOrAcquired trivial hx) fun _ => agree_pure rfl
  -- requests for tokens differ in headers and bodies only
  have hx : ∀ {r₁ r₂ : Request}, r₁.method = r₂.method → r₁.url = r₂.url →
      r₁.limits = r₂.limits → s₁.transport r₁ = s₂.transport r₂ := fun hm hu hl => by
    rw [← hs.transport]
    exact ht _ _ hm (congrArg Url.pathText hu) hl
  cases a₁ with
  | noAuth => cases a₂ <;> cases ha; exact agree_pure rfl
  | basic u p => cases a₂ <;> cases ha; exact agree_pure rfl
  | static h v => cases a₂ <;> cases ha; exact agree_pure rfl
  | clientCredentials i p o =>
    cases a₂ with
    | clientCredentials i' p' o' =>
      injection ha with hi hp ho
      exact hcached (agree_acquireToken (OAuth.serverUrl_eq ho)
        fun url => hx rfl rfl hs.limits)
    | _ => cases ha
  | ownerPassword i p o u q =>
    cases a₂ with
    | ownerPassword i' p' o' u' q' =>
      injection ha with hi hp ho
      exact hcached (agree_acquireToken (OAuth.serverUrl_eq ho)
        fun url => hx rfl rfl hs.limits)
    | _ => cases ha
  | tokenLogin l =>
    cases a₂ with
    | tokenLogin l' =>
      injection ha with hl
      have hc : ∀ r, loginCredential l r = loginCredential l' r := by
        intro r
        rw [← loginCredential_withoutSecrets, hl, loginCredential_withoutSecrets]
      exact hcached (agree_acquireLogin (TokenLogin.authUrl_eq hl) hc
        fun url => hx rfl rfl hs.limits)
    | _ => cases ha

/-- **With other secrets a request gets other headers, but they are logged alike.** -/
theorem agree_decorate (ref : String) (r : Request) :
    Agree allNames ShownAlike (decorate s₁ ref r) (decorate s₂ ref r) := by
  unfold decorate
  split
  · exact agree_pure (.refl _)
  · have ha := hs.get? ref
    cases h₁ : s₁.auth.get? ref with
    | none =>
      rw [h₁] at ha
      rw [Option.map_eq_none_iff.mp ha.symm]
      exact agree_bind_eq (agree_log _ _) fun _ => agree_pure (.refl _)
    | some a₁ =>
      rw [h₁] at ha
      obtain ⟨a₂, h₂, ha⟩ := Option.map_eq_some_iff.mp ha.symm
      rw [h₂]
      refine agree_bind (agree_credentialFor hs ht ref ha.symm) fun c₁ c₂ hc => ?_
      match c₁, c₂, hc with
      | .error e, .error _, rfl =>
        exact agree_bind_eq (agree_log _ _) fun _ => agree_pure (.refl _)
      | .ok none, .ok none, _ => exact agree_pure (.refl _)
      | .ok (some c₁), .ok (some c₂), hc =>
        injection hc with hc
        injection hc with hc
        exact agree_pure (.carrying r hc)
      | .ok none, .ok (some _), hc => cases hc
      | .ok (some _), .ok none, hc => cases hc

omit ht in
theorem agree_renderFor (p : Prepared) (template : String) :
    Agree allNames Eq (renderFor s₁ p template) (renderFor s₂ p template) := by
  refine agree_get fun w₁ w₂ hw => ?_
  rw [hw.store, hs.environment]
  dsimp only
  cases (render (mergeVariables p.action.vars w₂.store) s₂.environment template).problem with
  | none => exact agree_pure rfl
  | some e => exact agree_bind_eq (agree_log _ _) fun _ => agree_pure rfl

omit ht in
theorem agree_urlFor (p : Prepared) (verb : Verb) (id : Option String) :
    Agree allNames Eq (urlFor s₁ p verb id) (urlFor s₂ p verb id) := by
  unfold urlFor
  cases p.action.suffix verb with
  | none => exact agree_bind_eq (agree_pure rfl) fun _ => agree_pure rfl
  | some t => exact agree_bind_eq (agree_renderFor hs p t) fun _ => agree_pure rfl

omit ht in
theorem agree_payloadsFor (p : Prepared) :
    Agree allNames Eq (payloadsFor s₁ p) (payloadsFor s₂ p) := by
  refine agree_bind_eq (agree_renderFor hs p _) fun primary => ?_
  split
  · exact agree_bind_eq (agree_renderFor hs p _) fun _ => agree_pure rfl
  · exact agree_pure rfl

theorem agree_send (p : Prepared) (verb : Verb) (url : Url) (body : List UInt8) :
    Agree allNames Eq (send s₁ p verb url body) (send s₂ p verb url body) := by
  have hr : p.request s₁ verb url body = p.request s₂ verb url body := by
    rw [Prepared.request, Prepared.request, hs.limits]
  rw [send_eq, send_eq, hr]
  refine agree_bind (agree_decorate hs ht _ _) fun x₁ x₂ hx => ?_
  obtain ⟨r₁, names₁⟩ := x₁
  obtain ⟨r₂, names₂⟩ := x₂
  have hl : p.headerLine verb url r₁ names₁ = p.headerLine verb url r₂ names₂ := by
    rw [Prepared.headerLine, Prepared.headerLine, hx.headers]
  dsimp only
  rw [hl]
  refine agree_bind_eq (agree_log _ _) fun _ => ?_
  have hsub : s₁.transport r₁ = s₂.transport r₂ := by
    rw [← hs.transport]
    exact ht _ _ hx.method (congrArg Url.pathText hx.url) hx.limits
  exact agree_bind_eq (agree_submit .target hsub) fun a => agree_receive p _ a

theorem agree_perform (p : Prepared) (verb : Verb) (id : Option String) (body : List UInt8) :
    Agree allNames Eq (perform s₁ p verb id body) (perform s₂ p verb id body) := by
  refine agree_bind_eq (agree_urlFor hs p verb id) fun u => ?_
  cases u with
  | error e => exact agree_pure rfl
  | ok url => exact agree_bind_eq (agree_send hs ht p verb url body) fun _ => agree_pure rfl

theorem agree_carryOut (p : Prepared) (b : Payloads) (plan : Plan) :
    Agree allNames Eq (carryOut s₁ p b plan) (carryOut s₂ p b plan) := by
  induction plan with
  | done r => exact agree_pure rfl
  | remark message next ih => exact agree_bind_eq (agree_log _ _) fun _ => ih
  | request verb id payload next ih =>
    exact agree_bind_eq (agree_perform hs ht p verb id _) fun r => ih r

theorem agree_runLogged (p : Prepared) : Agree allNames Eq (runLogged s₁ p) (runLogged s₂ p) := by
  refine agree_bind_eq (agree_log _ _) fun _ => ?_
  have hr : Agree allNames Eq (runAction s₁ p) (runAction s₂ p) :=
    agree_bind_eq (agree_payloadsFor hs p) fun b => agree_carryOut hs ht p b _
  refine agree_bind_eq hr fun r => ?_
  cases r with
  | ok _ => exact agree_bind_eq (agree_log _ _) fun _ => agree_pure rfl
  | error e => exact agree_bind_eq (agree_log _ _) fun _ => agree_pure rfl

/-- **With other secrets a run logs the same, fails the same and keeps the same.** -/
theorem agree_runAll (actions : List Prepared) :
    Agree allNames Eq (runAll s₁ actions) (runAll s₂ actions) := by
  induction actions with
  | nil => exact agree_pure rfl
  | cons p rest ih =>
    exact agree_bind_eq (agree_runLogged hs ht p) fun e =>
      agree_bind_eq ih fun more => agree_pure rfl

end Secrets

/-! ## Whole executions -/

/-- **Secrets stay out of logs and errors.**

* With a transport that looks at nothing but where requests go, recipes that differ at most in
  their secrets lead from the same world to the same errors, the same log lines and the same store.
* With any transport, every request of an action that a run sends comes right after a line that
  shows its headers: hidden are those with the names of credentials and the one of the credential
  that this request obtained, and all others show their values.
* The line is there for a request that is not sent any more, too: whatever the world, it comes as
  soon as the request has its credential. -/
theorem secrets_stay_out_of_logs :
    (∀ (t : Transport σ) (environment : Environment) (limits : Limits) (recipe other : Recipe)
      (w : World σ), t.ByRoute → recipe.withoutSecrets = other.withoutSecrets →
      let x := execute ⟨t, recipe.auth, environment, limits⟩ recipe.schedule w
      let y := execute ⟨t, other.auth, environment, limits⟩ other.schedule w
      x.1 = y.1 ∧ x.2.logs = y.2.logs ∧ x.2.store = y.2.store) ∧
    (∀ (s : Setup σ) (actions : List Prepared) (w : World σ),
      ∃ rounds, Course s w.opened rounds (execute s actions w).2 ∧
        (∀ r ∈ rounds, r.action ∈ actions) ∧
        ∀ pre q post, (execute s actions w).2.events = pre ++ .sent .target q :: post →
          ∃ r ∈ rounds, r.Announces s q pre) ∧
    (∀ (s : Setup σ) (p : Prepared) (verb : Verb) (url : Url) (body : List UInt8) (r : Request)
      (names : List String) (w w₁ : World σ),
      (decorate s p.action.authRef (p.request s verb url body)).run w = (.ok (r, names), w₁) →
      let c := w.credential? s p.action.authRef
      r.headers = p.attaching c ∧ names = c.toList.map Credential.header ∧
        ∃ after, ((send s p verb url body).run w).2.events =
          w₁.events ++ .logged (p.announcement r c) :: after) := by
  refine ⟨?_, execute_announces, fun _ _ _ _ _ _ _ _ _ h => send_announces h⟩
  intro t environment limits recipe other w ht h
  have hauth : recipe.withoutSecrets.auth = other.withoutSecrets.auth := by rw [h]
  have hseed : recipe.withoutSecrets.seed = other.withoutSecrets.seed := by rw [h]
  change recipe.seed = other.seed at hseed
  have hsched : recipe.schedule = other.schedule := by
    rw [Recipe.schedule, hseed, Recipe.schedule]
  let s₁ : Setup σ := ⟨t, recipe.auth, environment, limits⟩
  let s₂ : Setup σ := ⟨t, other.auth, environment, limits⟩
  have hs : s₁.Alike s₂ := ⟨rfl, hauth, rfl, rfl⟩
  dsimp only
  rw [hsched]
  obtain ⟨hr, hw⟩ := agree_runAll hs ht other.schedule w.opened w.opened (.refl _)
  exact ⟨hr.eq, hw.logs, hw.store⟩

/-- A recipe whose only action needs a password. -/
def guardedRecipe (password : String) : Recipe where
  auth := .ofList [("b", .basic "u" password)]
  seed := .ofList [("a", { strategy := .put, endpoint := "http://h/r", authRef := "b" })]

theorem secrets_stay_out_of_logs_password :
    let setup (password : String) : Setup Script :=
      ⟨Script.transport, (guardedRecipe password).auth, fun _ => none, {}⟩
    let run (password : String) := execute (setup password) (guardedRecipe password).schedule
      { transport := [] }
    (run "x").2.logs = (run "y").2.logs ∧ (run "x").2.requests ≠ (run "y").2.requests ∧
      ∃ pre q post, (run "x").2.events = pre ++ .sent .target q :: post ∧
        ∃ r : Round Script, r.Announces (setup "x") q pre := by
  intro setup run
  have h : (guardedRecipe "x").withoutSecrets = (guardedRecipe "y").withoutSecrets := by
    decide +kernel
  obtain ⟨htwo, hone, _⟩ := secrets_stay_out_of_logs (σ := Script)
  obtain ⟨_, hl, _⟩ := htwo Script.transport (fun _ => none) {} (guardedRecipe "x")
    (guardedRecipe "y") { transport := [] } Script.transport_byRoute h
  have ht : (run "x").2.targets ≠ [] := by decide +kernel
  obtain ⟨q, hq⟩ := List.exists_mem_of_ne_nil _ ht
  obtain ⟨pre, post, he⟩ := List.append_of_mem (World.mem_targets.mp hq)
  obtain ⟨_, _, _, hr⟩ := hone (setup "x") (guardedRecipe "x").schedule { transport := [] }
  obtain ⟨r, _, hr⟩ := hr pre q post he
  exact ⟨hl, by decide +kernel, pre, q, post, he, r, hr⟩

end Reconcile
