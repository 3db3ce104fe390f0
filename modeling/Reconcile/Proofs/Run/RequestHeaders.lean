import Reconcile.Proofs.Http.Layers
import Reconcile.Proofs.Run.Schedule

/-!
# The headers of requests

The headers of a request come in three layers: the default ones, those of its action, and the one
that carries the credential which this request obtained.

* `Action.layers` — the layers, from the bottom; `prepare_attaching` — the headers of a request are
  set from them.
* `Round.Sends.headers`, `Round.Sends.bare` — the headers of a request, and a request that obtained
  no credential.
* `execute_sends_layered_headers` — every request for an action that an execution sends.
-/

namespace Reconcile

variable {σ : Type}

/-! ## Layers -/

/-- The layers of the headers of an action, from the bottom: the default ones, its own in document
order, and the one that carries a credential. -/
def Action.layers (a : Action) (c : Option Credential) : List (String × String) :=
  [("Accept", "application/json"), ("Content-Type", "application/json")] ++ a.headers.entries ++
    (c.map fun c => (c.header, c.value)).toList

theorem defaultHeaders_eq_setAll :
    defaultHeaders = Headers.setAll {}
      [("Accept", "application/json"), ("Content-Type", "application/json")] := by
  decide +kernel

/-- **The headers of a request are set from its layers.** -/
theorem prepare_attaching (name : String) (a : Action) (c : Option Credential) :
    (prepare name a).attaching c = Headers.setAll {} (a.layers c) := by
  have hown : (prepare name a).headers = Headers.setAll {}
      ([("Accept", "application/json"), ("Content-Type", "application/json")] ++
        a.headers.entries) := by
    rw [Headers.setAll_append, ← defaultHeaders_eq_setAll]
    rfl
  rw [Action.layers, Headers.setAll_append, ← hown]
  cases c <;> rfl

/-! ## Rounds -/

section Rounds

variable {s : Setup σ} {r : Round σ} {url : Url} {x : Exchange} {name : String} {a : Action}

/-- **The headers of a request** are its topmost layers, and their names differ. -/
theorem Round.Sends.headers (h : r.Sends s url x) (ha : r.action = prepare name a) :
    (x.request.headers.entries.Pairwise fun e e' => Text.sameIgnoringCase e.1 e'.1 = false) ∧
      ∀ e, e ∈ x.request.headers.entries ↔
        Topmost (a.layers (r.before.credential? s a.authRef)) e := by
  have hx : x.request.headers =
      Headers.setAll {} (a.layers (r.before.credential? s a.authRef)) := by
    rw [h.request, ← prepare_attaching name, ha]
    rfl
  rw [hx]
  exact ⟨Headers.pairwise_setAll, fun e => Headers.mem_setAll⟩

/-- **A request that obtained no credential** is as its action prepared it. -/
theorem Round.Sends.bare (h : r.Sends s url x)
    (hn : r.before.credential? s r.action.action.authRef = none) :
    x.request = r.action.request s r.verb url r.body := by
  rw [h.request, hn]
  rfl

end Rounds

/-- **Headers come in layers.** Every request for an action that an execution sends carries the
default headers, over them those of its action, and over these the one with the credential that
this request obtained; names that differ only in their case are one header. Where it obtained no
credential, it is sent as its action prepared it. -/
theorem execute_sends_layered_headers (s : Setup σ) (r : Recipe) (w : World σ) :
    ∃ rounds, Course s w.opened rounds (execute s r.schedule w).2 ∧
      (execute s r.schedule w).2.targets =
        rounds.filterMap (fun round => round.sent.map Exchange.request) ∧
      ∀ round ∈ rounds, ∃ name a, (name, a) ∈ r.seed.entries ∧ round.action = prepare name a ∧
        ∀ x ∈ round.sent, ∃ url,
          round.asked = (round.before.asking? s a.authRef).map Prod.snd ∧
          Url.parse (s.rawUrl round.action round.before.store round.verb round.id) = .ok url ∧
          x.request = { round.action.request s round.verb url round.body with
            headers := x.request.headers } ∧
          (x.request.headers.entries.Pairwise
            fun e e' => Text.sameIgnoringCase e.1 e'.1 = false) ∧
          (∀ e, e ∈ x.request.headers.entries ↔
            Topmost (a.layers (round.before.credential? s a.authRef)) e) ∧
          (round.before.credential? s a.authRef = none ↔ Fruitless s round.before a.authRef) ∧
          (Fruitless s round.before a.authRef →
            x.request = round.action.request s round.verb url round.body) := by
  obtain ⟨rounds, hc, ha, _⟩ := execute_course s r.schedule w
  refine ⟨rounds, hc, hc.targets, fun round hm => ?_⟩
  have hholds := hc.holds round hm
  obtain ⟨name, a, hentry, haction⟩ := r.mem_schedule.mp (ha round hm)
  have href : round.action.action.authRef = a.authRef := by rw [← haction]; rfl
  refine ⟨name, a, hentry, haction.symm, fun x hx => ?_⟩
  obtain ⟨url, hs⟩ := hholds.sent x hx
  obtain ⟨hdistinct, htop⟩ := hs.headers haction.symm
  have hnone : round.before.credential? s a.authRef = none ↔
      Fruitless s round.before a.authRef := by
    rw [← href]
    exact ⟨fun hn => World.fruitless_of_credential?_eq_none hn hs.granted,
      World.credential?_of_fruitless⟩
  refine ⟨url, href ▸ hs.asked, hs.address, ?_, hdistinct, htop, hnone, fun hf => hs.bare ?_⟩
  · rw [hs.request]
  · rw [href]
    exact hnone.mpr hf

end Reconcile
