import Reconcile.Proofs.Run.Steps

/-!
# Runs as paths of exchanges

A run moves from world to world: it logs lines, exchanges a request for a reply, caches a
credential or fills the store.  `Path s w xs w'` says that such moves lead from `w` to `w'` and
that `xs` are the exchanges made on the way, in order.

* `Path.sent`, `Path.events` — the requests of a path are the requests that its last world has
  noted, and what happens on it comes after what happened before.
* `Path.cancelled` — a run is cancelled at the end iff it was at the start or some reply
  cancelled it.
* `Path.eq_nil_of_cancelled`, `Path.last_of_cancels` — a cancelled run exchanges nothing more.
-/

namespace Reconcile

variable {σ : Type}

/-- An entry of two lists one after the other lies in the one or in the other. -/
theorem append_eq_append_cons {α : Type} {es new pre post : List α} {a : α}
    (h : es ++ new = pre ++ a :: post) :
    (∃ post', es = pre ++ a :: post') ∨ ∃ front, pre = es ++ front ∧ new = front ++ a :: post := by
  rcases List.append_eq_append_iff.mp h with ⟨front, hpre, hnew⟩ | ⟨rest, hes, hpost⟩
  · exact .inr ⟨front, hpre, hnew⟩
  · cases rest with
    | nil =>
      rw [List.append_nil] at hes
      exact .inr ⟨[], by rw [hes, List.append_nil], hpost.symm⟩
    | cons b rest =>
      cases hpost
      exact .inl ⟨rest, hes⟩

/-- An entry of a list with one more entry is that one or lies before it. -/
theorem concat_eq_append_cons {α : Type} {es pre post : List α} {x a : α}
    (h : es ++ [x] = pre ++ a :: post) :
    (post = [] ∧ es = pre ∧ x = a) ∨ ∃ post', es = pre ++ a :: post' := by
  rcases append_eq_append_cons h with hes | ⟨front, hpre, hx⟩
  · exact .inr hes
  · obtain ⟨rfl, hcons⟩ | ⟨rfl, hcons⟩ := List.append_eq_singleton_iff.mp hx.symm
    · cases hcons
      exact .inl ⟨rfl, (hpre.trans (List.append_nil _)).symm, rfl⟩
    · cases hcons

/-- A request, and what became of it. -/
structure Exchange where
  purpose : Purpose
  request : Request
  reply : Reply
  /-- The second at which the reply was there. -/
  time : Nat

/-- The exchange of a request with the transport of a world. -/
def World.exchange (w : World σ) (s : Setup σ) (purpose : Purpose) (r : Request) : Exchange :=
  ⟨purpose, r, w.reply s r, w.now + (w.reply s r).elapsed⟩

/-- The requests that were sent so far. -/
def World.sent (w : World σ) : List (Purpose × Request) :=
  w.events.filterMap fun
    | .sent purpose r => some (purpose, r)
    | .logged _ => none

@[simp] theorem World.logging_sent (w : World σ) (lines : List LogLine) :
    (w.logging lines).sent = w.sent := by
  simp [World.sent, World.logging, List.filterMap_append, List.filterMap_map]

@[simp] theorem World.exchanged_sent (w : World σ) (s : Setup σ) (purpose : Purpose)
    (r : Request) : (w.exchanged s purpose r).sent = w.sent ++ [(purpose, r)] := by
  simp [World.sent, World.exchanged, List.filterMap_append]

/-- The request of an exchange, if it is for an action. -/
def Exchange.target? (x : Exchange) : Option Request :=
  match x.purpose with
  | .target => some x.request
  | .token => none

/-- The requests for actions that were sent so far. -/
def World.targets (w : World σ) : List Request :=
  w.sent.filterMap fun
    | (.target, r) => some r
    | (.token, _) => none

theorem World.mem_targets {w : World σ} {r : Request} :
    r ∈ w.targets ↔ .sent .target r ∈ w.events := by
  simp only [World.targets, World.sent, List.mem_filterMap]
  constructor
  · rintro ⟨⟨purpose, q⟩, ⟨e, he, hs⟩, ht⟩
    cases e with
    | logged line => cases hs
    | sent purpose' q' =>
      cases hs
      cases purpose with
      | target => cases ht; exact he
      | token => cases ht
  · intro he
    exact ⟨(.target, r), ⟨_, he, rfl⟩, rfl⟩

@[simp] theorem World.logging_targets (w : World σ) (lines : List LogLine) :
    (w.logging lines).targets = w.targets := by
  rw [World.targets, World.logging_sent, World.targets]

theorem World.exchanged_targets (w : World σ) (s : Setup σ) (purpose : Purpose) (r : Request) :
    (w.exchanged s purpose r).targets =
      w.targets ++ (w.exchange s purpose r).target?.toList := by
  rw [World.targets, World.exchanged_sent, List.filterMap_append]
  cases purpose <;> rfl

/-- Moves that lead from a world to another, with the exchanges made on the way. -/
inductive Path (s : Setup σ) (w : World σ) : List Exchange → World σ → Prop
  | refl : Path s w [] w
  | logging {xs : List Exchange} {w' : World σ} (lines : List LogLine) :
      Path s w xs w' → Path s w xs (w'.logging lines)
  | exchanging {xs : List Exchange} {w' : World σ} (purpose : Purpose) (r : Request) :
      Path s w xs w' → w'.cancelled = false →
      Path s w (xs ++ [w'.exchange s purpose r]) (w'.exchanged s purpose r)
  | caching {xs : List Exchange} {w' : World σ} (name : String) (c : Credential) :
      Path s w xs w' → Path s w xs (w'.caching name c)
  | storing {xs : List Exchange} {w' : World σ} (store : Table Json) :
      Path s w xs w' → Path s w xs (w'.storing store)

namespace Path

variable {s : Setup σ} {w w' w'' : World σ} {xs ys : List Exchange}

theorem append (h : Path s w xs w') (h' : Path s w' ys w'') : Path s w (xs ++ ys) w'' := by
  induction h' with
  | refl => rwa [List.append_nil]
  | logging lines _ ih => exact ih.logging lines
  | exchanging purpose r _ hc ih => rw [← List.append_assoc]; exact ih.exchanging purpose r hc
  | caching name c _ ih => exact ih.caching name c
  | storing store _ ih => exact ih.storing store

/-- The requests of a path are noted in order after those of its first world. -/
theorem sent (h : Path s w xs w') :
    w'.sent = w.sent ++ xs.map fun x => (x.purpose, x.request) := by
  induction h with
  | refl => rw [List.map_nil, List.append_nil]
  | logging lines _ ih => rw [World.logging_sent, ih]
  | exchanging purpose r _ _ ih =>
    rw [World.exchanged_sent, ih, List.map_append, List.append_assoc]
    rfl
  | caching name c _ ih => exact ih
  | storing store _ ih => exact ih

/-- The requests for actions are noted likewise. -/
theorem targets (h : Path s w xs w') : w'.targets = w.targets ++ xs.filterMap Exchange.target? := by
  induction h with
  | refl => rw [List.filterMap_nil, List.append_nil]
  | logging lines _ ih => rw [World.logging_targets, ih]
  | exchanging purpose r _ _ ih =>
    rw [World.exchanged_targets, ih, List.filterMap_append, List.append_assoc]
    cases purpose <;> rfl
  | caching name c _ ih => exact ih
  | storing store _ ih => exact ih

/-- What happens on a path comes after what happened before, and its requests are exchanged. -/
theorem events (h : Path s w xs w') :
    ∃ new, w'.events = w.events ++ new ∧
      ∀ purpose q, .sent purpose q ∈ new → ∃ x ∈ xs, x.purpose = purpose ∧ x.request = q := by
  induction h with
  | refl => exact ⟨[], (List.append_nil _).symm, by simp⟩
  | logging lines _ ih =>
    obtain ⟨new, hnew, hx⟩ := ih
    refine ⟨new ++ lines.map .logged, by rw [World.logging, hnew, List.append_assoc], ?_⟩
    intro purpose q hq
    rcases List.mem_append.mp hq with hq | hq
    · exact hx purpose q hq
    · simp at hq
  | exchanging purpose r _ _ ih =>
    obtain ⟨new, hnew, hx⟩ := ih
    refine ⟨new ++ [.sent purpose r], by rw [World.exchanged, hnew, List.append_assoc], ?_⟩
    intro purpose' q hq
    rcases List.mem_append.mp hq with hq | hq
    · obtain ⟨x, hm, hx⟩ := hx purpose' q hq
      exact ⟨x, List.mem_append_left _ hm, hx⟩
    · cases List.mem_singleton.mp hq
      exact ⟨_, List.mem_append_right _ List.mem_cons_self, rfl, rfl⟩
  | caching name c _ ih => exact ih
  | storing store _ ih => exact ih

/-- What comes back on a path is a reply of the transport. -/
theorem replies (h : Path s w xs w') :
    ∀ x ∈ xs, ∃ state, x.reply = (s.transport x.request state).1 := by
  induction h with
  | refl => simp
  | logging lines _ ih => exact ih
  | exchanging purpose r _ _ ih =>
    refine List.forall_mem_append.mpr ⟨ih, fun x hx => ?_⟩
    obtain rfl := List.mem_singleton.mp hx
    exact ⟨_, rfl⟩
  | caching name c _ ih => exact ih
  | storing store _ ih => exact ih

/-- A run is cancelled at the end iff it was at the start or a reply cancelled it. -/
theorem cancelled (h : Path s w xs w') :
    w'.cancelled = (w.cancelled || xs.any fun x => x.reply.cancels) := by
  induction h with
  | refl => rw [List.any_nil, Bool.or_false]
  | logging lines _ ih => rw [World.logging_cancelled, ih]
  | exchanging purpose r _ _ ih =>
    rw [World.exchanged_cancelled, ih, List.any_append, Bool.or_assoc]
    simp [World.exchange]
  | caching name c _ ih => exact ih
  | storing store _ ih => exact ih

theorem cancelled_of_cancelled (h : Path s w xs w') (hw : w.cancelled = true) :
    w'.cancelled = true := by
  rw [h.cancelled, hw, Bool.true_or]

theorem not_cancelled (h : Path s w xs w') (hw' : w'.cancelled = false) : w.cancelled = false := by
  cases hw : w.cancelled with
  | false => rfl
  | true => rw [h.cancelled_of_cancelled hw] at hw'; cases hw'

/-- **A cancelled run exchanges nothing more.** -/
theorem eq_nil_of_cancelled (h : Path s w xs w') (hw : w.cancelled = true) : xs = [] := by
  induction h with
  | refl => rfl
  | logging lines _ ih => exact ih
  | exchanging purpose r h hc _ => rw [h.cancelled_of_cancelled hw] at hc; cases hc
  | caching name c _ ih => exact ih
  | storing store _ ih => exact ih

/-- **An exchange that cancels the run is its last one.** -/
theorem last_of_cancels (h : Path s w xs w') {pre post : List Exchange} {x : Exchange}
    (hx : x.reply.cancels = true) (hxs : xs = pre ++ x :: post) : post = [] := by
  induction h generalizing post with
  | refl => simp at hxs
  | logging lines _ ih => exact ih hxs
  | exchanging purpose r h hc _ =>
    rcases concat_eq_append_cons hxs with ⟨hp, _⟩ | ⟨post', hpre⟩
    · exact hp
    · -- the exchanges up to the last one hold one that cancels, so the last one cannot be
      rw [h.cancelled, hpre] at hc
      simp [hx] at hc
  | caching name c _ ih => exact ih hxs
  | storing store _ ih => exact ih hxs

end Path

end Reconcile
