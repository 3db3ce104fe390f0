import Reconcile.Proofs.Run.Course
import Reconcile.Proofs.Run.StrategyTable

/-!
# Schedules and turns

* `Recipe.actions` — the actions of a recipe in document order; `Recipe.schedule_perm`,
  `Recipe.schedule_sorted`, `Recipe.schedule_ties` — the schedule rearranges them by ascending
  order, those without one last, and keeps ties as they are.
* `Block` — requests of an action, each right after at most one exchange for its credential;
  `Turn.Holds.block` — an action that is run to its end makes such a block of exchanges.
* `Halts.exchanges` — an action that the clock stops makes one more, for a token that overruns it.
* `execute_takes_turns` — an execution attempts each action once and in order, whatever fails, and
  returns the errors of those that failed, unless the clock stops it; `execute_overrun` — which it
  can.
-/

namespace Reconcile

variable {σ : Type}

/-! ## Schedules -/

section Order

theorem runsBefore_trans (a b c : Prepared) (hab : runsBefore a b = true)
    (hbc : runsBefore b c = true) : runsBefore a c = true := by
  unfold runsBefore at *
  cases ha : a.action.order <;> cases hb : b.action.order <;> cases hc : c.action.order <;>
    simp_all
  exact Int64.le_trans hab hbc

theorem runsBefore_total (a b : Prepared) : (runsBefore a b || runsBefore b a) = true := by
  unfold runsBefore
  cases ha : a.action.order <;> cases hb : b.action.order <;> simp
  exact Int64.le_total _ _

theorem runsBefore_of_order_eq {a b : Prepared} (h : a.action.order = b.action.order) :
    runsBefore a b = true := by
  unfold runsBefore
  rw [h]
  cases b.action.order with
  | none => rfl
  | some i => simp

/-- What runs before an action with an order has an order itself, and no greater one. -/
theorem order_le_of_runsBefore {a b : Prepared} (h : runsBefore a b = true) {j : Int64}
    (hb : b.action.order = some j) : ∃ i, a.action.order = some i ∧ i ≤ j := by
  unfold runsBefore at h
  rw [hb] at h
  cases ha : a.action.order with
  | none => simp [ha] at h
  | some i => exact ⟨i, rfl, by simpa [ha] using h⟩

end Order

namespace Recipe

variable (r : Recipe)

/-- The actions of a recipe in document order. -/
def actions : List Prepared :=
  r.seed.entries.map fun e => prepare e.1 e.2

/-- **A schedule rearranges the actions of its recipe.** -/
theorem schedule_perm : r.schedule.Perm r.actions :=
  List.mergeSort_perm _ _

/-- An action of a schedule is one of its recipe. -/
theorem mem_schedule {p : Prepared} :
    p ∈ r.schedule ↔ ∃ name a, (name, a) ∈ r.seed.entries ∧ prepare name a = p := by
  rw [r.schedule_perm.mem_iff, actions, List.mem_map, Prod.exists]

/-- Actions that are in order already stay as they are. -/
theorem schedule_of_sorted (h : r.actions.Pairwise fun a b => runsBefore a b = true) :
    r.schedule = r.actions :=
  List.mergeSort_of_pairwise h

/-- **A schedule is ascending**, and those without an order come last. -/
theorem schedule_sorted :
    r.schedule.Pairwise fun a b =>
      ∀ j, b.action.order = some j → ∃ i, a.action.order = some i ∧ i ≤ j :=
  (List.pairwise_mergeSort runsBefore_trans runsBefore_total r.actions).imp
    fun h _ => order_le_of_runsBefore h

/-- **Ties stay in document order.** -/
theorem schedule_ties (k : Option Int64) :
    (r.schedule.filter fun p => p.action.order == k) =
      r.actions.filter fun p => p.action.order == k := by
  have hties : (r.actions.filter fun p => p.action.order == k).Pairwise
      fun a b => runsBefore a b = true := by
    refine List.pairwise_of_forall_mem_list fun a ha b hb => runsBefore_of_order_eq ?_
    have ha := (List.mem_filter.mp ha).2
    have hb := (List.mem_filter.mp hb).2
    rw [beq_iff_eq] at ha hb
    rw [ha, hb]
  have hsub := (List.sublist_mergeSort runsBefore_trans runsBefore_total hties
    List.filter_sublist).filter fun p => p.action.order == k
  simp only [List.filter_filter, Bool.and_self] at hsub
  exact (hsub.eq_of_length ((r.schedule_perm.filter _).length_eq).symm).symm

end Recipe

/-! ## Blocks of exchanges -/

/-- Requests of an action, each right after at most one exchange for its credential. If such an
exchange cancels the run, nothing comes after it. -/
inductive Block (s : Setup σ) (ref : String) : List Exchange → Prop
  | nil : Block s ref []
  | sent {x : Exchange} {rest : List Exchange} (hx : x.purpose = .target) (h : Block s ref rest) :
      Block s ref (x :: rest)
  | asked {q x : Exchange} {rest : List Exchange} (hq : Asks s ref q) (hx : x.purpose = .target)
      (h : Block s ref rest) : Block s ref (q :: x :: rest)
  | cut {q : Exchange} (hq : Asks s ref q) (hc : q.reply.cancels = true) : Block s ref [q]

/-- The clock cannot tell when the token that came of an exchange stops being valid. -/
def Overruns (s : Setup σ) (ref : String) (q : Exchange) : Prop :=
  Asks s ref q ∧ ∃ a, s.entry? ref = some a ∧ a.grants q = .error {}

section Blocks

variable {s : Setup σ} {w w' : World σ} {rounds : List (Round σ)} {ref : String}

/-- Rounds that come to their end make a block. -/
theorem Course.block (h : Course s w rounds w') (ha : ∀ r ∈ rounds, r.action.action.authRef = ref)
    (he : ∀ r ∈ rounds, r.stopped = false) : Block s ref (rounds.flatMap Round.exchanges) := by
  induction h with
  | done lines => exact .nil
  | @round w w' r rest lines hb hr h ih =>
    obtain ⟨ha, harest⟩ := List.forall_mem_cons.mp ha
    obtain ⟨he, herest⟩ := List.forall_mem_cons.mp he
    have hrest := ih harest herest
    have hasks : ∀ q ∈ r.asked, Asks s ref q := ha ▸ hr.asks
    have htarget : ∀ x ∈ r.sent, x.purpose = .target := by
      intro x hx
      obtain ⟨url, hs⟩ := hr.sent x hx
      exact hs.purpose
    have hround : r.exchanges = r.asked.toList ++ r.sent.toList := rfl
    have hpath := hr.path
    rw [hround] at hpath
    rw [List.flatMap_cons, hround]
    cases hx : r.sent with
    | some x =>
      have hx := htarget x hx
      cases hq : r.asked with
      | some q => exact .asked (hasks q hq) hx hrest
      | none => exact .sent hx hrest
    | none =>
      cases hq : r.asked with
      | none => exact hrest
      | some q =>
        -- the run is cancelled, so no exchange comes after this one
        rcases hr.unsent hx q hq with hc | hstop
        · rw [hx, hq] at hpath
          have hafter : r.after.cancelled = true := by
            simp [hpath.cancelled, hc]
          rw [h.path.eq_nil_of_cancelled hafter]
          exact .cut (hasks q hq) hc
        · rw [he] at hstop
          cases hstop

/-- **An action that is run to its end makes a block of exchanges.** -/
theorem Turn.Holds.block {t : Turn σ} (h : t.Holds s) :
    Block s t.action.action.authRef t.exchanges :=
  h.course.block (fun r hr => by rw [h.own r hr]) h.ended

/-- **An action that the clock stops makes one more exchange**, which overruns it. -/
theorem Halts.exchanges {p : Prepared} (h : Halts s p w rounds w') :
    ∃ xs q, rounds.flatMap Round.exchanges = xs ++ [q] ∧ Block s p.action.authRef xs ∧
      Overruns s p.action.authRef q := by
  obtain ⟨init, last, rfl, hout, hinit⟩ := h.ended
  have hlast := h.course.holds last (by simp)
  have howns : last.action = p := h.own last (by simp)
  obtain ⟨hsent, q, hq, a, ha, hg⟩ := hlast.overrun {} hout
  have hasks := hlast.asks q hq
  rw [howns] at ha hasks
  refine ⟨init.flatMap Round.exchanges, q, ?_, ?_, hasks, a, ha, hg⟩
  · rw [List.flatMap_append, List.flatMap_cons, List.flatMap_nil, Round.exchanges, hsent, hq]
    rfl
  · refine h.course.split.1.block (fun r hr => ?_) hinit
    rw [h.own r (List.mem_append_left _ hr)]

end Blocks

/-! ## Turns -/

/-- No error comes back exactly when no action failed. -/
theorem filterMap_error?_eq_nil_iff {turns : List (Turn σ)} :
    turns.filterMap Turn.error? = [] ↔ ∀ t ∈ turns, t.result = .ok () := by
  rw [List.filterMap_eq_nil_iff]
  refine forall₂_congr fun t _ => ?_
  unfold Turn.error?
  cases t.result with
  | ok u => simp [errorOf?]
  | error e => simp [errorOf?]

/-- **An execution attempts each action of its schedule once and in order, whatever fails.** Its
requests are one block for each action, and it returns the errors of the actions that failed. Only
a token that overruns the clock keeps it from that: then the run ends in the middle of a turn. -/
theorem execute_takes_turns (s : Setup σ) (r : Recipe) (w : World σ) :
    (r.schedule.Perm r.actions ∧
      (r.schedule.Pairwise fun a b =>
        ∀ j, b.action.order = some j → ∃ i, a.action.order = some i ∧ i ≤ j) ∧
      ∀ k, (r.schedule.filter fun p => p.action.order == k) =
        r.actions.filter fun p => p.action.order == k) ∧
    ((∃ turns w', turns.map Turn.action = r.schedule ∧ Turns s w.opened turns w' ∧
        execute s r.schedule w = (.ok (turns.filterMap Turn.error?), w') ∧
        (turns.filterMap Turn.error? = [] ↔ ∀ t ∈ turns, t.result = .ok ()) ∧
        w'.sent = (turns.flatMap Turn.exchanges).map (fun x => (x.purpose, x.request)) ∧
        ∀ t ∈ turns, Block s t.action.action.authRef t.exchanges) ∨
      ∃ turns p rest xs q w₁ w', r.schedule = turns.map Turn.action ++ p :: rest ∧
        Turns s w.opened turns w₁ ∧
        (runAction s p).run (w₁.logging [p.opening]) = (.error {}, w') ∧
        execute s r.schedule w = (.error {}, w') ∧
        w'.sent = (turns.flatMap Turn.exchanges ++ xs ++ [q]).map
          (fun x => (x.purpose, x.request)) ∧
        (∀ t ∈ turns, Block s t.action.action.authRef t.exchanges) ∧
        Block s p.action.authRef xs ∧ Overruns s p.action.authRef q) := by
  refine ⟨⟨r.schedule_perm, r.schedule_sorted, r.schedule_ties⟩, ?_⟩
  rcases runAll_turns s r.schedule w.opened with
    ⟨turns, w', ht, ha, hr⟩ | ⟨turns, p, rest, rounds, w₁, w', ha, ht, hh, hr⟩
  · refine .inl ⟨turns, w', ha, ht, hr, filterMap_error?_eq_nil_iff, ?_, ?_⟩
    · rw [ht.course.path.sent, List.flatMap_assoc]
      rfl
    · exact fun t hm => (ht.holds t hm).block
  · obtain ⟨xs, q, hxs, hb, hq⟩ := hh.exchanges
    refine .inr ⟨turns, p, rest, xs, q, w₁, w', ha, ht, hh.ran, hr, ?_, ?_, hb, hq⟩
    · have hsent := (ht.course.append hh.course.of_logging).path.sent
      rw [List.flatMap_append, List.flatMap_assoc, hxs, ← List.append_assoc] at hsent
      exact hsent
    · exact fun t hm => (ht.holds t hm).block

/-- An action whose credential comes from a token endpoint, and one that needs none. -/
def Recipe.authorizedPuts : Recipe where
  auth := .ofList [("o", .clientCredentials "i" "s" { serverUrl := "http://h/token" })]
  seed := .ofList
    [("a", authorizedPut.action), ("b", { strategy := .put, endpoint := "http://h/r" })]

/-- **Not every action of a schedule is attempted**: a token that outlives the clock ends the run
in the first turn, and the second action never gets one. -/
theorem execute_overrun :
    let s : Setup Script := { transport := Script.transport, auth := Recipe.authorizedPuts.auth }
    let w : World Script := { transport := Script.everlasting }
    Recipe.authorizedPuts.schedule.map Prepared.name = ["a", "b"] ∧
      (execute s Recipe.authorizedPuts.schedule w).2.logs =
        [⟨.info, "running action a (PUT)"⟩] ∧
      (execute s Recipe.authorizedPuts.schedule w).2.cancelled = false ∧
      (execute s Recipe.authorizedPuts.schedule w).2.targets = [] ∧
      ∀ (turns : List (Turn Script)) w', execute s Recipe.authorizedPuts.schedule w ≠
        (.ok (turns.filterMap Turn.error?), w') := by
  intro s w
  have hs : Recipe.authorizedPuts.schedule = Recipe.authorizedPuts.actions :=
    Recipe.schedule_of_sorted _ (by decide +kernel)
  obtain ⟨hn, hl, hc, ht, he⟩ :
      Recipe.authorizedPuts.actions.map Prepared.name = ["a", "b"] ∧
        (execute s Recipe.authorizedPuts.actions w).2.logs =
          [⟨.info, "running action a (PUT)"⟩] ∧
        (execute s Recipe.authorizedPuts.actions w).2.cancelled = false ∧
        (execute s Recipe.authorizedPuts.actions w).2.targets = [] ∧
        (execute s Recipe.authorizedPuts.actions w).1 = .error {} := by decide +kernel
  rw [hs]
  refine ⟨hn, hl, hc, ht, fun turns w' h => ?_⟩
  rw [h] at he
  cases he

end Reconcile
