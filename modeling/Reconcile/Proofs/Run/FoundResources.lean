import Reconcile.Proofs.Run.Contents
import Reconcile.Proofs.Url.Segments

/-!
# Addresses of found resources

A PUT, PATCH or DELETE goes to the resource that the answer right before it showed: its id follows
the endpoint, what the verb appends and a slash, as it is.

* `Enactment.Targets` — a request for a resource that was found.
* `Enactment.Targets.address` — what its address is read from.
* `Enactment.Holds.exists_targets` — an action that finds its resource sends one.
* `execute_addresses_found` — it addresses the resource if the id stays a segment there, and where
  hosts are read as for `http` only then; so no two such resources share an address.
* `execute_strayId` — two resources that share one, for the id of one of them is no segment.
-/

namespace Reconcile

variable {σ : Type}

/-- A request of an action for the resource that the answer right before it showed: what its id
was appended to, the id, and the request that was sent. -/
inductive Enactment.Targets (s : Setup σ) (e : Enactment σ) : String → String → Request → Prop
  | mk {pre post : List (Round σ)} {r : Round σ} {id : String} {x : Exchange}
      (rounds : e.rounds = pre ++ r :: post) (verb : r.verb.takesId = true)
      (shown : pre.getLast?.bind Round.shown? = some id) (sent : r.sent = some x) :
      Targets s e (e.action.addressFor s r.before.store r.verb none) id x.request

namespace Enactment.Targets

variable {s : Setup σ} {e : Enactment σ} {base id : String} {q : Request}

theorem ne_empty (h : e.Targets s base id q) : id ≠ "" := by
  obtain ⟨-, -, hshown, -⟩ := h
  obtain ⟨before, -, hbefore⟩ := Option.bind_eq_some_iff.mp hshown
  exact Round.ne_empty_of_shown hbefore

/-- **The address of a request for a resource** is read from what its id was appended to, a slash
and the id. -/
theorem address (he : e.Holds s) (h : e.Targets s base id q) :
    Url.parse (base ++ "/" ++ id) = .ok q.url := by
  obtain ⟨hrounds, hverb, hshown, hsent⟩ := h
  obtain ⟨-, -, hcontents⟩ := he.contents hrounds
  obtain ⟨-, -, hparse⟩ := hcontents _ hsent
  rw [if_pos hverb, hshown] at hparse
  rw [Prepared.addressFor, String.append_empty, String.append_assoc]
  exact hparse

end Enactment.Targets

/-- **Requests for found resources.** An execution runs its actions one after the other. Where no
query and no fragment starts in what an id is appended to, a request for the resource addresses it
if the id stays a segment there: the last segment of its path stands for the id, and nothing follows
the path. Where hosts are read as for `http`, no other id is addressed. So two requests for
resources that are addressed go to one address only if the resource is the same. -/
theorem execute_addresses_found (s : Setup σ) (actions : List Prepared) (w : World σ) :
    ∃ es, Enactments s actions w.opened es (execute s actions w).2 ∧
      (execute s actions w).2.targets =
        (es.flatMap Enactment.rounds).filterMap (fun r => r.sent.map Exchange.request) ∧
      (∀ e ∈ es, ∀ base id q, e.Targets s base id q → Url.NoQuery base.toList →
        (Url.Extends base id → q.url.Addresses id) ∧
        (Url.schemeKind q.url.scheme = .network → q.url.Addresses id → Url.Extends base id)) ∧
      ∀ e ∈ es, ∀ e' ∈ es, ∀ base base' id id' q q',
        e.Targets s base id q → Url.NoQuery base.toList → Url.Extends base id →
        e'.Targets s base' id' q' → Url.NoQuery base'.toList → Url.Extends base' id' →
          q.url = q'.url → id = id' := by
  obtain ⟨es, hes⟩ := runAll_enactments s actions w.opened
  have haddressed : ∀ e ∈ es, ∀ base id q, e.Targets s base id q → Url.NoQuery base.toList →
      Url.Extends base id → q.url.Addresses id := fun e he base id q h hb hx =>
    Url.addresses_of_extends hb h.ne_empty (h.address (hes.holds e he)) hx
  refine ⟨es, hes, hes.course.targets, fun e he base id q h hb => ⟨?_, ?_⟩, ?_⟩
  · exact haddressed e he base id q h hb
  · exact fun hk => Url.extends_of_addresses hb h.ne_empty hk (h.address (hes.holds e he))
  · intro e he e' he' base base' id id' q q' h hb hx h' hb' hx' heq
    have ha := haddressed e he base id q h hb hx
    have ha' := haddressed e' he' base' id' q' h' hb' hx'
    rw [← heq] at ha'
    exact ha.eq ha'

/-- Where one success answers everything, an action that follows FIND/PUT/POST and comes to its end
sends a request for what its expression finds. -/
theorem Enactment.Holds.exists_targets {s : Setup σ} {e : Enactment σ} (he : e.Holds s)
    (hstrategy : e.action.action.strategy = .findPutPost) (hout : e.out = .ok (.ok ()))
    {answer : Response} {id : String}
    (hs : ∀ q state, (s.transport q state).1.result? = some (.ok answer))
    (hid : e.action.action.finds? answer.body = some id) :
    ∃ store q, e.Targets s (e.action.addressFor s store .put none) id q := by
  obtain ⟨hfound, hne⟩ := Action.finds?_eq_some.mp hid
  obtain ⟨lines, henacted⟩ := he.enacted
  rw [Plan.of, hstrategy, hout] at henacted
  unfold Plan.findElsePost Plan.ask at henacted
  obtain ⟨g, rest, hrounds, hg, hown, hget, ⟨_, _, _, hc⟩ | ⟨a, ha, hrest⟩⟩ := henacted.of_request
  · cases hc
  · rcases a with _ | body
    · cases hrest
    · -- the GET was answered as everything is
      obtain ⟨q, hq, -, rfl⟩ := hg.answer_of_ok ha
      obtain ⟨y, hy, -⟩ := Option.bind_eq_some_iff.mp hq
      obtain ⟨state, hstate⟩ := hg.replied hy
      rw [hq, hs, Option.some.injEq, Except.ok.injEq] at hstate
      rw [← hstate] at hid hfound
      have hblank : ¬ id.isEmpty = true := by simpa using hne
      simp only [Plan.orFail, found, hfound, mapError_ok, if_neg hblank] at hrest
      obtain ⟨r, q', rfl, hr, hput, hq'⟩ := hrest.of_last
      obtain ⟨x, hx, -⟩ := Option.bind_eq_some_iff.mp hq'
      have hshown : g.shown? = some id := by
        rw [Round.shown?, ha, hown]
        dsimp only
        rw [hget, Action.shown?_get, hid]
      have hsplit : e.rounds = [g] ++ r :: [] := hrounds
      refine ⟨r.before.store, x.request, ?_⟩
      rw [← hput]
      exact .mk hsplit (by rw [hput]; rfl) hshown hx

/-- Two actions that find different numbers in one answer address two resources. -/
theorem execute_addresses_found_numbers :
    let answer : Response :=
      { status := 200, body := Text.Utf8.encode "\x7b\"a\":1,\"b\":2\x7d" }
    let s : Setup Unit := { transport := fun _ _ => (.answered false 0 (.ok answer), ()) }
    let action (name : String) := prepare name
      { strategy := .findPutPost, endpoint := "http://h/r", findExpr := some ("$." ++ name) }
    let w : World Unit := { transport := () }
    ∃ e e' q q', Enactments s [action "a", action "b"] w.opened [e, e']
        (execute s [action "a", action "b"] w).2 ∧
      e.Targets s "http://h/r" "1" q ∧ e'.Targets s "http://h/r" "2" q' ∧
      q.url.Addresses "1" ∧ q'.url.Addresses "2" ∧ q.url ≠ q'.url := by
  intro answer s action w
  obtain ⟨es, hes, -, haddressed, hdistinct⟩ :=
    execute_addresses_found s [action "a", action "b"] w
  -- both actions come to their end, so both send what they should
  let w₁ := w.opened.logging [(action "a").opening]
  have hfirst : ((runAction s (action "a")).run w₁).1 = .ok (.ok ()) := by decide +kernel
  obtain ⟨e, more, rfl, ha, he, hout, hrest⟩ := hes.of_cons (Prod.ext hfirst rfl)
  let w₂ := (((runAction s (action "a")).run w₁).2.logging [(action "a").closing (.ok ())]).logging
    [(action "b").opening]
  have hsecond : ((runAction s (action "b")).run w₂).1 = .ok (.ok ()) := by decide +kernel
  obtain ⟨e', more', rfl, hb, he', hout', hnone⟩ := hrest.of_cons (Prod.ext hsecond rfl)
  obtain rfl : more' = [] := List.map_eq_nil_iff.mp (List.prefix_nil.mp hnone.actions_isPrefix)
  have hbase : ∀ name store, (action name).addressFor s store .put none = "http://h/r" :=
    fun _ _ => rfl
  have hone : e.action.action.finds? answer.body = some "1" := by
    rw [ha]
    decide +kernel
  have htwo : e'.action.action.finds? answer.body = some "2" := by
    rw [hb]
    decide +kernel
  obtain ⟨store, q, ht⟩ := he.exists_targets (by rw [ha]; rfl) hout (fun _ _ => rfl) hone
  obtain ⟨store', q', ht'⟩ := he'.exists_targets (by rw [hb]; rfl) hout' (fun _ _ => rfl) htwo
  rw [ha, hbase] at ht
  rw [hb, hbase] at ht'
  have hquery : Url.NoQuery "http://h/r".toList := by
    have hall : "http://h/r".toList.all (fun c => c != '?' && c != '#') = true := by decide +kernel
    intro c hc
    simpa using List.all_eq_true.mp hall c hc
  have hextends : ∀ id, Url.IsSegment .network id → Url.Extends "http://h/r" id := fun id hid =>
    ⟨"http", "//h/r".toList, by decide +kernel, by decide +kernel, hid⟩
  have hx := hextends "1" (by decide +kernel)
  have hx' := hextends "2" (by decide +kernel)
  have hmem : e ∈ [e, e'] := List.mem_cons_self
  have hmem' : e' ∈ [e, e'] := List.mem_cons_of_mem _ List.mem_cons_self
  refine ⟨e, e', q, q', hes, ht, ht', (haddressed e hmem _ _ q ht hquery).1 hx,
    (haddressed e' hmem' _ _ q' ht' hquery).1 hx', fun heq => ?_⟩
  have hsame := hdistinct e hmem e' hmem' _ _ _ _ q q' ht hquery hx ht' hquery hx' heq
  exact absurd hsame (by decide)

/-- A recipe with two actions that find resources in one answer. -/
def Recipe.strayId : Recipe where
  seed := .ofList
    [("a", { strategy := .findPutPost, endpoint := "http://h/r", findExpr := some "$.a" }),
      ("b", { strategy := .findPutPost, endpoint := "http://h/r", findExpr := some "$.b" })]

/-- The answer in which they find them. -/
def strayAnswer : List UInt8 :=
  Text.Utf8.encode "\x7b\"a\":\"1\",\"b\":\"x/../1\"\x7d"

/-- A script that gives it. -/
def Script.strayId : Script :=
  [⟨"GET", "/r", [{ outcome := .response { status := 200, body := strayAnswer } }]⟩,
    ⟨"PUT", "/r/1", [{ outcome := .response { status := 200 } }]⟩]

/-- **An id that is no segment** takes a request to another resource: of two actions that find
different ids in the same answer, the second sends its request to the resource of the first, and
nothing that is sent addresses its own. -/
theorem execute_strayId :
    let s : Setup Script := { transport := Script.transport }
    let w : World Script := { transport := Script.strayId }
    Recipe.strayId.schedule.map (fun p => p.action.finds? strayAnswer) =
        [some "1", some "x/../1"] ∧
      (execute s Recipe.strayId.schedule w).2.targets.map (fun q => (q.method, q.url.text)) =
        [(.get, "http://h/r"), (.put, "http://h/r/1"), (.get, "http://h/r"),
          (.put, "http://h/r/1")] ∧
      ∀ q ∈ (execute s Recipe.strayId.schedule w).2.targets, ¬ q.url.Addresses "x/../1" := by
  intro s w
  have hs : Recipe.strayId.schedule = Recipe.strayId.actions :=
    Recipe.schedule_of_sorted _ (by decide +kernel)
  rw [hs]
  refine ⟨?_, ?_, ?_⟩ <;> decide +kernel

end Reconcile
