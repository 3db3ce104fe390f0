import Mathlib.Data.List.Basic
import Mathlib.Data.List.Flatten
import Reconcile.Proofs.Run.Enactment
import Reconcile.Proofs.Run.Finding
import Reconcile.Proofs.Run.RequestHeaders

/-!
# Resources are created once

A strategy that looks for its resource first creates it only after a GET that misses it.

* `Strategy.looksFirst` — these strategies; `Plan.Careful` — a plan that creates nothing else;
  `Plan.careful_of` — theirs do not.
* `Round.Misses`, `Round.Finds` — what the answer to a GET came to; `Cautious` — rounds in which
  each POST comes right after a GET that misses the resource.
* `Enacted.cautious` — the rounds of such an action, and `Executions.cautious` — those of all its
  executions.
* `executions_create_once` — so once the resource is created and every GET finds it, no POST
  follows.
* `oneResource` — a service that shows what was created; `Executions.pairwise_finds` — against it,
  every GET after a creation finds the resource.
-/

namespace Reconcile

variable {σ : Type}

/-! ## Careful plans -/

/-- The strategies that send a POST only if a GET does not show the resource. -/
def Strategy.looksFirst : Strategy → Bool
  | getPost | findPost | findPutPost | findPatchPost | getPutPost => true
  | findDeletePost | putPost | put | post => false

/-- What comes of a GET that leaves the resource to be created: a body that does not show it, or a
failure that allows to go on. -/
def Action.Absent (a : Action) : Except ActionError (List UInt8) → Prop
  | .ok body => ¬ a.Shows body
  | .error (.http d) => d.allowsFallback = true
  | .error _ => False

/-- A plan that creates the resource only right after a GET of which it is absent. The proposition
says whether the plan may begin with that. -/
inductive Plan.Careful (a : Action) : Prop → Plan → Prop
  | done {may : Prop} (result : Except ActionError Unit) : Careful a may (.done result)
  | remark {may : Prop} {message : String} {next : Plan} (h : next.Careful a may) :
      Careful a may (.remark message next)
  | request {may : Prop} {verb : Verb} {id : Option String} {payload : Payload}
      {next : Except ActionError (List UInt8) → Plan} (hv : verb = .post → may)
      (h : ∀ x, (next x).Careful a (verb = .get ∧ a.Absent x)) :
      Careful a may (.request verb id payload next)

namespace Plan

variable {a : Action} {name : String} {may : Prop}

theorem careful_last {verb : Verb} {id : Option String} {payload : Payload}
    (hv : verb = .post → may) : (last verb id payload).Careful a may :=
  .request hv fun _ => .done _

theorem careful_ask {next : Except ActionError (List UInt8) → Plan}
    (h : ∀ x, (next x).Careful a (a.Absent x)) : (ask next).Careful a may := by
  refine .request (by simp) fun x => ?_
  have hx : (Verb.get = .get ∧ a.Absent x) = a.Absent x := propext (and_iff_right rfl)
  rw [hx]
  exact h x

theorem careful_orFail {α : Type} {r : Except ActionError α} {next : α → Plan}
    (h : ∀ x, r = .ok x → (next x).Careful a may) : (orFail r next).Careful a may := by
  cases r with
  | error e => exact .done _
  | ok x => exact h x rfl

theorem careful_getPost : (getPost name a).Careful a may := by
  unfold getPost
  refine careful_ask fun x => careful_orFail fun body hx => careful_orFail fun t? ht => ?_
  subst hx
  cases t? with
  | some t => exact .remark (.done _)
  | none =>
    refine careful_last fun _ hshows => ?_
    obtain ⟨t, hfound⟩ := hshows.locate
    rw [ht] at hfound
    cases hfound

/-- Where nothing is found in the answer to a GET, it does not show the resource. -/
theorem absent_of_found {body : List UInt8} {t : String} (hs : a.strategy.needsFind = true)
    (hf : found name a body = .ok t) (ht : t.isEmpty = true) : a.Absent (.ok body) := by
  intro hshows
  obtain ⟨t', hfound, hne⟩ := hshows.found hs
  rw [hf, Except.ok.injEq] at hfound
  rw [← hfound] at hne
  exact hne (by simpa using ht)

theorem careful_findPost (hs : a.strategy.needsFind = true) :
    (findPost name a).Careful a may := by
  unfold findPost
  refine careful_ask fun x => careful_orFail fun body hx => careful_orFail fun t ht => ?_
  subst hx
  split
  · rename_i hempty
    exact careful_last fun _ => absent_of_found hs ht hempty
  · exact .remark (.done _)

theorem careful_findElsePost {verb : Verb} {payload : Payload}
    (hs : a.strategy.needsFind = true) (hv : verb ≠ .post) :
    (findElsePost name a verb payload).Careful a may := by
  unfold findElsePost
  refine careful_ask fun x => careful_orFail fun body hx => careful_orFail fun t ht => ?_
  subst hx
  split
  · rename_i hempty
    exact careful_last fun _ => absent_of_found hs ht hempty
  · exact careful_last fun h => absurd h hv

theorem careful_getPutPost : (getPutPost name a).Careful a may := by
  unfold getPutPost
  refine careful_ask fun x => ?_
  match x with
  | .ok body =>
    refine careful_orFail fun t? ht => ?_
    cases t? with
    | some t => exact careful_last (by simp)
    | none =>
      refine careful_last fun _ hshows => ?_
      obtain ⟨t, hfound⟩ := hshows.locate
      rw [ht] at hfound
      cases hfound
  | .error (.http d) =>
    show Careful a _ (if d.allowsFallback then remark _ create else done _)
    split
    · rename_i hallows
      exact .remark (careful_last fun _ => hallows)
    · exact .done _
  | .error (.extract _ _) => exact .done _
  | .error (.invalidUrl _ _ _) => exact .done _

/-- **A strategy that looks first is careful.** -/
theorem careful_of (name : String) (h : a.strategy.looksFirst = true) :
    (Plan.of name a).Careful a may := by
  unfold Plan.of
  cases hs : a.strategy with
  | getPost => exact careful_getPost
  | findPost => exact careful_findPost (by rw [hs]; rfl)
  | findPutPost => exact careful_findElsePost (by rw [hs]; rfl) (by simp)
  | findPatchPost => exact careful_findElsePost (by rw [hs]; rfl) (by simp)
  | getPutPost => exact careful_getPutPost
  | findDeletePost => rw [hs] at h; cases h
  | putPost => rw [hs] at h; cases h
  | put => rw [hs] at h; cases h
  | post => rw [hs] at h; cases h

end Plan

/-! ## Rounds -/

namespace Round

/-- Whether the round is a POST that succeeded. -/
def creates (r : Round σ) : Bool :=
  match r.verb, r.answer? with
  | .post, some (.ok reply) => reply.status ≤ 299
  | _, _ => false

/-- If the round is a GET and a reply came back, then the reply is a success and shows the
resource. -/
def Finds (r : Round σ) : Prop :=
  r.verb = .get → ∀ reply, r.answer? = some (.ok reply) →
    reply.status ≤ 299 ∧ r.action.action.Shows reply.body

/-- A reply came back, and it is no success or does not show the resource. -/
def Misses (r : Round σ) : Prop :=
  ∃ reply, r.answer? = some (.ok reply) ∧
    ¬ (reply.status ≤ 299 ∧ r.action.action.Shows reply.body)

theorem verb_of_creates {r : Round σ} (h : r.creates = true) : r.verb = .post := by
  unfold creates at h
  split at h
  · assumption
  · cases h

theorem Finds.not_misses {r : Round σ} (h : r.Finds) (hv : r.verb = .get) : ¬ r.Misses := by
  rintro ⟨reply, ha, hmiss⟩
  exact hmiss (h hv reply ha)

variable {s : Setup σ}

/-- A failure for want of a reply allows no other request. -/
theorem not_absent_ofTransport {a : Action} {d : Diagnostic} {cause : String} :
    ¬ a.Absent (.error (.http (d.ofTransport cause))) := by
  simp [Action.Absent, Diagnostic.allowsFallback, Diagnostic.ofTransport]

/-- A request that is not sent leaves nothing to be created. -/
theorem Holds.not_absent {r : Round σ} (h : r.Holds s) (hs : r.sent = none)
    {x : Except ActionError (List UInt8)} (ho : r.out = .ok x) :
    ¬ r.action.action.Absent x := by
  rcases h.out_of_unsent hs ho with ⟨_, _, rfl⟩ | ⟨_, rfl⟩
  · exact fun h => h
  · exact not_absent_ofTransport

/-- **Where the resource is absent after a round, a reply that misses it came back.** -/
theorem Holds.misses {r : Round σ} (h : r.Holds s) {x : Except ActionError (List UInt8)}
    (ho : r.out = .ok x) (hx : r.action.action.Absent x) : r.Misses := by
  cases hs : r.sent with
  | none => exact absurd hx (h.not_absent hs ho)
  | some e =>
    obtain ⟨url, hsends⟩ := h.sent e hs
    have hanswer : r.answer? = e.reply.result? := by rw [answer?, hs]; rfl
    have hout := hsends.out
    rw [ho, Except.ok.injEq] at hout
    subst hout
    rcases hr : e.reply.result? with _ | cause | reply
    · rw [hr] at hx
      exact absurd hx not_absent_ofTransport
    · rw [hr] at hx
      exact absurd hx not_absent_ofTransport
    · refine ⟨reply, hanswer.trans hr, ?_⟩
      rintro ⟨hstatus, hshows⟩
      have hsuccess : isSuccess reply.status = true := by simpa [isSuccess] using hstatus
      rw [hr, Diagnostic.outcome, Diagnostic.classify, if_pos hsuccess] at hx
      exact hx hshows

end Round

/-! ## Rounds one after the other -/

/-- Rounds in which each POST comes right after a GET that misses the resource. The proposition
says whether they may begin with a POST. -/
def Cautious : Prop → List (Round σ) → Prop
  | _, [] => True
  | may, r :: rest => (r.verb = .post → may) ∧ Cautious (r.verb = .get ∧ r.Misses) rest

namespace Cautious

variable {may may' : Prop} {xs ys : List (Round σ)}

theorem mono (h : Cautious may xs) (hm : may → may') : Cautious may' xs := by
  cases xs with
  | nil => trivial
  | cons r rest => exact ⟨fun hv => hm (h.1 hv), h.2⟩

theorem append (h : Cautious may xs) (h' : Cautious False ys) : Cautious may (xs ++ ys) := by
  induction xs generalizing may with
  | nil => exact h'.mono False.elim
  | cons r rest ih => exact ⟨h.1, ih h.2⟩

/-- Where every GET finds the resource, there is no POST. -/
theorem forall_ne_post (h : Cautious may xs) (hmay : ¬ may) (hf : ∀ r ∈ xs, r.Finds) :
    ∀ r ∈ xs, r.verb ≠ .post := by
  induction xs generalizing may with
  | nil => simp
  | cons r rest ih =>
    obtain ⟨hr, hrest⟩ := List.forall_mem_cons.mp hf
    refine List.forall_mem_cons.mpr ⟨fun hv => hmay (h.1 hv), ih h.2 ?_ hrest⟩
    exact fun ⟨hv, hm⟩ => hr.not_misses hv hm

/-- **Where every GET after a creation finds the resource, no POST comes after a creation.** -/
theorem pairwise_ne_post (h : Cautious may xs)
    (hf : xs.Pairwise fun x y => x.creates = true → y.Finds) :
    xs.Pairwise fun x y => x.creates = true → y.verb ≠ .post := by
  induction xs generalizing may with
  | nil => exact .nil
  | cons r rest ih =>
    obtain ⟨hr, hrest⟩ := List.pairwise_cons.mp hf
    refine List.pairwise_cons.mpr ⟨fun y hy hc => ?_, ih h.2 hrest⟩
    have hpost := Round.verb_of_creates hc
    refine h.2.forall_ne_post ?_ (fun y hy => hr y hy hc) y hy
    rintro ⟨hget, -⟩
    rw [hpost] at hget
    cases hget

end Cautious

/-- Where no POST comes after a creation, there is at most one creation. -/
theorem countP_creates_le_one {xs : List (Round σ)}
    (h : xs.Pairwise fun x y => x.creates = true → y.verb ≠ .post) :
    xs.countP Round.creates ≤ 1 := by
  induction xs with
  | nil => simp
  | cons r rest ih =>
    obtain ⟨hr, hrest⟩ := List.pairwise_cons.mp h
    rw [List.countP_cons]
    split
    · rename_i hc
      have hnone : rest.countP Round.creates = 0 := by
        refine List.countP_eq_zero.mpr fun y hy hy' => ?_
        exact hr y hy hc (Round.verb_of_creates hy')
      omega
    · exact ih hrest

/-! ## Executions -/

section Executions

variable {s : Setup σ} {p : Prepared}

/-- **The rounds of a careful plan are cautious.** -/
theorem Enacted.cautious {b : Payloads} {plan : Plan} {w w' : World σ} {rounds : List (Round σ)}
    {out : Except ClockOverflow (Except ActionError Unit)}
    (h : Enacted s p b plan w rounds out w') {may : Prop} (hp : plan.Careful p.action may) :
    Cautious may rounds := by
  induction h generalizing may with
  | done result w => trivial
  | remark h ih =>
    cases hp with
    | remark hp => exact ih hp
  | request hr h ih =>
    cases hp with
    | request hv hnext =>
      refine ⟨hv, (ih (hnext _)).mono ?_⟩
      exact fun ⟨hget, habsent⟩ => ⟨hget, hr.misses rfl habsent⟩
  | halted hr =>
    cases hp with
    | request hv hnext => exact ⟨hv, trivial⟩

/-- The rounds of one of the actions that were run. -/
def roundsOf (p : Prepared) (es : List (Enactment σ)) : List (Round σ) :=
  (es.filter fun e => e.action = p).flatMap Enactment.rounds

/-- The rounds of an action that looks first are cautious, however often it is run. -/
theorem cautious_roundsOf {es : List (Enactment σ)} (h : ∀ e ∈ es, e.Holds s)
    (hp : p.action.strategy.looksFirst = true) : Cautious False (roundsOf p es) := by
  induction es with
  | nil => trivial
  | cons e es ih =>
    obtain ⟨he, hes⟩ := List.forall_mem_cons.mp h
    unfold roundsOf at ih ⊢
    by_cases ha : e.action = p
    · rw [List.filter_cons_of_pos (by simpa using ha), List.flatMap_cons]
      obtain ⟨lines, henacted⟩ := he.enacted
      rw [ha] at henacted
      exact (henacted.cautious (Plan.careful_of p.name hp)).append (ih hes)
    · rw [List.filter_cons_of_neg (by simpa using ha)]
      exact ih hes

/-- **A resource is created once.** A recipe is executed any number of times against one transport,
each time from any world, and an action of it looks for its resource first. If every reply to a GET
of the action after its first successful POST is a success and shows the resource, then at most one
POST of the action succeeds, and none comes after it. -/
theorem executions_create_once {r : Recipe} {ws : List (World σ)} {t : σ}
    {es : List (Enactment σ)} (h : Executions s r.schedule ws t es)
    (hp : p.action.strategy.looksFirst = true)
    (hf : (roundsOf p es).Pairwise fun x y => x.creates = true → y.Finds) :
    (roundsOf p es).countP Round.creates ≤ 1 ∧
      (roundsOf p es).Pairwise fun x y => x.creates = true → y.verb ≠ .post := by
  have hcautious := cautious_roundsOf h.holds hp
  have hnone := hcautious.pairwise_ne_post hf
  exact ⟨countP_creates_le_one hnone, hnone⟩

end Executions

/-! ## A service with one resource -/

/-- A service with one resource: a GET shows whether it is there, and any other request creates
it. -/
def oneResource : Transport Bool := fun q created =>
  match q.method with
  | .get =>
    (.answered false 0 (.ok { status := 200, body := if created then [0x31] else [] }), created)
  | _ => (.answered false 0 (.ok { status := 201 }), true)

section OneResource

variable {s : Setup Bool} (hs : s.transport = oneResource) {w w' : World Bool}

include hs

/-- Once the resource is there, it stays, and each GET shows it. -/
theorem Path.of_created {xs : List Exchange} (h : Path s w xs w') (hw : w.transport = true) :
    w'.transport = true ∧ ∀ x ∈ xs, x.request.method = .get →
      x.reply.result? = some (.ok { status := 200, body := [0x31] }) := by
  induction h with
  | refl => exact ⟨hw, by simp⟩
  | logging lines _ ih => exact ih
  | caching name c _ ih => exact ih
  | storing store _ ih => exact ih
  | @exchanging xs w₁ purpose q _ _ ih =>
    obtain ⟨ht, hxs⟩ := ih
    constructor
    · show (s.transport q w₁.transport).2 = true
      rw [hs, ht, oneResource]
      cases q.method <;> rfl
    · intro x hx hget
      rcases List.mem_append.mp hx with hx | hx
      · exact hxs x hx hget
      · obtain rfl := List.mem_singleton.mp hx
        show (s.transport q w₁.transport).1.result? = _
        have hq : q.method = .get := hget
        rw [hs, ht, oneResource, hq]
        rfl

/-- A request that is no GET succeeds, and then the resource is there. -/
theorem Path.creates {xs : List Exchange} (h : Path s w xs w') {x : Exchange} (hx : x ∈ xs)
    (hm : x.request.method ≠ .get) :
    w'.transport = true ∧ x.reply.result? = some (.ok { status := 201 }) := by
  induction h with
  | refl => simp at hx
  | logging lines _ ih => exact ih hx
  | caching name c _ ih => exact ih hx
  | storing store _ ih => exact ih hx
  | @exchanging xs w₁ purpose q hpath hc ih =>
    rcases List.mem_append.mp hx with hx | hx
    · obtain ⟨ht, hreply⟩ := ih hx
      exact ⟨((Path.refl.exchanging purpose q hc).of_created hs ht).1, hreply⟩
    · obtain rfl := List.mem_singleton.mp hx
      show (s.transport q w₁.transport).2 = true ∧ (s.transport q w₁.transport).1.result? = _
      have hq : q.method ≠ .get := hm
      rw [hs, oneResource]
      revert hq
      cases q.method <;> simp [Reply.result?]

omit hs in
/-- A round that creates the resource makes an exchange that is no GET. -/
theorem Round.Holds.exchange_of_creates {r : Round Bool} (h : r.Holds s)
    (hc : r.creates = true) : ∃ x ∈ r.exchanges, x.request.method ≠ .get := by
  have hpost := Round.verb_of_creates hc
  cases hx : r.sent with
  | none => rw [Round.creates, Round.answer?, hx, hpost] at hc; cases hc
  | some x =>
    obtain ⟨url, hsends⟩ := h.sent x hx
    refine ⟨x, by simp [Round.exchanges, hx], ?_⟩
    rw [hsends.request]
    show r.verb ≠ .get
    simp [hpost]

theorem Round.Holds.creates_of_post {r : Round Bool} (h : r.Holds s) {x : Exchange}
    (hx : x ∈ r.sent) (hm : x.request.method = .post) : r.creates = true := by
  obtain ⟨url, hsends⟩ := h.sent x hx
  have hpost : r.verb = .post := by rw [← hm, hsends.request]; rfl
  have hmem : x ∈ r.exchanges := List.mem_append_right _ (Option.mem_toList.mpr hx)
  have hreply := (h.path.creates hs hmem (by simp [hm])).2
  have hanswer : r.answer? = some (.ok { status := 201 }) := by
    rw [Round.answer?, hx]
    exact hreply
  rw [Round.creates, hpost, hanswer]
  rfl

theorem Round.Holds.finds {r : Round Bool} (h : r.Holds s)
    (hb : r.before.transport = true) (hr : r.action.action.Shows [0x31]) : r.Finds := by
  intro hget reply hreply
  obtain ⟨x, hx, hreply⟩ := Option.bind_eq_some_iff.mp hreply
  obtain ⟨url, hsends⟩ := h.sent x hx
  have hmem : x ∈ r.exchanges := List.mem_append_right _ (Option.mem_toList.mpr hx)
  have hmethod : x.request.method = .get := by rw [hsends.request, ← hget]; rfl
  rw [(h.path.of_created hs hb).2 x hmem hmethod] at hreply
  cases hreply
  exact ⟨by simp, hr⟩

variable {rounds : List (Round Bool)}

theorem Course.forall_finds (h : Course s w rounds w')
    (hr : ∀ r ∈ rounds, r.action.action.Shows [0x31]) (hw : w.transport = true) :
    ∀ r ∈ rounds, r.Finds := by
  induction h with
  | done lines => simp
  | @round w w' r rest lines hb hround _ ih =>
    obtain ⟨hshows, hrest⟩ := List.forall_mem_cons.mp hr
    have hbefore : r.before.transport = true := by rw [hb]; exact hw
    refine List.forall_mem_cons.mpr ⟨hround.finds hs hbefore hshows, ih hrest ?_⟩
    exact (hround.path.of_created hs hbefore).1

/-- Each GET after a creation finds the resource. -/
theorem Course.pairwise_finds (h : Course s w rounds w')
    (hr : ∀ r ∈ rounds, r.action.action.Shows [0x31]) :
    rounds.Pairwise fun x y => x.creates = true → y.Finds := by
  induction h with
  | done lines => exact .nil
  | round lines hb hround hcourse ih =>
    obtain ⟨hshows, hrest⟩ := List.forall_mem_cons.mp hr
    refine List.pairwise_cons.mpr ⟨fun y hy hc => ?_, ih hrest⟩
    obtain ⟨x, hx, hm⟩ := hround.exchange_of_creates hc
    exact hcourse.forall_finds hs hrest (hround.path.creates hs hx hm).1 y hy

theorem Executions.pairwise_finds {actions : List Prepared} {ws : List (World Bool)} {t : Bool}
    {es : List (Enactment Bool)} (h : Executions s actions ws t es)
    (ha : ∀ p ∈ actions, p.action.Shows [0x31]) :
    (t = true → ∀ r ∈ es.flatMap Enactment.rounds, r.Finds) ∧
      (es.flatMap Enactment.rounds).Pairwise fun x y => x.creates = true → y.Finds := by
  induction h with
  | done t => simp
  | @next w ws t es more h hmore ih =>
    obtain ⟨hfinds, hpairs⟩ := ih
    have hshows : ∀ r ∈ es.flatMap Enactment.rounds, r.action.action.Shows [0x31] := by
      intro r hr
      obtain ⟨e, he, hr⟩ := List.mem_flatMap.mp hr
      obtain ⟨lines, hrounds⟩ := (h.holds e he).enacted
      rw [hrounds.own r hr]
      exact ha _ (h.actions_isPrefix.subset (List.mem_map_of_mem he))
    have hcourse := h.course
    rw [List.flatMap_append]
    constructor
    · intro ht r hr
      rcases List.mem_append.mp hr with hr | hr
      · exact hcourse.forall_finds hs hshows ht r hr
      · exact hfinds (hcourse.path.of_created hs ht).1 r hr
    · refine List.pairwise_append.mpr ⟨hcourse.pairwise_finds hs hshows, hpairs, ?_⟩
      intro x hx y hy hc
      obtain ⟨q, hq, hm⟩ := (hcourse.holds x hx).exchange_of_creates hc
      exact hfinds (hcourse.path.creates hs (List.mem_flatMap_of_mem hx hq) hm).1 y hy

end OneResource

/-- An action that looks for its resource first. -/
def lookingFirst : Prepared :=
  prepare "a" { strategy := .getPost, endpoint := "http://h/r" }

/-- A recipe with that action only. -/
def Recipe.lookingFirst : Recipe where
  seed := .ofList [("a", Reconcile.lookingFirst.action)]

/-- The first of two executions creates the resource, and the second one does not. -/
theorem executions_create_once_oneResource :
    let s : Setup Bool := { transport := oneResource }
    let w : World Bool := { transport := false }
    ∃ es, Executions s Recipe.lookingFirst.schedule [w, w] false es ∧
      (roundsOf lookingFirst es).countP Round.creates = 1 ∧
      (roundsOf lookingFirst es).Pairwise fun x y => x.creates = true → y.verb ≠ .post := by
  intro s w
  have hschedule : Recipe.lookingFirst.schedule = [lookingFirst] :=
    Recipe.schedule_of_sorted _ (by decide +kernel)
  obtain ⟨es, h⟩ := executions_exist s Recipe.lookingFirst.schedule [w, w] false
  have hshows : ∀ p ∈ Recipe.lookingFirst.schedule, p.action.Shows [0x31] := by
    rw [hschedule]
    intro p hp
    obtain rfl := List.mem_singleton.mp hp
    unfold Action.Shows
    rw [if_pos (by decide +kernel)]
    decide +kernel
  have hpairs : (roundsOf lookingFirst es).Pairwise fun x y => x.creates = true → y.Finds :=
    (h.pairwise_finds rfl hshows).2.sublist (List.filter_sublist.flatMap _)
  obtain ⟨hcount, hnone⟩ := executions_create_once h rfl hpairs
  refine ⟨es, h, Nat.le_antisymm hcount ?_, hnone⟩
  cases h with
  | @next _ _ _ es more h hmore =>
    -- the first execution sends a GET and a POST
    have hsent : (execute s Recipe.lookingFirst.schedule (w.continuing false)).2.targets.map
        Request.method = [.get, .post] := by
      rw [hschedule]
      decide +kernel
    have hpost : Verb.post ∈ (execute s Recipe.lookingFirst.schedule
        (w.continuing false)).2.targets.map Request.method := by
      rw [hsent]
      simp
    obtain ⟨q, hq, hm⟩ := List.mem_map.mp hpost
    rw [h.course.targets] at hq
    obtain ⟨r, hr, hrq⟩ := List.mem_filterMap.mp hq
    obtain ⟨x, hx, rfl⟩ := Option.map_eq_some_iff.mp hrq
    have hcreates := (h.course.holds r hr).creates_of_post rfl hx hm
    obtain ⟨e, he, hr⟩ := List.mem_flatMap.mp hr
    have he' : e.action = lookingFirst := by
      have hmem := h.actions_isPrefix.subset (List.mem_map_of_mem he)
      rw [hschedule] at hmem
      exact List.mem_singleton.mp hmem
    refine List.countP_pos_iff.mpr ⟨r, List.mem_flatMap.mpr ⟨e, ?_, hr⟩, hcreates⟩
    exact List.mem_filter.mpr ⟨List.mem_append_left _ he, by simpa using he'⟩

end Reconcile
