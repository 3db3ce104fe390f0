import Mathlib.Data.List.Basic
import Reconcile.Proofs.Run.Enactment
import Reconcile.Proofs.Run.Finding
import Reconcile.Proofs.Run.RequestHeaders

/-!
# The contents of requests

What a request carries is decided before the first request of its action, and where it goes right
before it is sent.

* `Verb.payload`, `Verb.takesId` — what requests of a verb carry, and whether they address the
  resource that was found.
* `Plan.Regular` — a plan whose requests keep to that; `Plan.regular_of` — the plan of a strategy
  is one.
* `Enacted.regular` — so the rounds of an action keep to it.
* `Prepared.bodyFor`, `Prepared.addressFor` — the body and the address of a request.
* `execute_renders` — every request for an action that an execution sends has them.
-/

namespace Reconcile

variable {σ : Type}

/-! ## Regular plans -/

/-- What the requests of a verb carry. -/
def Verb.payload : Verb → Payload
  | put | post => .primary
  | patch => .patch
  | get | delete => .none

/-- Whether the requests of a verb address the resource that was found. -/
def Verb.takesId : Verb → Bool
  | put | patch | delete => true
  | get | post => false

/-- The resource that the answer to a request shows: only that to a GET is searched for one. -/
def Action.shown? (a : Action) (verb : Verb) : Except ActionError (List UInt8) → Option String
  | .ok body => if verb = .get then a.finds? body else none
  | .error _ => none

theorem Action.shown?_get (a : Action) (body : List UInt8) :
    a.shown? .get (.ok body) = a.finds? body := by
  rw [Action.shown?, if_pos rfl]

/-- A plan whose requests carry what their verbs say, and address the resource that the answer
right before them shows. The option says what the answer before the plan shows. -/
inductive Plan.Regular (a : Action) : Option String → Plan → Prop
  | done {shown : Option String} (result : Except ActionError Unit) : Regular a shown (.done result)
  | remark {shown : Option String} {message : String} {next : Plan} (h : next.Regular a shown) :
      Regular a shown (.remark message next)
  | request {shown id : Option String} {verb : Verb}
      {next : Except ActionError (List UInt8) → Plan}
      (hid : id = if verb.takesId then shown else none)
      (hp : verb = .patch → a.strategy = .findPatchPost)
      (h : ∀ r, (next r).Regular a (a.shown? verb r)) :
      Regular a shown (.request verb id verb.payload next)

namespace Plan

variable {a : Action} {name : String} {shown : Option String}

theorem regular_last {verb : Verb} {id : Option String}
    (hid : id = if verb.takesId then shown else none)
    (hp : verb = .patch → a.strategy = .findPatchPost) :
    (last verb id verb.payload).Regular a shown :=
  .request hid hp fun _ => .done _

theorem regular_create : create.Regular a shown := by
  unfold create
  exact regular_last rfl (by simp)

theorem regular_ask {next : Except ActionError (List UInt8) → Plan}
    (h : ∀ r, (next r).Regular a (a.shown? .get r)) : (ask next).Regular a shown := by
  unfold ask
  exact .request rfl (by simp) h

theorem regular_orFail {α : Type} {r : Except ActionError α} {next : α → Plan}
    (h : ∀ x, r = .ok x → (next x).Regular a shown) : (orFail r next).Regular a shown := by
  cases r with
  | error e => exact .done _
  | ok x => exact h x rfl

theorem regular_orFallBack {r : Except ActionError (List UInt8)} {next : Option (List UInt8) → Plan}
    (hok : ∀ body, r = .ok body → (next (some body)).Regular a shown)
    (hnone : (next none).Regular a shown) : (orFallBack r next).Regular a shown := by
  match r with
  | .ok body => exact hok body rfl
  | .error (.http d) =>
    show Regular a shown (if d.allowsFallback then remark _ (next none) else done _)
    split
    · exact .remark hnone
    · exact .done _
  | .error (.extract _ _) => exact .done _
  | .error (.invalidUrl _ _ _) => exact .done _

/-- A request for the text that was found in the body of a GET. -/
theorem regular_found {verb : Verb} {body : List UInt8} {t : String}
    (hv : verb.takesId = true) (hp : verb = .patch → a.strategy = .findPatchPost)
    (hf : found name a body = .ok t) (ht : ¬ t.isEmpty = true) :
    (last verb (some t) verb.payload).Regular a (a.shown? .get (.ok body)) := by
  refine regular_last ?_ hp
  rw [if_pos hv, Action.shown?_get, finds?_of_found hf, if_neg ht]

/-! The plan of each strategy is regular, whatever was shown before it. -/

theorem regular_getPost : (getPost name a).Regular a shown := by
  unfold getPost
  refine regular_ask fun r => regular_orFail fun body hr => regular_orFail fun t? ht => ?_
  cases t? with
  | none => exact regular_create
  | some t => exact .remark (.done _)

theorem regular_findPost : (findPost name a).Regular a shown := by
  unfold findPost
  refine regular_ask fun r => regular_orFail fun body hr => regular_orFail fun t ht => ?_
  split
  · exact regular_create
  · exact .remark (.done _)

theorem regular_findElsePost {verb : Verb} (hv : verb.takesId = true)
    (hp : verb = .patch → a.strategy = .findPatchPost) :
    (findElsePost name a verb verb.payload).Regular a shown := by
  unfold findElsePost
  refine regular_ask fun r => regular_orFail fun body hr => regular_orFail fun t ht => ?_
  subst hr
  split
  · exact regular_create
  · rename_i hne
    exact regular_found hv hp ht hne

theorem regular_findDeletePost : (findDeletePost name a).Regular a shown := by
  unfold findDeletePost
  refine regular_ask fun r => regular_orFallBack ?_ regular_create
  intro body hr
  refine regular_orFail fun t ht => ?_
  subst hr
  split
  · exact regular_create
  · rename_i hne
    have hid : some t = if Verb.delete.takesId then a.shown? .get (.ok body) else none := by
      rw [Action.shown?_get, finds?_of_found ht, if_neg hne]
      rfl
    refine .request hid (by simp) fun r => regular_orFallBack ?_ ?_
    · exact fun _ _ => regular_create
    · exact regular_create

theorem regular_getPutPost : (getPutPost name a).Regular a shown := by
  unfold getPutPost
  refine regular_ask fun r => regular_orFallBack ?_ regular_create
  intro body hr
  refine regular_orFail fun t? ht => ?_
  subst hr
  cases t? with
  | none => exact regular_create
  | some t =>
    have hid : (if t.isEmpty then none else some t) =
        if Verb.put.takesId then a.shown? .get (.ok body) else none := by
      rw [Action.shown?_get, finds?_of_locate ht]
      rfl
    exact regular_last hid (by simp)

theorem regular_putPost : putPost.Regular a none := by
  refine .request rfl (by simp) fun r => regular_orFallBack ?_ regular_create
  exact fun _ _ => .done _

/-- **The plan of a strategy is regular.** -/
theorem regular_of (name : String) (a : Action) : (Plan.of name a).Regular a none := by
  unfold Plan.of
  cases hs : a.strategy with
  | getPost => exact regular_getPost
  | findPost => exact regular_findPost
  | findPutPost => exact regular_findElsePost rfl (by simp)
  | findPatchPost => exact regular_findElsePost rfl fun _ => hs
  | findDeletePost => exact regular_findDeletePost
  | getPutPost => exact regular_getPutPost
  | putPost => exact regular_putPost
  | put => exact regular_last rfl (by simp)
  | post => exact regular_create

end Plan

/-! ## Rounds -/

/-- The resource that the answer of a round shows. -/
def Round.shown? (r : Round σ) : Option String :=
  match r.out with
  | .ok a => r.action.action.shown? r.verb a
  | .error _ => none

/-- What the answer right before a round shows, after some rounds. -/
def shownAfter (shown : Option String) (pre : List (Round σ)) : Option String :=
  (pre.getLast?.map Round.shown?).getD shown

theorem shownAfter_cons (shown : Option String) (r : Round σ) (pre : List (Round σ)) :
    shownAfter shown (r :: pre) = shownAfter r.shown? pre := by
  rw [shownAfter, shownAfter, List.getLast?_cons]
  cases pre.getLast? <;> rfl

/-- **The rounds of a regular plan** carry what their verbs say, and address the resource that the
answer right before them shows. -/
theorem Enacted.regular {s : Setup σ} {p : Prepared} {b : Payloads} {plan : Plan}
    {w w' : World σ} {rounds : List (Round σ)}
    {out : Except ClockOverflow (Except ActionError Unit)}
    (h : Enacted s p b plan w rounds out w') {shown : Option String}
    (hp : plan.Regular p.action shown) {pre post : List (Round σ)} {r : Round σ}
    (hr : rounds = pre ++ r :: post) :
    r.body = b.bytes r.verb.payload ∧
      r.id = (if r.verb.takesId then shownAfter shown pre else none) ∧
      (r.verb = .patch → p.action.strategy = .findPatchPost) := by
  induction h generalizing pre shown with
  | done result w => simp at hr
  | remark h ih =>
    cases hp with
    | remark hp => exact ih hp hr
  | request hround h ih =>
    cases hp with
    | request hid hpatch hnext =>
      cases pre with
      | nil =>
        obtain ⟨rfl, -⟩ := List.cons.inj hr
        exact ⟨rfl, hid, hpatch⟩
      | cons q pre =>
        obtain ⟨rfl, hrest⟩ := List.cons.inj hr
        rw [shownAfter_cons]
        exact ih (hnext _) hrest
  | halted hround =>
    cases hp with
    | request hid hpatch hnext =>
      cases pre with
      | nil =>
        obtain ⟨rfl, -⟩ := List.cons.inj hr
        exact ⟨rfl, hid, hpatch⟩
      | cons q pre => simp at hr

/-! ## Bodies and addresses -/

/-- The body of a request, filled in from the store that its action started with. -/
def Prepared.bodyFor (p : Prepared) (s : Setup σ) (start : Table Json) : Verb → List UInt8
  | .put | .post => Text.Utf8.encode (s.filled p start p.action.payload).text
  | .patch => Text.Utf8.encode (s.filled p start (p.action.patchPayload.getD "")).text
  | .get | .delete => []

/-- The text of the address of a request: the endpoint, what its verb appends, filled in from the
store of the moment, and the resource that it addresses. -/
def Prepared.addressFor (p : Prepared) (s : Setup σ) (store : Table Json) (verb : Verb)
    (id : Option String) : String :=
  p.action.endpoint ++ (s.filledSuffix p store verb).text ++
    match id with
    | some id => "/" ++ id
    | none => ""

section Rounds

variable {s : Setup σ} {p : Prepared} {store : Table Json}

theorem Setup.payloads_bytes {verb : Verb}
    (h : verb = .patch → p.action.strategy = .findPatchPost) :
    (s.payloads p store).bytes verb.payload = p.bodyFor s store verb := by
  cases verb with
  | patch =>
    have hs : (p.action.strategy == .findPatchPost) = true := by simpa using h rfl
    simp only [Verb.payload, Payloads.bytes, Setup.payloads, Prepared.bodyFor, hs, if_true]
  | get => rfl
  | post => rfl
  | put => rfl
  | delete => rfl

/-- The resource that an answer shows is never the empty text. -/
theorem Round.ne_empty_of_shown {r : Round σ} {id : String} (h : r.shown? = some id) : id ≠ "" := by
  unfold Round.shown? Action.shown? at h
  split at h
  · split at h
    · split at h
      · exact (Action.finds?_eq_some.mp h).2
      · cases h
    · cases h
  · cases h

theorem Setup.rawUrl_eq {verb : Verb} {id : Option String} (h : ∀ t, id = some t → t ≠ "") :
    s.rawUrl p store verb id = p.addressFor s store verb id := by
  cases id with
  | none =>
    show _ = _ ++ _ ++ ""
    rw [String.append_empty]
    rfl
  | some t =>
    have ht : ¬ t.isEmpty = true := by simpa using h t rfl
    show _ ++ _ ++ (if t.isEmpty then "" else "/" ++ t) = _
    rw [if_neg ht]
    rfl

/-- **What a request of an action says**, by the rounds of its action that came before it. -/
theorem Enactment.Holds.contents {e : Enactment σ} (h : e.Holds s) {pre post : List (Round σ)}
    {r : Round σ} (hr : e.rounds = pre ++ r :: post) :
    r.action = e.action ∧
      r.before.store =
        pre.foldl (fun store q => e.action.storeAfter store q.answer?) e.before.store ∧
      ∀ x ∈ r.sent, x.request.method = r.verb ∧
        x.request.body = e.action.bodyFor s e.before.store r.verb ∧
        Url.parse (e.action.addressFor s r.before.store r.verb
            (if r.verb.takesId then pre.getLast?.bind Round.shown? else none)) =
          .ok x.request.url := by
  obtain ⟨lines, he⟩ := h.enacted
  have hmem : ∀ q ∈ pre ++ r :: post, q.action = e.action := hr ▸ he.own
  have hown : r.action = e.action := hmem r (by simp)
  obtain ⟨hbody, hid, hpatch⟩ := he.regular (Plan.regular_of _ _) hr
  have hshown : shownAfter none pre = pre.getLast?.bind Round.shown? := by
    rw [shownAfter]
    cases pre.getLast? with
    | none => rfl
    | some q => exact Option.getD_some
  rw [hshown] at hid
  have hcourse := he.course
  rw [hr] at hcourse
  obtain ⟨hbefore, hafter⟩ := hcourse.split
  refine ⟨hown, ?_, ?_⟩
  · rw [hbefore.store]
    refine List.foldl_ext _ _ _ fun store q hq => ?_
    rw [hmem q (List.mem_append_left _ hq)]
  · intro x hx
    obtain ⟨url, hs⟩ := (he.course.holds r (hr ▸ by simp)).sent x hx
    have haddress := hs.address
    rw [Setup.rawUrl_eq, hid, hown] at haddress
    · refine ⟨?_, ?_, ?_⟩
      · rw [hs.request]
        rfl
      · rw [hs.request, ← Setup.payloads_bytes hpatch, ← hbody]
        rfl
      · rw [haddress, hs.request]
        rfl
    · intro t ht
      rw [hid] at ht
      split at ht
      · obtain ⟨q, hq, hqt⟩ := Option.bind_eq_some_iff.mp ht
        exact Round.ne_empty_of_shown hqt
      · cases ht

end Rounds

/-- **What the requests of an execution say.** An execution runs its actions one after the other.
The body of each request of an action is its payload, filled in from the store that the action
started with, whatever came back meanwhile. The address is read from the endpoint, what the verb
appends, filled in from the store right before the request, and for a PUT, PATCH or DELETE the
resource that the answer right before it showed, if it showed one. So requests of an action that
carry the same payload carry the same bytes. -/
theorem execute_renders (s : Setup σ) (actions : List Prepared) (w : World σ) :
    ∃ es, Enactments s actions w.opened es (execute s actions w).2 ∧
      (execute s actions w).2.targets =
        (es.flatMap Enactment.rounds).filterMap (fun r => r.sent.map Exchange.request) ∧
      ∀ e ∈ es, e.action ∈ actions ∧
        (∀ pre r post, e.rounds = pre ++ r :: post → r.action = e.action ∧
          r.before.store =
            pre.foldl (fun store q => e.action.storeAfter store q.answer?) e.before.store ∧
          ∀ x ∈ r.sent, x.request.method = r.verb ∧
            x.request.body = e.action.bodyFor s e.before.store r.verb ∧
            Url.parse (e.action.addressFor s r.before.store r.verb
                (if r.verb.takesId then pre.getLast?.bind Round.shown? else none)) =
              .ok x.request.url) ∧
        ∀ r ∈ e.rounds, ∀ q ∈ e.rounds, ∀ x ∈ r.sent, ∀ y ∈ q.sent,
          r.verb.payload = q.verb.payload → x.request.body = y.request.body := by
  obtain ⟨es, h⟩ := runAll_enactments s actions w.opened
  refine ⟨es, h, h.course.targets, fun e he => ⟨?_, ?_, ?_⟩⟩
  · exact h.actions_isPrefix.subset (List.mem_map_of_mem he)
  · intro pre r post hr
    exact (h.holds e he).contents hr
  · intro r hr q hq x hx y hy hp
    have hbody : ∀ r ∈ e.rounds, ∀ x ∈ r.sent,
        x.request.body = e.action.bodyFor s e.before.store r.verb := by
      intro r hr x hx
      obtain ⟨pre, post, hsplit⟩ := List.append_of_mem hr
      exact (((h.holds e he).contents hsplit).2.2 x hx).2.1
    rw [hbody r hr x hx, hbody q hq y hy]
    revert hp
    cases r.verb <;> cases q.verb <;> simp [Verb.payload, Prepared.bodyFor]

end Reconcile
