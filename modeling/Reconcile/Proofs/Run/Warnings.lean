import Mathlib.Data.List.Nodup
import Reconcile.Proofs.Run.Contents
import Reconcile.Proofs.Run.Reports
import Reconcile.Proofs.Run.Templates

/-!
# What warnings say about runs

A recipe is warned of before it runs: of actions that name no entry of its own, and of blank
payloads. Runs bear it out.

* `Recipe.WarnsAt` — a place that a recipe is warned of; `Recipe.warnsAt_authRef`,
  `Recipe.warnsAt_payload` — which actions are.
* `Round.Attempts`, `Round.Logs`, `Round.Bare` — a request is attempted, a line is logged about it,
  and it goes out as its action prepared it.
* `Round.Holds.undeclared`, `Round.Holds.of_logs_undeclared` — the line about a missing entry is
  logged for just those requests whose entry is missing, and these go out bare.
* `execute_bears_out` — so what a recipe is warned of is what its runs do.
-/

namespace Reconcile

variable {σ : Type}

/-! ## Warnings -/

/-- A place that a recipe is warned of. -/
def Recipe.WarnsAt (r : Recipe) (path : String) : Prop :=
  ∃ v ∈ r.warnings, v.path = path

section Warnings

variable {r : Recipe} {name : String} {a : Action}

theorem mem_demand {holds : Bool} {path message : String} {v : Violation} :
    v ∈ demand holds path message ↔ holds = false ∧ v = ⟨path, message⟩ := by
  cases holds <;> simp [demand]

/-- The places that a recipe is warned of: an action with a blank payload, and one that names an
entry that is missing. -/
theorem Recipe.warnsAt_iff {path : String} :
    r.WarnsAt path ↔ ∃ e ∈ r.seed.entries,
      Text.isBlankText e.2.payload = true ∧ "seed." ++ e.1 ++ ".payloadTemplate" = path ∨
      (e.2.authRef.isEmpty = false ∧ r.auth.contains e.2.authRef = false) ∧
        "seed." ++ e.1 ++ ".authMapRef" = path := by
  simp only [WarnsAt, warnings, actionWarnings, List.mem_flatMap, List.mem_append, mem_demand,
    Bool.not_eq_false', Bool.or_eq_false_iff]
  constructor
  · rintro ⟨v, ⟨e, he, ⟨hblank, rfl⟩ | ⟨hmissing, rfl⟩⟩, hpath⟩
    · exact ⟨e, he, .inl ⟨hblank, hpath⟩⟩
    · exact ⟨e, he, .inr ⟨hmissing, hpath⟩⟩
  · rintro ⟨e, he, ⟨hblank, hpath⟩ | ⟨hmissing, hpath⟩⟩
    · exact ⟨_, ⟨e, he, .inl ⟨hblank, rfl⟩⟩, hpath⟩
    · exact ⟨_, ⟨e, he, .inr ⟨hmissing, rfl⟩⟩, hpath⟩

theorem fieldPath_inj {k name field : String} :
    "seed." ++ k ++ field = "seed." ++ name ++ field ↔ k = name := by
  simp [← String.toList_inj]

/-- The places of the two fields differ. -/
theorem payloadPath_ne (k name : String) :
    "seed." ++ k ++ ".payloadTemplate" ≠ "seed." ++ name ++ ".authMapRef" := by
  intro h
  have hlast := congrArg (fun s : String => s.toList.reverse.head?) h
  simp at hlast

/-- Of each name there is one action. -/
theorem Dict.eq_of_mem {α : Type} {d : Dict α} {k : String} {a b : α} (ha : (k, a) ∈ d.entries)
    (hb : (k, b) ∈ d.entries) : a = b :=
  congrArg Prod.snd (List.inj_on_of_nodup_map d.distinct ha hb rfl)

/-- **An action is warned of for its payload** exactly when that is blank. -/
theorem Recipe.warnsAt_payload (h : (name, a) ∈ r.seed.entries) :
    r.WarnsAt ("seed." ++ name ++ ".payloadTemplate") ↔ Text.isBlankText a.payload = true := by
  rw [warnsAt_iff]
  constructor
  · rintro ⟨⟨k, b⟩, he, ⟨hblank, hpath⟩ | ⟨-, hpath⟩⟩
    · obtain rfl := fieldPath_inj.mp hpath
      exact Dict.eq_of_mem he h ▸ hblank
    · exact absurd hpath.symm (payloadPath_ne name k)
  · exact fun hblank => ⟨_, h, .inl ⟨hblank, rfl⟩⟩

/-- **An action is warned of for its entry** exactly when it names one that is missing. -/
theorem Recipe.warnsAt_authRef (h : (name, a) ∈ r.seed.entries) :
    r.WarnsAt ("seed." ++ name ++ ".authMapRef") ↔
      a.authRef.isEmpty = false ∧ r.auth.get? a.authRef = none := by
  have hcontains : r.auth.contains a.authRef = false ↔ r.auth.get? a.authRef = none := by
    rw [Dict.contains, Dict.get?, Option.map_eq_none_iff, List.find?_eq_none, List.any_eq_false]
  rw [warnsAt_iff, ← hcontains]
  constructor
  · rintro ⟨⟨k, b⟩, he, ⟨-, hpath⟩ | ⟨hmissing, hpath⟩⟩
    · exact absurd hpath (payloadPath_ne k name)
    · obtain rfl := fieldPath_inj.mp hpath
      exact Dict.eq_of_mem he h ▸ hmissing
  · exact fun hmissing => ⟨_, h, .inr ⟨hmissing, rfl⟩⟩

end Warnings

/-! ## Requests without an entry -/

namespace Round

/-- A request is attempted: its address can be read. -/
def Attempts (s : Setup σ) (r : Round σ) (url : Url) : Prop :=
  Url.parse (s.rawUrl r.action r.before.store r.verb r.id) = .ok url

/-- A line that is logged about a request. -/
def Logs (r : Round σ) (line : LogLine) : Prop :=
  ∃ new, r.after.events = r.before.events ++ new ∧ .logged line ∈ new

/-- A request goes out as its action prepared it: so it is announced, and so it is sent, unless the
run is cancelled. -/
structure Bare (s : Setup σ) (r : Round σ) (url : Url) : Prop where
  announced : r.Logs
    (r.action.announcement (r.action.request s r.verb url r.body) none)
  sent : ∀ x ∈ r.sent, x.request = r.action.request s r.verb url r.body ∧
    x.request.headers = r.action.headers

end Round

section Rounds

variable {s : Setup σ} {r : Round σ} {url : Url}

theorem decorate_undeclared {ref : String} (hr : ref.isEmpty = false) (ha : s.auth.get? ref = none)
    (q : Request) (w : World σ) :
    (decorate s ref q).run w = (.ok (q, []), w.logging [undeclared ref]) := by
  simp only [decorate, hr, ha, Bool.false_eq_true, if_false]
  rfl

/-- **A request whose entry is missing** is logged so, and goes out bare. -/
theorem Round.Holds.undeclared (h : r.Holds s) (hr : r.action.action.authRef.isEmpty = false)
    (ha : s.auth.get? r.action.action.authRef = none) (hu : r.Attempts s url) :
    r.Logs (undeclared r.action.action.authRef) ∧ r.Bare s url := by
  have hlines := decorate_undeclared hr ha (r.action.request s r.verb url r.body)
    (r.before.logging (r.action.problemLines (s.filledSuffix r.action r.before.store r.verb)))
  obtain ⟨after, hsend⟩ := send_logs hlines
  have hevents : r.after.events = r.before.events ++
      ((r.action.problemLines (s.filledSuffix r.action r.before.store r.verb)).map .logged ++
        .logged (Reconcile.undeclared r.action.action.authRef) ::
          .logged (r.action.headerLine r.verb url (r.action.request s r.verb url r.body) []) ::
            after) := by
    have hafter := congrArg (fun out => out.2.events) h.ran
    simp only [perform, run_bind, urlFor_run, show Url.parse _ = .ok url from hu, mapError_ok]
      at hafter
    rw [← hafter]
    rcases hx : (send s r.action r.verb url r.body).run
      (r.before.logging (r.action.problemLines (s.filledSuffix r.action r.before.store r.verb)))
      with ⟨_ | a, w⟩ <;> rw [hx] at hsend <;>
      simpa [World.logging] using hsend
  have hentry : s.entry? r.action.action.authRef = none := by
    rw [Setup.entry?, hr]
    exact ha
  refine ⟨⟨_, hevents, by simp⟩, ⟨_, hevents, ?_⟩, fun x hx => ?_⟩
  · have hline := r.action.headerLine_eq (r.action.request s r.verb url r.body) none
    rw [← hline]
    exact List.mem_append_right _ (List.mem_cons_of_mem _ List.mem_cons_self)
  · obtain ⟨url', hs⟩ := h.sent x hx
    obtain rfl : url' = url := Except.ok.inj (hs.address.symm.trans hu)
    have hbare := hs.bare (World.credential?_of_no_entry hentry)
    exact ⟨hbare, by rw [hbare]; rfl⟩

/-- **The line about a missing entry** is logged for no other request. -/
theorem Round.Holds.of_logs_undeclared (h : r.Holds s) {ref : String}
    (hl : r.Logs (Reconcile.undeclared ref)) :
    r.action.action.authRef.isEmpty = false ∧ s.auth.get? r.action.action.authRef = none := by
  obtain ⟨new, hnew, hm⟩ := hl
  obtain ⟨es, hes, hrun⟩ := perform_adds s r.action r.verb r.id r.body r.before
  have hevents : r.after.events = r.before.events ++ es := by
    have hself := congrArg (fun out => out.2.events) (hrun r.before.events)
    have hafter := congrArg (fun out => out.2.events) h.ran
    exact hafter.symm.trans hself
  obtain rfl : new = es := List.append_cancel_left (hnew.symm.trans hevents)
  have huttered := hes _ hm
  generalize hline : Reconcile.undeclared ref = line at huttered
  -- the only remark among what a request may add
  have hlevel := congrArg LogLine.level hline
  cases huttered with
  | undeclared hr ha => exact ⟨hr, ha⟩
  | detail message => cases hlevel
  | credential ref cause => cases hlevel
  | template ht he => cases hlevel
  | extraction name cause => cases hlevel
  | transport target cause => cases hlevel

end Rounds

/-! ## Runs -/

/-- A blank payload is sent as it is. -/
theorem Prepared.bodyFor_of_blank {p : Prepared} (s : Setup σ) (store : Table Json) {verb : Verb}
    (h : Text.isBlankText p.action.payload = true) (hv : verb = .put ∨ verb = .post) :
    p.bodyFor s store verb = Text.Utf8.encode p.action.payload := by
  have hfilled : (s.filled p store p.action.payload).text = p.action.payload := by
    rw [Setup.filled, render_of_blank h]
  rcases hv with rfl | rfl <;> exact congrArg Text.Utf8.encode hfilled

/-- **Runs bear out what a recipe is warned of.** In every run of a recipe, valid or not, and for
every action, a request that is attempted is logged as one whose entry is missing and goes out as
its action prepared it exactly when the recipe is warned of the entry of this action; where it is
not, no such line is logged about the request at all. Where the recipe is warned of the payload of
an action, each PUT and each POST that the action sends carries blanks only. -/
theorem execute_bears_out {s : Setup σ} {r : Recipe} (hs : s.auth = r.auth) (w : World σ) :
    ∃ es, Enactments s r.schedule w.opened es (execute s r.schedule w).2 ∧
      (execute s r.schedule w).2.targets =
        (es.flatMap Enactment.rounds).filterMap (fun round => round.sent.map Exchange.request) ∧
      ∀ e ∈ es, ∃ name a, (name, a) ∈ r.seed.entries ∧ e.action = prepare name a ∧
        (∀ round ∈ e.rounds, round.action = e.action ∧
          (∀ x ∈ round.sent, round.Attempts s x.request.url) ∧
          ∀ url, round.Attempts s url →
            (round.Logs (undeclared a.authRef) ∧ round.Bare s url ↔
              r.WarnsAt ("seed." ++ name ++ ".authMapRef")) ∧
            (round.Logs (undeclared a.authRef) →
              r.WarnsAt ("seed." ++ name ++ ".authMapRef"))) ∧
        (r.WarnsAt ("seed." ++ name ++ ".payloadTemplate") →
          ∀ round ∈ e.rounds, ∀ x ∈ round.sent,
            x.request.method = .put ∨ x.request.method = .post →
              ∃ text, x.request.body = Text.Utf8.encode text ∧ Text.isBlankText text = true) := by
  obtain ⟨es, hes⟩ := runAll_enactments s r.schedule w.opened
  refine ⟨es, hes, hes.course.targets, fun e he => ?_⟩
  have hholds := hes.holds e he
  obtain ⟨name, a, hentry, haction⟩ :=
    r.mem_schedule.mp (hes.actions_isPrefix.subset (List.mem_map_of_mem he))
  refine ⟨name, a, hentry, haction.symm, fun round hround => ?_, fun hwarned round hround => ?_⟩
  · have hr := hholds.course.holds round hround
    obtain ⟨lines, henacted⟩ := hholds.enacted
    have hown := henacted.own round hround
    have href : round.action.action.authRef = a.authRef := by rw [hown, ← haction]; rfl
    refine ⟨hown, fun x hx => ?_, fun url hu => ?_⟩
    · obtain ⟨url, hsends⟩ := hr.sent x hx
      have hurl : x.request.url = url := by rw [hsends.request]; rfl
      rw [hurl]
      exact hsends.address
    · have hlogged : round.Logs (undeclared a.authRef) →
          r.WarnsAt ("seed." ++ name ++ ".authMapRef") := by
        intro hl
        rw [Recipe.warnsAt_authRef hentry, ← hs, ← href]
        exact hr.of_logs_undeclared hl
      refine ⟨⟨fun h => hlogged h.1, fun hwarned => ?_⟩, hlogged⟩
      rw [Recipe.warnsAt_authRef hentry, ← hs, ← href] at hwarned
      rw [← href]
      exact hr.undeclared hwarned.1 hwarned.2 hu
  · intro x hx hmethod
    rw [Recipe.warnsAt_payload hentry] at hwarned
    obtain ⟨pre, post, hrounds⟩ := List.append_of_mem hround
    obtain ⟨-, -, hcontents⟩ := hholds.contents hrounds
    obtain ⟨hverb, hbody, -⟩ := hcontents x hx
    have hblank : Text.isBlankText e.action.action.payload = true := by rw [← haction]; exact hwarned
    refine ⟨e.action.action.payload, ?_, hblank⟩
    rw [hbody, Prepared.bodyFor_of_blank s _ hblank (hverb ▸ hmethod)]

/-- A recipe that is warned of both: its action names an entry that is missing, and its payload is
blank. -/
def Recipe.careless : Recipe where
  seed := .ofList
    [("a", {
      strategy := .findPutPost, endpoint := "http://h/r", findExpr := some "$.id"
      payload := " \n", authRef := "nope" })]

/-- A script that finds a resource and takes the PUT. -/
def Script.obliging : Script :=
  [⟨"GET", "/r", [{ outcome := .response {
      status := 200
      body := Text.Utf8.encode "\x7b\"id\":7\x7d" } }]⟩,
    ⟨"PUT", "/r/7", [{ outcome := .response { status := 204 } }]⟩]

theorem execute_bears_out_careless :
    let s : Setup Script := { transport := Script.transport, auth := Recipe.careless.auth }
    let w : World Script := { transport := Script.obliging }
    s.auth = Recipe.careless.auth ∧
      Recipe.careless.warnings.map Violation.path =
        ["seed.a.payloadTemplate", "seed.a.authMapRef"] ∧
      (execute s Recipe.careless.schedule w).2.targets.map (fun q => (q.method, q.body)) =
        [(.get, []), (.put, [0x20, 0x0A])] ∧
      ∃ es, Enactments s Recipe.careless.schedule w.opened es
          (execute s Recipe.careless.schedule w).2 ∧
        ∀ e ∈ es, ∀ round ∈ e.rounds,
          (∀ url, round.Attempts s url → round.Logs (undeclared "nope") ∧ round.Bare s url) ∧
          ∀ x ∈ round.sent, x.request.method = .put →
            ∃ text, x.request.body = Text.Utf8.encode text ∧ Text.isBlankText text = true := by
  intro s w
  have hpaths : Recipe.careless.warnings.map Violation.path =
      ["seed.a.payloadTemplate", "seed.a.authMapRef"] := by decide +kernel
  have hauth : Recipe.careless.WarnsAt ("seed." ++ "a" ++ ".authMapRef") :=
    List.mem_map.mp (hpaths ▸ by decide +kernel)
  have hpayload : Recipe.careless.WarnsAt ("seed." ++ "a" ++ ".payloadTemplate") :=
    List.mem_map.mp (hpaths ▸ by decide +kernel)
  have hs : Recipe.careless.schedule = Recipe.careless.actions :=
    Recipe.schedule_of_sorted _ (by decide +kernel)
  obtain ⟨es, hes, -, h⟩ := execute_bears_out (s := s) (r := Recipe.careless) rfl w
  refine ⟨rfl, hpaths, ?_, es, hes, fun e he round hround => ?_⟩
  · rw [hs]
    decide +kernel
  · obtain ⟨name, a, hentry, -, hrequests, hbodies⟩ := h e he
    have hentries : Recipe.careless.seed.entries = [("a", {
        strategy := .findPutPost, endpoint := "http://h/r", findExpr := some "$.id"
        payload := " \n", authRef := "nope" })] := by decide +kernel
    obtain ⟨rfl, rfl⟩ : name = "a" ∧ a = _ := by simpa [hentries] using hentry
    obtain ⟨-, -, hround'⟩ := hrequests round hround
    exact ⟨fun url hu => (hround' url hu).1.mpr hauth,
      fun x hx hput => hbodies hpayload round hround x hx (.inl hput)⟩

end Reconcile
