import Reconcile.Proofs.Run.Reports
import Reconcile.Proofs.Run.Schedule
import Reconcile.Recipe.Validation

/-!
# Templates of valid recipes

A recipe is checked before it runs, and its templates are filled in while it does. What passes the
check is never reported.

* `render_problem_of_scan`, `render_of_blank` — templates that are filled in without a problem;
  `actionFindings_templates` — all of an action in which nothing is wrong are.
* `templateError` — the line about a malformed template; `Reported.ne_templateError` — no other
  line reads like it, for names of entries hold neither blanks nor colons.
* `execute_reports_no_template` — no execution of a valid recipe reports a template.
-/

namespace Reconcile

variable {σ : Type}

/-! ## Checked templates -/

section Checks

variable {template path : String} {vars : Table Json} {env : Environment}

theorem templateFindings_eq_nil_iff :
    templateFindings path template = [] ↔ (Template.scan template).2 = none := by
  unfold templateFindings Template.parse
  rcases Template.scan template with ⟨t, _ | e⟩ <;> simp

/-- A template that passes a scan is filled in without a problem. -/
theorem render_problem_of_scan (h : (Template.scan template).2 = none) :
    (render vars env template).problem = none := by
  unfold render
  split
  · exact h
  · rfl

/-- A blank template is not scanned, and stays as it is. -/
theorem render_of_blank (h : Text.isBlankText template = true) :
    render vars env template = ⟨template, none⟩ := by
  have hdollar : template.toList.contains '$' = false := by
    rw [← Bool.not_eq_true, List.contains_iff_mem]
    intro hm
    have hblank := List.all_eq_true.mp h '$' hm
    exact absurd hblank (by decide)
  rw [render, hdollar]
  rfl

theorem demand_eq_nil_iff {holds : Bool} {message : String} :
    demand holds path message = [] ↔ holds = true := by
  cases holds <;> simp [demand]

/-- **The templates of an action in which nothing is wrong** are filled in without a problem. -/
theorem actionFindings_templates {a : Action} (h : actionFindings path a = []) (name : String) :
    ∀ t ∈ (prepare name a).templates, (render vars env t).problem = none := by
  simp only [actionFindings, List.append_eq_nil_iff] at h
  obtain ⟨⟨⟨⟨⟨_, _⟩, hpayload⟩, hpatch⟩, hsuffix⟩, _⟩ := h
  intro t ht
  rcases List.mem_cons.mp ht with rfl | ht
  · show (render vars env a.payload).problem = none
    split at hpayload
    · rename_i hblank
      rw [render_of_blank hblank]
    · exact render_problem_of_scan (templateFindings_eq_nil_iff.mp hpayload)
  · rcases List.mem_append.mp ht with ht | ht
    · -- a patch payload is filled in exactly where one is required
      unfold patchFindings at hpatch
      by_cases hstrategy : (a.strategy == .findPatchPost) = true
      · rw [prepare, if_pos hstrategy, List.mem_singleton] at ht
        rw [if_pos hstrategy] at hpatch
        dsimp only at hpatch
        split at hpatch
        · cases hpatch
        · rw [ht]
          exact render_problem_of_scan (templateFindings_eq_nil_iff.mp hpatch)
      · rw [prepare, if_neg hstrategy] at ht
        cases ht
    · obtain ⟨verb, hv, hs⟩ := List.mem_filterMap.mp ht
      have hfindings := List.flatMap_eq_nil_iff.mp hsuffix verb hv
      have hs : a.suffix verb = some t := hs
      rw [suffixFindings, hs] at hfindings
      exact render_problem_of_scan (templateFindings_eq_nil_iff.mp hfindings)

/-- What a valid recipe says about the actions of its schedule. -/
theorem Recipe.isValid_schedule {r : Recipe} (h : r.isValid = true) {p : Prepared}
    (hp : p ∈ r.schedule) : isEntryName p.name = true ∧
      ∀ t ∈ p.templates, ∀ vars env, (render vars env t).problem = none := by
  obtain ⟨name, a, hm, rfl⟩ := r.mem_schedule.mp hp
  rw [isValid, violations, List.isEmpty_iff, List.append_eq_nil_iff] at h
  have hentry := List.flatMap_eq_nil_iff.mp h.2 (name, a) hm
  rw [seedEntryFindings, List.append_eq_nil_iff] at hentry
  exact ⟨demand_eq_nil_iff.mp hentry.1,
    fun t ht _ _ => actionFindings_templates hentry.2 name t ht⟩

end Checks

/-! ## Lines about templates -/

/-- The line about a malformed template of an action. -/
def templateError (name cause : String) : LogLine :=
  ⟨.error, "action " ++ name ++ ": template error: " ++ cause⟩

section Lines

variable {s : Setup σ} {actions : List Prepared} {name cause : String}

theorem isEntryNameChar_of_mem (h : isEntryName name = true) :
    ∀ c ∈ name.toList, isEntryNameChar c = true := by
  rw [isEntryName, Bool.and_eq_true, List.all_eq_true] at h
  exact h.2

/-- Texts that start alike with a name go on alike after it. -/
theorem rest_eq_of_names {a b x y : List Char} {c d : Char}
    (ha : ∀ k ∈ a, isEntryNameChar k = true) (hb : ∀ k ∈ b, isEntryNameChar k = true)
    (hc : isEntryNameChar c = false) (hd : isEntryNameChar d = false)
    (h : a ++ c :: x = b ++ d :: y) : c :: x = d :: y := by
  have hrest := congrArg (List.dropWhile isEntryNameChar) h
  rw [List.dropWhile_append_of_pos ha, List.dropWhile_append_of_pos hb,
    List.dropWhile_cons_of_neg (by simp [hc]), List.dropWhile_cons_of_neg (by simp [hd])] at hrest
  exact hrest

/-- **No other line reads like one about a template.** -/
theorem Reported.ne_templateError (hn : ∀ p ∈ actions, isEntryName p.name = true)
    (ht : ∀ p ∈ actions, ∀ t ∈ p.templates, ∀ store, (s.filled p store t).problem = none)
    (hname : isEntryName name = true) :
    ¬ Reported s actions (.logged (templateError name cause)) := by
  intro h
  generalize hl : templateError name cause = line at h
  have hchars := isEntryNameChar_of_mem hname
  cases h with
  | remark _ hr =>
    rw [← hl] at hr
    exact hr rfl
  | credential ref reason =>
    have htext := congrArg (·.message.toList) hl
    simp [templateError] at htext
  | template hp hm he =>
    rw [ht _ hp _ hm] at he
    cases he
  | @extraction p hp var reason =>
    have htext : name.toList ++ ':' :: (" template error: " ++ cause).toList =
        p.name.toList ++ ':' ::
          (" cannot extract runtime var " ++ var ++ ": " ++ reason).toList := by
      simpa [templateError] using congrArg (·.message.toList) hl
    have hrest := rest_eq_of_names hchars (isEntryNameChar_of_mem (hn p hp)) (by decide)
      (by decide) htext
    simp at hrest
  | @transport p hp target reason =>
    have haction : isEntryName "action" = true := by decide +kernel
    have htext : "action".toList ++ ' ' :: (name ++ ": template error: " ++ cause).toList =
        p.name.toList ++ ':' :: (" " ++ target ++ " failed: " ++ reason).toList := by
      simpa [templateError] using congrArg (·.message.toList) hl
    have hrest := rest_eq_of_names (isEntryNameChar_of_mem haction)
      (isEntryNameChar_of_mem (hn p hp)) (by decide) (by decide) htext
    simp at hrest
  | @failed p hp reason =>
    have htext : name.toList ++ ':' :: (" template error: " ++ cause).toList =
        p.name.toList ++ ' ' :: ("failed: " ++ reason).toList := by
      simpa [templateError] using congrArg (·.message.toList) hl
    have hrest := rest_eq_of_names hchars (isEntryNameChar_of_mem (hn p hp)) (by decide)
      (by decide) htext
    simp at hrest

end Lines

/-- **No execution of a valid recipe reports a template**: whatever is in the store, each template
that an action fills in is filled in without a problem, and no line says otherwise. -/
theorem execute_reports_no_template {r : Recipe} (h : r.isValid = true) (s : Setup σ)
    (w : World σ) :
    ∀ p ∈ r.schedule,
      (∀ t ∈ p.templates, ∀ store, (s.filled p store t).problem = none) ∧
      ∀ cause, templateError p.name cause ∉ (execute s r.schedule w).2.logs := by
  have htemplates : ∀ p ∈ r.schedule, ∀ t ∈ p.templates, ∀ store,
      (s.filled p store t).problem = none :=
    fun p hp t ht store => (Recipe.isValid_schedule h hp).2 t ht _ _
  have hnames : ∀ p ∈ r.schedule, isEntryName p.name = true :=
    fun p hp => (Recipe.isValid_schedule h hp).1
  refine fun p hp => ⟨htemplates p hp, fun cause hm => ?_⟩
  obtain ⟨e, he, hline⟩ := List.mem_filterMap.mp hm
  have hreported := execute_reported s r.schedule w e he
  cases e with
  | sent purpose q => cases hline
  | logged line =>
    cases hline
    exact Reported.ne_templateError hnames htemplates (hnames p hp) hreported

/-- A recipe with templates in a suffix, a payload and a patch payload. -/
def Recipe.replacement : Recipe where
  seed := .ofList
    [("item", {
      strategy := .findPatchPost, endpoint := "http://h/items", findExpr := some "$.id"
      payload := "\x7b\"n\":$\x7bcount\x7d\x7d", patchPayload := some "$count"
      getSuffix := some "?q=$query" })]

/-- A script that knows the resource. -/
def Script.stocked : Script :=
  [⟨"GET", "/items", [{ outcome := .response {
      status := 200
      body := Text.Utf8.encode "\x7b\"id\":7\x7d" } }]⟩,
    ⟨"PATCH", "/items/7", [{ outcome := .response { status := 204 } }]⟩]

theorem execute_reports_no_template_replacement :
    let s : Setup Script := { transport := Script.transport }
    let w : World Script :=
      { transport := Script.stocked, store := .ofList [("count", .string "five")] }
    Recipe.replacement.isValid = true ∧
      (execute s Recipe.replacement.schedule w).2.targets.map (fun q => (q.method, q.body)) =
        [(.get, []), (.patch, Text.Utf8.encode "five")] ∧
      ∀ p ∈ Recipe.replacement.schedule,
        (∀ t ∈ p.templates, ∀ store, (s.filled p store t).problem = none) ∧
        ∀ cause, templateError p.name cause ∉ (execute s Recipe.replacement.schedule w).2.logs := by
  intro s w
  have hvalid : Recipe.replacement.isValid = true := by decide +kernel
  have hs : Recipe.replacement.schedule = Recipe.replacement.actions :=
    Recipe.schedule_of_sorted _ (by decide +kernel)
  refine ⟨hvalid, ?_, execute_reports_no_template hvalid s w⟩
  rw [hs]
  decide +kernel

end Reconcile
