import Reconcile.Proofs.Recipe.Rules
import Reconcile.Proofs.Run.Enactment
import Reconcile.Proofs.Run.Recollection
import Reconcile.Proofs.Template.Concatenation

/-!
# Stores that executions reach

The names of runtime variables are checked with the recipe, and written to the store as they are.
So a valid recipe never stores a value that a template could not name.

* `Recipe.ComesTo` — a round of an execution of a recipe.
* `Recipe.Reaches` — the stores that executions of a recipe reach, one after the other and from an
  empty store, those in the middle of a round included.
* `Nameable` — a store whose names placeholders may have; `Nameable.kept`, `Course.nameable` — what
  is extracted leaves it so, and so does a run; `Recipe.Reaches.nameable` — all stores of a valid
  recipe are.
* `render_around` — a placeholder between two templates.
* `Recipe.Reaches.usable` — every variable of such a store can be used, wherever it stands.
-/

namespace Reconcile

variable {σ : Type}

/-! ## Stores -/

/-- An execution of a recipe comes to a round. -/
def Recipe.ComesTo (r : Recipe) (s : Setup σ) (w : World σ) (x : Round σ) : Prop :=
  ∃ es e, Enactments s r.schedule w.opened es (execute s r.schedule w).2 ∧ e ∈ es ∧ x ∈ e.rounds

/-- The stores that executions of a recipe reach. The first one starts from an empty store, and each
from a store that was reached before it; all else may change in between. -/
inductive Recipe.Reaches (r : Recipe) : Table Json → Prop
  | empty : Reaches r {}
  /-- Where a round starts. -/
  | before {σ : Type} {s : Setup σ} {w : World σ} {x : Round σ} (h : Reaches r w.store)
      (hx : r.ComesTo s w x) : Reaches r x.before.store
  /-- Where some variables are extracted from the body of a success, and in the end all of them. -/
  | kept {σ : Type} {s : Setup σ} {w : World σ} {x : Round σ} (h : Reaches r w.store)
      (hx : r.ComesTo s w x) {q : Response} (hq : x.answer? = some (.ok q)) (hs : q.status ≤ 299)
      {vars : List (String × String)} (hv : vars <+: x.action.action.runtimeVars.entries) :
      Reaches r (vars.foldl (kept q.body) x.before.store)
  /-- Where an execution ends. -/
  | after {σ : Type} {s : Setup σ} {w : World σ} (h : Reaches r w.store) :
      Reaches r (execute s r.schedule w).2.store

/-- A store whose names placeholders may have. -/
def Nameable (store : Table Json) : Prop :=
  ∀ e ∈ store.entries, NamesVariable e.1

/-- An action whose runtime variables placeholders may name. -/
def Prepared.NamesVariables (p : Prepared) : Prop :=
  ∀ v ∈ p.action.runtimeVars.entries, NamesVariable v.1

section Names

variable {r : Recipe} {s : Setup σ} {w w' : World σ} {body : List UInt8} {store : Table Json}

/-- **A variable is stored under its own name.** -/
theorem Nameable.kept {v : String × String} (h : Nameable store) (hv : NamesVariable v.1) :
    Nameable (kept body store v) := by
  unfold Reconcile.kept
  split
  · intro e he
    rcases Table.mem_insert.mp he with rfl | ⟨he, -⟩
    · exact hv
    · exact h e he
  · exact h

theorem Nameable.foldl_kept {vars : List (String × String)} (h : Nameable store)
    (hv : ∀ v ∈ vars, NamesVariable v.1) : Nameable (vars.foldl (Reconcile.kept body) store) := by
  induction vars generalizing store with
  | nil => exact h
  | cons v vars ih =>
    obtain ⟨hv, hvars⟩ := List.forall_mem_cons.mp hv
    exact ih (h.kept hv) hvars

theorem Round.Holds.nameable {x : Round σ} (hx : x.Holds s) (ha : x.action.NamesVariables)
    (h : Nameable x.before.store) : Nameable x.after.store := by
  rcases x.success_or_failure with ⟨q, hq, hs⟩ | hq
  · rw [hx.store_of_success hq hs]
    exact h.foldl_kept ha
  · rwa [hx.store_of_failure hq]

/-- **A run leaves a store as it was**, if its actions name their variables well. -/
theorem Course.nameable {rounds : List (Round σ)} (hc : Course s w rounds w')
    (ha : ∀ x ∈ rounds, x.action.NamesVariables) (h : Nameable w.store) : Nameable w'.store := by
  induction hc with
  | done lines => exact h
  | round lines hb hr _ ih =>
    obtain ⟨hx, hrest⟩ := List.forall_mem_cons.mp ha
    refine ih hrest (hr.nameable hx ?_)
    rw [hb]
    exact h

theorem Recipe.schedule_namesVariables (h : r.isValid = true) :
    ∀ p ∈ r.schedule, p.NamesVariables := by
  intro p hp v hv
  obtain ⟨name, a, hm, rfl⟩ := r.mem_schedule.mp hp
  exact (((isValid_iff.mp h).seed (name, a) hm).runtimeVars v hv).1

/-- A round to which an execution comes is one of its actions, after others of them. -/
theorem Recipe.ComesTo.course {x : Round σ} (h : r.ComesTo s w x) :
    x.Holds s ∧ x.action ∈ r.schedule ∧
      ∃ rounds, Course s w.opened rounds x.before ∧ ∀ y ∈ rounds, y.action ∈ r.schedule := by
  obtain ⟨es, e, hes, he, hx⟩ := h
  have hactions : ∀ y ∈ es.flatMap Enactment.rounds, y.action ∈ r.schedule := by
    intro y hy
    obtain ⟨f, hf, hy⟩ := List.mem_flatMap.mp hy
    obtain ⟨lines, henacted⟩ := (hes.holds f hf).enacted
    rw [henacted.own y hy]
    exact hes.actions_isPrefix.subset (List.mem_map_of_mem hf)
  have hmem : x ∈ es.flatMap Enactment.rounds := List.mem_flatMap.mpr ⟨e, he, hx⟩
  refine ⟨hes.course.holds x hmem, hactions x hmem, ?_⟩
  obtain ⟨front, back, hsplit⟩ := List.append_of_mem hmem
  have hc := hes.course
  rw [hsplit] at hc hactions
  exact ⟨front, hc.split.1, fun y hy => hactions y (List.mem_append_left _ hy)⟩

/-- **Every store that a valid recipe reaches** has names that placeholders may have. -/
theorem Recipe.Reaches.nameable (hr : r.isValid = true) (h : r.Reaches store) :
    Nameable store := by
  have hschedule := Recipe.schedule_namesVariables hr
  induction h with
  | empty => exact List.forall_mem_nil _
  | before h hx ih =>
    obtain ⟨-, -, rounds, hc, hrounds⟩ := hx.course
    exact hc.nameable (fun y hy => hschedule _ (hrounds y hy)) ih
  | kept h hx hq hs hv ih =>
    obtain ⟨-, ha, rounds, hc, hrounds⟩ := hx.course
    have hbefore := hc.nameable (fun y hy => hschedule _ (hrounds y hy)) ih
    exact hbefore.foldl_kept fun v hm => hschedule _ ha v (hv.subset hm)
  | @after σ s w h ih =>
    obtain ⟨rounds, hc, hrounds, -⟩ := execute_course s r.schedule w
    exact hc.nameable (fun y hy => hschedule _ (hrounds y hy)) ih

end Names

/-! ## Placeholders between templates -/

theorem scansStrictly_iff {template : String} :
    ScansStrictly template ↔ (Template.scan template).2 = none := by
  unfold ScansStrictly Template.parse
  rcases Template.scan template with ⟨t, _ | e⟩ <;> simp

/-- The parts of a placeholder in braces and of what follows it. -/
theorem pieces_placeholder {name q : String} (hname : isIdentifier name = true) :
    pieces ("$\x7b" ++ name ++ "\x7d" ++ q).toList = .braced name.toList :: pieces q.toList := by
  rw [pieces_eq_iff, String.toList_append, String.toList_append, String.toList_append]
  exact .cons (brace_not_mem_of_isName hname) (pieces_decompose _)

/-- **A placeholder between two templates** is filled in where it stands, and they are filled in as
they are on their own. -/
theorem render_around (vars : Table Json) (env : Environment) {name p q : String}
    (hname : isIdentifier name = true) (hp : ScansStrictly p) (hq : ScansStrictly q) :
    render vars env (p ++ "$\x7b" ++ name ++ "\x7d" ++ q) =
      ⟨(render vars env p).text ++ valueText vars env name ++ (render vars env q).text, none⟩ := by
  have hpieces := pieces_placeholder (q := q) hname
  have hapart : StartsApart ("$\x7b" ++ name ++ "\x7d" ++ q).toList := by
    have hlist : ("$\x7b" ++ name ++ "\x7d" ++ q).toList =
        '$' :: '\x7b' :: (name.toList ++ '\x7d' :: q.toList) := by
      simp
    rw [hlist]
    intro c hc
    cases hc
    exact ⟨by decide, by decide⟩
  have hproblem : (render vars env ("$\x7b" ++ name ++ "\x7d" ++ q)).problem = none := by
    have hclosed := Template.scan_snd_eq_none_iff.mp (scansStrictly_iff.mp hq)
    rw [render_eq]
    show (Template.scan _).2 = none
    rw [Template.scan_snd_eq_none_iff, hpieces]
    intro xs hx
    rcases List.mem_cons.mp hx with hx | hx
    · cases hx
    · exact hclosed xs hx
  have htext : (render vars env ("$\x7b" ++ name ++ "\x7d" ++ q)).text =
      valueText vars env name ++ (render vars env q).text := by
    have hpart : (Piece.braced name.toList).text vars env = (valueText vars env name).toList := by
      have hname : (Piece.braced name.toList).name? = some name.toList := if_pos hname
      simp only [Piece.text, hname, String.ofList_toList]
    rw [← String.toList_inj, render_text, hpieces, List.flatMap_cons, hpart, String.toList_append,
      render_text]
  have hassoc : p ++ "$\x7b" ++ name ++ "\x7d" ++ q = p ++ ("$\x7b" ++ name ++ "\x7d" ++ q) := by
    simp only [String.append_assoc]
  rw [hassoc, render_of_startsApart vars env (scansStrictly_iff.mp hp) hapart, htext, hproblem,
    String.append_assoc]
  rfl

/-- **Every variable that a valid recipe extracts can be used**: in every store that its executions
reach, every name is one that placeholders may have, and between any two templates that are well
formed the placeholder stands for the value, whatever variables an action has of its own. -/
theorem Recipe.Reaches.usable {r : Recipe} (hr : r.isValid = true) {store : Table Json}
    (h : r.Reaches store) :
    ∀ name value, (name, value) ∈ store.entries →
      NamesVariable name ∧ ∀ (own : Dict Json) (env : Environment) (p q : String),
        ScansStrictly p → ScansStrictly q →
        let vars := mergeVariables own store
        render vars env (p ++ "$\x7b" ++ name ++ "\x7d" ++ q) =
          ⟨(render vars env p).text ++ value.plainText ++ (render vars env q).text, none⟩ := by
  intro name value hm
  have hname := h.nameable hr (name, value) hm
  have hget : store.get? name = some value := by
    rw [Table.get?, Table.find?_of_mem store.ascending hm]
    rfl
  refine ⟨hname, fun own env p q hp hq => ?_⟩
  intro vars
  have hvalue : valueText vars env name = value.plainText := by
    rw [valueText_mergeVariables, placeholderText, hget]
  rw [render_around vars env (isIdentifier_iff.mpr hname) hp hq, hvalue]

/-- A recipe that extracts a number. -/
def Recipe.numbering : Recipe where
  seed := .ofList
    [("a", { strategy := .post, endpoint := "http://h/a", runtimeVars := .ofList [("v", "$.id")] })]

/-- A script that answers with a number. -/
def Script.numbered : Script :=
  [⟨"POST", "/a", [{ outcome := .response {
      status := 201, body := Text.Utf8.encode "\x7b\"id\":7\x7d" } }]⟩]

/-- The number stands behind a dollar sign and before a placeholder. -/
theorem Recipe.Reaches.usable_number :
    ∃ store, Recipe.numbering.isValid = true ∧ Recipe.numbering.Reaches store ∧
      store.entries.map (fun e => (e.1, e.2.plainText)) = [("v", "7")] ∧
      render (mergeVariables (.ofList [("v", .string "own")]) store) (fun _ => none)
        ("x$" ++ "$\x7b" ++ "v" ++ "\x7d" ++ "-$v") = ⟨"x$" ++ "7" ++ "-7", none⟩ := by
  let s : Setup Script := { transport := Script.transport }
  let store := (execute s Recipe.numbering.schedule { transport := Script.numbered }).2.store
  have hvalid : Recipe.numbering.isValid = true := by decide +kernel
  have hreaches : Recipe.numbering.Reaches store := .after .empty
  have hstore : store.entries.map (fun e => (e.1, e.2.plainText)) = [("v", "7")] := by
    decide +kernel
  obtain ⟨⟨name, value⟩, hm, he⟩ : ∃ e ∈ store.entries, (e.1, e.2.plainText) = ("v", "7") := by
    rw [← List.mem_map, hstore]
    exact List.mem_singleton_self _
  obtain ⟨rfl, htext⟩ := Prod.mk.inj he
  have hp : ScansStrictly "x$" := scansStrictly_iff.mpr (by decide +kernel)
  have hq : ScansStrictly "-$v" := scansStrictly_iff.mpr (by decide +kernel)
  refine ⟨store, hvalid, hreaches, hstore, ?_⟩
  rw [(hreaches.usable hvalid _ _ hm).2 (.ofList [("v", .string "own")]) (fun _ => none) _ _ hp hq,
    htext]
  decide +kernel

end Reconcile
