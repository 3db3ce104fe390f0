import Mathlib.Data.List.TakeWhile
import Mathlib.Tactic.ByContra
import Reconcile.Proofs.Run.Variables

/-!
# What the answer to a GET shows

* `Action.finds?` — the text that the expression of an action finds in a body, unless it is empty.
* `Action.Shows` — a body shows the resource of an action: its expression finds something there,
  or it has none and the body is not empty.
* `extractText_eq_empty` — nothing is found in an empty body; `Action.of_finds?` — so a body in
  which something is found is not empty.
* `finds?_of_found`, `finds?_of_locate`, `Action.Shows.found`, `Action.Shows.locate` — what the two
  readings of a body say.
-/

namespace Reconcile

/-- A trimmed text is empty exactly when there was nothing but blanks. -/
theorem Text.isEmpty_trim (s : String) : (Text.trim s).isEmpty = Text.isBlankText s := by
  rw [Text.trim, Text.isBlankText, Bool.eq_iff_iff, String.isEmpty_iff, String.ofList_eq_empty_iff,
    List.reverse_eq_nil_iff, List.dropWhile_eq_nil_iff, List.all_eq_true]
  constructor
  · intro h
    -- the first character that is left is no blank, and it would have been dropped from the end
    rw [← List.dropWhile_eq_nil_iff]
    by_contra hne
    have hhead := List.head_dropWhile_not Text.isBlank (w := hne)
    rw [h _ (List.mem_reverse.mpr (List.head_mem hne))] at hhead
    cases hhead
  · intro h c hc
    exact h c ((List.dropWhile_suffix _).subset (List.mem_reverse.mp hc))

/-! ## Texts as documents -/

namespace Query

variable (root : Json) (s : String)

theorem select_string (selector : Selector) : selector.select root (.string s) = [] := by
  cases selector <;> rfl

theorem applySelectors_string (selectors : List Selector) :
    applySelectors root selectors (.string s) = [] := by
  induction selectors with
  | nil => rfl
  | cons selector rest ih => rw [applySelectors, select_string, ih, List.append_nil]

theorem applySegments_nil (segments : List Segment) : applySegments root segments [] = [] := by
  induction segments with
  | nil => rfl
  | cons segment rest ih =>
    obtain ⟨descendants, selectors⟩ := segment
    rw [applySegments, List.flatMap_nil, ih]

/-- In a text, a query finds the text itself or nothing. -/
theorem Path.findIn_string (q : Path) :
    q.findIn (.string s) = [.string s] ∨ q.findIn (.string s) = [] := by
  obtain ⟨fromRoot, segments⟩ := q
  have hstart : (if fromRoot then Json.string s else .string s) = .string s := ite_self _
  rw [Path.findIn, Path.find, hstart]
  cases segments with
  | nil => exact .inl rfl
  | cons segment rest =>
    obtain ⟨descendants, selectors⟩ := segment
    have hnone : ([Json.string s].flatMap fun v =>
        if descendants then descend (applySelectors (.string s) selectors) v
        else applySelectors (.string s) selectors v) = [] := by
      cases descendants <;>
        simp only [List.flatMap_cons, List.flatMap_nil, List.append_nil, descend,
          applySelectors_string, Bool.false_eq_true, if_true, if_false]
    rw [applySegments, hnone, applySegments_nil]
    exact .inr rfl

end Query

/-! ## Bodies -/

section Bodies

variable {body : List UInt8} {expr t : String}

/-- A text that is extracted is empty, or it spells what the expression finds. -/
theorem extractText_eq_ok (h : extractText body expr = .ok t) :
    t = "" ∨ ∃ v, Finds body expr v ∧ v.plainText = t := by
  unfold extractText at h
  match hx : extract body expr with
  | .error e => rw [hx] at h; cases h
  | .ok none => rw [hx] at h; cases h; exact .inl rfl
  | .ok (some v) => rw [hx] at h; cases h; exact .inr ⟨v, extract_eq_some_iff.mp hx, rfl⟩

/-- The document of a body that spells the empty text is the empty text. -/
theorem document?_of_empty (h : Json.ofBytes? body = some (.string "")) :
    document? body = some (.string "") := by
  have hempty : Json.ofText? "" = none := by decide +kernel
  rw [document?, h]
  show some ((Json.ofText? "").getD (.string "")) = _
  rw [hempty]
  rfl

/-- **Nothing is found in an empty body.** -/
theorem extractText_eq_empty (hb : isEmptyBody body = true)
    (h : extractText body expr = .ok t) : t = "" := by
  rcases extractText_eq_ok h with ht | ⟨v, hv, rfl⟩
  · exact ht
  · exfalso
    rw [isEmptyBody, hv.answered, Bool.false_or, beq_iff_eq] at hb
    obtain ⟨document, path, rest, hd, _, hfirst⟩ := hv.first
    rw [document?_of_empty hb, Option.some.injEq] at hd
    subst hd
    -- all that can be found in the empty text is the empty text
    rcases path.findIn_string "" with hone | hnil
    · rw [hone] at hfirst
      obtain ⟨rfl, _⟩ := List.cons.inj hfirst
      rcases hv.scalar with ⟨n, hn⟩ | ⟨u, hu, he⟩
      · cases hn
      · cases hu
        cases he
    · rw [hnil] at hfirst
      cases hfirst

theorem extractText_of_blank (h : Text.isBlankText expr = true) :
    extractText body expr = .ok "" := by
  have ht : (Text.trim expr).isEmpty = true := (Text.isEmpty_trim expr).trans h
  rw [extractText, extract]
  simp only [ht, Bool.true_or, if_true]
  rfl

end Bodies

/-! ## Actions -/

/-- The text that the expression of an action finds in a body, unless it is empty. -/
def Action.finds? (a : Action) (body : List UInt8) : Option String :=
  match extractText body a.find with
  | .ok s => if s.isEmpty then none else some s
  | .error _ => none

/-- A body shows the resource of an action: the expression of the action finds something in it.
Where the strategy needs no expression and there is none, the body is not empty. -/
def Action.Shows (a : Action) (body : List UInt8) : Prop :=
  if a.strategy.needsFind = false ∧ Text.isBlankText a.find = true then isEmptyBody body = false
  else ∃ t, extractText body a.find = .ok t ∧ t ≠ ""

section Actions

variable {a : Action} {name : String} {body : List UInt8} {t : String}

theorem Action.finds?_eq_some :
    a.finds? body = some t ↔ extractText body a.find = .ok t ∧ t ≠ "" := by
  unfold Action.finds?
  cases extractText body a.find with
  | error e => simp
  | ok s =>
    by_cases hs : s = ""
    · subst hs
      refine iff_of_false (fun h => ?_) (fun h => h.2 (Except.ok.inj h.1).symm)
      cases h
    · have hne : s.isEmpty = false := by simpa using hs
      simp only [hne, Bool.false_eq_true, if_false, Option.some.injEq, Except.ok.injEq]
      exact ⟨fun h => ⟨h, h ▸ hs⟩, And.left⟩

/-- **Where something is found, there is an expression and the body is not empty.** -/
theorem Action.of_finds? (h : a.finds? body = some t) :
    Text.isBlankText a.find = false ∧ isEmptyBody body = false := by
  obtain ⟨hx, ht⟩ := Action.finds?_eq_some.mp h
  constructor
  · by_contra hb
    rw [extractText_of_blank (by simpa using hb), Except.ok.injEq] at hx
    exact ht hx.symm
  · by_contra hb
    exact ht (extractText_eq_empty (by simpa using hb) hx)

theorem found_of_finds? (h : a.finds? body = some t) : found name a body = .ok t := by
  rw [found, (Action.finds?_eq_some.mp h).1, mapError_ok]

theorem finds?_of_found (h : found name a body = .ok t) :
    a.finds? body = if t.isEmpty then none else some t := by
  unfold found at h
  unfold Action.finds?
  cases hx : extractText body a.find with
  | error e => rw [hx] at h; cases h
  | ok s => rw [hx] at h; cases h; rfl

/-- What a reading says that goes by the body first. -/
theorem finds?_of_locate (h : locate name a body = .ok (some t)) :
    a.finds? body = if t.isEmpty then none else some t := by
  unfold locate at h
  split at h
  · cases h
  · split at h
    · rename_i hb
      cases h
      rw [Action.finds?, extractText_of_blank hb]
    · cases hf : found name a body with
      | error e => rw [hf] at h; cases h
      | ok s =>
        rw [hf] at h
        simp only [Except.map, Except.ok.injEq] at h
        split at h
        · cases h
        · cases h
          exact finds?_of_found hf

namespace Action.Shows

/-- A strategy that needs an expression finds the resource by it. -/
theorem found (h : a.Shows body) (hs : a.strategy.needsFind = true) :
    ∃ t, found name a body = .ok t ∧ t ≠ "" := by
  rw [Action.Shows, hs, if_neg (by simp)] at h
  obtain ⟨t, hx, ht⟩ := h
  exact ⟨t, found_of_finds? (Action.finds?_eq_some.mpr ⟨hx, ht⟩), ht⟩

/-- A strategy that goes by the body first finds the resource, too, with or without an
expression. -/
theorem locate (h : a.Shows body) :
    ∃ t, locate name a body = .ok (some t) := by
  unfold Action.Shows at h
  split at h
  · rename_i hbare
    refine ⟨"", ?_⟩
    rw [Reconcile.locate, h, hbare.2]
    rfl
  · obtain ⟨t, hx, ht⟩ := h
    have hf : a.finds? body = some t := Action.finds?_eq_some.mpr ⟨hx, ht⟩
    obtain ⟨hblank, hempty⟩ := Action.of_finds? hf
    have hne : t.isEmpty = false := by simpa using ht
    rw [Reconcile.locate, hempty, hblank, found_of_finds? hf]
    simp only [Bool.false_eq_true, if_false, Except.map, hne]
    exact ⟨t, rfl⟩

end Action.Shows

end Actions

end Reconcile
