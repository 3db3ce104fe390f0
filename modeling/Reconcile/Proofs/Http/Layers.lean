import Mathlib.Data.List.Induction
import Reconcile.Http.Headers
import Reconcile.Proofs.Tables

/-!
# Headers in layers

Headers that are set one after the other cover those of the same name below them, in whatever case
the names are spelled.

* `Headers.mem_set` — the entries after a header was set.
* `Topmost` — an entry that nothing above covers; `topmost_concat` — with one more entry on top.
* `Headers.mem_setAll` — the headers that were set are the topmost entries.
* `Headers.pairwise_setAll` — their names differ, whatever the case.
-/

namespace Reconcile

/-- An entry that nothing above covers: no later one has its name, in whatever case. -/
def Topmost (layers : List (String × String)) (e : String × String) : Prop :=
  ∃ below above, layers = below ++ e :: above ∧
    ∀ x ∈ above, Text.sameIgnoringCase x.1 e.1 = false

section Layers

variable {layers : List (String × String)} {e x y : String × String}

theorem sameIgnoringCase_comm (s t : String) :
    Text.sameIgnoringCase s t = Text.sameIgnoringCase t s := by
  rw [Bool.eq_iff_iff, Text.sameIgnoringCase_iff, Text.sameIgnoringCase_iff]
  exact eq_comm

theorem not_topmost_nil : ¬ Topmost [] e := by
  rintro ⟨below, above, h, _⟩
  simp at h

/-- **One more entry on top** covers those of its name and no others. -/
theorem topmost_concat :
    Topmost (layers ++ [x]) e ↔
      e = x ∨ Topmost layers e ∧ Text.sameIgnoringCase x.1 e.1 = false := by
  constructor
  · rintro ⟨below, above, h, hcover⟩
    rcases above.eq_nil_or_concat with hnil | ⟨above, y, hconcat⟩
    · rw [hnil] at h
      exact .inl (List.head_eq_of_cons_eq (List.append_inj' h rfl).2).symm
    · subst hconcat
      rw [List.concat_eq_append, ← List.cons_append, ← List.append_assoc] at h
      obtain ⟨hlayers, hx⟩ := List.append_inj' h rfl
      cases hx
      exact .inr ⟨⟨below, above, hlayers, fun z hz => hcover z (by simp [hz])⟩,
        hcover x (by simp)⟩
  · rintro (rfl | ⟨⟨below, above, rfl, hcover⟩, hx⟩)
    · exact ⟨layers, [], rfl, by simp⟩
    · refine ⟨below, above ++ [x], by simp, fun z hz => ?_⟩
      rcases List.mem_append.mp hz with hz | hz
      · exact hcover z hz
      · rw [List.mem_singleton.mp hz]
        exact hx

/-- Of each name there is one topmost entry. -/
theorem Topmost.eq_of_same (hx : Topmost layers x) (hy : Topmost layers y)
    (h : Text.sameIgnoringCase x.1 y.1 = true) : x = y := by
  induction layers using List.reverseRecOn with
  | nil => exact absurd hx not_topmost_nil
  | append_singleton below z ih =>
    rcases topmost_concat.mp hx with rfl | ⟨hx, hzx⟩ <;>
      rcases topmost_concat.mp hy with rfl | ⟨hy, hzy⟩
    · rfl
    · rw [h] at hzy
      cases hzy
    · rw [sameIgnoringCase_comm, h] at hzx
      cases hzx
    · exact ih hx hy

end Layers

namespace Headers

variable {h : Headers} {layers : List (String × String)} {name value : String}
  {e : String × String}

/-- The entries after a header was set: the new one, and those of other names. -/
theorem mem_set :
    e ∈ (h.set name value).entries ↔
      e = (name, value) ∨ e ∈ h.entries ∧ Text.sameIgnoringCase e.1 name = false := by
  rw [set, Table.mem_insert]
  refine or_congr_right ?_
  rw [Table.filterNames, List.mem_filter, Bool.not_eq_true']
  constructor
  · exact fun h => h.1
  · intro he
    refine ⟨he, fun hn => ?_⟩
    rw [hn, Text.sameIgnoringCase_refl] at he
    cases he.2

theorem setAll_append (h : Headers) (below above : List (String × String)) :
    h.setAll (below ++ above) = (h.setAll below).setAll above :=
  List.foldl_append

/-- **The headers that were set are the topmost entries.** -/
theorem mem_setAll : e ∈ (setAll {} layers).entries ↔ Topmost layers e := by
  induction layers using List.reverseRecOn generalizing e with
  | nil => exact iff_of_false List.not_mem_nil not_topmost_nil
  | append_singleton below x ih =>
    rw [setAll_append, topmost_concat, ← ih, sameIgnoringCase_comm]
    exact mem_set

/-- **Their names differ, whatever the case.** -/
theorem pairwise_setAll :
    (setAll {} layers).entries.Pairwise
      fun a b => Text.sameIgnoringCase a.1 b.1 = false := by
  refine (setAll {} layers).ascending.imp_of_mem fun {a b} ha hb hlt => ?_
  rw [← Bool.not_eq_true]
  intro hsame
  have hab := (mem_setAll.mp ha).eq_of_same (mem_setAll.mp hb) hsame
  exact String.lt_irrefl b.1 (hab ▸ hlt)

end Headers

end Reconcile
