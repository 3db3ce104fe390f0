import Mathlib
import Reconcile.Proofs.Json.Scalars

/-!
# Integers and reals as they are written

A real is written with a point or an exponent, an integer with neither. So an integer comes out of a
reader and a writer as it went in exactly when the reader takes it for an integer.

* `Binary64.mark_mem_text` — the text of a real has a point or an exponent in it.
* `Number.text_eq_toString_iff` — the numbers that are written as an integer is.
* `text_of_number?_ofInt` — an integer keeps its digits exactly when it fits.
-/

namespace Reconcile

/-! ## Written reals -/

namespace Binary64

theorem point_mem_positional (digits : List Char) (before : Int) :
    '.' ∈ positional digits before := by
  unfold positional
  split
  · simp
  · simp

theorem mark_mem_scientific (digits : List Char) (exponent : Int) :
    'e' ∈ scientific digits exponent := by
  unfold scientific
  simp

/-- **A real is written with a point or an exponent.** -/
theorem mark_mem_text (x : Binary64) : ∃ c ∈ x.text.toList, c = '.' ∨ c = 'e' := by
  have hbody : ∀ body : List Char, (∃ c ∈ body, c = '.' ∨ c = 'e') →
      ∃ c ∈ (if x.negative then '-' :: body else body), c = '.' ∨ c = 'e' := by
    rintro body ⟨c, hc, hmark⟩
    refine ⟨c, ?_, hmark⟩
    split
    · exact List.mem_cons_of_mem _ hc
    · exact hc
  unfold text
  rw [String.toList_ofList]
  apply hbody
  split
  · exact ⟨'.', by simp, .inl rfl⟩
  · split
    · exact ⟨'.', point_mem_positional _ _, .inl rfl⟩
    · exact ⟨'e', mark_mem_scientific _ _, .inr rfl⟩

end Binary64

/-! ## Written integers -/

theorem isDigit_of_mem_toString {i : Int} {c : Char} (h : c ∈ (toString i).toList) :
    c = '-' ∨ Text.isDigit c = true := by
  rw [Json.toList_toString] at h
  split at h
  · rcases List.mem_cons.mp h with rfl | h
    · exact .inl rfl
    · exact .inr (Json.isDigit_of_mem_toDigits h)
  · exact .inr (Json.isDigit_of_mem_toDigits h)

theorem Binary64.text_ne_toString (x : Binary64) (i : Int) : x.text ≠ toString i := by
  intro h
  obtain ⟨c, hc, hmark⟩ := x.mark_mem_text
  rw [h] at hc
  rcases isDigit_of_mem_toString hc with rfl | hdigit
  · rcases hmark with hmark | hmark <;> cases hmark
  · rcases hmark with rfl | rfl <;> cases hdigit

/-- **The numbers that are written as an integer is**: only that integer. -/
theorem Number.text_eq_toString_iff {n : Number} {i : Int} :
    n.text = toString i ↔ ∃ j : Integer, n = .integer j ∧ j.value = i := by
  cases n with
  | integer j =>
    have hrepr : toString j.value = toString i ↔ j.value = i := Int.repr_inj
    rw [text, hrepr]
    constructor
    · intro h
      exact ⟨j, rfl, h⟩
    · rintro ⟨_, hj, h⟩
      cases hj
      exact h
  | real x =>
    refine iff_of_false (x.text_ne_toString i) ?_
    rintro ⟨j, hj, -⟩
    cases hj

theorem toList_toString_ne_nil (i : Int) : (toString i).toList ≠ [] := by
  rw [Json.toList_toString]
  split
  · exact List.cons_ne_nil _ _
  · exact Nat.toDigits_ne_nil

theorem Number.text_ne_empty (n : Number) : n.text ≠ "" := by
  intro h
  have hnil : n.text.toList = [] := String.toList_eq_nil_iff.mpr h
  cases n with
  | integer j => exact toList_toString_ne_nil j.value hnil
  | real x =>
    obtain ⟨c, hc, -⟩ := x.mark_mem_text
    have hnil : x.text.toList = [] := hnil
    rw [hnil] at hc
    cases hc

/-! ## Integers read -/

namespace Json

/-- **An integer keeps its digits exactly when it fits.** -/
theorem text_of_number?_ofInt {i : Int} {n : Number} (h : (Literal.ofInt i).number? = some n) :
    n.text = toString i ↔ -(1 <<< 63 : Nat) ≤ i ∧ i < (1 <<< 64 : Nat) := by
  rw [Number.text_eq_toString_iff]
  constructor
  · rintro ⟨j, rfl, rfl⟩
    exact j.fits
  · intro hfits
    refine ⟨⟨i, hfits⟩, ?_, rfl⟩
    have hread := number?_ofInt ⟨i, hfits⟩
    exact Option.some.inj (h.symm.trans hread)

end Json

end Reconcile
