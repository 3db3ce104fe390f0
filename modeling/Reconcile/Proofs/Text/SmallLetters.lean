import Mathlib.Logic.Basic
import Reconcile.Text.SmallLetters

/-!
# Small letters and ASCII

* `lower_lower` — small letters stay as they are.
* `toSmall_of_ascii` — the small letters of an ASCII text are those of `lower`.
* `toSmall_eq_empty_iff` — only the empty text has no small letters.
* `small_of_not_ascii` — characters beyond ASCII become `i` or `k`, or stay beyond ASCII.
* `sameIgnoringCase_toSmall` — so the small letters of a text are an ASCII word without `i` and
  `k` exactly when the text is that word, in any case.
-/

namespace Reconcile.Text

theorem toNat_char {n : Nat} (h : n.isValidChar) : (Char.ofNat n).toNat = n := by
  rw [Char.ofNat, dif_pos h]
  rfl

theorem toNat_lowerChar (c : Char) :
    (lowerChar c).toNat = if 65 ≤ c.toNat ∧ c.toNat ≤ 90 then c.toNat + 32 else c.toNat := by
  have hcapital : ('A' ≤ c && c ≤ 'Z') = true ↔ 65 ≤ c.toNat ∧ c.toNat ≤ 90 := by
    rw [Bool.and_eq_true, decide_eq_true_eq, decide_eq_true_eq]
    rfl
  simp only [lowerChar, hcapital]
  split
  · rename_i h
    exact toNat_char (.inl (by omega))
  · rfl

theorem lowerChar_lowerChar (c : Char) : lowerChar (lowerChar c) = lowerChar c := by
  rw [← Char.toNat_inj, toNat_lowerChar, if_neg]
  rw [toNat_lowerChar]
  split <;> omega

/-- Small letters stay as they are. -/
theorem lower_lower (s : String) : lower (lower s) = lower s := by
  simp only [lower, String.toList_ofList, List.map_map]
  exact congrArg String.ofList (List.map_congr_left fun c _ => lowerChar_lowerChar c)

/-- The small letters of an ASCII text. -/
theorem toSmall_of_ascii {s : String} (h : ∀ c ∈ s.toList, c.toNat < 0x80) :
    toSmall s = lower s := by
  have hsmall : ∀ c ∈ s.toList, small c = [lowerChar c] := fun c hc => if_pos (h c hc)
  rw [toSmall, lower, List.map_eq_flatMap, List.flatMap_def, List.flatMap_def,
    List.map_congr_left hsmall]

theorem small_ne_nil (c : Char) : small c ≠ [] := by
  simp only [small]
  split
  · exact List.cons_ne_nil _ _
  · split
    · exact List.cons_ne_nil _ _
    · split <;> exact List.cons_ne_nil _ _

theorem toSmall_eq_empty_iff {s : String} : toSmall s = "" ↔ s = "" := by
  rw [toSmall, ← String.toList_inj, String.toList_ofList, ← String.toList_inj]
  show s.toList.flatMap small = [] ↔ s.toList = []
  rw [List.flatMap_eq_nil_iff, List.eq_nil_iff_forall_not_mem]
  exact forall₂_congr fun c _ => iff_false_intro (small_ne_nil c)

/-- Among the small letters of a character beyond ASCII is one that is beyond ASCII too, or `i`
or `k`. -/
theorem small_of_not_ascii {c : Char} (h : 0x80 ≤ c.toNat) :
    ∃ d ∈ small c, d = 'i' ∨ d = 'k' ∨ 0x80 ≤ d.toNat := by
  -- the image of a range is one letter, or lies beyond ASCII and on one side of the surrogates
  have himages : ∀ r ∈ capitalRanges, r.2.1 = r.1 ∧ r.2.2.2 = 'k'.toNat ∨
      0x80 ≤ r.2.2.2 ∧ (r.2.2.2 + (r.2.1 - r.1) < 0xD800 ∨
        0xDFFF < r.2.2.2 ∧ r.2.2.2 + (r.2.1 - r.1) < 0x110000) := by
    decide +kernel
  simp only [small]
  rw [if_neg (by omega)]
  split
  · exact ⟨'i', List.mem_cons_self, .inl rfl⟩
  · split
    · rename_i first last step image hr
      have hin := List.find?_some hr
      simp only [Bool.and_eq_true, decide_eq_true_eq] at hin
      obtain ⟨⟨hfirst, hlast⟩, -⟩ := hin
      refine ⟨_, List.mem_cons_self, .inr ?_⟩
      rcases himages _ (List.mem_of_find?_eq_some hr) with ⟨hone, hk⟩ | ⟨hlow, hhigh⟩
      · left
        dsimp only at hone hk
        rw [hk, show c.toNat - first = 0 by omega]
        rfl
      · right
        dsimp only at hlow hhigh
        rw [toNat_char (by unfold Nat.isValidChar; omega)]
        omega
    · exact ⟨c, List.mem_cons_self, .inr (.inr h)⟩

/-- **A word in any case**: the small letters of a text are an ASCII word without `i` and `k`
exactly when the text is that word. -/
theorem sameIgnoringCase_toSmall {word : String}
    (hword : ∀ c ∈ (lower word).toList, c.toNat < 0x80 ∧ c ≠ 'i' ∧ c ≠ 'k') (s : String) :
    sameIgnoringCase (toSmall s) word = sameIgnoringCase s word := by
  by_cases h : ∀ c ∈ s.toList, c.toNat < 0x80
  · rw [toSmall_of_ascii h, sameIgnoringCase, lower_lower, ← sameIgnoringCase]
  · -- a character beyond ASCII shows in both spellings
    obtain ⟨c, hc, hbeyond⟩ : ∃ c ∈ s.toList, 0x80 ≤ c.toNat := by
      simpa only [not_forall, Nat.not_lt, exists_prop] using h
    have hnot : ∀ t : String, (∃ d ∈ t.toList, d = 'i' ∨ d = 'k' ∨ 0x80 ≤ d.toNat) →
        sameIgnoringCase t word = false := by
      rintro t ⟨d, hd, hodd⟩
      rw [sameIgnoringCase, beq_eq_false_iff_ne]
      intro heq
      have hsmall : lowerChar d = d := by
        rw [← Char.toNat_inj, toNat_lowerChar]
        rcases hodd with rfl | rfl | hodd
        · rfl
        · rfl
        · rw [if_neg (by omega)]
      have hmem : d ∈ (lower word).toList := by
        rw [← heq, lower, String.toList_ofList]
        exact List.mem_map.mpr ⟨d, hd, hsmall⟩
      obtain ⟨hascii, hi, hk⟩ := hword d hmem
      rcases hodd with rfl | rfl | hodd
      · exact hi rfl
      · exact hk rfl
      · omega
    rw [hnot s ⟨c, hc, .inr (.inr hbeyond)⟩, hnot]
    obtain ⟨d, hd, hodd⟩ := small_of_not_ascii hbeyond
    rw [toSmall, String.toList_ofList]
    exact ⟨d, List.mem_flatMap.mpr ⟨c, hc, hd⟩, hodd⟩

end Reconcile.Text
