import Reconcile.Proofs.Json.Numbers
import Reconcile.Proofs.Json.Values

/-!
# Values on one line

A value is written without line breaks, whatever its names and strings hold.

* `Json.OneLine` — a text without control characters.
* `escaped_oneLine`, `quotedChars_oneLine`, `toString_oneLine` — characters, strings and integers;
  `chars_oneLine` — every value whose numbers are integers.
* `compact_oneLine` — the text of such a value.
-/

namespace Reconcile.Json

/-- A text that stays on its line: it has no line break, nor any other character below the space. -/
def OneLine (cs : List Char) : Prop :=
  ∀ c ∈ cs, ' ' ≤ c

instance (cs : List Char) : Decidable (OneLine cs) :=
  List.decidableBAll (' ' ≤ ·) cs

theorem le_hexDigitLower : ∀ d < 16, ' ' ≤ Text.hexDigitLower d := by
  decide

theorem oneLine_append {cs ds : List Char} (hc : OneLine cs) (hd : OneLine ds) :
    OneLine (cs ++ ds) :=
  List.forall_mem_append.mpr ⟨hc, hd⟩

theorem oneLine_cons {c : Char} {cs : List Char} (hc : ' ' ≤ c) (hcs : OneLine cs) :
    OneLine (c :: cs) :=
  List.forall_mem_cons.mpr ⟨hc, hcs⟩

/-- **Every character is written on one line.** -/
theorem escaped_oneLine (c : Char) : OneLine (escaped c) := by
  unfold escaped
  split
  case h_8 =>
    split
    · rename_i hc
      have hhigh := le_hexDigitLower (c.toNat / 16) (by omega)
      have hlow := le_hexDigitLower (c.toNat % 16) (by omega)
      have hmark : OneLine ['\\', 'u', '0', '0'] := by decide
      exact oneLine_append hmark (oneLine_cons hhigh (oneLine_cons hlow (by decide)))
    · rename_i hc
      have hle : ' ' ≤ c := by
        rw [Char.le_def, UInt32.le_iff_toNat_le]
        exact Nat.le_of_not_lt hc
      exact oneLine_cons hle (by decide)
  all_goals decide

/-- **Every string is written on one line.** -/
theorem quotedChars_oneLine (s : String) : OneLine (quotedChars s) := by
  have hinside : OneLine (s.toList.flatMap escaped) := by
    intro c hc
    obtain ⟨d, -, hc⟩ := List.mem_flatMap.mp hc
    exact escaped_oneLine d c hc
  have hquote : OneLine ['"'] := by decide
  exact oneLine_append hquote (oneLine_append hinside hquote)

theorem toString_oneLine (i : Int) : OneLine (toString i).toList := by
  intro c hc
  rcases isDigit_of_mem_toString hc with rfl | hdigit
  · decide
  · rw [Text.isDigit, Bool.and_eq_true, decide_eq_true_eq] at hdigit
    exact Char.le_trans (by decide) hdigit.1

theorem separated_oneLine {xs : List (List Char)} (h : ∀ x ∈ xs, OneLine x) :
    OneLine (separated xs) := by
  induction xs with
  | nil => decide
  | cons x xs ih =>
    obtain ⟨hx, hxs⟩ := List.forall_mem_cons.mp h
    cases xs with
    | nil => exact hx
    | cons y xs => exact oneLine_append hx (oneLine_cons (by decide) (ih hxs))

mutual

/-- **A value is written on one line.** -/
theorem chars_oneLine : ∀ v : Json, v.isWhole = true → OneLine (chars v)
  | .null, _ => by rw [chars]; decide
  | .bool true, _ => by rw [chars]; decide
  | .bool false, _ => by rw [chars]; decide
  | .number (.integer i), _ => by
    rw [chars]
    exact toString_oneLine i.value
  | .number (.real x), hw => by cases hw
  | .string s, _ => by
    rw [chars]
    exact quotedChars_oneLine s
  | .array items, hw => by
    have hitems := separated_oneLine (items_oneLine items hw)
    rw [chars, itemChars_eq]
    exact oneLine_cons (by decide) (oneLine_append hitems (by decide))
  | .object entries, hw => by
    have hentries := separated_oneLine (entries_oneLine entries hw)
    rw [chars, entryChars_eq]
    exact oneLine_cons (by decide) (oneLine_append hentries (by decide))

theorem items_oneLine : ∀ vs : List Json, itemsWhole vs = true → ∀ x ∈ vs.map chars, OneLine x
  | [], _ => by simp
  | v :: vs, hw => by
    obtain ⟨hv, hvs⟩ := Bool.and_eq_true_iff.mp hw
    exact List.forall_mem_cons.mpr ⟨chars_oneLine v hv, items_oneLine vs hvs⟩

theorem entries_oneLine : ∀ es : List (String × Json), entriesWhole es = true →
    ∀ x ∈ (es.map fun e => (quotedChars e.1, chars e.2)).map entryText, OneLine x
  | [], _ => by simp
  | (k, v) :: es, hw => by
    obtain ⟨hv, hes⟩ := Bool.and_eq_true_iff.mp hw
    have hentry : OneLine (quotedChars k ++ ':' :: chars v) :=
      oneLine_append (quotedChars_oneLine k) (oneLine_cons (by decide) (chars_oneLine v hv))
    exact List.forall_mem_cons.mpr ⟨hentry, entries_oneLine es hes⟩

end

/-- **The text of a value stays on one line.** -/
theorem compact_oneLine {v : Json} (h : v.isWhole = true) : OneLine v.compact.toList := by
  rw [compact, String.toList_ofList]
  exact chars_oneLine v h

end Reconcile.Json
