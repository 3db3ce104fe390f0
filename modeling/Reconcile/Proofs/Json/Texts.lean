import Reconcile.Proofs.Json.Parts

/-!
# Values read back

The reader of JSON texts inverts the writer: the tree of the text of a value is the value itself,
read as a tree.

* `Json.isWhole` — a value whose numbers are integers.
* `Json.draft` — a value as a tree, its entries in the order in which they are.
* `spells_toString`, `spells_quotedChars` — the texts of integers and strings.
* `spells_chars` — a written value is read back, wherever it stands.
* `ofText_compact` — the tree of the text of a value.
-/

namespace Reconcile.Json

mutual

/-- Whether all numbers in a value are integers. -/
def isWhole : Json → Bool
  | .number (.real _) => false
  | .array items => itemsWhole items
  | .object entries => entriesWhole entries
  | _ => true

/-- Whether all numbers in some items are integers. -/
def itemsWhole : List Json → Bool
  | [] => true
  | v :: vs => v.isWhole && itemsWhole vs

/-- Whether all numbers in some entries are integers. -/
def entriesWhole : List (String × Json) → Bool
  | [] => true
  | (_, v) :: es => v.isWhole && entriesWhole es

end

theorem itemsWhole_iff {vs : List Json} : itemsWhole vs = true ↔ ∀ v ∈ vs, v.isWhole = true := by
  induction vs with
  | nil => simp [itemsWhole]
  | cons v vs ih => rw [itemsWhole, Bool.and_eq_true, ih, List.forall_mem_cons]

mutual

/-- A value as a tree. -/
def draft : Json → Draft
  | .null => .null
  | .bool b => .bool b
  | .number n => .number (some n)
  | .string s => .string (some s)
  | .array items => .array (itemsDraft items)
  | .object entries => .object (entriesDraft entries)

/-- Items as a tree. -/
def itemsDraft : List Json → Items
  | [] => .closed
  | v :: vs => .cons v.draft (itemsDraft vs)

/-- Entries as a tree. -/
def entriesDraft : List (String × Json) → Fields
  | [] => .closed
  | (k, v) :: es => .cons (some k) v.draft (entriesDraft es)

end

/-! ## How values are written -/

theorem itemsDraft_eq (vs : List Json) : itemsDraft vs = .ofList (vs.map draft) := by
  induction vs with
  | nil => rw [itemsDraft, List.map_nil, Items.ofList]
  | cons v vs ih => rw [itemsDraft, List.map_cons, Items.ofList, ih]

theorem entriesDraft_eq (es : List (String × Json)) :
    entriesDraft es = .ofList (es.map fun e => (some e.1, e.2.draft)) := by
  induction es with
  | nil => rw [entriesDraft, List.map_nil, Fields.ofList]
  | cons e es ih =>
    obtain ⟨k, v⟩ := e
    rw [entriesDraft, List.map_cons, Fields.ofList, ih]

/-- Items are written one by one, with commas in between. -/
theorem itemChars_eq (vs : List Json) : itemChars vs = separated (vs.map chars) := by
  induction vs with
  | nil => rw [itemChars, List.map_nil, separated]
  | cons v vs ih =>
    cases vs with
    | nil => rw [itemChars]; rfl
    | cons w vs =>
      have hnext : itemChars (v :: w :: vs) = chars v ++ ',' :: itemChars (w :: vs) := by
        rw [itemChars]
        simp
      rw [hnext, ih]
      rfl

/-- Entries are written one by one, with commas in between. -/
theorem entryChars_eq (es : List (String × Json)) :
    entryChars es = separated ((es.map fun e => (quotedChars e.1, chars e.2)).map entryText) := by
  induction es with
  | nil => rw [entryChars, List.map_nil, List.map_nil, separated]
  | cons e es ih =>
    obtain ⟨k, v⟩ := e
    cases es with
    | nil => rw [entryChars]; rfl
    | cons e es =>
      have hnext : entryChars ((k, v) :: e :: es) =
          entryText (quotedChars k, chars v) ++ ',' :: entryChars (e :: es) := by
        rw [entryChars, entryText]
        · simp
        · simp
      rw [hnext, ih]
      rfl

/-! ## Values read back -/

theorem readValue_toString (fuel : Nat) (i : Int) :
    readValue (fuel + 1) (toString i).toList = (.number (Literal.ofInt i).number?, []) := by
  rw [toList_toString, Literal.ofInt]
  by_cases hneg : i < 0
  · rw [if_pos hneg, decide_eq_true hneg]
    show scalar .number (readNumber true (Nat.toDigits 10 i.natAbs)) = _
    rw [readNumber_toDigits]
    rfl
  · obtain ⟨c, t, ht, hc⟩ := toDigits_eq_cons i.natAbs
    rw [if_neg hneg, decide_eq_false hneg, ht, readValue_digits fuel hc, ← ht, readNumber_toDigits]
    rfl

/-- **A written integer is read back** as its spelling, whether it fits or not. -/
theorem spells_toString (i : Int) :
    Spells (toString i).toList (.number (Literal.ofInt i).number?) := by
  have hread : readValue 1 (toString i).toList = (_, [] ++ []) := readValue_toString 0 i
  obtain ⟨x, hx, hspells⟩ := (readValue_local 1).spells hread rfl (by simp)
  rw [List.append_nil] at hx
  exact hx ▸ hspells

/-- **A written string is read back.** -/
theorem spells_quotedChars (s : String) : Spells (quotedChars s) (.string (some s)) := by
  have hblank : ∀ c ∈ ([] : List Char), isSpace c = true := by simp
  have hread : ∀ fuel more, (s.toList.flatMap escaped ++ ['"']).length ≤ fuel →
      readString fuel (some []) (s.toList.flatMap escaped ++ ['"'] ++ more) =
        .ok (some s, more) := by
    intro fuel more hf
    have hlength := length_le_flatMap_escaped s.toList
    rw [List.length_append, List.length_singleton] at hf
    rw [List.append_assoc]
    exact readString_toList (by omega) more
  have hspells := spells_string hblank hblank hread
  rwa [List.append_nil] at hspells

mutual

/-- **A written value is read back**, wherever it stands. -/
theorem spells_chars : ∀ v : Json, v.isWhole = true → Spells (chars v) v.draft
  | .null, _ => by
    rw [chars, draft]
    exact spells_word (c := 'n') (w := "ull".toList) (by simp [words])
  | .bool true, _ => by
    rw [chars, draft]
    exact spells_word (c := 't') (w := "rue".toList) (by simp [words])
  | .bool false, _ => by
    rw [chars, draft]
    exact spells_word (c := 'f') (w := "alse".toList) (by simp [words])
  | .number (.integer i), _ => by
    have hspells := spells_toString i.value
    rw [number?_ofInt] at hspells
    rwa [chars, draft, Number.text]
  | .number (.real x), hw => by cases hw
  | .string s, _ => by
    rw [chars, draft]
    exact spells_quotedChars s
  | .array items, hw => by
    rw [chars, draft, itemChars_eq, itemsDraft_eq]
    exact spells_array (spells_items items hw)
  | .object entries, hw => by
    rw [chars, draft, entryChars_eq, entriesDraft_eq]
    exact spells_object (spells_entries entries hw)

/-- **Written items are read back.** -/
theorem spells_items : ∀ vs : List Json, itemsWhole vs = true →
    List.Forall₂ Spells (vs.map chars) (vs.map draft)
  | [], _ => .nil
  | v :: vs, hw => by
    obtain ⟨hv, hvs⟩ := Bool.and_eq_true_iff.mp hw
    exact .cons (spells_chars v hv) (spells_items vs hvs)

/-- **Written entries are read back.** -/
theorem spells_entries : ∀ es : List (String × Json), entriesWhole es = true →
    List.Forall₂ SpellsEntry (es.map fun e => (quotedChars e.1, chars e.2))
      (es.map fun e => (some e.1, e.2.draft))
  | [], _ => .nil
  | (k, v) :: es, hw => by
    obtain ⟨hv, hes⟩ := Bool.and_eq_true_iff.mp hw
    exact .cons ⟨spells_quotedChars k, spells_chars v hv⟩ (spells_entries es hes)

end

/-- **The tree of the text of a value** is the value. -/
theorem ofText_compact {v : Json} (h : v.isWhole = true) :
    Draft.ofText v.compact = (v.draft, false) :=
  (spells_chars v h).ofText

end Reconcile.Json
