import Reconcile.Proofs.Json.Parts

/-!
# Objects as they are printed

An object can be printed with any blanks around its braces, its names and its values.

* `ObjectText`, `ListText` — the text of an object with some entries, and of an array with some
  items; `spells_iff_objectText` — the texts of a tree are those of its entries, and no others.
* `Spells.passOver` — whatever is read as a tree can be passed over, however deep it nests and
  whether or not its numbers and strings have values.
-/

namespace Reconcile.Json

/-! ## Texts of objects and arrays -/

/-- The text of an object with some entries. -/
def ObjectText (es : List (List Char × List Char)) (cs : List Char) : Prop :=
  ∃ before inside after, (∀ c ∈ before, isSpace c = true) ∧ (∀ c ∈ after, isSpace c = true) ∧
    cs = before ++ '\x7b' :: (inside ++ '\x7d' :: after) ∧
    (es = [] ∧ (∀ c ∈ inside, isSpace c = true) ∨
      es ≠ [] ∧ inside = separated (es.map entryText))

/-- The text of an array with some items, which is not empty. -/
def ListText (xs : List (List Char)) (cs : List Char) : Prop :=
  xs ≠ [] ∧ ∃ before after, (∀ c ∈ before, isSpace c = true) ∧ (∀ c ∈ after, isSpace c = true) ∧
    cs = before ++ '[' :: (separated xs ++ ']' :: after)

section Texts

variable {cs : List Char}

/-- **The texts of an object without entries** have blanks between the braces. -/
theorem spells_noFields_iff :
    Spells cs (.object .closed) ↔ ∃ before inside after, (∀ c ∈ before, isSpace c = true) ∧
      (∀ c ∈ after, isSpace c = true) ∧ (∀ c ∈ inside, isSpace c = true) ∧
      cs = before ++ '\x7b' :: (inside ++ '\x7d' :: after) := by
  constructor
  · intro h
    obtain ⟨fuel, before, c, t, rest, hbefore, hrest, rfl, hreading⟩ := h.reading
    cases hreading with
    | word hw _ => simp [words] at hw
    | noFields hskip =>
      obtain ⟨inside, hinside, ht⟩ := exists_blank_append t
      rw [hskip] at ht
      exact ⟨before, inside, rest, hbefore, hrest, hinside, by rw [← ht]⟩
    | fields hskip hread hf =>
      obtain ⟨es, ds, hne, hes, hds, -⟩ :=
        readFields_parts (fun n _ => readValue_local n) hskip hread hf
      cases hes with
      | nil => exact absurd rfl hne
      | cons _ _ => cases hds
  · rintro ⟨before, inside, after, hbefore, hafter, hinside, rfl⟩
    have hbraces : Spells ('\x7b' :: (inside ++ ['\x7d'])) (.object .closed) := by
      refine ⟨rfl, fun fuel more hf _ => ⟨more, ?_, rfl⟩⟩
      obtain ⟨fuel, rfl⟩ : ∃ n, fuel = n + 1 := ⟨fuel - 1, by omega⟩
      have hskip : skipSpace (inside ++ '\x7d' :: more) = '\x7d' :: more := by
        rw [skipSpace_of_blank hinside, skipSpace_cons (by decide)]
      simpa using readValue_noFields hskip
    simpa using hbraces.padded hbefore hafter

/-- **The texts of an object** are those of its entries. -/
theorem spells_iff_objectText {ds : List (Option String × Draft)} :
    Spells cs (.object (.ofList ds)) ↔ ∃ es, ObjectText es cs ∧ List.Forall₂ SpellsEntry es ds := by
  cases ds with
  | nil =>
    show Spells cs (.object .closed) ↔ _
    rw [spells_noFields_iff]
    constructor
    · rintro ⟨before, inside, after, hbefore, hafter, hinside, rfl⟩
      exact ⟨[], ⟨before, inside, after, hbefore, hafter, rfl, .inl ⟨rfl, hinside⟩⟩, .nil⟩
    · rintro ⟨es, ⟨before, inside, after, hbefore, hafter, rfl, hinside⟩, hes⟩
      cases hes
      rcases hinside with ⟨-, hinside⟩ | ⟨hne, -⟩
      · exact ⟨before, inside, after, hbefore, hafter, hinside, rfl⟩
      · exact absurd rfl hne
  | cons d ds =>
    rw [spells_object_iff (List.cons_ne_nil d ds)]
    constructor
    · rintro ⟨before, es, after, hbefore, hafter, hes, rfl⟩
      refine ⟨es, ⟨before, _, after, hbefore, hafter, rfl, .inr ⟨?_, rfl⟩⟩, hes⟩
      rintro rfl
      cases hes
    · rintro ⟨es, ⟨before, inside, after, hbefore, hafter, rfl, hinside⟩, hes⟩
      rcases hinside with ⟨rfl, -⟩ | ⟨-, rfl⟩
      · cases hes
      · exact ⟨before, es, after, hbefore, hafter, hes, rfl⟩

theorem ListText.spells {xs : List (List Char)} {ds : List Draft} (h : ListText xs cs)
    (hds : List.Forall₂ Spells xs ds) : Spells cs (.array (.ofList ds)) := by
  obtain ⟨hne, before, after, hbefore, hafter, rfl⟩ := h
  refine (spells_array_iff ?_).mpr ⟨before, xs, after, hbefore, hafter, hds, rfl⟩
  rintro rfl
  cases hds
  exact hne rfl

end Texts

/-! ## Values that are passed over -/

/-- What is read without a break can be passed over. -/
theorem passOver_of_read (fuel : Nat) :
    (∀ cs d rest, readValue fuel cs = (d, rest) → d.isBroken = false → d.passOver = .ok ()) ∧
    (∀ cs items rest, readItems fuel cs = (items, rest) → Draft.isBroken.go items = false →
      items.passOver = .ok ()) ∧
    ∀ cs fields rest, readFields fuel cs = (fields, rest) →
      Draft.isBroken.goFields fields = false → fields.passOver = .ok () := by
  induction fuel with
  | zero =>
    refine ⟨?_, ?_, ?_⟩
    all_goals
      intro cs x rest h hx
      cases h
      cases hx
  | succ fuel ih =>
    obtain ⟨hvalue, hitems, hfields⟩ := ih
    refine ⟨fun cs d rest h hd => ?_, fun cs items rest h hi => ?_, fun cs fields rest h hf => ?_⟩
    · obtain ⟨c, t, -, hreading⟩ := reading_of_readValue h hd
      cases hreading with
      | word hw _ =>
        simp only [words, List.mem_cons, Prod.mk.injEq, List.not_mem_nil, or_false] at hw
        rcases hw with ⟨-, -, rfl⟩ | ⟨-, -, rfl⟩ | ⟨-, -, rfl⟩ <;> rw [Draft.passOver] <;> simp
      | negative _ | digits _ _ | string _ => rw [Draft.passOver] <;> simp
      | noItems _ => rw [Draft.passOver, Items.passOver]
      | noFields _ => rw [Draft.passOver, Fields.passOver]
      | items hread hi =>
        rw [Draft.passOver]
        exact hitems _ _ _ hread hi
      | fields _ hread hf =>
        rw [Draft.passOver]
        exact hfields _ _ _ hread hf
    · obtain ⟨d, r, hv, hd, ⟨-, rfl⟩ | ⟨t, items', -, hmore, hi', rfl⟩⟩ := readItems_cases h hi
      · rw [Items.passOver, hvalue _ _ _ hv hd, Items.passOver]
        rfl
      · rw [Items.passOver, hvalue _ _ _ hv hd, hitems _ _ _ hmore hi']
        rfl
    · obtain ⟨name, r, r₁, d, r₂, -, -, hv, hd, hmore⟩ := readFields_cases h hf
      rcases hmore with ⟨-, rfl⟩ | ⟨r₃, t, fields', -, -, hmore, hf', rfl⟩
      · rw [Fields.passOver, hvalue _ _ _ hv hd, Fields.passOver]
        rfl
      · rw [Fields.passOver, hvalue _ _ _ hv hd, hfields _ _ _ hmore hf']
        rfl

/-- **Whatever is read as a tree can be passed over.** -/
theorem Spells.passOver {cs : List Char} {d : Draft} (h : Spells cs d) : d.passOver = .ok () := by
  obtain ⟨rest, hread, -⟩ := h.reads _ [] le_rfl apart_nil
  exact (passOver_of_read _).1 _ _ _ hread h.whole

end Reconcile.Json
