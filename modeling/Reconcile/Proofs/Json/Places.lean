import Reconcile.Proofs.Json.Parts
import Reconcile.Proofs.Tables
import Reconcile.Query.Evaluation

/-!
# Places in a text

A text in brackets and braces has a place for each of its parts. The value of a part is found at its
place in the value of the whole, and whatever is found there is the value of such a part.

* `spells_of_ofText?`, `ofText?_of_spells` — a JSON text spells a tree that has its value.
* `Draft.json_eq_array`, `Draft.json_eq_object` — the trees of arrays and objects.
* `Stands` — a text stands at a place in another one, among other JSON texts.
* `Stands.value` — what is found at the place of a text is its value.
* `exists_stands` — what is found at a place is the value of a text that stands there.
-/

namespace Reconcile

/-- A step that does not count from the end. -/
def Query.Step.IsForward : Query.Step → Prop
  | .name _ => True
  | .index i => 0 ≤ i

namespace Json

/-! ## Values of trees -/

section Values

mutual

/-- A tree that may nest deeper has the same value. -/
theorem Draft.json_mono : ∀ {d : Draft} {limit limit' : Nat} {v : Json},
    d.json limit = .ok v → limit ≤ limit' → d.json limit' = .ok v
  | .null, _, _, _, h, _ | .bool _, _, _, _, h, _ | .number (some _), _, _, _, h, _
  | .string (some _), _, _, _, h, _ => by rw [Draft.json] at h ⊢; exact h
  | .number none, _, _, _, h, _ | .string none, _, _, _, h, _ | .broken _, _, _, _, h, _ => by
    rw [Draft.json] at h; cases h
  | .array items, limit, limit', v, h, hl => by
    rw [Draft.json] at h ⊢
    split at h
    · cases h
    · obtain ⟨vs, hvs, h⟩ := of_bind_eq_ok h
      rw [if_neg (by omega), Items.json_mono hvs (by omega)]
      exact h
  | .object fields, limit, limit', v, h, hl => by
    rw [Draft.json] at h ⊢
    split at h
    · cases h
    · obtain ⟨es, hes, h⟩ := of_bind_eq_ok h
      rw [if_neg (by omega), Fields.json_mono hes (by omega)]
      exact h

theorem Items.json_mono : ∀ {items : Items} {limit limit' : Nat} {vs : List Json},
    items.json limit = .ok vs → limit ≤ limit' → items.json limit' = .ok vs
  | .closed, _, _, _, h, _ => by rw [Items.json] at h ⊢; exact h
  | .stop _, _, _, _, h, _ => by rw [Items.json] at h; cases h
  | .cons item rest, limit, limit', vs, h, hl => by
    rw [Items.json] at h ⊢
    obtain ⟨v, hv, h⟩ := of_bind_eq_ok h
    obtain ⟨more, hmore, h⟩ := of_bind_eq_ok h
    rw [Draft.json_mono hv hl]
    show (rest.json limit' >>= _) = _
    rw [Items.json_mono hmore hl]
    exact h

theorem Fields.json_mono : ∀ {fields : Fields} {limit limit' : Nat}
    {soFar es : List (String × Json)},
    fields.json limit soFar = .ok es → limit ≤ limit' → fields.json limit' soFar = .ok es
  | .closed, _, _, _, _, h, _ => by rw [Fields.json] at h ⊢; exact h
  | .stop _, _, _, _, _, h, _ | .stray _, _, _, _, _, h, _
  | .cons none _ _, _, _, _, _, h, _ => by rw [Fields.json] at h; cases h
  | .cons (some name) value rest, limit, limit', soFar, es, h, hl => by
    rw [Fields.json] at h ⊢
    obtain ⟨v, hv, h⟩ := of_bind_eq_ok h
    rw [Draft.json_mono hv hl]
    exact Fields.json_mono h hl

end

theorem Items.json_eq : ∀ {items : Items} {limit : Nat} {vs : List Json},
    items.json limit = .ok vs → ∃ ds, items = ofList ds ∧
      List.Forall₂ (fun d v => d.json limit = .ok v) ds vs
  | .closed, _, _, h => by
    rw [Items.json] at h
    cases h
    exact ⟨[], rfl, .nil⟩
  | .stop _, _, _, h => by rw [Items.json] at h; cases h
  | .cons item rest, limit, vs, h => by
    rw [Items.json] at h
    obtain ⟨v, hv, h⟩ := of_bind_eq_ok h
    obtain ⟨more, hmore, h⟩ := of_bind_eq_ok h
    cases h
    obtain ⟨ds, rfl, hds⟩ := Items.json_eq hmore
    exact ⟨item :: ds, rfl, .cons hv hds⟩

theorem Fields.json_eq : ∀ {fields : Fields} {limit : Nat} {soFar es : List (String × Json)},
    fields.json limit soFar = .ok es → ∃ ds, fields = ofList ds ∧
      ∀ e ∈ ds, ∃ k v, e.1 = some k ∧ e.2.json limit = .ok v
  | .closed, _, _, _, h => ⟨[], rfl, by simp⟩
  | .stop _, _, _, _, h | .stray _, _, _, _, h | .cons none _ _, _, _, _, h => by
    rw [Fields.json] at h; cases h
  | .cons (some name) value rest, limit, soFar, es, h => by
    rw [Fields.json] at h
    obtain ⟨v, hv, h⟩ := of_bind_eq_ok h
    obtain ⟨ds, rfl, hds⟩ := Fields.json_eq h
    exact ⟨(some name, value) :: ds, rfl, List.forall_mem_cons.mpr ⟨⟨name, v, rfl, hv⟩, hds⟩⟩

variable {d : Draft} {limit : Nat}

/-- **The tree of an array** has the trees of the items. -/
theorem Draft.json_eq_array {vs : List Json} (h : d.json limit = .ok (.array vs)) :
    ∃ ds, d = .array (.ofList ds) ∧ 1 < limit ∧
      List.Forall₂ (fun d v => d.json (limit - 1) = .ok v) ds vs := by
  cases d with
  | array items =>
    rw [Draft.json] at h
    split at h
    · cases h
    · obtain ⟨vs', hvs, h⟩ := of_bind_eq_ok h
      cases h
      obtain ⟨ds, rfl, hds⟩ := Items.json_eq hvs
      exact ⟨ds, rfl, by omega, hds⟩
  | object fields =>
    rw [Draft.json] at h
    split at h
    · cases h
    · obtain ⟨es, -, h⟩ := of_bind_eq_ok h
      cases h
  | number n => cases n <;> rw [Draft.json] at h <;> cases h
  | string s => cases s <;> rw [Draft.json] at h <;> cases h
  | _ => rw [Draft.json] at h; cases h

/-- **The tree of an object** has the trees of the entries. -/
theorem Draft.json_eq_object {es : List (String × Json)} (h : d.json limit = .ok (.object es)) :
    ∃ ds, d = .object (.ofList ds) ∧ 1 < limit ∧ (Fields.ofList ds).json (limit - 1) [] = .ok es ∧
      ∀ e ∈ ds, ∃ k v, e.1 = some k ∧ e.2.json (limit - 1) = .ok v := by
  cases d with
  | object fields =>
    rw [Draft.json] at h
    split at h
    · cases h
    · obtain ⟨es', hes, h⟩ := of_bind_eq_ok h
      cases h
      obtain ⟨ds, rfl, hds⟩ := Fields.json_eq hes
      exact ⟨ds, rfl, by omega, hes, hds⟩
  | array items =>
    rw [Draft.json] at h
    split at h
    · cases h
    · obtain ⟨vs, -, h⟩ := of_bind_eq_ok h
      cases h
  | number n => cases n <;> rw [Draft.json] at h <;> cases h
  | string s => cases s <;> rw [Draft.json] at h <;> cases h
  | _ => rw [Draft.json] at h; cases h

/-- A tree with a value has no break. -/
theorem Draft.isBroken_of_json {v : Json} (h : d.json limit = .ok v) : d.isBroken = false := by
  cases d with
  | array items =>
    rw [Draft.json] at h
    split at h
    · cases h
    · obtain ⟨vs, hvs, -⟩ := of_bind_eq_ok h
      obtain ⟨ds, rfl, -⟩ := Items.json_eq hvs
      exact go_ofList ds
  | object fields =>
    rw [Draft.json] at h
    split at h
    · cases h
    · obtain ⟨es, hes, -⟩ := of_bind_eq_ok h
      obtain ⟨ds, rfl, -⟩ := Fields.json_eq hes
      exact goFields_ofList ds
  | broken b => rw [Draft.json] at h; cases h
  | _ => rfl

/-- **Every JSON text spells a tree**, whose value is its value. -/
theorem spells_of_ofText? {s : String} {v : Json} (h : ofText? s = some v) :
    ∃ d, Spells s.toList d ∧ d.json depthLimit = .ok v := by
  unfold ofText? Draft.ofText at h
  dsimp only at h
  split at h
  · rename_i d hread
    obtain ⟨hd, hrest⟩ := Prod.mk.inj hread
    have hjson : d.json depthLimit = .ok v := by
      cases hj : d.json depthLimit with
      | error f => rw [hj] at h; cases h
      | ok u => rw [hj] at h; cases h; rfl
    obtain ⟨blanks, hblanks, hr⟩ := exists_blank_append
      (readValue (2 * s.toList.length + 2) s.toList).2
    have hnil : skipSpace (readValue (2 * s.toList.length + 2) s.toList).2 = [] := by
      simpa using hrest
    rw [hnil] at hr
    obtain ⟨x, hx, hspells⟩ := (readValue_local _).spells (Prod.ext hd hr)
      (Draft.isBroken_of_json hjson) hblanks
    rw [List.append_nil] at hx
    exact ⟨d, hx ▸ hspells, hjson⟩
  · cases h

theorem ofText?_of_spells {cs : List Char} {v : Json} (h : Spells cs d)
    (hv : d.json depthLimit = .ok v) : ofText? (String.ofList cs) = some v := by
  rw [ofText?, h.ofText]
  dsimp only
  rw [hv]
  rfl

end Values

/-! ## Values of parts -/

section Parts

variable {limit : Nat} {d : Draft}

/-- Entries of other names do not matter. -/
theorem find?_of_fields {name : String} {back : List (Option String × Draft)}
    {soFar es : List (String × Json)} (hback : ∀ e ∈ back, e.1 ≠ some name)
    (h : (Fields.ofList back).json limit soFar = .ok es) :
    es.find? (fun e => e.1 == name) = soFar.find? fun e => e.1 == name := by
  induction back generalizing soFar with
  | nil =>
    rw [Fields.ofList, Fields.json] at h
    cases h
    rfl
  | cons e back ih =>
    obtain ⟨_ | k, x⟩ := e
    · rw [Fields.ofList, Fields.json] at h
      cases h
    obtain ⟨hk, hback⟩ := List.forall_mem_cons.mp hback
    rw [Fields.ofList, Fields.json] at h
    obtain ⟨u, -, h⟩ := of_bind_eq_ok h
    have hne : name ≠ k := fun heq => hk (congrArg some heq.symm)
    rw [ih hback h, Table.find?_set_of_ne hne]

/-- **The last entry of a name** gives its value. -/
theorem find?_of_last {name : String} {front back : List (Option String × Draft)}
    {soFar es : List (String × Json)} (hback : ∀ e ∈ back, e.1 ≠ some name)
    (h : (Fields.ofList (front ++ (some name, d) :: back)).json limit soFar = .ok es) :
    ∃ v, d.json limit = .ok v ∧ es.find? (fun e => e.1 == name) = some (name, v) := by
  induction front generalizing soFar with
  | nil =>
    rw [List.nil_append, Fields.ofList, Fields.json] at h
    obtain ⟨v, hv, h⟩ := of_bind_eq_ok h
    exact ⟨v, hv, by rw [find?_of_fields hback h, Table.find?_set_self]⟩
  | cons e front ih =>
    obtain ⟨_ | k, x⟩ := e
    · rw [List.cons_append, Fields.ofList, Fields.json] at h
      cases h
    · rw [List.cons_append, Fields.ofList, Fields.json] at h
      obtain ⟨u, -, h⟩ := of_bind_eq_ok h
      exact ih h

theorem exists_last_or_forall_ne {α β : Type} [DecidableEq α] (a : α) (l : List (α × β)) :
    (∀ e ∈ l, e.1 ≠ a) ∨ ∃ front b back, l = front ++ (a, b) :: back ∧ ∀ e ∈ back, e.1 ≠ a := by
  induction l with
  | nil => exact .inl (by simp)
  | cons e l ih =>
    rcases ih with h | ⟨front, b, back, rfl, hback⟩
    · by_cases he : e.1 = a
      · exact .inr ⟨[], e.2, l, by rw [← he]; rfl, h⟩
      · exact .inl (List.forall_mem_cons.mpr ⟨he, h⟩)
    · exact .inr ⟨e :: front, b, back, rfl, hback⟩

/-- Where the entries give a name a value, one of them is the last of this name. -/
theorem exists_last_of_find? {name : String} {ds : List (Option String × Draft)}
    {es : List (String × Json)} {v : Json} (h : (Fields.ofList ds).json limit [] = .ok es)
    (hv : es.find? (fun e => e.1 == name) = some (name, v)) :
    ∃ front d back, ds = front ++ (some name, d) :: back ∧ (∀ e ∈ back, e.1 ≠ some name) ∧
      d.json limit = .ok v := by
  rcases exists_last_or_forall_ne (some name) ds with hnone | ⟨front, d, back, rfl, hback⟩
  · rw [find?_of_fields hnone h] at hv
    cases hv
  · obtain ⟨u, hu, hfound⟩ := find?_of_last hback h
    rw [hv] at hfound
    cases hfound
    exact ⟨front, d, back, rfl, hback, hu⟩

end Parts

/-! ## Places -/

/-- A text that is JSON. -/
def IsText (cs : List Char) : Prop :=
  (ofText? (String.ofList cs)).isSome = true

instance (cs : List Char) : Decidable (IsText cs) :=
  inferInstanceAs (Decidable (_ = true))

/-- A text that spells a name. -/
def Names (cs : List Char) (name : String) : Prop :=
  ofText? (String.ofList cs) = some (.string name)

instance (cs : List Char) (name : String) : Decidable (Names cs name) :=
  inferInstanceAs (Decidable (_ = some _))

/-- A text stands at a place in another one: between blanks, as an item of an array among other
items, or as the value of an entry among other entries, of which no later one has its name. -/
inductive Stands (t : List Char) : List Query.Step → List Char → Prop
  | here {before after : List Char} (hbefore : ∀ c ∈ before, isSpace c = true)
      (hafter : ∀ c ∈ after, isSpace c = true) : Stands t [] (before ++ t ++ after)
  | item {steps : List Query.Step} {before cs after : List Char} {front back : List (List Char)}
      (hbefore : ∀ c ∈ before, isSpace c = true) (hafter : ∀ c ∈ after, isSpace c = true)
      (hfront : ∀ x ∈ front, IsText x) (hback : ∀ x ∈ back, IsText x)
      (h : Stands t steps cs) :
      Stands t (.index front.length :: steps)
        (before ++ '[' :: (separated (front ++ cs :: back) ++ ']' :: after))
  | entry {steps : List Query.Step} {before key cs after : List Char} {name : String}
      {front back : List (List Char × List Char)}
      (hbefore : ∀ c ∈ before, isSpace c = true) (hafter : ∀ c ∈ after, isSpace c = true)
      (hfront : ∀ e ∈ front, IsText e.2 ∧ ∃ k, Names e.1 k)
      (hback : ∀ e ∈ back, IsText e.2 ∧ ∃ k, Names e.1 k ∧ k ≠ name)
      (hkey : Names key name) (h : Stands t steps cs) :
      Stands t (.name name :: steps)
        (before ++ '\x7b' :: (separated ((front ++ (key, cs) :: back).map entryText) ++
          '\x7d' :: after))

theorem isText_iff {cs : List Char} :
    IsText cs ↔ ∃ d v, Spells cs d ∧ d.json depthLimit = .ok v := by
  constructor
  · intro h
    obtain ⟨v, hv⟩ := Option.isSome_iff_exists.mp h
    obtain ⟨d, hd, hjson⟩ := spells_of_ofText? hv
    rw [String.toList_ofList] at hd
    exact ⟨d, v, hd, hjson⟩
  · rintro ⟨d, v, hd, hv⟩
    rw [IsText, ofText?_of_spells hd hv]
    rfl

theorem names_iff {cs : List Char} {name : String} :
    Names cs name ↔ Spells cs (.string (some name)) := by
  constructor
  · intro h
    obtain ⟨d, hd, hjson⟩ := spells_of_ofText? h
    rw [String.toList_ofList] at hd
    have heq : d = .string (some name) := by
      cases d with
      | string s =>
        cases s with
        | none => rw [Draft.json] at hjson; cases hjson
        | some s => rw [Draft.json] at hjson; cases hjson; rfl
      | number n => cases n <;> rw [Draft.json] at hjson <;> cases hjson
      | array items =>
        rw [Draft.json] at hjson
        split at hjson
        · cases hjson
        · obtain ⟨vs, -, h⟩ := of_bind_eq_ok hjson
          cases h
      | object fields =>
        rw [Draft.json] at hjson
        split at hjson
        · cases hjson
        · obtain ⟨vs, -, h⟩ := of_bind_eq_ok hjson
          cases h
      | _ => rw [Draft.json] at hjson; cases hjson
    exact heq ▸ hd
  · intro h
    exact ofText?_of_spells h (by rw [Draft.json])

/-! ## What stands at a place -/

section Steps

variable {limit : Nat} {d : Draft} {doc : Json}

theorem take?_index {front back : List Draft}
    (h : (Draft.array (.ofList (front ++ d :: back))).json limit = .ok doc) :
    ∃ v, d.json (limit - 1) = .ok v ∧ (Query.Step.index front.length).take? doc = some v := by
  rw [Draft.json] at h
  split at h
  · cases h
  obtain ⟨vs, hvs, h⟩ := of_bind_eq_ok h
  cases h
  obtain ⟨ds, hds, hall⟩ := Items.json_eq hvs
  rw [← items_ofList_injective hds] at hall
  have hlength : front.length < vs.length := by
    rw [← hall.length_eq]
    simp
  have hvalue := hall.get (i := front.length) (by simp) hlength
  refine ⟨vs[front.length], by simpa using hvalue, ?_⟩
  rw [Query.Step.take?, Query.item?, if_pos (by omega), Int.toNat_natCast,
    List.getElem?_eq_getElem hlength]

theorem take?_name {name : String} {front back : List (Option String × Draft)}
    (hback : ∀ e ∈ back, e.1 ≠ some name)
    (h : (Draft.object (.ofList (front ++ (some name, d) :: back))).json limit = .ok doc) :
    ∃ v, d.json (limit - 1) = .ok v ∧ (Query.Step.name name).take? doc = some v := by
  rw [Draft.json] at h
  split at h
  · cases h
  obtain ⟨es, hes, h⟩ := of_bind_eq_ok h
  cases h
  obtain ⟨v, hv, hfound⟩ := find?_of_last hback hes
  refine ⟨v, hv, ?_⟩
  rw [Query.Step.take?, Query.valueAt?, hfound]
  rfl

theorem exists_of_forall₂ {α β : Type} {R : α → β → Prop} {xs : List α} {ys : List β}
    (h : List.Forall₂ R xs ys) : ∀ x ∈ xs, ∃ y ∈ ys, R x y := by
  induction h with
  | nil => simp
  | @cons x y xs ys hxy _ ih =>
    refine List.forall_mem_cons.mpr ⟨⟨y, List.mem_cons_self, hxy⟩, fun a ha => ?_⟩
    obtain ⟨b, hb, hab⟩ := ih a ha
    exact ⟨b, List.mem_cons_of_mem _ hb, hab⟩

theorem forall₂_append_cons {α β : Type} {R : α → β → Prop} {xs : List α} {front back : List β}
    {b : β} (h : List.Forall₂ R xs (front ++ b :: back)) :
    ∃ fs a bs, xs = fs ++ a :: bs ∧ List.Forall₂ R fs front ∧ R a b ∧ List.Forall₂ R bs back := by
  have hfront := List.forall₂_take_append xs front (b :: back) h
  have hrest := List.forall₂_drop_append xs front (b :: back) h
  obtain ⟨a, bs, hab, hback, hdrop⟩ := List.forall₂_cons_right_iff.mp hrest
  exact ⟨_, a, bs, by rw [← hdrop, List.take_append_drop], hfront, hab, hback⟩

/-- Where an index leads to a value, the tree is that of an array with an item there. -/
theorem exists_of_take?_index {i : Int} {v : Json} (hi : 0 ≤ i)
    (h : d.json limit = .ok doc) (hv : (Query.Step.index i).take? doc = some v) :
    ∃ front d' back, d = .array (.ofList (front ++ d' :: back)) ∧ i = front.length ∧
      (∀ x ∈ front ++ back, ∃ u, x.json (limit - 1) = .ok u) ∧ d'.json (limit - 1) = .ok v := by
  cases doc with
  | array vs =>
    obtain ⟨ds, rfl, -, hall⟩ := Draft.json_eq_array h
    rw [Query.Step.take?, Query.item?, if_pos hi] at hv
    obtain ⟨hlength, rfl⟩ := List.getElem?_eq_some_iff.mp hv
    have hlength' : i.toNat < ds.length := hall.length_eq ▸ hlength
    have hsplit : ds.take i.toNat ++ ds[i.toNat] :: ds.drop (i.toNat + 1) = ds := by
      rw [List.getElem_cons_drop, List.take_append_drop]
    refine ⟨ds.take i.toNat, ds[i.toNat], ds.drop (i.toNat + 1), by rw [hsplit], ?_, ?_,
      hall.get hlength' hlength⟩
    · rw [List.length_take_of_le (by omega)]
      omega
    · intro x hx
      have hmem : x ∈ ds := by
        rcases List.mem_append.mp hx with hx | hx
        · exact List.mem_of_mem_take hx
        · exact List.mem_of_mem_drop hx
      obtain ⟨u, -, hu⟩ := exists_of_forall₂ hall x hmem
      exact ⟨u, hu⟩
  | _ => cases hv

/-- Where a name leads to a value, the tree is that of an object with a last entry of this name. -/
theorem exists_of_take?_name {name : String} {v : Json} (h : d.json limit = .ok doc)
    (hv : (Query.Step.name name).take? doc = some v) :
    ∃ front d' back, d = .object (.ofList (front ++ (some name, d') :: back)) ∧
      (∀ e ∈ front ++ back, ∃ k u, e.1 = some k ∧ e.2.json (limit - 1) = .ok u) ∧
      (∀ e ∈ back, e.1 ≠ some name) ∧ d'.json (limit - 1) = .ok v := by
  cases doc with
  | object es =>
    obtain ⟨ds, rfl, -, hes, hall⟩ := Draft.json_eq_object h
    obtain ⟨⟨k, u⟩, hfound, rfl⟩ := Option.map_eq_some_iff.mp hv
    obtain rfl : k = name := by simpa using List.find?_some hfound
    obtain ⟨front, d', back, rfl, hback, hd'⟩ := exists_last_of_find? hes hfound
    refine ⟨front, d', back, rfl, fun e he => hall e ?_, hback, hd'⟩
    rcases List.mem_append.mp he with he | he
    · exact List.mem_append_left _ he
    · exact List.mem_append_right _ (List.mem_cons_of_mem _ he)
  | _ => cases hv

end Steps

theorem exists_forall₂ {α β : Type} {P : β → Prop} {R : α → β → Prop} {xs : List α}
    (h : ∀ x ∈ xs, ∃ y, P y ∧ R x y) : ∃ ys, (∀ y ∈ ys, P y) ∧ List.Forall₂ R xs ys := by
  induction xs with
  | nil => exact ⟨[], by simp, .nil⟩
  | cons x xs ih =>
    obtain ⟨⟨y, hp, hr⟩, hxs⟩ := List.forall_mem_cons.mp h
    obtain ⟨ys, hps, hrs⟩ := ih hxs
    exact ⟨y :: ys, List.forall_mem_cons.mpr ⟨hp, hps⟩, .cons hr hrs⟩

theorem exists_spellsEntry {e : List Char × List Char} {name : String} (htext : IsText e.2)
    (hname : Names e.1 name) : ∃ d, SpellsEntry e (some name, d) := by
  obtain ⟨d, -, hd, -⟩ := isText_iff.mp htext
  exact ⟨d, names_iff.mp hname, hd⟩

/-- Around a text of a tree there is the text of another tree, in whose value the value of the first
one is found. -/
theorem Stands.spells {t cs : List Char} {steps : List Query.Step} {d₀ : Draft} (ht : Spells t d₀)
    (h : Stands t steps cs) :
    ∃ d, Spells cs d ∧ ∀ limit doc, d.json limit = .ok doc →
      ∃ limit' v, limit' ≤ limit ∧ d₀.json limit' = .ok v ∧
        steps.foldlM (fun v s => s.take? v) doc = some v := by
  induction h with
  | here hbefore hafter =>
    exact ⟨d₀, ht.padded hbefore hafter, fun limit doc hdoc => ⟨limit, doc, le_rfl, hdoc, rfl⟩⟩
  | @item steps before cs after front back hbefore hafter hfront hback h ih =>
    obtain ⟨d, hd, hvalue⟩ := ih
    have hspells : ∀ xs : List (List Char), (∀ x ∈ xs, IsText x) →
        ∃ ds, (∀ d ∈ ds, True) ∧ List.Forall₂ Spells xs ds := by
      intro xs hxs
      refine exists_forall₂ fun x hx => ?_
      obtain ⟨d, -, hd, -⟩ := isText_iff.mp (hxs x hx)
      exact ⟨d, trivial, hd⟩
    obtain ⟨fs, -, hfs⟩ := hspells front hfront
    obtain ⟨bs, -, hbs⟩ := hspells back hback
    have hall := List.rel_append hfs (.cons hd hbs)
    refine ⟨_, (spells_array_iff (by simp)).mpr ⟨before, _, after, hbefore, hafter, hall, rfl⟩,
      fun limit doc hdoc => ?_⟩
    obtain ⟨v, hv, htake⟩ := take?_index hdoc
    obtain ⟨limit', u, hl, hu, hsteps⟩ := hvalue (limit - 1) v hv
    refine ⟨limit', u, by omega, hu, ?_⟩
    rw [List.foldlM_cons, hfs.length_eq, htake]
    exact hsteps
  | @entry steps before key cs after name front back hbefore hafter hfront hback hkey h ih =>
    obtain ⟨d, hd, hvalue⟩ := ih
    obtain ⟨fs, -, hfs⟩ : ∃ fs : List (Option String × Draft), (∀ d ∈ fs, True) ∧
        List.Forall₂ SpellsEntry front fs := by
      refine exists_forall₂ fun e he => ?_
      obtain ⟨htext, k, hk⟩ := hfront e he
      obtain ⟨d, hd⟩ := exists_spellsEntry htext hk
      exact ⟨_, trivial, hd⟩
    obtain ⟨bs, hother, hbs⟩ : ∃ bs : List (Option String × Draft),
        (∀ d ∈ bs, d.1 ≠ some name) ∧ List.Forall₂ SpellsEntry back bs := by
      refine exists_forall₂ fun e he => ?_
      obtain ⟨htext, k, hk, hne⟩ := hback e he
      obtain ⟨d, hd⟩ := exists_spellsEntry htext hk
      exact ⟨_, fun heq => hne (Option.some.inj heq), hd⟩
    have hentry : SpellsEntry (key, cs) (some name, d) := ⟨names_iff.mp hkey, hd⟩
    have hall := List.rel_append hfs (.cons hentry hbs)
    refine ⟨_, (spells_object_iff (by simp)).mpr ⟨before, _, after, hbefore, hafter, hall, rfl⟩,
      fun limit doc hdoc => ?_⟩
    obtain ⟨v, hv, htake⟩ := take?_name hother hdoc
    obtain ⟨limit', u, hl, hu, hsteps⟩ := hvalue (limit - 1) v hv
    refine ⟨limit', u, by omega, hu, ?_⟩
    rw [List.foldlM_cons, htake]
    exact hsteps

/-- **What is found at the place of a text is its value.** -/
theorem Stands.value {t s : String} {steps : List Query.Step} {d : Draft} {doc : Json}
    (h : Stands t.toList steps s.toList) (ht : Spells t.toList d) (hs : ofText? s = some doc) :
    ∃ v, d.json depthLimit = .ok v ∧ steps.foldlM (fun v s => s.take? v) doc = some v := by
  obtain ⟨d₁, hd₁, hjson⟩ := spells_of_ofText? hs
  obtain ⟨d₂, hd₂, hvalue⟩ := h.spells ht
  rw [hd₁.unique hd₂] at hjson
  obtain ⟨limit, v, hl, hv, hsteps⟩ := hvalue _ doc hjson
  exact ⟨v, Draft.json_mono hv hl, hsteps⟩

theorem Spells.exists_stands {steps : List Query.Step} {cs : List Char} {d : Draft} {limit : Nat}
    {doc v : Json} (hforward : ∀ s ∈ steps, s.IsForward) (h : Spells cs d)
    (hl : limit ≤ depthLimit) (hdoc : d.json limit = .ok doc)
    (hsteps : steps.foldlM (fun v s => s.take? v) doc = some v) :
    ∃ t d', Stands t steps cs ∧ Spells t d' ∧ d'.json depthLimit = .ok v := by
  induction steps generalizing cs d limit doc with
  | nil =>
    cases hsteps
    have hnone : ∀ c ∈ ([] : List Char), isSpace c = true := by simp
    have hhere := Stands.here (t := cs) hnone hnone
    rw [List.nil_append, List.append_nil] at hhere
    exact ⟨cs, d, hhere, h, Draft.json_mono hdoc hl⟩
  | cons step steps ih =>
    obtain ⟨hstep, hlater⟩ := List.forall_mem_cons.mp hforward
    rw [List.foldlM_cons] at hsteps
    obtain ⟨u, hu, hnext⟩ := Option.bind_eq_some_iff.mp hsteps
    have htext : ∀ x d, Spells x d → (∃ u, d.json (limit - 1) = .ok u) → IsText x := by
      rintro x d hx ⟨u, hu⟩
      exact isText_iff.mpr ⟨d, u, hx, Draft.json_mono hu (by omega)⟩
    cases step with
    | index i =>
      obtain ⟨front, d', back, rfl, hi, hall, hd'⟩ := exists_of_take?_index hstep hdoc hu
      obtain ⟨before, xs, after, hbefore, hafter, hxs, rfl⟩ := (spells_array_iff (by simp)).mp h
      obtain ⟨fs, x, bs, rfl, hfs, hx, hbs⟩ := forall₂_append_cons hxs
      obtain ⟨t, d'', hstands, ht, hv⟩ := ih hlater hx (by omega) hd' hnext
      refine ⟨t, d'', ?_, ht, hv⟩
      rw [hi, ← hfs.length_eq]
      refine .item hbefore hafter (fun y hy => ?_) (fun y hy => ?_) hstands
      · obtain ⟨e, he, hye⟩ := exists_of_forall₂ hfs y hy
        exact htext y e hye (hall e (List.mem_append_left _ he))
      · obtain ⟨e, he, hye⟩ := exists_of_forall₂ hbs y hy
        exact htext y e hye (hall e (List.mem_append_right _ he))
    | name name =>
      obtain ⟨front, d', back, rfl, hall, hlast, hd'⟩ := exists_of_take?_name hdoc hu
      obtain ⟨before, es, after, hbefore, hafter, hes, rfl⟩ := (spells_object_iff (by simp)).mp h
      obtain ⟨fs, ⟨key, x⟩, bs, rfl, hfs, ⟨hkey, hx⟩, hbs⟩ := forall₂_append_cons hes
      obtain ⟨t, d'', hstands, ht, hv⟩ := ih hlater hx (by omega) hd' hnext
      have hentry : ∀ e d, SpellsEntry e d →
          (∃ k u, d.1 = some k ∧ d.2.json (limit - 1) = .ok u) →
          IsText e.2 ∧ ∃ k, Names e.1 k ∧ d.1 = some k := by
        rintro e ⟨name', d⟩ ⟨hname, hvalue⟩ ⟨k, u, hk, hu⟩
        cases hk
        exact ⟨htext e.2 d hvalue ⟨u, hu⟩, k, names_iff.mpr hname, rfl⟩
      refine ⟨t, d'', .entry hbefore hafter (fun e he => ?_) (fun e he => ?_)
        (names_iff.mpr hkey) hstands, ht, hv⟩
      · obtain ⟨d, hd, hed⟩ := exists_of_forall₂ hfs e he
        obtain ⟨he, k, hk, -⟩ := hentry e d hed (hall d (List.mem_append_left _ hd))
        exact ⟨he, k, hk⟩
      · obtain ⟨d, hd, hed⟩ := exists_of_forall₂ hbs e he
        obtain ⟨he, k, hk, hdk⟩ := hentry e d hed (hall d (List.mem_append_right _ hd))
        refine ⟨he, k, hk, fun heq => hlast d hd ?_⟩
        rw [hdk, heq]

/-- **Whatever is found at a place is the value of a text that stands there.** -/
theorem exists_stands {s : String} {steps : List Query.Step} {doc v : Json}
    (hforward : ∀ s ∈ steps, s.IsForward) (hs : ofText? s = some doc)
    (hsteps : steps.foldlM (fun v s => s.take? v) doc = some v) :
    ∃ t : String, Stands t.toList steps s.toList ∧ ofText? t = some v := by
  obtain ⟨d, hd, hdoc⟩ := spells_of_ofText? hs
  obtain ⟨t, d', hstands, ht, hv⟩ := hd.exists_stands hforward le_rfl hdoc hsteps
  exact ⟨String.ofList t, by rwa [String.toList_ofList], ofText?_of_spells ht hv⟩

end Json

end Reconcile
