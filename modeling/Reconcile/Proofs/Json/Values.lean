import Reconcile.Proofs.Json.Texts

/-!
# Trees of values

* `Json.depth` — how deep arrays and objects nest in a value.
* `Json.arranged` — a value as the reader makes it: the entries of objects are in ascending order of
  their names, and of a repeated name only the last is left.
* `json_draft_arranged` — the tree of a value has the arranged value, wherever it is not nested too
  deep; `ofText?_compact_arranged` — so its text is read as that.
* `Json.isAscending` — a value that is so already; `json_draft`, `ofText?_compact` — it is read
  back.
-/

namespace Reconcile

/-- A name that comes after all others is put at the end. -/
theorem Table.set_of_forall_lt {α : Type} {name : String} {value : α} {es : List (String × α)}
    (h : ∀ e ∈ es, e.1 < name) : Table.set name value es = es ++ [(name, value)] := by
  induction es with
  | nil => rfl
  | cons e es ih =>
    obtain ⟨k, v⟩ := e
    obtain ⟨hk, hes⟩ := List.forall_mem_cons.mp h
    have hne : ¬ name = k := fun heq => String.lt_irrefl k (heq ▸ hk)
    have hlt : ¬ name < k := fun hlt => String.lt_irrefl k (String.lt_trans hk hlt)
    rw [Table.set, if_neg hne, if_neg hlt, ih hes]
    rfl

namespace Json

mutual

/-- How deep arrays and objects nest in a value. -/
def depth : Json → Nat
  | .array items => itemsDepth items + 1
  | .object entries => entriesDepth entries + 1
  | _ => 0

/-- How deep they nest in some items. -/
def itemsDepth : List Json → Nat
  | [] => 0
  | v :: vs => max v.depth (itemsDepth vs)

/-- How deep they nest in some entries. -/
def entriesDepth : List (String × Json) → Nat
  | [] => 0
  | (_, v) :: es => max v.depth (entriesDepth es)

end

theorem itemsDepth_le {vs : List Json} {k : Nat} (h : ∀ v ∈ vs, v.depth ≤ k) :
    itemsDepth vs ≤ k := by
  induction vs with
  | nil => exact Nat.zero_le k
  | cons v vs ih =>
    obtain ⟨hv, hvs⟩ := List.forall_mem_cons.mp h
    exact Nat.max_le.mpr ⟨hv, ih hvs⟩

mutual

/-- A value as the reader makes it: the entries of all objects are in ascending order of their
names, and a repeated name takes its last value. -/
def arranged : Json → Json
  | .null => .null
  | .bool b => .bool b
  | .number n => .number n
  | .string s => .string s
  | .array items => .array (itemsArranged items)
  | .object entries => .object (entriesArranged entries [])

/-- Some items as the reader makes them. -/
def itemsArranged : List Json → List Json
  | [] => []
  | v :: vs => v.arranged :: itemsArranged vs

/-- Some entries as the reader puts them among those before. -/
def entriesArranged : List (String × Json) → List (String × Json) → List (String × Json)
  | [], soFar => soFar
  | (k, v) :: es, soFar => entriesArranged es (Table.set k v.arranged soFar)

end

theorem itemsArranged_eq (vs : List Json) : itemsArranged vs = vs.map arranged := by
  induction vs with
  | nil => rw [itemsArranged, List.map_nil]
  | cons v vs ih => rw [itemsArranged, List.map_cons, ih]

mutual

/-- **The tree of a value has the arranged value.** -/
theorem json_draft_arranged : ∀ (v : Json) {limit : Nat}, v.depth < limit →
    v.draft.json limit = .ok v.arranged
  | .null, _, _ => by rw [draft, Draft.json, arranged]
  | .bool b, _, _ => by rw [draft, Draft.json, arranged]
  | .number n, _, _ => by rw [draft, Draft.json, arranged]
  | .string s, _, _ => by rw [draft, Draft.json, arranged]
  | .array items, limit, hd => by
    have hd : itemsDepth items + 1 < limit := hd
    rw [draft, Draft.json, if_neg (by omega), json_itemsDraft_arranged items (by omega), arranged]
    rfl
  | .object entries, limit, hd => by
    have hd : entriesDepth entries + 1 < limit := hd
    rw [draft, Draft.json, if_neg (by omega), json_entriesDraft_arranged entries [] (by omega),
      arranged]
    rfl

theorem json_itemsDraft_arranged : ∀ (vs : List Json) {limit : Nat}, itemsDepth vs < limit →
    (itemsDraft vs).json limit = .ok (itemsArranged vs)
  | [], _, _ => by rw [itemsDraft, Items.json, itemsArranged]
  | v :: vs, limit, hd => by
    obtain ⟨hdv, hdvs⟩ := Nat.max_lt.mp hd
    rw [itemsDraft, Items.json, json_draft_arranged v hdv, json_itemsDraft_arranged vs hdvs,
      itemsArranged]
    rfl

theorem json_entriesDraft_arranged : ∀ (es soFar : List (String × Json)) {limit : Nat},
    entriesDepth es < limit → (entriesDraft es).json limit soFar = .ok (entriesArranged es soFar)
  | [], soFar, _, _ => by rw [entriesDraft, Fields.json, entriesArranged]
  | (k, v) :: es, soFar, limit, hd => by
    obtain ⟨hdv, hdes⟩ := Nat.max_lt.mp hd
    rw [entriesDraft, Fields.json, json_draft_arranged v hdv, entriesArranged]
    exact json_entriesDraft_arranged es (Table.set k v.arranged soFar) hdes

end

/-- **A written value is read as the arranged one.** -/
theorem ofText?_compact_arranged {v : Json} (hw : v.isWhole = true) (hd : v.depth < depthLimit) :
    ofText? v.compact = some v.arranged := by
  rw [ofText?, ofText_compact hw]
  show (v.draft.json depthLimit).toOption = some v.arranged
  rw [json_draft_arranged v hd]
  rfl

/-! ## Values that are arranged already -/

mutual

/-- Whether the entries of all objects in a value are in ascending order of their names. -/
def isAscending : Json → Bool
  | .array items => itemsAscending items
  | .object entries => decide (entries.Pairwise fun a b => a.1 < b.1) && entriesAscending entries
  | _ => true

/-- Whether they are so in some items. -/
def itemsAscending : List Json → Bool
  | [] => true
  | v :: vs => v.isAscending && itemsAscending vs

/-- Whether they are so in the values of some entries. -/
def entriesAscending : List (String × Json) → Bool
  | [] => true
  | (_, v) :: es => v.isAscending && entriesAscending es

end

mutual

/-- Nothing is rearranged in such a value. -/
theorem arranged_of_isAscending : ∀ (v : Json), v.isAscending = true → v.arranged = v
  | .null, _ => by rw [arranged]
  | .bool b, _ => by rw [arranged]
  | .number n, _ => by rw [arranged]
  | .string s, _ => by rw [arranged]
  | .array items, ha => by rw [arranged, itemsArranged_of_itemsAscending items ha]
  | .object entries, ha => by
    obtain ⟨horder, hvalues⟩ := Bool.and_eq_true_iff.mp ha
    have hentries : entriesArranged entries [] = [] ++ entries :=
      entriesArranged_of_entriesAscending entries [] hvalues (by simpa using horder)
    rw [arranged, hentries, List.nil_append]

theorem itemsArranged_of_itemsAscending : ∀ (vs : List Json), itemsAscending vs = true →
    itemsArranged vs = vs
  | [], _ => by rw [itemsArranged]
  | v :: vs, ha => by
    obtain ⟨hv, hvs⟩ := Bool.and_eq_true_iff.mp ha
    rw [itemsArranged, arranged_of_isAscending v hv, itemsArranged_of_itemsAscending vs hvs]

theorem entriesArranged_of_entriesAscending : ∀ (es soFar : List (String × Json)),
    entriesAscending es = true → ((soFar ++ es).Pairwise fun a b => a.1 < b.1) →
    entriesArranged es soFar = soFar ++ es
  | [], soFar, _, _ => by rw [entriesArranged, List.append_nil]
  | (k, v) :: es, soFar, ha, horder => by
    obtain ⟨hv, hes⟩ := Bool.and_eq_true_iff.mp ha
    have hlast : Table.set k v soFar = soFar ++ [(k, v)] :=
      Table.set_of_forall_lt fun e he =>
        (List.pairwise_append.mp horder).2.2 e he (k, v) List.mem_cons_self
    have hrest := entriesArranged_of_entriesAscending es (soFar ++ [(k, v)]) hes
      (by rw [List.append_assoc]; exact horder)
    rw [List.append_assoc] at hrest
    rw [entriesArranged, arranged_of_isAscending v hv, hlast, hrest]
    rfl

end

/-- **The tree of a value that is arranged has that value.** -/
theorem json_draft (v : Json) {limit : Nat} (ha : v.isAscending = true) (hd : v.depth < limit) :
    v.draft.json limit = .ok v := by
  rw [json_draft_arranged v hd, arranged_of_isAscending v ha]

/-- **A value that the reader could have made is read back from its text.** -/
theorem ofText?_compact {v : Json} (hw : v.isWhole = true) (ha : v.isAscending = true)
    (hd : v.depth < depthLimit) : ofText? v.compact = some v := by
  rw [ofText?_compact_arranged hw hd, arranged_of_isAscending v ha]

end Json

end Reconcile
