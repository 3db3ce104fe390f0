import Mathlib.Logic.Relation
import Reconcile.Proofs.Json.Places

/-!
# Where queries find values

Whatever a query finds in a document is inside it, so it has a place there, and in the text of the
document a text stands at this place.

* `Inner` — a value inside another one, however deep.
* `Path.inner_of_mem_findIn` — a query finds such values only.
* `Inner.exists_place` — in a document that was read, steps lead to them.
* `Path.exists_stands` — each of them is the value of a text that stands in the document's text.
-/

namespace Reconcile.Query

/-- A value is inside another one, however deep, or it is the other one. -/
def Inner (v doc : Json) : Prop :=
  Relation.ReflTransGen (fun u w => w ∈ children u) doc v

/-! ## Values that are found -/

section Selections

variable {root u v : Json}

theorem mem_of_mem_spaced {items : List Json} {step stop : Int} {fuel : Nat} {i : Int}
    (h : v ∈ spaced items step stop fuel i) : v ∈ items := by
  induction fuel generalizing i with
  | zero => cases h
  | succ fuel ih =>
    rw [spaced] at h
    split at h
    · rcases List.mem_append.mp h with h | h
      · exact List.mem_of_getElem? (Option.mem_toList.mp h)
      · exact ih h
    · cases h

theorem mem_of_mem_slice {start stop step : Option Int} (h : v ∈ slice start stop step u) :
    v ∈ children u := by
  cases u with
  | array items =>
    rw [slice] at h
    dsimp only at h
    split at h
    · cases h
    · split at h
      · exact mem_of_mem_spaced h
      · exact mem_of_mem_spaced h
  | _ => cases h

/-- A selector selects among the values right inside a value. -/
theorem mem_children_of_select {selector : Selector} (h : v ∈ selector.select root u) :
    v ∈ children u := by
  cases selector with
  | name s =>
    rw [Selector.select, Option.mem_toList] at h
    cases u with
    | object entries =>
      obtain ⟨e, he, rfl⟩ := Option.map_eq_some_iff.mp h
      exact List.mem_map_of_mem (List.mem_of_find?_eq_some he)
    | _ => cases h
  | wildcard => exact h
  | index i =>
    rw [Selector.select, Option.mem_toList] at h
    cases u with
    | array items =>
      rw [item?] at h
      split at h
      · exact List.mem_of_getElem? h
      · split at h
        · exact List.mem_of_getElem? h
        · cases h
    | _ => cases h
  | slice start stop step => exact mem_of_mem_slice h
  | filter f => exact List.mem_of_mem_filter h

theorem mem_children_of_applySelectors {selectors : List Selector}
    (h : v ∈ applySelectors root selectors u) : v ∈ children u := by
  induction selectors with
  | nil => cases h
  | cons selector rest ih =>
    rw [applySelectors] at h
    rcases List.mem_append.mp h with h | h
    · exact mem_children_of_select h
    · exact ih h

end Selections

section Descent

variable {select : Json → List Json} {v : Json}

mutual

/-- What is selected at a value or at one inside it is inside it. -/
theorem inner_of_mem_descend (hselect : ∀ u, v ∈ select u → v ∈ children u) :
    ∀ u, v ∈ descend select u → Inner v u
  | .array items, h => by
    rw [descend] at h
    rcases List.mem_append.mp h with h | h
    · exact .single (hselect _ h)
    · obtain ⟨w, hw, hin⟩ := inner_of_mem_descendItems hselect items h
      exact .head hw hin
  | .object entries, h => by
    rw [descend] at h
    rcases List.mem_append.mp h with h | h
    · exact .single (hselect _ h)
    · obtain ⟨e, he, hin⟩ := inner_of_mem_descendEntries hselect entries h
      exact .head (List.mem_map_of_mem he) hin
  | .null, h | .bool _, h | .number _, h | .string _, h => .single (hselect _ h)

theorem inner_of_mem_descendItems (hselect : ∀ u, v ∈ select u → v ∈ children u) :
    ∀ items, v ∈ descendItems select items → ∃ w ∈ items, Inner v w
  | [], h => by cases h
  | u :: rest, h => by
    rw [descendItems] at h
    rcases List.mem_append.mp h with h | h
    · exact ⟨u, List.mem_cons_self, inner_of_mem_descend hselect u h⟩
    · obtain ⟨w, hw, hin⟩ := inner_of_mem_descendItems hselect rest h
      exact ⟨w, List.mem_cons_of_mem _ hw, hin⟩

theorem inner_of_mem_descendEntries (hselect : ∀ u, v ∈ select u → v ∈ children u) :
    ∀ entries, v ∈ descendEntries select entries → ∃ e ∈ entries, Inner v e.2
  | [], h => by cases h
  | (k, u) :: rest, h => by
    rw [descendEntries] at h
    rcases List.mem_append.mp h with h | h
    · exact ⟨(k, u), List.mem_cons_self, inner_of_mem_descend hselect u h⟩
    · obtain ⟨e, he, hin⟩ := inner_of_mem_descendEntries hselect rest h
      exact ⟨e, List.mem_cons_of_mem _ he, hin⟩

end

end Descent

theorem inner_of_mem_applySegments {root v : Json} {segments : List Segment} {found : List Json}
    (h : v ∈ applySegments root segments found) : ∃ u ∈ found, Inner v u := by
  induction segments generalizing found with
  | nil => exact ⟨v, h, .refl⟩
  | cons segment rest ih =>
    obtain ⟨descendants, selectors⟩ := segment
    rw [applySegments] at h
    obtain ⟨w, hw, hin⟩ := ih h
    obtain ⟨u, hu, hw⟩ := List.mem_flatMap.mp hw
    refine ⟨u, hu, Relation.ReflTransGen.trans ?_ hin⟩
    split at hw
    · exact inner_of_mem_descend (fun _ => mem_children_of_applySelectors) u hw
    · exact .single (mem_children_of_applySelectors hw)

/-- **A query finds values inside the document.** -/
theorem Path.inner_of_mem_findIn {q : Path} {doc v : Json} (h : v ∈ q.findIn doc) :
    Inner v doc := by
  obtain ⟨fromRoot, segments⟩ := q
  rw [Path.findIn, Path.find] at h
  obtain ⟨u, hu, hin⟩ := inner_of_mem_applySegments h
  rw [ite_self, List.mem_singleton] at hu
  exact hu ▸ hin

/-! ## Their places -/

section Places

variable {d : Json.Draft} {limit : Nat} {doc v : Json}

theorem ascending_of_json {ds : List (Option String × Json.Draft)}
    {soFar es : List (String × Json)} (h : (Json.Fields.ofList ds).json limit soFar = .ok es)
    (hsoFar : soFar.Pairwise fun a b => a.1 < b.1) : es.Pairwise fun a b => a.1 < b.1 := by
  induction ds generalizing soFar with
  | nil =>
    rw [Json.Fields.ofList, Json.Fields.json] at h
    cases h
    exact hsoFar
  | cons e ds ih =>
    obtain ⟨_ | k, x⟩ := e <;> rw [Json.Fields.ofList, Json.Fields.json] at h
    · cases h
    · obtain ⟨u, -, h⟩ := of_bind_eq_ok h
      exact ih h (Table.ascending_set hsoFar)

/-- A step leads to a value right inside another one, and this is the value of a tree, too. -/
theorem exists_step_of_mem_children (hdoc : d.json limit = .ok doc) (hv : v ∈ children doc) :
    ∃ step : Step, step.IsForward ∧ step.take? doc = some v ∧
      ∃ (d' : Json.Draft) (limit' : Nat), d'.json limit' = .ok v := by
  cases doc with
  | array vs =>
    obtain ⟨n, (hn : vs[n]? = some v)⟩ := List.mem_iff_getElem?.mp hv
    have hforward : (Step.index n).IsForward := Int.natCast_nonneg n
    have htake : (Step.index n).take? (.array vs) = some v := by
      rw [Step.take?, item?, if_pos (Int.natCast_nonneg n), Int.toNat_natCast, hn]
    obtain ⟨-, d', -, -, -, -, hd'⟩ := Json.exists_of_take?_index hforward hdoc htake
    exact ⟨.index n, hforward, htake, d', _, hd'⟩
  | object es =>
    obtain ⟨ds, rfl, -, hes, -⟩ := Json.Draft.json_eq_object hdoc
    obtain ⟨e, he, rfl⟩ := List.mem_map.mp hv
    have htake : (Step.name e.1).take? (.object es) = some e.2 := by
      rw [Step.take?, valueAt?, Table.find?_of_mem (ascending_of_json hes .nil) he]
      rfl
    obtain ⟨-, d', -, -, -, -, hd'⟩ := Json.exists_of_take?_name hdoc htake
    exact ⟨.name e.1, trivial, htake, d', _, hd'⟩
  | _ => cases hv

/-- **Steps lead to every value** inside a document that was read. -/
theorem Inner.exists_place (h : Inner v doc) (hdoc : d.json limit = .ok doc) :
    ∃ steps : List Step, (∀ s ∈ steps, s.IsForward) ∧
      steps.foldlM (fun v s => s.take? v) doc = some v := by
  induction h using Relation.ReflTransGen.head_induction_on generalizing d limit with
  | refl => exact ⟨[], by simp, rfl⟩
  | @head u w hw _ ih =>
    obtain ⟨step, hforward, htake, d', limit', hd'⟩ := exists_step_of_mem_children hdoc hw
    obtain ⟨steps, hsteps, hfound⟩ := ih hd'
    refine ⟨step :: steps, List.forall_mem_cons.mpr ⟨hforward, hsteps⟩, ?_⟩
    rw [List.foldlM_cons, htake]
    exact hfound

end Places

/-- **What a query finds stands in the text**: steps lead to it in the document, and where they end
in the text of the document stands a text with this value. -/
theorem Path.exists_stands {q : Path} {text : String} {doc v : Json}
    (hdoc : Json.ofText? text = some doc) (hv : v ∈ q.findIn doc) :
    ∃ (steps : List Step) (t : String), steps.foldlM (fun v s => s.take? v) doc = some v ∧
      Json.Stands t.toList steps text.toList ∧ Json.ofText? t = some v := by
  obtain ⟨d, -, hjson⟩ := Json.spells_of_ofText? hdoc
  obtain ⟨steps, hforward, hfound⟩ := (inner_of_mem_findIn hv).exists_place hjson
  obtain ⟨t, hstands, ht⟩ := Json.exists_stands hforward hdoc hfound
  exact ⟨steps, t, hfound, hstands, ht⟩

end Reconcile.Query
