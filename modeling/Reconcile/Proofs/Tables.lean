import Reconcile.Dict
import Reconcile.Table

/-!
# Tables and dictionaries

* `Table.get?_insert_self`, `Table.get?_insert_of_ne` — the value that was set, and the others.
* `Table.mem_insert` — the entries after a value was set.
* `Table.get?_union`, `Table.get?_ofList` — the values of one table over another, and of a table
  made of entries with distinct names.
* `Table.find?_of_mem` — in ascending order every entry is the first one of its name.
* `Table.filter_set_of_not`, `Table.filter_set_of_none` — some of the entries after a value was set.
* `Table.map_set_congr` — values that are replaced alike do not matter.
* `Dict.get?_mapValues` — a value of a dictionary whose values were replaced.
-/

namespace Reconcile

variable {α β : Type}

namespace Table

theorem find?_set_self (name : String) (value : α) (es : List (String × α)) :
    (set name value es).find? (fun e => e.1 == name) = some (name, value) := by
  induction es with
  | nil => simp [set]
  | cons e rest ih =>
    obtain ⟨k, v⟩ := e
    simp only [set]
    split
    · simp
    · rename_i hk
      split
      · simp
      · rw [List.find?_cons_of_neg (by simpa using fun h => hk h.symm), ih]

theorem find?_set_of_ne {name other : String} (h : other ≠ name) (value : α)
    (es : List (String × α)) :
    (set name value es).find? (fun e => e.1 == other) = es.find? fun e => e.1 == other := by
  have hskip : ∀ (v : α) (rest : List (String × α)),
      ((name, v) :: rest).find? (fun e => e.1 == other) = rest.find? fun e => e.1 == other :=
    fun v rest => List.find?_cons_of_neg (by simpa using fun e => h e.symm)
  induction es with
  | nil => exact hskip value []
  | cons e rest ih =>
    obtain ⟨k, v⟩ := e
    simp only [set]
    split
    · rename_i hk
      rw [hskip, ← hk, hskip]
    · split
      · rw [hskip]
      · rw [List.find?_cons, List.find?_cons, ih]

@[simp] theorem get?_insert_self (t : Table α) (name : String) (value : α) :
    (t.insert name value).get? name = some value := by
  rw [get?, insert, find?_set_self]
  rfl

theorem get?_insert_of_ne {name other : String} (h : other ≠ name) (t : Table α) (value : α) :
    (t.insert name value).get? other = t.get? other := by
  rw [get?, insert, find?_set_of_ne h, get?]

theorem mem_set_iff {name : String} {value : α} {es : List (String × α)} {e : String × α}
    (h : es.Pairwise fun a b => a.1 < b.1) :
    e ∈ set name value es ↔ e = (name, value) ∨ e ∈ es ∧ e.1 ≠ name := by
  induction es with
  | nil => simp [set]
  | cons x rest ih =>
    obtain ⟨k, v⟩ := x
    obtain ⟨hk, hrest⟩ := List.pairwise_cons.mp h
    have habove : ∀ e ∈ rest, e.1 ≠ k := fun e he hek => String.lt_irrefl k (hek ▸ hk e he)
    simp only [set]
    split
    · rename_i hname
      subst hname
      grind
    · rename_i hne
      split
      · rename_i hlt
        have hbelow : ∀ e ∈ rest, e.1 ≠ name := fun e he hen =>
          String.lt_irrefl name (String.lt_trans hlt (hen ▸ hk e he))
        grind
      · rw [List.mem_cons, ih hrest]
        grind

/-- The entries after a value was set: the new one, and the others as they were. -/
theorem mem_insert {t : Table α} {name : String} {value : α} {e : String × α} :
    e ∈ (t.insert name value).entries ↔ e = (name, value) ∨ e ∈ t.entries ∧ e.1 ≠ name :=
  mem_set_iff t.ascending

/-! ## Many values -/

/-- The value that entries with distinct names have for a name. -/
theorem get?_foldl_insert {es : List (String × α)} (h : (es.map Prod.fst).Nodup) (t : Table α)
    (name : String) :
    (es.foldl (fun t e => t.insert e.1 e.2) t).get? name =
      ((es.find? fun e => e.1 == name).map Prod.snd).or (t.get? name) := by
  induction es generalizing t with
  | nil => rfl
  | cons e es ih =>
    rw [List.map_cons, List.nodup_cons] at h
    rw [List.foldl_cons, ih h.2]
    by_cases hname : e.1 = name
    · -- no later entry has the name
      have hlater : es.find? (fun e => e.1 == name) = none := by
        rw [List.find?_eq_none]
        intro x hx hxn
        have hxe : x.1 = e.1 := (beq_iff_eq.mp hxn).trans hname.symm
        exact h.1 (hxe ▸ List.mem_map_of_mem hx)
      rw [hlater, List.find?_cons_of_pos (by simpa using hname), ← hname, get?_insert_self]
      rfl
    · rw [List.find?_cons_of_neg (by simpa using hname), get?_insert_of_ne (Ne.symm hname)]

/-- In ascending order every entry is the first one of its name. -/
theorem find?_of_mem {es : List (String × α)} {e : String × α}
    (h : es.Pairwise fun a b => a.1 < b.1) (he : e ∈ es) :
    es.find? (fun x => x.1 == e.1) = some e := by
  induction es with
  | nil => cases he
  | cons x es ih =>
    obtain ⟨hx, hes⟩ := List.pairwise_cons.mp h
    rcases List.mem_cons.mp he with rfl | he
    · exact List.find?_cons_of_pos (beq_self_eq_true e.1)
    · have hne : x.1 ≠ e.1 := fun heq => String.lt_irrefl e.1 (heq ▸ hx e he)
      rw [List.find?_cons_of_neg (by simpa using hne), ih hes he]

theorem nodup_names (t : Table α) : (t.entries.map Prod.fst).Nodup := by
  rw [List.Nodup, List.pairwise_map]
  refine t.ascending.imp ?_
  intro a b hlt he
  exact String.lt_irrefl b.1 (he ▸ hlt)

/-- **One table over another**: a name takes its value from the upper one when it has one there. -/
theorem get?_union (upper lower : Table α) (name : String) :
    (upper.union lower).get? name = (upper.get? name).or (lower.get? name) :=
  get?_foldl_insert upper.nodup_names lower name

theorem get?_ofList {es : List (String × α)} (h : (es.map Prod.fst).Nodup) (name : String) :
    (ofList es).get? name = (es.find? fun e => e.1 == name).map Prod.snd := by
  rw [ofList, get?_foldl_insert h]
  exact Option.or_none

/-! ## Some of the entries -/

section Filter

variable {p : String × α → Bool} {name : String} {value : α} {es : List (String × α)}

/-- Entries among which a name is not stay the same when its value is set. -/
theorem filter_set_of_not (h : ∀ v, p (name, v) = false) :
    (set name value es).filter p = es.filter p := by
  induction es with
  | nil => simp [set, h]
  | cons e rest ih =>
    obtain ⟨k, v⟩ := e
    simp only [set]
    split
    · rename_i hk
      rw [← hk, List.filter_cons_of_neg (by simp [h]), List.filter_cons_of_neg (by simp [h])]
    · split
      · rw [List.filter_cons_of_neg (by simp [h])]
      · rw [List.filter_cons, List.filter_cons, ih]

/-- Where there were no such entries, the value that is set is the only one. -/
theorem filter_set_of_none (h : p (name, value) = true) (hes : ∀ e ∈ es, p e = false) :
    (set name value es).filter p = [(name, value)] := by
  have hnone : ∀ {rest : List (String × α)}, (∀ e ∈ rest, p e = false) → rest.filter p = [] :=
    fun hrest => List.filter_eq_nil_iff.mpr fun e he => by simp [hrest e he]
  induction es with
  | nil => simp [set, h]
  | cons e rest ih =>
    obtain ⟨k, v⟩ := e
    obtain ⟨he, hrest⟩ := List.forall_mem_cons.mp hes
    simp only [set]
    split
    · rw [List.filter_cons_of_pos h, hnone hrest]
    · split
      · rw [List.filter_cons_of_pos h, hnone hes]
      · rw [List.filter_cons_of_neg (by simp [he]), ih hrest]

end Filter

/-! ## Values that are replaced -/

theorem map_set_congr {f : String → α → β} {name : String} {v v' : α}
    (h : f name v = f name v') (es : List (String × α)) :
    (set name v es).map (fun e => (e.1, f e.1 e.2)) =
      (set name v' es).map (fun e => (e.1, f e.1 e.2)) := by
  induction es with
  | nil => simp only [set, List.map_cons, List.map_nil, h]
  | cons e rest ih =>
    obtain ⟨k, x⟩ := e
    simp only [set]
    split
    · simp only [List.map_cons, h]
    · split
      · simp only [List.map_cons, h]
      · simp only [List.map_cons, ih]

end Table

theorem Dict.get?_mapValues (f : α → β) (d : Dict α) (name : String) :
    (d.mapValues f).get? name = (d.get? name).map f := by
  simp only [get?, mapValues, List.find?_map, Option.map_map, Function.comp_def]

end Reconcile
