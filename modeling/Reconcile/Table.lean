/-!
# Tables in key order

Reference model of the maps that are ordered by name: headers, runtime variables, merged variables
and the objects of JSON values.

* `Table` — entries in strictly ascending order of their names, by code point. Code point
  order of texts is the byte order of their UTF-8 forms.
* `Table.insert`, `Table.get?`, `Table.filterNames`, `Table.union`.
-/

namespace Reconcile

/-- Entries in strictly ascending order of their names. -/
structure Table (α : Type) where
  entries : List (String × α)
  ascending : entries.Pairwise fun a b => a.1 < b.1
  deriving DecidableEq

namespace Table

variable {α : Type}

/-- Ascending entries with `name` set to `value`. -/
def set (name : String) (value : α) : List (String × α) → List (String × α)
  | [] => [(name, value)]
  | (k, v) :: rest =>
    if name = k then (name, value) :: rest
    else if name < k then (name, value) :: (k, v) :: rest
    else (k, v) :: set name value rest

theorem mem_set {name : String} {value : α} {es : List (String × α)} {e : String × α}
    (h : e ∈ set name value es) : e = (name, value) ∨ e ∈ es := by
  induction es with
  | nil => simp [set] at h; exact .inl h
  | cons x rest ih =>
    obtain ⟨k, v⟩ := x
    simp only [set] at h
    split at h
    · rcases List.mem_cons.1 h with h | h
      · exact .inl h
      · exact .inr (List.mem_cons_of_mem _ h)
    · split at h
      · rcases List.mem_cons.1 h with h | h
        · exact .inl h
        · exact .inr h
      · rcases List.mem_cons.1 h with h | h
        · exact .inr (h ▸ List.mem_cons_self)
        · rcases ih h with h | h
          · exact .inl h
          · exact .inr (List.mem_cons_of_mem _ h)

theorem lt_of_not_eq_of_not_lt {a b : String} (hne : ¬ a = b) (hlt : ¬ a < b) : b < a := by
  rcases String.le_total a b with h | h
  · exact absurd (String.le_antisymm h (String.not_lt.1 hlt)) hne
  · exact Decidable.byContradiction fun hn => hne (String.le_antisymm (String.not_lt.1 hn) h)

theorem ascending_set {name : String} {value : α} {es : List (String × α)}
    (h : es.Pairwise fun a b => a.1 < b.1) :
    (set name value es).Pairwise fun a b => a.1 < b.1 := by
  induction es with
  | nil => simp [set]
  | cons x rest ih =>
    obtain ⟨k, v⟩ := x
    rw [List.pairwise_cons] at h
    simp only [set]
    split
    · rename_i hk
      subst hk
      exact List.pairwise_cons.2 ⟨h.1, h.2⟩
    · split
      · rename_i _ hlt
        refine List.pairwise_cons.2 ⟨fun e he => ?_, List.pairwise_cons.2 h⟩
        rcases List.mem_cons.1 he with he | he
        · exact he ▸ hlt
        · exact String.lt_trans hlt (h.1 e he)
      · rename_i hne hlt
        refine List.pairwise_cons.2 ⟨fun e he => ?_, ih h.2⟩
        rcases mem_set he with he | he
        · subst he
          exact lt_of_not_eq_of_not_lt hne hlt
        · exact h.1 e he

/-- The table without entries. -/
def empty : Table α := ⟨[], List.Pairwise.nil⟩

instance : EmptyCollection (Table α) := ⟨empty⟩

instance : Inhabited (Table α) := ⟨empty⟩

/-- The table with `name` set to `value`. -/
def insert (t : Table α) (name : String) (value : α) : Table α :=
  ⟨set name value t.entries, ascending_set t.ascending⟩

/-- Entries in any order; the last one of a name wins. -/
def ofList (es : List (String × α)) : Table α :=
  es.foldl (fun t e => t.insert e.1 e.2) empty

/-- The value of a name. -/
def get? (t : Table α) (name : String) : Option α :=
  (t.entries.find? fun e => e.1 == name).map Prod.snd

/-- The entries whose names pass a test. -/
def filterNames (p : String → Bool) (t : Table α) : Table α :=
  ⟨t.entries.filter fun e => p e.1, t.ascending.filter _⟩

/-- One table over another: a name takes its value from `upper` when it has one there. -/
def union (upper lower : Table α) : Table α :=
  upper.entries.foldl (fun t e => t.insert e.1 e.2) lower

/-- Each value replaced, each name kept. -/
def mapValues {β : Type} (f : String → α → β) (t : Table α) : Table β :=
  ⟨t.entries.map fun e => (e.1, f e.1 e.2), by
    rw [List.pairwise_map]
    exact t.ascending⟩

/-- The number of entries. -/
def size (t : Table α) : Nat :=
  t.entries.length

/-- Whether there is no entry. -/
def isEmpty (t : Table α) : Bool :=
  t.entries.isEmpty

@[ext] theorem ext {s t : Table α} (h : s.entries = t.entries) : s = t := by
  cases s; cases t; simp_all

end Table

end Reconcile
