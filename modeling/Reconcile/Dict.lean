/-!
# Dictionaries in document order

Reference model of the insertion-ordered map that holds `auth`, `seed` and the variables, headers
and parameters of their entries.

* `Dict` — entries with distinct names, in the order in which the names first appeared.
* `Dict.insert` — a repeated name keeps its place and takes the new value.
* `Dict.get?`, `Dict.contains`, `Dict.ofList`, `Dict.mapValues`.

Left out: removal, which the program does not use.
-/

namespace Reconcile

/-- Entries with distinct names, in document order. -/
structure Dict (α : Type) where
  entries : List (String × α)
  distinct : (entries.map Prod.fst).Nodup
  deriving DecidableEq

namespace Dict

variable {α β : Type}

/-- The entries with `name` set to `value`: in its place when it is there, else at the end. -/
def set (name : String) (value : α) : List (String × α) → List (String × α)
  | [] => [(name, value)]
  | (k, v) :: rest => if k = name then (k, value) :: rest else (k, v) :: set name value rest

theorem map_fst_set (name : String) (value : α) (es : List (String × α)) :
    (set name value es).map Prod.fst =
      if name ∈ es.map Prod.fst then es.map Prod.fst else es.map Prod.fst ++ [name] := by
  induction es with
  | nil => simp [set]
  | cons e rest ih =>
    obtain ⟨k, v⟩ := e
    by_cases h : k = name
    · simp [set, h]
    · have h' : ¬ name = k := fun e => h e.symm
      simp only [set, h, if_false, List.map_cons, ih, List.mem_cons, h', false_or]
      split <;> simp

theorem nodup_set {name : String} {value : α} {es : List (String × α)}
    (h : (es.map Prod.fst).Nodup) : ((set name value es).map Prod.fst).Nodup := by
  rw [map_fst_set]
  split
  · exact h
  · rename_i hn
    rw [List.nodup_append]
    exact ⟨h, by simp, fun a ha b hb => by simp at hb; subst hb; exact fun e => hn (e ▸ ha)⟩

/-- The dictionary without entries. -/
def empty : Dict α := ⟨[], List.nodup_nil⟩

instance : EmptyCollection (Dict α) := ⟨empty⟩

instance : Inhabited (Dict α) := ⟨empty⟩

/-- A repeated name keeps its place and takes the new value. -/
def insert (d : Dict α) (name : String) (value : α) : Dict α :=
  ⟨set name value d.entries, nodup_set d.distinct⟩

/-- Entries read from first to last. -/
def ofList (es : List (String × α)) : Dict α :=
  es.foldl (fun d e => d.insert e.1 e.2) empty

/-- The value of a name. -/
def get? (d : Dict α) (name : String) : Option α :=
  (d.entries.find? fun e => e.1 == name).map Prod.snd

/-- Whether a name has an entry. -/
def contains (d : Dict α) (name : String) : Bool :=
  d.entries.any fun e => e.1 == name

/-- The names, in order. -/
def names (d : Dict α) : List String :=
  d.entries.map Prod.fst

/-- Whether there is no entry. -/
def isEmpty (d : Dict α) : Bool :=
  d.entries.isEmpty

/-- The number of entries. -/
def size (d : Dict α) : Nat :=
  d.entries.length

/-- Each value replaced, each name kept. -/
def mapValues (f : α → β) (d : Dict α) : Dict β :=
  ⟨d.entries.map fun e => (e.1, f e.2), by
    have : (d.entries.map fun e => (e.1, f e.2)).map Prod.fst = d.entries.map Prod.fst := by
      simp [List.map_map, Function.comp_def]
    exact this ▸ d.distinct⟩

@[ext] theorem ext {d e : Dict α} (h : d.entries = e.entries) : d = e := by
  cases d; cases e; simp_all

end Dict

end Reconcile
