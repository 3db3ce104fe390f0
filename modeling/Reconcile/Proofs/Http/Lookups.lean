import Reconcile.Proofs.Http.Layers

/-!
# Headers by name

Headers are set one after the other and looked up by name, in whatever case either is spelled.

* `Headers.named`, `Headers.others` — the headers of one name, and those of all other names.
* `Headers.named_set`, `Headers.others_set` — a header that is set replaces those of its name and
  leaves the others alone.
* `lastNamed?` — the last header of a name that was set; `Headers.named_setAll` — it is the only one
  of its name that stays.
* `Headers.setAll_finds` — so it is the one that is found.
-/

namespace Reconcile

/-! ## One header -/

/-- The last of some headers with a name, in whatever case. -/
def lastNamed? (calls : List (String × String)) (name : String) : Option (String × String) :=
  calls.reverse.find? fun c => Text.sameIgnoringCase c.1 name

theorem lastNamed?_concat (calls : List (String × String)) (c : String × String) (name : String) :
    lastNamed? (calls ++ [c]) name =
      if Text.sameIgnoringCase c.1 name then some c else lastNamed? calls name := by
  rw [lastNamed?, List.reverse_append, List.reverse_singleton, List.singleton_append,
    List.find?_cons]
  cases Text.sameIgnoringCase c.1 name <;> rfl

namespace Headers

variable {h : Headers} {name value other : String}

/-- The headers of one name, in whatever case. -/
def named (h : Headers) (name : String) : List (String × String) :=
  h.entries.filter fun e => Text.sameIgnoringCase e.1 name

/-- The headers of all other names. -/
def others (h : Headers) (name : String) : List (String × String) :=
  h.entries.filter fun e => !Text.sameIgnoringCase e.1 name

/-- The value that is found for a name is that of the first header of the name. -/
theorem find?_eq (h : Headers) (name : String) :
    h.find? name = (h.named name).head?.map Prod.snd := by
  rw [find?, named, List.head?_filter]

/-- **A header that is set** is the only one of its name; what any other name has stays. -/
theorem named_set :
    (h.set name value).named other =
      if Text.sameIgnoringCase name other then [(name, value)] else h.named other := by
  show (Table.set name value (h.entries.filter _)).filter _ = _
  by_cases hsame : Text.sameIgnoringCase name other = true
  · rw [if_pos hsame]
    -- what is still there has another name, and so none that reads like this one
    refine Table.filter_set_of_none hsame fun e he => ?_
    have hne : ¬ Text.sameIgnoringCase e.1 name = true := by
      simpa using (List.mem_filter.mp he).2
    rw [Text.sameIgnoringCase_iff] at hsame hne
    rw [← Bool.not_eq_true, Text.sameIgnoringCase_iff, ← hsame]
    exact hne
  · rw [if_neg hsame, Table.filter_set_of_not fun _ => Bool.not_eq_true _ ▸ hsame,
      List.filter_filter, named]
    refine List.filter_congr fun e _ => ?_
    -- a header of the other name is not one that was replaced
    by_cases hother : Text.sameIgnoringCase e.1 other = true
    · have hkept : ¬ Text.sameIgnoringCase e.1 name = true := by
        rw [Text.sameIgnoringCase_iff] at hsame hother ⊢
        exact fun hname => hsame (hname.symm.trans hother)
      simp [hother, hkept]
    · simp [hother]

theorem others_set : (h.set name value).others name = h.others name := by
  show (Table.set name value (h.entries.filter _)).filter _ = _
  rw [Table.filter_set_of_not fun _ => by simp [Text.sameIgnoringCase_refl], List.filter_filter,
    others]
  simp only [Bool.and_self]

/-! ## Headers one after the other -/

/-- **Of the headers of a name only the last one stays**, as it was spelled. -/
theorem named_setAll (calls : List (String × String)) (name : String) :
    (setAll {} calls).named name = (lastNamed? calls name).toList := by
  induction calls using List.reverseRecOn with
  | nil => rfl
  | append_singleton calls c ih =>
    have hset : setAll {} (calls ++ [c]) = (setAll {} calls).set c.1 c.2 := setAll_append ..
    rw [hset, named_set, lastNamed?_concat, ih]
    split <;> rfl

/-- **Headers are found by name, whatever the case.** After headers were set one after the other, no
two names differ only in their case. For a name, in whatever case, the value is found that was set
last for it, or none if there was no such call; the one header of that name is spelled as it was set
last. One more call leaves the headers of all other names as they are. -/
theorem setAll_finds (calls : List (String × String)) :
    ((setAll {} calls).entries.Pairwise fun a b => Text.sameIgnoringCase a.1 b.1 = false) ∧
      (∀ name, (setAll {} calls).find? name = (lastNamed? calls name).map Prod.snd) ∧
      (∀ name, (setAll {} calls).named name = (lastNamed? calls name).toList) ∧
      ∀ name value,
        (setAll {} (calls ++ [(name, value)])).others name = (setAll {} calls).others name := by
  refine ⟨pairwise_setAll, fun name => ?_, named_setAll calls, fun name value => ?_⟩
  · rw [find?_eq, named_setAll]
    cases lastNamed? calls name <;> rfl
  · rw [setAll_append]
    exact others_set

example :
    (setAll {} [("content-type", "text/plain"), ("X", "1"), ("Content-Type", "a/b")]).entries =
      [("Content-Type", "a/b"), ("X", "1")] := by
  decide +kernel

end Headers

end Reconcile
