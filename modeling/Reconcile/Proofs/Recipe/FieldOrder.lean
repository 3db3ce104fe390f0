import Mathlib.Data.List.Pairwise
import Reconcile.Proofs.Json.Parts
import Reconcile.Proofs.Results
import Reconcile.Recipe.FromJson

/-!
# The order of fields

A record is filled entry by entry. Its fields are filled independently of each other, so what comes
of an object does not depend on the order of its entries, nor on those that are no field.

* `Keeps` — a tree that is read as another one is; `Keeps.bind`, `Keeps.optionalOf`.
* `Field.Commutes` — fields that can be filled in either order; `OAuth.fields_commute` and the
  like — those of every record can.
* `Taken` — what an entry does to a record; `readEntries_cons_iff` — a record is read entry by
  entry.
* `readEntries_perm` — the order of entries makes no difference; `readEntries_foreign` — neither do
  those that are passed over.
* `keeps_rearranged` — so objects with the same fields are read as the same record;
  `keeps_entry`, `keeps_item`, `keeps_dictEntry` — what is read from a part is all that matters.
-/

namespace Reconcile

open Json

variable {α β σ : Type}

/-! ## Readings -/

namespace Json

/-- What is read from a tree is read from another one, too, at any depth. -/
def Keeps (read : Place → Except ReadError α) (d d' : Draft) : Prop :=
  ∀ depth a, read ⟨depth, d⟩ = .ok a → read ⟨depth, d'⟩ = .ok a

namespace Keeps

variable {read : Place → Except ReadError α} {d d' : Draft}

theorem bind (h : Keeps read d d') (k : α → Except ReadError β) :
    Keeps (fun p => read p >>= k) d d' := by
  intro depth b hb
  obtain ⟨a, ha, hk⟩ := of_bind_eq_ok hb
  show read ⟨depth, d'⟩ >>= k = _
  rw [h depth a ha]
  exact hk

/-- The reading of a value that may be null. -/
theorem optionalOf (h : Keeps read d d') (hd : d ≠ .null) (hd' : d' ≠ .null) :
    Keeps (Source.optionalOf (m := Except ReadError) read) d d' := by
  have hsome : ∀ (x : Draft), x ≠ .null → ∀ depth,
      Source.optionalOf (m := Except ReadError) read ⟨depth, x⟩ =
        read ⟨depth, x⟩ >>= fun a => pure (some a) := by
    intro x hx depth
    cases x with
    | null => exact absurd rfl hx
    | bool b | number n | string s | array items | object fields | broken b => rfl
  intro depth a ha
  rw [hsome d hd] at ha
  rw [hsome d' hd']
  exact h.bind _ depth a ha

end Keeps

end Json

/-! ## Fields in either order -/

namespace Field

variable {f g : Field Place (Except ReadError) σ}

/-- Two fields can be filled in either order. -/
def Commutes (f g : Field Place (Except ReadError) σ) : Prop :=
  ∀ p q a c, (f.read p a >>= g.read q) = .ok c ↔ (g.read q a >>= f.read p) = .ok c

theorem Commutes.symm (h : f.Commutes g) : g.Commutes f :=
  fun p q a c => (h q p a c).symm

instance : Std.Symm (Commutes (σ := σ)) where
  symm _ _ := Commutes.symm

/-- Fields that are set to what is read, independently of each other. -/
theorem Commutes.of_sets {read : Place → Except ReadError α} {set : α → σ → σ}
    {read' : Place → Except ReadError β} {set' : β → σ → σ}
    (hf : ∀ p a, f.read p a = read p >>= fun x => pure (set x a))
    (hg : ∀ p a, g.read p a = read' p >>= fun y => pure (set' y a))
    (h : ∀ x y a, set' y (set x a) = set x (set' y a)) : f.Commutes g := by
  intro p q a c
  rw [hf, hg]
  cases hx : read p with
  | error e =>
    cases hy : read' q with
    | error e' => simp [bind, Except.bind]
    | ok y => simp [bind, Except.bind, pure, Except.pure, hf, hx]
  | ok x =>
    cases hy : read' q with
    | error e' => simp [bind, Except.bind, pure, Except.pure, hg, hy]
    | ok y => simp [bind, Except.bind, pure, Except.pure, hf, hg, hx, hy, h]

end Field

/-- **The fields of every record** can be filled in any order. -/
theorem fields_commute :
    (Recipe.fields (ν := Place) (m := Except ReadError)).Pairwise Field.Commutes ∧
    (AuthDoc.fields (ν := Place) (m := Except ReadError)).Pairwise Field.Commutes ∧
    (OAuth.fields (ν := Place) (m := Except ReadError)).Pairwise Field.Commutes ∧
    (TokenLogin.fields (ν := Place) (m := Except ReadError)).Pairwise Field.Commutes ∧
    (Action.fields (ν := Place) (m := Except ReadError)).Pairwise Field.Commutes := by
  simp only [Recipe.fields, AuthDoc.fields, OAuth.fields, TokenLogin.fields, Action.fields,
    List.pairwise_cons, List.forall_mem_cons, List.not_mem_nil, false_implies, implies_true,
    and_true, List.Pairwise.nil]
  and_intros
  all_goals exact .of_sets (fun _ _ => rfl) (fun _ _ => rfl) fun _ _ _ => rfl

/-! ## Entries one after the other -/

/-- What an entry does to a record and to the names that were seen. -/
inductive Taken (fields : List (Field Place (Except ReadError) σ)) (depth : Nat) (name : String)
    (d : Draft) (seen : List String) (a : σ) : List String → σ → Prop
  /-- It is a field, and was not seen before. -/
  | field {f : Field Place (Except ReadError) σ} {b : σ}
      (hf : fields.find? (fun f => f.name == name) = some f) (hseen : name ∉ seen)
      (hread : f.read ⟨depth, d⟩ a = .ok b) : Taken fields depth name d seen a (name :: seen) b
  /-- It is no field, and is passed over. -/
  | foreign (hf : fields.find? (fun f => f.name == name) = none) (hd : d.passOver = .ok ()) :
      Taken fields depth name d seen a seen a

section Entries

variable {fields : List (Field Place (Except ReadError) σ)} {depth : Nat}
  {name name' : String} {d d' : Draft} {seen seen' : List String} {a b r : σ}
  {es es' front back : List (Option String × Draft)}

theorem mem_of_find?_name {f : Field Place (Except ReadError) σ}
    (h : fields.find? (fun f => f.name == name) = some f) : f ∈ fields ∧ f.name = name := by
  have hname := List.find?_some h
  exact ⟨List.mem_of_find?_eq_some h, beq_iff_eq.mp hname⟩

/-- **A record is read entry by entry.** -/
theorem readEntries_cons_iff {key : Option String} {rest : Fields} :
    readEntries fields depth (.cons key d rest) seen a = .ok r ↔
      ∃ name seen' b, key = some name ∧ Taken fields depth name d seen a seen' b ∧
        readEntries fields depth rest seen' b = .ok r := by
  cases key with
  | none =>
    rw [readEntries]
    refine iff_of_false (by rintro ⟨⟩) ?_
    rintro ⟨name, seen', b, ⟨⟩, -⟩
  | some name =>
    rw [readEntries]
    constructor
    · intro h
      split at h
      · rename_i f hf
        split at h
        · cases h
        · rename_i hseen
          obtain ⟨b, hb, h⟩ := of_bind_eq_ok h
          exact ⟨name, _, b, rfl, .field hf (by simpa using hseen) hb, h⟩
      · rename_i hf
        obtain ⟨⟨⟩, hd, h⟩ := of_bind_eq_ok h
        refine ⟨name, seen, a, rfl, .foreign hf ?_, h⟩
        cases hp : d.passOver with
        | ok u => rfl
        | error e =>
          rw [hp] at hd
          cases hd
    · rintro ⟨_, seen', b, ⟨⟩, htaken, h⟩
      cases htaken with
      | field hf hseen hread =>
        rw [hf]
        dsimp only
        rw [if_neg (by simpa using hseen), hread]
        exact h
      | foreign hf hd =>
        rw [hf, hd]
        exact h

/-- In which order names were seen makes no difference. -/
theorem firstMissing_congr (h : ∀ n, n ∈ seen ↔ n ∈ seen') :
    Field.firstMissing fields seen = Field.firstMissing fields seen' := by
  have hcontains : ∀ n, seen.contains n = seen'.contains n := by
    intro n
    rw [Bool.eq_iff_iff, List.contains_iff_mem, List.contains_iff_mem, h n]
  simp only [Field.firstMissing, hcontains]

theorem Taken.congr (h : ∀ n, n ∈ seen ↔ n ∈ seen') {later : List String}
    (ht : Taken fields depth name d seen a later b) :
    ∃ later', Taken fields depth name d seen' a later' b ∧ ∀ n, n ∈ later ↔ n ∈ later' := by
  cases ht with
  | field hf hseen hread =>
    refine ⟨name :: seen', .field hf (fun hn => hseen ((h name).mpr hn)) hread, fun n => ?_⟩
    rw [List.mem_cons, List.mem_cons, h n]
  | foreign hf hd => exact ⟨seen', .foreign hf hd, h⟩

theorem readEntries_congr (h : ∀ n, n ∈ seen ↔ n ∈ seen')
    (hr : readEntries fields depth (.ofList es) seen a = .ok r) :
    readEntries fields depth (.ofList es) seen' a = .ok r := by
  induction es generalizing seen seen' a with
  | nil =>
    rw [Fields.ofList, readEntries] at hr ⊢
    rwa [← firstMissing_congr h]
  | cons e es ih =>
    obtain ⟨name, later, b, hname, htaken, hrest⟩ := readEntries_cons_iff.mp hr
    obtain ⟨later', htaken', hlater⟩ := htaken.congr h
    exact readEntries_cons_iff.mpr ⟨name, later', b, hname, htaken', ih hlater hrest⟩

/-- **Two entries can be taken in either order.** -/
theorem Taken.swap (hc : fields.Pairwise Field.Commutes) {later : List String} {c : σ}
    (h : Taken fields depth name d seen a seen' b)
    (h' : Taken fields depth name' d' seen' b later c) :
    ∃ mid b' later', Taken fields depth name' d' seen a mid b' ∧
      Taken fields depth name d mid b' later' c ∧ ∀ n, n ∈ later ↔ n ∈ later' := by
  cases h with
  | foreign hf hd =>
    cases h' with
    | foreign hf' hd' => exact ⟨_, _, _, .foreign hf' hd', .foreign hf hd, fun n => Iff.rfl⟩
    | field hf' hseen' hread' =>
      exact ⟨_, _, _, .field hf' hseen' hread', .foreign hf hd, fun n => Iff.rfl⟩
  | @field f _ hf hseen hread =>
    cases h' with
    | foreign hf' hd' =>
      exact ⟨_, _, _, .foreign hf' hd', .field hf hseen hread, fun n => Iff.rfl⟩
    | @field g _ hf' hseen' hread' =>
      rw [List.mem_cons, not_or] at hseen'
      obtain ⟨hne, hseen'⟩ := hseen'
      -- fields with different names are different, so they commute
      obtain ⟨hmem, hname⟩ := mem_of_find?_name hf
      obtain ⟨hmem', hname'⟩ := mem_of_find?_name hf'
      have hfg : f ≠ g := by
        rintro rfl
        exact hne (hname'.symm.trans hname)
      have hcommutes : f.Commutes g := hc.forall hmem hmem' hfg
      have hboth : (f.read ⟨depth, d⟩ a >>= g.read ⟨depth, d'⟩) = .ok c := by
        rw [hread]
        exact hread'
      obtain ⟨b', hb', hc'⟩ := of_bind_eq_ok ((hcommutes _ _ _ _).mp hboth)
      refine ⟨_, b', _, .field hf' hseen' hb', .field hf ?_ hc', fun n => ?_⟩
      · rw [List.mem_cons, not_or]
        exact ⟨fun he => hne he.symm, hseen⟩
      · simp only [List.mem_cons]
        tauto

/-- **The order of entries makes no difference.** -/
theorem readEntries_perm (hc : fields.Pairwise Field.Commutes) (hp : es.Perm es')
    (h : readEntries fields depth (.ofList es) seen a = .ok r) :
    readEntries fields depth (.ofList es') seen a = .ok r := by
  induction hp generalizing seen a with
  | nil => exact h
  | cons e hp ih =>
    obtain ⟨name, later, b, hname, htaken, hrest⟩ := readEntries_cons_iff.mp h
    exact readEntries_cons_iff.mpr ⟨name, later, b, hname, htaken, ih hrest⟩
  | swap e e' es =>
    obtain ⟨name, mid, b, hname, htaken, h⟩ := readEntries_cons_iff.mp h
    obtain ⟨name', later, c, hname', htaken', hrest⟩ := readEntries_cons_iff.mp h
    obtain ⟨mid', b', later', hfirst, hsecond, hlater⟩ := htaken.swap hc htaken'
    refine readEntries_cons_iff.mpr ⟨name', mid', b', hname', hfirst, ?_⟩
    exact readEntries_cons_iff.mpr
      ⟨name, later', c, hname, hsecond, readEntries_congr hlater hrest⟩
  | trans _ _ ih ih' => exact ih' (ih h)

/-- An entry that is no field, and can be passed over. -/
def IsForeign (fields : List (Field Place (Except ReadError) σ)) (e : Option String × Draft) :
    Prop :=
  ∃ name, e.1 = some name ∧ name ∉ fields.map Field.name ∧ e.2.passOver = .ok ()

theorem IsForeign.taken {e : Option String × Draft} (h : IsForeign fields e) (seen : List String)
    (a : σ) : ∃ name, e.1 = some name ∧ Taken fields depth name e.2 seen a seen a := by
  obtain ⟨name, hname, hfields, hd⟩ := h
  refine ⟨name, hname, .foreign ?_ hd⟩
  rw [List.find?_eq_none]
  intro f hf he
  exact hfields (List.mem_map.mpr ⟨f, hf, beq_iff_eq.mp he⟩)

/-- **Entries that are no field make no difference.** -/
theorem readEntries_foreign {extra : List (Option String × Draft)}
    (hextra : ∀ e ∈ extra, IsForeign fields e)
    (h : readEntries fields depth (.ofList es) seen a = .ok r) :
    readEntries fields depth (.ofList (extra ++ es)) seen a = .ok r := by
  induction extra with
  | nil => exact h
  | cons e extra ih =>
    obtain ⟨he, hextra⟩ := List.forall_mem_cons.mp hextra
    obtain ⟨name, hname, htaken⟩ := he.taken seen a
    exact readEntries_cons_iff.mpr ⟨name, seen, a, hname, htaken, ih hextra⟩

/-- **What is read from the value of an entry** is all of it that matters. -/
theorem readEntries_replace
    (hd : ∀ f ∈ fields, f.name = name → ∀ a, Keeps (fun p => f.read p a) d d')
    (hname : name ∈ fields.map Field.name)
    (h : readEntries fields depth (.ofList (front ++ (some name, d) :: back)) seen a = .ok r) :
    readEntries fields depth (.ofList (front ++ (some name, d') :: back)) seen a = .ok r := by
  induction front generalizing seen a with
  | nil =>
    obtain ⟨_, later, b, ⟨⟩, htaken, hrest⟩ := readEntries_cons_iff.mp h
    refine readEntries_cons_iff.mpr ⟨name, later, b, rfl, ?_, hrest⟩
    cases htaken with
    | field hf hseen hread =>
      obtain ⟨hmem, hf'⟩ := mem_of_find?_name hf
      exact .field hf hseen (hd _ hmem hf' a depth _ hread)
    | foreign hf _ =>
      obtain ⟨f, hmem, he⟩ := List.mem_map.mp hname
      exact absurd (beq_iff_eq.mpr he) (List.find?_eq_none.mp hf f hmem)
  | cons e front ih =>
    obtain ⟨other, later, b, hother, htaken, hrest⟩ := readEntries_cons_iff.mp h
    exact readEntries_cons_iff.mpr ⟨other, later, b, hother, htaken, ih hrest⟩

/-- The same of a record that is given as a list. -/
theorem readPositional_replace {expected : String} {index : Nat} {front back : List Draft}
    (hname : (fields.map Field.name)[front.length]? = some name)
    (hd : ∀ f ∈ fields, f.name = name → ∀ a, Keeps (fun p => f.read p a) d d')
    (h : readPositional expected depth index fields (.ofList (front ++ d :: back)) a = .ok r) :
    readPositional expected depth index fields (.ofList (front ++ d' :: back)) a = .ok r := by
  induction front generalizing fields index a with
  | nil =>
    cases fields with
    | nil => cases hname
    | cons f fields =>
      rw [List.nil_append, Items.ofList, readPositional] at h ⊢
      obtain ⟨b, hb, h⟩ := of_bind_eq_ok h
      have hb' : f.read ⟨depth, d'⟩ a = .ok b :=
        hd f List.mem_cons_self (Option.some.inj hname) a depth b hb
      rw [hb']
      exact h
  | cons x front ih =>
    cases fields with
    | nil => cases hname
    | cons f fields =>
      rw [List.cons_append, Items.ofList, readPositional] at h ⊢
      obtain ⟨b, hb, h⟩ := of_bind_eq_ok h
      rw [hb]
      exact ih (by simpa using hname) (fun g hg => hd g (List.mem_cons_of_mem f hg)) h

/-- The same of a dictionary. -/
theorem readDict_replace {read : Place → Except ReadError α} {soFar v : Dict α}
    (hd : Keeps read d d')
    (h : readDict read depth (.ofList (front ++ (some name, d) :: back)) soFar = .ok v) :
    readDict read depth (.ofList (front ++ (some name, d') :: back)) soFar = .ok v := by
  induction front generalizing soFar with
  | nil =>
    rw [List.nil_append, Fields.ofList, readDict] at h ⊢
    obtain ⟨x, hx, h⟩ := of_bind_eq_ok h
    rw [hd depth x hx]
    exact h
  | cons e front ih =>
    obtain ⟨_ | other, x⟩ := e
    · rw [List.cons_append, Fields.ofList, readDict] at h
      cases h
    · rw [List.cons_append, Fields.ofList, readDict] at h ⊢
      obtain ⟨y, hy, h⟩ := of_bind_eq_ok h
      rw [hy]
      exact ih h

end Entries

/-! ## Objects and lists -/

section Records

variable {fields : List (Field Place (Except ReadError) σ)} {record : String} {blank : σ}
  {name : String} {d d' : Draft}

/-- How deep a tree may nest depends on where it stands, and on nothing else. -/
theorem enter_eq {depth inner : Nat} (h : Place.enter ⟨depth, d⟩ = .ok inner) :
    Place.enter ⟨depth, d'⟩ = .ok inner := h

/-- **An object with the same fields is read as the same record**, in whatever order they are, and
whatever else there is in between. -/
theorem keeps_rearranged {es es' extra : List (Option String × Draft)}
    (hc : fields.Pairwise Field.Commutes) (hextra : ∀ e ∈ extra, IsForeign fields e)
    (hp : es'.Perm (es ++ extra)) :
    Keeps (readRecord record fields blank) (.object (.ofList es)) (.object (.ofList es')) := by
  intro depth a h
  obtain ⟨inner, hinner, h⟩ := of_bind_eq_ok h
  show (Place.enter ⟨depth, _⟩ >>= fun depth => readEntries fields depth (.ofList es') [] blank) = _
  rw [enter_eq hinner]
  exact readEntries_perm hc (List.perm_append_comm.trans hp.symm) (readEntries_foreign hextra h)

/-- What is read from the value of an entry is all of it that matters. -/
theorem keeps_entry {front back : List (Option String × Draft)}
    (hname : name ∈ fields.map Field.name)
    (hd : ∀ f ∈ fields, f.name = name → ∀ a, Keeps (fun p => f.read p a) d d') :
    Keeps (readRecord record fields blank) (.object (.ofList (front ++ (some name, d) :: back)))
      (.object (.ofList (front ++ (some name, d') :: back))) := by
  intro depth a h
  obtain ⟨inner, hinner, h⟩ := of_bind_eq_ok h
  show (Place.enter ⟨depth, _⟩ >>= fun depth => readEntries fields depth _ [] blank) = _
  rw [enter_eq hinner]
  exact readEntries_replace hd hname h

theorem keeps_item {front back : List Draft}
    (hname : (fields.map Field.name)[front.length]? = some name)
    (hd : ∀ f ∈ fields, f.name = name → ∀ a, Keeps (fun p => f.read p a) d d') :
    Keeps (readRecord record fields blank) (.array (.ofList (front ++ d :: back)))
      (.array (.ofList (front ++ d' :: back))) := by
  intro depth a h
  obtain ⟨inner, hinner, h⟩ := of_bind_eq_ok h
  show (Place.enter ⟨depth, _⟩ >>= fun depth => readPositional _ depth 0 fields _ blank) = _
  rw [enter_eq hinner]
  exact readPositional_replace hname hd h

theorem keeps_dictEntry {read : Place → Except ReadError α}
    {front back : List (Option String × Draft)} (hd : Keeps read d d') :
    Keeps (Source.dict (m := Except ReadError) read)
      (.object (.ofList (front ++ (some name, d) :: back)))
      (.object (.ofList (front ++ (some name, d') :: back))) := by
  intro depth a h
  obtain ⟨inner, hinner, h⟩ := of_bind_eq_ok h
  show (Place.enter ⟨depth, _⟩ >>= fun depth => readDict read depth _ {}) = _
  rw [enter_eq hinner]
  exact readDict_replace hd h

end Records

end Reconcile
