import Mathlib.Data.List.Perm.Basic
import Mathlib.Logic.Relation
import Reconcile.Proofs.Json.Objects
import Reconcile.Proofs.Json.Places
import Reconcile.Proofs.Recipe.FieldOrder
import Reconcile.Recipe.Parsing

/-!
# Recipes that are printed in another way

Tools print the fields of an object in an order of their own, and may add fields that a recipe does
not have. A recipe is read from its text all the same.

* `Part` — the parts of a recipe that are objects: the recipe, its entries and their blocks are
  records with fields, and there are dictionaries of entries; `Part.under` — where they stand.
* `Reprints` — the text of a part with fields in another order and with other entries in between,
  in the part itself or in one under it.
* `Part.Fielded` — how a part with fields is read; `Part.exists_fielded` — all of them are read so.
* `Reprints.keeps` — what is read from a part is read from the other text, too.
* `Recipe.parse_reprinted` — so is the recipe.
-/

namespace Reconcile

open Json

namespace Json

/-! ## Parts -/

/-- The parts of a recipe that are objects. -/
inductive Part where
  | recipe
  /-- The authentication entries by their names. -/
  | auths
  | auth
  | oauth
  | login
  /-- The actions by their names. -/
  | actions
  | action
  deriving DecidableEq, Repr

namespace Part

/-- The names of the fields of a part; a dictionary has none. -/
def fieldNames? : Part → Option (List String)
  | recipe => some ((Recipe.fields (ν := Place) (m := Except ReadError)).map Field.name)
  | auth => some ((AuthDoc.fields (ν := Place) (m := Except ReadError)).map Field.name)
  | oauth => some ((OAuth.fields (ν := Place) (m := Except ReadError)).map Field.name)
  | login => some ((TokenLogin.fields (ν := Place) (m := Except ReadError)).map Field.name)
  | action => some ((Action.fields (ν := Place) (m := Except ReadError)).map Field.name)
  | auths | actions => none

/-- The part that stands under a name. -/
def under (p : Part) (name : String) : Option Part :=
  match p with
  | recipe => if name = "auth" then some auths else if name = "seed" then some actions else none
  | auths => some auth
  | actions => some action
  | auth => if name = "oauth" then some oauth else if name = "custom" then some login else none
  | oauth | login | action => none

/-- What is read from a part. -/
def Value : Part → Type
  | recipe => Recipe
  | auths => Dict Auth
  | auth => Auth
  | oauth => OAuth
  | login => TokenLogin
  | actions => Dict Action
  | action => Action

/-- How a part is read. -/
def read : (p : Part) → Place → Except ReadError p.Value
  | recipe => readRecipe
  | auths => Source.dict (m := Except ReadError) readAuth
  | auth => readAuth
  | oauth => readOAuth
  | login => readTokenLogin
  | actions => Source.dict (m := Except ReadError) readAction
  | action => readAction

end Part

/-! ## Texts of parts -/

/-- A text that is read as a value. -/
def IsValue (cs : List Char) : Prop :=
  ∃ d, Spells cs d

/-- The text of an entry. -/
def IsEntry (e : List Char × List Char) : Prop :=
  ∃ d, SpellsEntry e d

/-- **The same part in another print**: its fields are in another order, and there may be entries in
between that are no field of it, with any values; or this is so in a part that stands under it, as
the value of an entry, or as an item where a record is given as the list of its fields. -/
inductive Reprints : Part → List Char → List Char → Prop
  | fields {p : Part} {names : List String} {es es' extra : List (List Char × List Char)}
      {cs cs' : List Char} (hp : p.fieldNames? = some names)
      (hcs : ObjectText es cs) (hes : ∀ e ∈ es, IsEntry e)
      (hextra : ∀ e ∈ extra, IsValue e.2 ∧ ∃ name, Names e.1 name ∧ name ∉ names)
      (hperm : es'.Perm (es ++ extra)) (hcs' : ObjectText es' cs') : Reprints p cs cs'
  | entry {p q : Part} {name : String} {key v v' : List Char}
      {front back : List (List Char × List Char)} {cs cs' : List Char}
      (hq : p.under name = some q) (hkey : Names key name)
      (hcs : ObjectText (front ++ (key, v) :: back) cs)
      (hfront : ∀ e ∈ front, IsEntry e) (hback : ∀ e ∈ back, IsEntry e)
      (h : Reprints q v v') (hcs' : ObjectText (front ++ (key, v') :: back) cs') :
      Reprints p cs cs'
  | item {p q : Part} {names : List String} {name : String} {v v' : List Char}
      {front back : List (List Char)} {cs cs' : List Char} (hp : p.fieldNames? = some names)
      (hname : names[front.length]? = some name) (hq : p.under name = some q)
      (hcs : ListText (front ++ v :: back) cs)
      (hfront : ∀ x ∈ front, IsValue x) (hback : ∀ x ∈ back, IsValue x)
      (h : Reprints q v v') (hcs' : ListText (front ++ v' :: back) cs') : Reprints p cs cs'

/-! ## Parts with fields -/

/-- How a part with fields is read: as a record, whose fields can be filled in any order and depend
on the parts that stand in them only by what is read from these. -/
structure Part.Fielded (p : Part) (names : List String) where
  {σ : Type}
  record : String
  fields : List (Field Place (Except ReadError) σ)
  blank : σ
  finish : σ → Except ReadError p.Value
  read_eq : p.read = fun place => readRecord record fields blank place >>= finish
  names_eq : fields.map Field.name = names
  commute : fields.Pairwise Field.Commutes
  parts : ∀ f ∈ fields, ∀ q, p.under f.name = some q → ∀ d d', Keeps q.read d d' →
    d ≠ .null → d' ≠ .null → ∀ a, Keeps (fun place => f.read place a) d d'

section Parts

variable {p q : Part} {names : List String} {d d' : Draft}

/-- A record that is taken as it is read. -/
theorem read_eq_bind_pure {α : Type} (read : Place → Except ReadError α) :
    read = fun place => read place >>= pure := by
  funext place
  rw [bind_pure]

/-- **Every part with fields** is read so. -/
theorem Part.exists_fielded (hp : p.fieldNames? = some names) : Nonempty (p.Fielded names) := by
  obtain ⟨hrecipe, hauth, hoauth, hlogin, haction⟩ := fields_commute
  cases p with
  | auths => cases hp
  | actions => cases hp
  | recipe =>
    refine ⟨⟨"Recipe", Recipe.fields, {}, pure, read_eq_bind_pure _, Option.some.inj hp, hrecipe,
      ?_⟩⟩
    intro f hf q hq d d' hd hnull hnull' a
    simp only [Recipe.fields, List.mem_cons, List.not_mem_nil, or_false] at hf
    rcases hf with rfl | rfl
    · cases hq
      exact hd.bind _
    · cases hq
      exact hd.bind _
  | auth =>
    refine ⟨⟨"AuthConfigDoc", AuthDoc.fields, {}, _, rfl, Option.some.inj hp, hauth, ?_⟩⟩
    intro f hf q hq d d' hd hnull hnull' a
    simp only [AuthDoc.fields, List.mem_cons, List.not_mem_nil, or_false] at hf
    rcases hf with rfl | rfl | rfl | rfl | rfl
    · cases hq
    · cases hq
    · cases hq
    · cases hq
      exact (hd.optionalOf hnull hnull').bind _
    · cases hq
      exact (hd.optionalOf hnull hnull').bind _
  | oauth =>
    refine ⟨⟨"OAuthConfig", OAuth.fields, _, pure, read_eq_bind_pure _, Option.some.inj hp, hoauth,
      ?_⟩⟩
    rintro f hf q ⟨⟩
  | login =>
    refine ⟨⟨"CustomToTokenConfig", TokenLogin.fields, _, pure, read_eq_bind_pure _,
      Option.some.inj hp, hlogin, ?_⟩⟩
    rintro f hf q ⟨⟩
  | action =>
    refine ⟨⟨"Action", Action.fields, _, pure, read_eq_bind_pure _, Option.some.inj hp, haction,
      ?_⟩⟩
    rintro f hf q ⟨⟩

/-- A name under which a part stands is that of a field, unless the part is a dictionary. -/
theorem Part.mem_of_under {name : String} (hp : p.fieldNames? = some names)
    (hq : p.under name = some q) : name ∈ names := by
  cases p with
  | auths | actions => cases hp
  | oauth | login | action => cases hq
  | recipe =>
    cases hp
    simp only [under] at hq
    split at hq
    · simp [*, Recipe.fields]
    · split at hq
      · simp [*, Recipe.fields]
      · cases hq
  | auth =>
    cases hp
    simp only [under] at hq
    split at hq
    · simp [*, AuthDoc.fields]
    · split at hq
      · simp [*, AuthDoc.fields]
      · cases hq

/-- **What is read from the value of an entry** is all of it that matters for the part. -/
theorem Part.keeps_entry {name : String} {front back : List (Option String × Draft)}
    (hq : p.under name = some q) (hd : Keeps q.read d d') (hnull : d ≠ .null)
    (hnull' : d' ≠ .null) :
    Keeps p.read (.object (.ofList (front ++ (some name, d) :: back)))
      (.object (.ofList (front ++ (some name, d') :: back))) := by
  cases hp : p.fieldNames? with
  | some names =>
    obtain ⟨R⟩ := Part.exists_fielded hp
    rw [R.read_eq]
    refine (Reconcile.keeps_entry ?_ fun f hf hname a => ?_).bind R.finish
    · rw [R.names_eq]
      exact mem_of_under hp hq
    · exact R.parts f hf q (hname ▸ hq) d d' hd hnull hnull' a
  | none =>
    cases p with
    | recipe | auth | oauth | login | action => cases hp
    | auths | actions =>
      cases hq
      exact keeps_dictEntry hd

/-- The same of an item of a record that is given as a list. -/
theorem Part.keeps_item {name : String} {front back : List Draft}
    (hp : p.fieldNames? = some names) (hname : names[front.length]? = some name)
    (hq : p.under name = some q) (hd : Keeps q.read d d') (hnull : d ≠ .null)
    (hnull' : d' ≠ .null) :
    Keeps p.read (.array (.ofList (front ++ d :: back)))
      (.array (.ofList (front ++ d' :: back))) := by
  obtain ⟨R⟩ := Part.exists_fielded hp
  rw [R.read_eq]
  have hfield : (R.fields.map Field.name)[front.length]? = some name := by rwa [R.names_eq]
  refine (Reconcile.keeps_item hfield fun f hf hf' a => ?_).bind R.finish
  exact R.parts f hf q (hf' ▸ hq) d d' hd hnull hnull' a

end Parts

/-! ## Trees of texts -/

/-- The trees of some entries. -/
theorem exists_spellsEntries {es : List (List Char × List Char)} (h : ∀ e ∈ es, IsEntry e) :
    ∃ ds, List.Forall₂ SpellsEntry es ds := by
  obtain ⟨ds, -, hds⟩ := exists_forall₂ (P := fun _ => True) fun e he =>
    (h e he).imp fun d hd => ⟨trivial, hd⟩
  exact ⟨ds, hds⟩

theorem exists_spellsItems {xs : List (List Char)} (h : ∀ x ∈ xs, IsValue x) :
    ∃ ds, List.Forall₂ Spells xs ds := by
  obtain ⟨ds, -, hds⟩ := exists_forall₂ (P := fun _ => True) fun x hx =>
    (h x hx).imp fun d hd => ⟨trivial, hd⟩
  exact ⟨ds, hds⟩

theorem IsEntry.of_isText {e : List Char × List Char} {name : String} (h : IsText e.2)
    (hname : Names e.1 name) : IsEntry e := by
  obtain ⟨d, hd⟩ := exists_spellsEntry h hname
  exact ⟨_, hd⟩

/-- The trees of entries that are no field can be passed over. -/
theorem exists_foreign {σ : Type} {fields : List (Field Place (Except ReadError) σ)}
    {es : List (List Char × List Char)}
    (h : ∀ e ∈ es, IsValue e.2 ∧ ∃ name, Names e.1 name ∧ name ∉ fields.map Field.name) :
    ∃ ds, (∀ d ∈ ds, IsForeign fields d) ∧ List.Forall₂ SpellsEntry es ds := by
  refine exists_forall₂ fun e he => ?_
  obtain ⟨⟨d, hd⟩, name, hname, hforeign⟩ := h e he
  exact ⟨(some name, d), ⟨name, rfl, hforeign, hd.passOver⟩, names_iff.mp hname, hd⟩

/-- **What is read from a part** is read from every other print of it. -/
theorem Reprints.keeps {p : Part} {cs cs' : List Char} (h : Reprints p cs cs') :
    ∃ d d', Spells cs d ∧ Spells cs' d' ∧ d ≠ .null ∧ d' ≠ .null ∧ Keeps p.read d d' := by
  induction h with
  | @fields p names es es' extra cs cs' hp hcs hes hextra hperm hcs' =>
    obtain ⟨R⟩ := Part.exists_fielded hp
    rw [← R.names_eq] at hextra
    obtain ⟨ds, hds⟩ := exists_spellsEntries hes
    obtain ⟨xs, hforeign, hxs⟩ := exists_foreign hextra
    obtain ⟨ds', hds', hperm'⟩ := List.perm_comp_forall₂ hperm (List.rel_append hds hxs)
    refine ⟨.object (.ofList ds), .object (.ofList ds'), spells_iff_objectText.mpr ⟨es, hcs, hds⟩,
      spells_iff_objectText.mpr ⟨es', hcs', hds'⟩, by simp, by simp, ?_⟩
    rw [R.read_eq]
    exact (keeps_rearranged R.commute hforeign hperm').bind R.finish
  | @entry p q name key v v' front back cs cs' hq hkey hcs hfront hback _ hcs' ih =>
    obtain ⟨d, d', hd, hd', hnull, hnull', hkeeps⟩ := ih
    obtain ⟨fs, hfs⟩ := exists_spellsEntries hfront
    obtain ⟨bs, hbs⟩ := exists_spellsEntries hback
    have hall : ∀ {x : List Char} {y : Draft}, Spells x y →
        List.Forall₂ SpellsEntry (front ++ (key, x) :: back) (fs ++ (some name, y) :: bs) :=
      fun hx => List.rel_append hfs (.cons ⟨names_iff.mp hkey, hx⟩ hbs)
    exact ⟨_, _, spells_iff_objectText.mpr ⟨_, hcs, hall hd⟩,
      spells_iff_objectText.mpr ⟨_, hcs', hall hd'⟩, by simp, by simp,
      Part.keeps_entry hq hkeeps hnull hnull'⟩
  | @item p q names name v v' front back cs cs' hp hname hq hcs hfront hback _ hcs' ih =>
    obtain ⟨d, d', hd, hd', hnull, hnull', hkeeps⟩ := ih
    obtain ⟨fs, hfs⟩ := exists_spellsItems hfront
    obtain ⟨bs, hbs⟩ := exists_spellsItems hback
    rw [hfs.length_eq] at hname
    exact ⟨_, _, hcs.spells (List.rel_append hfs (.cons hd hbs)),
      hcs'.spells (List.rel_append hfs (.cons hd' hbs)), by simp, by simp,
      Part.keeps_item hp hname hq hkeeps hnull hnull'⟩

theorem decode_of_spells {α : Type} {read : Place → Except ReadError α} {cs : List Char} {d : Draft}
    (h : Spells cs d) : Json.decode read (String.ofList cs) = read ⟨depthLimit, d⟩ := by
  unfold Json.decode
  rw [h.ofText]
  exact bind_pure (read ⟨depthLimit, d⟩)

/-- A recipe is read from every other print of its text. -/
theorem Reprints.decode {cs cs' : List Char} {r : Recipe} (h : Reprints .recipe cs cs')
    (hr : Json.decode readRecipe (String.ofList cs) = .ok r) :
    Json.decode readRecipe (String.ofList cs') = .ok r := by
  obtain ⟨d, d', hd, hd', -, -, hkeeps⟩ := h.keeps
  rw [decode_of_spells hd] at hr
  rw [decode_of_spells hd']
  exact hkeeps _ _ hr

end Json

theorem Recipe.parse_json_iff {s : String} {r : Recipe} :
    Recipe.parse (some .json) s = .ok (.json, r) ↔ Json.decode readRecipe s = .ok r := by
  rw [Recipe.parse, Recipe.ofJson]
  cases Json.decode readRecipe s with
  | error e => exact iff_of_false (by rintro ⟨⟩) (by rintro ⟨⟩)
  | ok a =>
    constructor
    · rintro ⟨⟩
      rfl
    · rintro ⟨⟩
      rfl

/-- **A recipe is read from every other print of its text**: with the fields of any of its objects
in another order, with any entries in between that are no field of the object, and with other blanks
around the parts, as often as one likes. -/
theorem Recipe.parse_reprinted {s s' : String} {r : Recipe}
    (h : Recipe.parse (some .json) s = .ok (.json, r))
    (hs : Relation.ReflTransGen (Reprints .recipe) s.toList s'.toList) :
    Recipe.parse (some .json) s' = .ok (.json, r) := by
  rw [Recipe.parse_json_iff] at h ⊢
  rw [← String.ofList_toList (s := s)] at h
  rw [← String.ofList_toList (s := s')]
  generalize s'.toList = cs' at hs ⊢
  induction hs with
  | refl => exact h
  | tail _ hstep ih => exact hstep.decode ih

/-- The text of an object without blanks around its braces. -/
def Json.bracedText (es : List (List Char × List Char)) : List Char :=
  '\x7b' :: (separated (es.map entryText) ++ ['\x7d'])

theorem Json.objectText_bracedText {es : List (List Char × List Char)} (hne : es ≠ []) :
    ObjectText es (bracedText es) :=
  ⟨[], _, [], List.forall_mem_nil _, List.forall_mem_nil _, rfl, .inr ⟨hne, rfl⟩⟩

/-- An action is printed in another order and with a field that it does not have, and then the
recipe with one that it does not have. -/
theorem Recipe.parse_reprinted_twice :
    let strategy := ("\"strategy\"".toList, "\"PUT\"".toList)
    let endpoint := ("\"endpoint\"".toList, " \"http://h\"".toList)
    let stray := ("\"x\"".toList, "[null,\x7b\x7d]".toList)
    let seed (action : List Char) :=
      ("\"seed\"".toList, bracedText [("\"a\"".toList, action)])
    let s := String.ofList (bracedText [seed (bracedText [strategy, endpoint])])
    let s' := String.ofList (bracedText [stray, seed (bracedText [endpoint, stray, strategy])])
    let r : Recipe := { seed := .ofList [("a", { strategy := .put, endpoint := "http://h" })] }
    Recipe.parse (some .json) s = .ok (.json, r) ∧
      Recipe.parse (some .json) s' = .ok (.json, r) := by
  intro strategy endpoint stray seed s s' r
  have h : Recipe.parse (some .json) s = .ok (.json, r) := by decide +kernel
  have hstrategy : IsEntry strategy := .of_isText (by decide +kernel)
    (show Names strategy.1 "strategy" by decide +kernel)
  have hendpoint : IsEntry endpoint := .of_isText (by decide +kernel)
    (show Names endpoint.1 "endpoint" by decide +kernel)
  have hseed : ∀ action, IsText (bracedText [("\"a\"".toList, action)]) → IsEntry (seed action) :=
    fun action ha => .of_isText ha (show Names "\"seed\"".toList "seed" by decide +kernel)
  have hstray : ∀ names : List String, "x" ∉ names → ∀ e ∈ [stray], IsValue e.2 ∧
      ∃ name, Names e.1 name ∧ name ∉ names := by
    intro names hx e he
    obtain rfl := List.mem_singleton.mp he
    obtain ⟨d, -, hd, -⟩ := isText_iff.mp (show IsText stray.2 by decide +kernel)
    exact ⟨⟨d, hd⟩, "x", by decide +kernel, hx⟩
  have haction : Reprints .action (bracedText [strategy, endpoint])
      (bracedText [endpoint, stray, strategy]) := by
    refine .fields rfl (objectText_bracedText (by simp)) ?_ (hstray _ (by decide)) ?_
      (objectText_bracedText (by simp))
    · exact List.forall_mem_cons.mpr ⟨hstrategy, List.forall_mem_singleton.mpr hendpoint⟩
    · show ([endpoint, stray] ++ [strategy]).Perm ([strategy] ++ [endpoint, stray])
      exact List.perm_append_comm
  have hfirst : Reprints .recipe (bracedText [seed (bracedText [strategy, endpoint])])
      (bracedText [seed (bracedText [endpoint, stray, strategy])]) := by
    have hnone : ∀ e ∈ ([] : List (List Char × List Char)), IsEntry e := List.forall_mem_nil _
    refine @Reprints.entry .recipe .actions "seed" _ _ _ [] [] _ _ rfl (by decide +kernel)
      (objectText_bracedText (by simp)) hnone hnone ?_ (objectText_bracedText (by simp))
    exact @Reprints.entry .actions .action "a" _ _ _ [] [] _ _ rfl (by decide +kernel)
      (objectText_bracedText (by simp)) hnone hnone haction (objectText_bracedText (by simp))
  have hsecond : Reprints .recipe (bracedText [seed (bracedText [endpoint, stray, strategy])])
      (bracedText [stray, seed (bracedText [endpoint, stray, strategy])]) := by
    refine .fields rfl (objectText_bracedText (by simp)) ?_ (hstray _ (by decide)) ?_
      (objectText_bracedText (by simp))
    · exact List.forall_mem_singleton.mpr (hseed _ (by decide +kernel))
    · show ([stray] ++ [seed _]).Perm ([seed _] ++ [stray])
      exact List.perm_append_comm
  have hsteps : Relation.ReflTransGen (Reprints .recipe) s.toList s'.toList := by
    rw [String.toList_ofList, String.toList_ofList]
    exact (Relation.ReflTransGen.single hfirst).tail hsecond
  exact ⟨h, Recipe.parse_reprinted h hsteps⟩

end Reconcile
