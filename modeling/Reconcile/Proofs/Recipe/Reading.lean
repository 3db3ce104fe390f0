import Reconcile.Proofs.Json.Values
import Reconcile.Recipe.FromJson
import Reconcile.Recipe.ToJson

/-!
# Readings of what was written

* `Yields` — a reading that gets something from the tree of a value.
* `yields_text` and the like — the readings that the document format offers.
* `Fills` — a record that is filled from written fields, in the order in which they are declared;
  `yields_record` — then the record is read from its object.
-/

namespace Reconcile

/-- A new name is put at the end. -/
theorem Dict.set_of_not_mem {α : Type} {name : String} {value : α} {es : List (String × α)}
    (h : name ∉ es.map Prod.fst) : Dict.set name value es = es ++ [(name, value)] := by
  induction es with
  | nil => rfl
  | cons e es ih =>
    obtain ⟨k, v⟩ := e
    rw [List.map_cons, List.mem_cons, not_or] at h
    rw [Dict.set, if_neg fun heq => h.1 heq.symm, ih h.2]
    rfl

namespace Json

variable {α β σ : Type}

/-- A reading gets something from the tree of a value whose numbers are integers, wherever the
value is not nested too deep. -/
structure Yields (read : Place → Except ReadError α) (v : Json) (a : α) : Prop where
  whole : v.isWhole = true
  reads : ∀ {limit : Nat}, v.depth < limit → read ⟨limit, v.draft⟩ = .ok a

section Scalars

theorem yields_text (s : String) : Yields readText (.string s) s :=
  ⟨rfl, fun _ => by rw [draft]; rfl⟩

theorem yields_flag (b : Bool) : Yields readFlag (.bool b) b :=
  ⟨rfl, fun _ => by rw [draft]; rfl⟩

theorem yields_int64 (i : Int64) : Yields readInt64 (int64Json i) i := by
  have hlt : i.toInt < (1 <<< 63 : Nat) := Int.lt_of_lt_of_le i.toInt_lt (by decide)
  refine ⟨rfl, fun _ => ?_⟩
  rw [int64Json, draft, readInt64]
  dsimp only
  rw [if_pos hlt, Int64.ofInt_toInt]

theorem yields_json {v : Json} (hw : v.isWhole = true) (ha : v.isAscending = true) :
    Yields (Source.json (m := Except ReadError)) v v := by
  refine ⟨hw, fun hd => ?_⟩
  show lift (v.draft.json _) = _
  rw [json_draft v ha hd]
  rfl

theorem yields_choice {names : List (String × α)} {name : String} {a : α}
    (h : names.find? (fun n => n.1 == name) = some (name, a)) :
    Yields (readChoice names) (.string name) a := by
  refine ⟨rfl, fun _ => ?_⟩
  rw [draft, readChoice]
  dsimp only
  rw [lookUp, h]

theorem yields_optionalText (s : String) :
    Yields (Source.optionalText (m := Except ReadError)) (.string s) (some s) :=
  ⟨rfl, fun _ => by rw [draft]; rfl⟩

theorem yields_optionalOf {read : Place → Except ReadError α} {v : Json} {a : α}
    (h : Yields read v a) (hv : v ≠ .null) :
    Yields (Source.optionalOf (m := Except ReadError) read) v (some a) := by
  refine ⟨h.whole, fun {limit} hd => ?_⟩
  have hsome : Source.optional (m := Except ReadError) (⟨limit, v.draft⟩ : Place) =
      .ok (some ⟨limit, v.draft⟩) := by
    cases v with
    | null => exact absurd rfl hv
    | bool b | number n | string s | array items | object entries => rw [draft]; rfl
  unfold Source.optionalOf
  rw [hsome]
  show (read ⟨limit, v.draft⟩ >>= fun a => pure (some a)) = _
  rw [h.reads hd]
  rfl

end Scalars

/-! ## Lists and dictionaries -/

section Collections

variable {read : Place → Except ReadError α} {json : α → Json}

theorem itemsWhole_map {xs : List α} (h : ∀ x ∈ xs, Yields read (json x) x) :
    itemsWhole (xs.map json) = true := by
  induction xs with
  | nil => rfl
  | cons x xs ih =>
    obtain ⟨hx, hxs⟩ := List.forall_mem_cons.mp h
    exact Bool.and_eq_true_iff.mpr ⟨hx.whole, ih hxs⟩

theorem readList_map {xs : List α} {limit : Nat} (h : ∀ x ∈ xs, Yields read (json x) x)
    (hd : itemsDepth (xs.map json) < limit) :
    readList read limit (itemsDraft (xs.map json)) = .ok xs := by
  induction xs with
  | nil => rw [List.map_nil, itemsDraft, readList]
  | cons x xs ih =>
    obtain ⟨hx, hxs⟩ := List.forall_mem_cons.mp h
    obtain ⟨hdx, hdxs⟩ := Nat.max_lt.mp hd
    rw [List.map_cons, itemsDraft, readList, hx.reads hdx]
    show (readList read limit (itemsDraft (xs.map json)) >>= fun rest => pure (x :: rest)) = _
    rw [ih hxs hdxs]
    rfl

theorem enter_of_lt {limit : Nat} {d : Draft} (h : 1 < limit) :
    Place.enter ⟨limit, d⟩ = .ok (limit - 1) :=
  if_neg (Nat.not_le_of_lt h)

/-- **A list is read back** if its items are. -/
theorem yields_list {xs : List α} (h : ∀ x ∈ xs, Yields read (json x) x) :
    Yields (Source.list (m := Except ReadError) read) (.array (xs.map json)) xs := by
  refine ⟨itemsWhole_map h, fun {limit} hd => ?_⟩
  have hd : itemsDepth (xs.map json) + 1 < limit := hd
  rw [draft]
  show (Place.enter ⟨limit, _⟩ >>= fun limit => readList read limit _) = _
  rw [enter_of_lt (by omega)]
  exact readList_map h (by omega)

theorem entriesWhole_map {es : List (String × α)} (h : ∀ e ∈ es, Yields read (json e.2) e.2) :
    entriesWhole (es.map fun e => (e.1, json e.2)) = true := by
  induction es with
  | nil => rfl
  | cons e es ih =>
    obtain ⟨he, hes⟩ := List.forall_mem_cons.mp h
    exact Bool.and_eq_true_iff.mpr ⟨he.whole, ih hes⟩

/-- Entries with new names are put at the end, one after the other. -/
theorem readDict_map {es : List (String × α)} {soFar d : Dict α} {limit : Nat}
    (h : ∀ e ∈ es, Yields read (json e.2) e.2) (hes : d.entries = soFar.entries ++ es)
    (hd : entriesDepth (es.map fun e => (e.1, json e.2)) < limit) :
    readDict read limit (entriesDraft (es.map fun e => (e.1, json e.2))) soFar = .ok d := by
  induction es generalizing soFar with
  | nil =>
    rw [List.append_nil] at hes
    rw [List.map_nil, entriesDraft, readDict, Dict.ext hes]
  | cons e es ih =>
    obtain ⟨name, a⟩ := e
    obtain ⟨ha, hrest⟩ := List.forall_mem_cons.mp h
    obtain ⟨hda, hdrest⟩ := Nat.max_lt.mp hd
    have hnew : name ∉ soFar.entries.map Prod.fst := by
      have hdistinct := d.distinct
      rw [hes, List.map_append, List.nodup_append] at hdistinct
      exact fun hmem => hdistinct.2.2 name hmem name (by simp) rfl
    have hinsert : (soFar.insert name a).entries = soFar.entries ++ [(name, a)] :=
      Dict.set_of_not_mem hnew
    rw [List.map_cons, entriesDraft, readDict, ha.reads hda]
    refine ih hrest ?_ hdrest
    rw [hinsert, hes, List.append_assoc]
    rfl

/-- **A dictionary is read back** if its values are. -/
theorem yields_dict {d : Dict α} (h : ∀ e ∈ d.entries, Yields read (json e.2) e.2) :
    Yields (Source.dict (m := Except ReadError) read) (d.json json) d := by
  refine ⟨entriesWhole_map h, fun {limit} hd => ?_⟩
  have hd : entriesDepth (d.entries.map fun e => (e.1, json e.2)) + 1 < limit := hd
  rw [Dict.json, draft]
  show (Place.enter ⟨limit, _⟩ >>= fun limit => readDict read limit _ {}) = _
  rw [enter_of_lt (by omega)]
  exact readDict_map h rfl (by omega)

end Collections

/-! ## Records -/

/-- A record that is filled from written fields: each one is there or left out, in the order in
which they are declared. -/
inductive Fills :
    List (Field Place (Except ReadError) σ) → List (String × Json) → σ → σ → Prop
  | done (a : σ) : Fills [] [] a a
  | absent {f : Field Place (Except ReadError) σ} {fs : List (Field Place (Except ReadError) σ)}
      {es : List (String × Json)} {a b : σ} (hf : f.required = false) (h : Fills fs es a b) :
      Fills (f :: fs) es a b
  | present {f : Field Place (Except ReadError) σ} {fs : List (Field Place (Except ReadError) σ)}
      {es : List (String × Json)} {v : Json} {a b c : σ} (hf : Yields (f.read · a) v b)
      (h : Fills fs es b c) : Fills (f :: fs) ((f.name, v) :: es) a c

section Records

variable {f : Field Place (Except ReadError) σ} {fs : List (Field Place (Except ReadError) σ)}
  {es : List (String × Json)} {a b c : σ}

theorem Fills.entriesWhole (h : Fills fs es a b) : entriesWhole es = true := by
  induction h with
  | done a => rfl
  | absent hf h ih => exact ih
  | present hf h ih => exact Bool.and_eq_true_iff.mpr ⟨hf.whole, ih⟩

/-- The fields that are not read yet fill the record, whatever was read before them. -/
theorem readEntries_of_fills (done : List (Field Place (Except ReadError) σ))
    {seen : List String} {limit : Nat} (h : Fills fs es a b)
    (hdistinct : ((done ++ fs).map Field.name).Nodup)
    (hseen : ∀ name ∈ seen, name ∈ done.map Field.name)
    (hrequired : ∀ f ∈ done, f.required = true → f.name ∈ seen)
    (hd : entriesDepth es < limit) :
    readEntries (done ++ fs) limit (entriesDraft es) seen a = .ok b := by
  induction h generalizing done seen with
  | done a =>
    have hnone : Field.firstMissing (done ++ []) seen = none := by
      rw [Field.firstMissing, Option.map_eq_none_iff, List.find?_eq_none]
      intro f hf
      rw [List.append_nil] at hf
      have hf := hrequired f hf
      simpa using hf
    rw [entriesDraft, readEntries, hnone]
  | @absent f fs es a b hf h ih =>
    rw [List.append_cons] at hdistinct ⊢
    refine ih _ hdistinct ?_ ?_ hd
    · intro name hname
      simp [hseen name hname]
    · intro g hg hreq
      rcases List.mem_append.mp hg with hg | hg
      · exact hrequired g hg hreq
      · rw [List.mem_singleton.mp hg, hf] at hreq
        cases hreq
  | @present f fs es v a b c hf h ih =>
    obtain ⟨hdv, hdes⟩ := Nat.max_lt.mp hd
    have hnew : f.name ∉ done.map Field.name := by
      rw [List.map_append, List.nodup_append] at hdistinct
      exact fun hmem => hdistinct.2.2 f.name hmem f.name (by simp) rfl
    have hfind : (done ++ f :: fs).find? (fun g => g.name == f.name) = some f := by
      rw [List.find?_append, List.find?_eq_none.mpr, List.find?_cons_of_pos (by simp)]
      · rfl
      · intro g hg hname
        exact hnew (List.mem_map.mpr ⟨g, hg, by simpa using hname⟩)
    have hunseen : seen.contains f.name = false := by
      simpa using fun hmem => hnew (hseen f.name hmem)
    rw [entriesDraft, readEntries, hfind]
    dsimp only
    rw [hunseen, if_neg (by simp)]
    have hread : f.read ⟨limit, v.draft⟩ a = .ok b := hf.reads hdv
    rw [hread]
    show readEntries _ limit _ (f.name :: seen) b = _
    rw [List.append_cons] at hdistinct ⊢
    refine ih _ hdistinct ?_ ?_ hdes
    · intro name hname
      rcases List.mem_cons.mp hname with rfl | hname
      · simp
      · simp [hseen name hname]
    · intro g hg hreq
      rcases List.mem_append.mp hg with hg | hg
      · exact List.mem_cons_of_mem _ (hrequired g hg hreq)
      · rw [List.mem_singleton.mp hg]
        exact List.mem_cons_self

section Fields

variable {read : Place → Except ReadError β} {set : β → σ → σ} {v : Json} {x : β}

theorem Yields.setting (h : Yields read v x)
    (hf : ∀ p a, f.read p a = read p >>= fun x => pure (set x a)) :
    Yields (f.read · a) v (set x a) := by
  refine ⟨h.whole, fun hd => ?_⟩
  rw [hf, h.reads hd]
  rfl

/-- A field that is always written. -/
theorem Fills.always (hf : ∀ p a, f.read p a = read p >>= fun x => pure (set x a))
    (hx : Yields read v x) (h : Fills fs es (set x a) b) :
    Fills (f :: fs) ((f.name, v) :: es) a b :=
  .present (hx.setting hf) h

/-- A field that is left out when it is empty, which the blank record says of it, too. -/
theorem Fills.nonEmpty {empty : Bool} {blank : β}
    (hf : ∀ p a, f.read p a = read p >>= fun x => pure (set x a)) (hr : f.required = false)
    (hempty : empty = true → x = blank) (hblank : set blank a = a) (hx : Yields read v x)
    (h : Fills fs es (set x a) b) :
    Fills (f :: fs) (nonEmptyField f.name empty v ++ es) a b := by
  cases empty with
  | true =>
    rw [hempty rfl, hblank] at h
    exact .absent hr h
  | false => exact .always hf hx h

/-- A field that is left out when it has no value, which the blank record says of it, too. -/
theorem Fills.optional {read : Place → Except ReadError (Option β)} {set : Option β → σ → σ}
    {json : β → Json} {x? : Option β}
    (hf : ∀ p a, f.read p a = read p >>= fun x => pure (set x a)) (hr : f.required = false)
    (hblank : set none a = a) (hx : ∀ x, x? = some x → Yields read (json x) (some x))
    (h : Fills fs es (set x? a) b) :
    Fills (f :: fs) (optionalField f.name json x? ++ es) a b := by
  cases x? with
  | none =>
    rw [hblank] at h
    exact .absent hr h
  | some x => exact .always hf (hx x rfl) h

/-- A text that is left out when it has no value. -/
theorem Fills.optionalText {set : Option String → σ → σ} {s? : Option String}
    (hf : ∀ p a, f.read p a =
      Source.optionalText (m := Except ReadError) p >>= fun s => pure (set s a))
    (hr : f.required = false) (hblank : set none a = a) (h : Fills fs es (set s? a) b) :
    Fills (f :: fs) (optionalField f.name .string s? ++ es) a b :=
  .optional hf hr hblank (fun s _ => yields_optionalText s) h

end Fields

/-- **A record is read back** if its fields fill it. -/
theorem yields_record {name : String} (h : Fills fs (es ++ []) a b)
    (hd : (fs.map Field.name).Nodup) :
    Yields (Source.record (m := Except ReadError) name fs a) (.object es) b := by
  rw [List.append_nil] at h
  refine ⟨h.entriesWhole, fun {limit} hlimit => ?_⟩
  have hlimit : entriesDepth es + 1 < limit := hlimit
  rw [draft]
  show (Place.enter ⟨limit, _⟩ >>= fun limit => readEntries fs limit _ [] a) = _
  rw [enter_of_lt (by omega)]
  exact readEntries_of_fills [] h hd (by simp) (by simp) (by omega)

end Records

end Json

end Reconcile
