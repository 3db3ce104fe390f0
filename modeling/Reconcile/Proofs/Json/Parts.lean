import Mathlib.Data.List.Forall2
import Reconcile.Proofs.Json.Locality

/-!
# Texts of values, by the texts of their parts

What is read as a value is a text of its own: it is read as the same value wherever it stands. So
the text of an array is that of its items, with commas in between, and the text of an object is that
of its entries.

* `Spells` — a text that is read as a tree wherever it stands; `Spells.unique` — as one tree only.
* `separated` — texts with commas in between; `SpellsEntry` — the text of an entry.
* `readItems_separated`, `readFields_separated` — trees of parts from their texts; `spells_word`,
  `spells_string`, `spells_array`, `spells_object` — texts of trees.
* `readItems_parts`, `readFields_parts` — texts of parts from what was read.
* `readValue_local` — a value is read from a text of its own.
* `spells_array_iff`, `spells_object_iff` — the texts of arrays and objects that are not empty.
-/

namespace Reconcile.Json

/-! ## Texts of trees -/

/-- A text is read as a tree wherever it stands, and nothing but blanks is left of it. -/
structure Spells (cs : List Char) (d : Draft) : Prop where
  whole : d.isBroken = false
  reads (fuel : Nat) (more : List Char) (hf : 2 * cs.length + 1 ≤ fuel) (hm : Apart more) :
    ∃ rest, readValue fuel (cs ++ more) = (d, rest) ∧ skipSpace rest = skipSpace more

section Texts

variable {cs : List Char} {d d' : Draft}

theorem Spells.ofText (h : Spells cs d) : Draft.ofText (String.ofList cs) = (d, false) := by
  obtain ⟨rest, hread, hrest⟩ := h.reads (2 * cs.length + 2) [] (by omega) apart_nil
  rw [List.append_nil] at hread
  rw [Draft.ofText, String.toList_ofList, hread, hrest]
  rfl

/-- **A text spells one tree only.** -/
theorem Spells.unique (h : Spells cs d) (h' : Spells cs d') : d = d' := by
  have heq := h.ofText
  rw [h'.ofText] at heq
  exact (Prod.mk.inj heq).1.symm

/-- Blanks around a text do not matter. -/
theorem Spells.padded {before after : List Char} (h : Spells cs d)
    (hbefore : ∀ c ∈ before, isSpace c = true) (hafter : ∀ c ∈ after, isSpace c = true) :
    Spells (before ++ cs ++ after) d where
  whole := h.whole
  reads fuel more hf hm := by
    have hapart : Apart (after ++ more) := by
      cases after with
      | nil => exact hm
      | cons c t => exact apart_cons (.inl (hafter c List.mem_cons_self)) _
    have hf' : 2 * cs.length + 1 ≤ fuel := by
      simp only [List.length_append] at hf
      omega
    obtain ⟨rest, hread, hrest⟩ := h.reads fuel (after ++ more) hf' hapart
    refine ⟨rest, ?_, hrest.trans (skipSpace_of_blank hafter more)⟩
    rw [List.append_assoc, List.append_assoc, readValue_blank_append fuel hbefore, hread]

/-- The first character of a text of a tree ends nothing. -/
theorem Spells.head (h : Spells cs d) {more : List Char} (hm : Apart more) :
    ∃ c t, skipSpace (cs ++ more) = c :: t ∧ c ≠ ']' := by
  obtain ⟨rest, hread, -⟩ := h.reads (2 * cs.length + 1) more (by omega) hm
  obtain ⟨c, t, hskip, hreading⟩ := reading_of_readValue hread h.whole
  refine ⟨c, t, hskip, ?_⟩
  rintro rfl
  cases hreading with
  | word hw _ => simp [words] at hw
  | digits hc _ => cases hc

/-- The text of a name, before a colon: it is read as a string. -/
theorem Spells.name {name : Option String} (h : Spells cs (.string name)) (more : List Char) :
    ∃ body, skipSpace (cs ++ ':' :: more) = '"' :: body ∧ ∀ fuel, 2 * cs.length ≤ fuel →
      ∃ rest, readString fuel (some []) body = .ok (name, rest) ∧
        skipSpace rest = ':' :: more := by
  have hread : ∀ fuel, 2 * cs.length ≤ fuel → ∃ body, skipSpace (cs ++ ':' :: more) = '"' :: body ∧
      ∃ rest, readString fuel (some []) body = .ok (name, rest) ∧
        skipSpace rest = ':' :: more := by
    intro fuel hf
    have hapart : Apart (':' :: more) := apart_cons (.inr (.inr (.inl rfl))) more
    obtain ⟨rest, hread, hrest⟩ := h.reads (fuel + 1) (':' :: more) (by omega) hapart
    obtain ⟨c, t, hskip, hreading⟩ := reading_of_readValue hread h.whole
    cases hreading with
    | word hw _ => simp [words] at hw
    | string hs => exact ⟨t, hskip, rest, hs, hrest.trans (skipSpace_cons (by decide) more)⟩
  obtain ⟨body, hskip, -⟩ := hread _ le_rfl
  refine ⟨body, hskip, fun fuel hf => ?_⟩
  obtain ⟨body', hskip', hrest⟩ := hread fuel hf
  rw [hskip] at hskip'
  cases hskip'
  exact hrest

theorem spells_word {c : Char} {w : List Char} (hw : (c, w, d) ∈ words) : Spells (c :: w) d := by
  refine ⟨?_, fun fuel more hf _ => ⟨more, ?_, rfl⟩⟩
  · simp only [words, List.mem_cons, Prod.mk.injEq, List.not_mem_nil, or_false] at hw
    rcases hw with ⟨-, -, rfl⟩ | ⟨-, -, rfl⟩ | ⟨-, -, rfl⟩ <;> rfl
  · obtain ⟨fuel, rfl⟩ : ∃ n, fuel = n + 1 := ⟨fuel - 1, by omega⟩
    exact readValue_word hw more

theorem spells_string {front used back : List Char} {s : Option String}
    (hfront : ∀ c ∈ front, isSpace c = true) (hback : ∀ c ∈ back, isSpace c = true)
    (hread : ∀ fuel more, used.length ≤ fuel →
      readString fuel (some []) (used ++ more) = .ok (s, more)) :
    Spells (front ++ '"' :: used ++ back) (.string s) := by
  refine Spells.padded ⟨rfl, fun fuel more hf _ => ?_⟩ hfront hback
  obtain ⟨fuel, rfl⟩ : ∃ n, fuel = n + 1 := ⟨fuel - 1, by omega⟩
  refine ⟨more, ?_, rfl⟩
  rw [List.length_cons] at hf
  show scalar .string (readString fuel (some []) (used ++ more)) = _
  rw [hread fuel more (by omega)]
  rfl

end Texts

/-! ## Separated texts -/

/-- Texts with commas in between. -/
def separated : List (List Char) → List Char
  | [] => []
  | [x] => x
  | x :: y :: rest => x ++ ',' :: separated (y :: rest)

theorem separated_cons (x : List Char) (xs : List (List Char)) :
    ∃ t, separated (x :: xs) = x ++ t ∧ ∀ c more, Apart (c :: more) → Apart (t ++ c :: more) := by
  cases xs with
  | nil => exact ⟨[], (List.append_nil x).symm, fun c more h => h⟩
  | cons y xs => exact ⟨_, rfl, fun c more h => apart_cons (.inr (.inl rfl)) _⟩

/-- Trees as items. -/
def Items.ofList : List Draft → Items
  | [] => .closed
  | d :: ds => .cons d (ofList ds)

/-- Trees with names as entries. -/
def Fields.ofList : List (Option String × Draft) → Fields
  | [] => .closed
  | (name, d) :: es => .cons name d (ofList es)

theorem go_ofList (ds : List Draft) : Draft.isBroken.go (Items.ofList ds) = false := by
  induction ds with
  | nil => rw [Items.ofList, Draft.isBroken.go]
  | cons d ds ih => rw [Items.ofList, Draft.isBroken.go, ih]

theorem goFields_ofList (ds : List (Option String × Draft)) :
    Draft.isBroken.goFields (Fields.ofList ds) = false := by
  induction ds with
  | nil => rw [Fields.ofList, Draft.isBroken.goFields]
  | cons e ds ih =>
    obtain ⟨name, d⟩ := e
    rw [Fields.ofList, Draft.isBroken.goFields, ih]

/-- **Items are read from their texts.** -/
theorem readItems_separated {xs : List (List Char)} {ds : List Draft}
    (h : List.Forall₂ Spells xs ds) (hne : xs ≠ []) {fuel : Nat}
    (hf : 2 * (separated xs).length + 2 ≤ fuel) (after : List Char) :
    readItems fuel (separated xs ++ ']' :: after) = (Items.ofList ds, after) := by
  induction h generalizing fuel with
  | nil => exact absurd rfl hne
  | @cons x d xs ds hx hxs ih =>
    obtain ⟨fuel, rfl⟩ : ∃ n, fuel = n + 1 := ⟨fuel - 1, by omega⟩
    cases hxs with
    | nil =>
      rw [separated] at hf ⊢
      have hapart : Apart (']' :: after) := apart_cons (.inr (.inr (.inr (.inl rfl)))) after
      obtain ⟨rest, hread, hrest⟩ := hx.reads fuel _ (by omega) hapart
      rw [readItems_last hread hx.whole hrest]
      rfl
    | @cons y e xs ds hy hys =>
      rw [separated] at hf ⊢
      rw [List.length_append, List.length_cons] at hf
      obtain ⟨rest, hread, hrest⟩ := hx.reads fuel (',' :: (separated (y :: xs) ++ ']' :: after))
        (by omega) (apart_cons (.inr (.inl rfl)) _)
      rw [List.append_assoc, List.cons_append, readItems_next hread hx.whole hrest,
        ih (by simp) (by omega)]
      rfl

/-- The text of an entry, from those of its name and its value. -/
def entryText (e : List Char × List Char) : List Char :=
  e.1 ++ ':' :: e.2

/-- The text of an entry spells a name and a tree. -/
def SpellsEntry (e : List Char × List Char) (d : Option String × Draft) : Prop :=
  Spells e.1 (.string d.1) ∧ Spells e.2 d.2

/-- **Entries are read from their texts**, the first quote apart. -/
theorem readFields_separated {es : List (List Char × List Char)}
    {ds : List (Option String × Draft)} (h : List.Forall₂ SpellsEntry es ds) (hne : es ≠ [])
    (after : List Char) :
    ∃ t, skipSpace (separated (es.map entryText) ++ '\x7d' :: after) = '"' :: t ∧
      ∀ fuel, 2 * (separated (es.map entryText)).length + 2 ≤ fuel →
        readFields fuel t = (Fields.ofList ds, after) := by
  induction h with
  | nil => exact absurd rfl hne
  | @cons e d es ds he hes ih =>
    obtain ⟨key, x⟩ := e
    obtain ⟨name, d⟩ := d
    obtain ⟨(hkey : Spells key (.string name)), (hx : Spells x d)⟩ := he
    cases hes with
    | nil =>
      have htext : separated ([(key, x)].map entryText) ++ '\x7d' :: after =
          key ++ ':' :: (x ++ '\x7d' :: after) := by
        simp [separated, entryText]
      have hlength : (separated ([(key, x)].map entryText)).length =
          key.length + (x.length + 1) := by
        simp [separated, entryText]
      obtain ⟨body, hbody, hname⟩ := hkey.name (x ++ '\x7d' :: after)
      refine ⟨body, htext ▸ hbody, fun fuel hf => ?_⟩
      obtain ⟨fuel, rfl⟩ : ∃ n, fuel = n + 1 := ⟨fuel - 1, by omega⟩
      rw [hlength] at hf
      obtain ⟨rest, hs, hcolon⟩ := hname fuel (by omega)
      have hapart : Apart ('\x7d' :: after) := apart_cons (.inr (.inr (.inr (.inr rfl)))) after
      obtain ⟨r, hread, hr⟩ := hx.reads fuel _ (by omega) hapart
      rw [readFields_last hs hcolon hread hx.whole hr]
      rfl
    | @cons e' d' es ds he' hes =>
      obtain ⟨t, ht, hfields⟩ := ih (by simp)
      generalize hmore : separated ((e' :: es).map entryText) = more at ht hfields
      have hnext : separated (((key, x) :: e' :: es).map entryText) =
          key ++ ':' :: (x ++ ',' :: more) := by
        rw [← hmore]
        simp [separated, entryText]
      obtain ⟨body, hbody, hname⟩ := hkey.name (x ++ ',' :: (more ++ '\x7d' :: after))
      rw [hnext]
      refine ⟨body, by simpa using hbody, fun fuel hf => ?_⟩
      obtain ⟨fuel, rfl⟩ : ∃ n, fuel = n + 1 := ⟨fuel - 1, by omega⟩
      simp only [List.length_append, List.length_cons] at hf
      obtain ⟨rest, hs, hcolon⟩ := hname fuel (by omega)
      obtain ⟨r, hread, hr⟩ := hx.reads fuel (',' :: (more ++ '\x7d' :: after)) (by omega)
        (apart_cons (.inr (.inl rfl)) _)
      rw [readFields_next hs hcolon hread hx.whole hr ht, hfields fuel (by omega)]
      rfl

theorem readItems_skipSpace (fuel : Nat) (cs : List Char) :
    readItems fuel (skipSpace cs) = readItems fuel cs := by
  cases fuel with
  | zero => rfl
  | succ fuel => rw [readItems, readItems, readValue_skipSpace]

/-- **An array is read from the texts of its items.** -/
theorem readValue_array {xs : List (List Char)} {ds : List Draft}
    (h : List.Forall₂ Spells xs ds) (hne : xs ≠ []) {fuel : Nat}
    (hf : 2 * (separated xs).length + 3 ≤ fuel) (more : List Char) :
    readValue fuel ('[' :: (separated xs ++ ']' :: more)) = (.array (Items.ofList ds), more) := by
  obtain ⟨fuel, rfl⟩ : ∃ n, fuel = n + 1 := ⟨fuel - 1, by omega⟩
  obtain ⟨c, t, hskip, hc⟩ : ∃ c t, skipSpace (separated xs ++ ']' :: more) = c :: t ∧ c ≠ ']' := by
    cases h with
    | nil => exact absurd rfl hne
    | @cons x d xs ds hx hxs =>
      obtain ⟨t, ht, hapart⟩ := separated_cons x xs
      rw [ht, List.append_assoc]
      exact hx.head (hapart _ _ (apart_cons (.inr (.inr (.inr (.inl rfl)))) more))
  rw [readValue_items hskip hc, ← hskip, readItems_skipSpace,
    readItems_separated h hne (by omega) more]

/-- **An object is read from the texts of its entries.** -/
theorem readValue_object {es : List (List Char × List Char)} {ds : List (Option String × Draft)}
    (h : List.Forall₂ SpellsEntry es ds) (hne : es ≠ []) {fuel : Nat}
    (hf : 2 * (separated (es.map entryText)).length + 3 ≤ fuel) (more : List Char) :
    readValue fuel ('\x7b' :: (separated (es.map entryText) ++ '\x7d' :: more)) =
      (.object (Fields.ofList ds), more) := by
  obtain ⟨fuel, rfl⟩ : ∃ n, fuel = n + 1 := ⟨fuel - 1, by omega⟩
  obtain ⟨t, hskip, hfields⟩ := readFields_separated h hne more
  rw [readValue_fields hskip, hfields fuel (by omega)]

/-- The text of an array from those of its items. -/
theorem spells_array {xs : List (List Char)} {ds : List Draft} (h : List.Forall₂ Spells xs ds) :
    Spells ('[' :: (separated xs ++ [']'])) (.array (.ofList ds)) where
  whole := go_ofList ds
  reads fuel more hf _ := by
    refine ⟨more, ?_, rfl⟩
    simp only [List.length_cons, List.length_append, List.length_nil] at hf
    cases h with
    | nil =>
      obtain ⟨fuel, rfl⟩ : ∃ n, fuel = n + 1 := ⟨fuel - 1, by omega⟩
      exact readValue_noItems (skipSpace_cons (by decide) more)
    | cons hx hxs => simpa using readValue_array (.cons hx hxs) (by simp) (by omega) more

/-- The text of an object from those of its entries. -/
theorem spells_object {es : List (List Char × List Char)} {ds : List (Option String × Draft)}
    (h : List.Forall₂ SpellsEntry es ds) :
    Spells ('\x7b' :: (separated (es.map entryText) ++ ['\x7d'])) (.object (.ofList ds)) where
  whole := goFields_ofList ds
  reads fuel more hf _ := by
    refine ⟨more, ?_, rfl⟩
    simp only [List.length_cons, List.length_append, List.length_nil] at hf
    cases h with
    | nil =>
      obtain ⟨fuel, rfl⟩ : ∃ n, fuel = n + 1 := ⟨fuel - 1, by omega⟩
      exact readValue_noFields (skipSpace_cons (by decide) more)
    | cons he hes => simpa using readValue_object (.cons he hes) (by simp) (by omega) more

/-! ## Texts of what was read -/

/-- With this fuel a value is read from its own characters and looks at one more. -/
def ValueLocal (fuel : Nat) : Prop :=
  ∀ cs d rest, readValue fuel cs = (d, rest) → d.isBroken = false →
    ∃ used, cs = used ++ rest ∧ ∀ fuel' more, 2 * used.length + 1 ≤ fuel' → Alike rest more →
      readValue fuel' (used ++ more) = (d, more)

section Parts

variable {fuel : Nat} {cs rest : List Char}

/-- The text of a value, up to where something other than a blank follows. -/
theorem ValueLocal.spells (h : ValueLocal fuel) {d : Draft} {blanks after : List Char}
    (hread : readValue fuel cs = (d, blanks ++ after)) (hd : d.isBroken = false)
    (hb : ∀ c ∈ blanks, isSpace c = true) : ∃ x, cs = x ++ after ∧ Spells x d := by
  obtain ⟨used, rfl, hmore⟩ := h cs d _ hread hd
  refine ⟨used ++ blanks, (List.append_assoc ..).symm, hd, fun fuel' more hf hm => ?_⟩
  have halike : Alike (blanks ++ after) (blanks ++ more) := Alike.append _ _ _ (.inr hm)
  rw [List.length_append] at hf
  refine ⟨blanks ++ more, ?_, skipSpace_of_blank hb more⟩
  rw [List.append_assoc, hmore fuel' _ (by omega) halike]

/-- **The texts of items** that were read. -/
theorem readItems_parts (hlocal : ∀ n < fuel, ValueLocal n) {items : Items}
    (h : readItems fuel cs = (items, rest)) (hi : Draft.isBroken.go items = false) :
    ∃ xs ds, xs ≠ [] ∧ List.Forall₂ Spells xs ds ∧ items = Items.ofList ds ∧
      cs = separated xs ++ ']' :: rest := by
  induction fuel generalizing cs items with
  | zero =>
    cases h
    cases hi
  | succ fuel ih =>
    obtain ⟨d, r, hv, hd, hrest⟩ := readItems_cases h hi
    obtain ⟨blanks, hb, hr⟩ := exists_blank_append r
    rcases hrest with ⟨hlast, rfl⟩ | ⟨t, items', hnext, hitems, hi', rfl⟩
    · rw [hr, hlast] at hv
      obtain ⟨x, rfl, hx⟩ := (hlocal fuel (by omega)).spells hv hd hb
      exact ⟨[x], [d], by simp, .cons hx .nil, rfl, rfl⟩
    · rw [hr, hnext] at hv
      obtain ⟨x, rfl, hx⟩ := (hlocal fuel (by omega)).spells hv hd hb
      obtain ⟨xs, ds, hne, hxs, rfl, rfl⟩ := ih (fun n hn => hlocal n (by omega)) hitems hi'
      obtain ⟨y, xs, rfl⟩ := List.exists_cons_of_ne_nil hne
      exact ⟨x :: y :: xs, d :: ds, by simp, .cons hx hxs, rfl, by simp [separated]⟩

/-- **The texts of entries** that were read. -/
theorem readFields_parts (hlocal : ∀ n < fuel, ValueLocal n) {t : List Char} {fields : Fields}
    (hskip : skipSpace cs = '"' :: t) (h : readFields fuel t = (fields, rest))
    (hf : Draft.isBroken.goFields fields = false) :
    ∃ es ds, es ≠ [] ∧ List.Forall₂ SpellsEntry es ds ∧ fields = Fields.ofList ds ∧
      cs = separated (es.map entryText) ++ '\x7d' :: rest := by
  induction fuel generalizing cs t fields with
  | zero =>
    cases h
    cases hf
  | succ fuel ih =>
    obtain ⟨name, r, r₁, d, r₂, hname, hcolon, hv, hd, hrest⟩ := readFields_cases h hf
    obtain ⟨front, hfront, hcs⟩ := exists_blank_append cs
    obtain ⟨back, hback, hr⟩ := exists_blank_append r
    obtain ⟨used, ht, -, hread⟩ := readString_local hname
    have hkey := spells_string hfront hback hread
    have hkeyText : cs = (front ++ '"' :: used ++ back) ++ ':' :: r₁ := by
      rw [hcs, hskip, ht, hr, hcolon]
      simp
    obtain ⟨blanks, hb, hr₂⟩ := exists_blank_append r₂
    rcases hrest with ⟨hlast, rfl⟩ | ⟨r₃, t', fields', hnext, hquote, hfields, hf', rfl⟩
    · rw [hr₂, hlast] at hv
      obtain ⟨x, rfl, hx⟩ := (hlocal fuel (by omega)).spells hv hd hb
      refine ⟨[(front ++ '"' :: used ++ back, x)], [(name, d)], by simp, .cons ⟨hkey, hx⟩ .nil,
        rfl, ?_⟩
      rw [hkeyText]
      simp [separated, entryText]
    · rw [hr₂, hnext] at hv
      obtain ⟨x, rfl, hx⟩ := (hlocal fuel (by omega)).spells hv hd hb
      obtain ⟨es, ds, hne, hes, rfl, rfl⟩ :=
        ih (fun n hn => hlocal n (by omega)) hquote hfields hf'
      obtain ⟨e, es, rfl⟩ := List.exists_cons_of_ne_nil hne
      refine ⟨(front ++ '"' :: used ++ back, x) :: e :: es, (name, d) :: ds, by simp,
        .cons ⟨hkey, hx⟩ hes, rfl, ?_⟩
      rw [hkeyText]
      simp [separated, entryText]

end Parts

/-- **A value is read from its own characters** and looks at one more. -/
theorem readValue_local (fuel : Nat) : ValueLocal fuel := by
  induction fuel using Nat.strong_induction_on with
  | _ fuel hlocal =>
  intro cs d rest h hd
  cases fuel with
  | zero =>
    cases h
    cases hd
  | succ fuel =>
  obtain ⟨c, t, hskip, hreading⟩ := reading_of_readValue h hd
  -- blanks before the first character do not matter
  suffices hfirst : ∃ used, c :: t = used ++ rest ∧ ∀ fuel' more, 2 * used.length + 1 ≤ fuel' →
      Alike rest more → readValue fuel' (used ++ more) = (d, more) by
    obtain ⟨used, hused, hmore⟩ := hfirst
    obtain ⟨blanks, hb, hcs⟩ := exists_blank_append cs
    refine ⟨blanks ++ used, ?_, fun fuel' more hf hm => ?_⟩
    · rw [List.append_assoc, ← hused, ← hskip, ← hcs]
    · rw [List.length_append] at hf
      rw [List.append_assoc, readValue_blank_append fuel' hb, hmore fuel' more (by omega) hm]
  have hsucc : ∀ (used : List Char) (fuel' : Nat), 2 * used.length + 1 ≤ fuel' →
      ∃ n, fuel' = n + 1 ∧ 2 * used.length ≤ n :=
    fun used fuel' hf => ⟨fuel' - 1, by omega, by omega⟩
  cases hreading with
  | @word _ w _ _ _ hw hword =>
    refine ⟨c :: w, congrArg (c :: ·) (readWord_eq hword), fun fuel' more hf _ => ?_⟩
    obtain ⟨n, rfl, -⟩ := hsucc _ _ hf
    exact readValue_word hw more
  | negative hn =>
    obtain ⟨used, rfl, hmore⟩ := readNumber_local true t _ rest hn
    refine ⟨'-' :: used, rfl, fun fuel' more hf hm => ?_⟩
    obtain ⟨n, rfl, -⟩ := hsucc _ _ hf
    show scalar .number (readNumber true (used ++ more)) = _
    rw [hmore more hm]
    rfl
  | digits hc hn =>
    obtain ⟨used, hused, hmore⟩ := readNumber_local false (c :: t) _ rest hn
    refine ⟨used, hused, fun fuel' more hf hm => ?_⟩
    obtain ⟨n, rfl, -⟩ := hsucc _ _ hf
    cases used with
    | nil => cases hmore [] (.inr apart_nil)
    | cons c' used =>
      cases hused
      rw [List.cons_append, readValue_digits n hc, ← List.cons_append, hmore more hm]
      rfl
  | string hs =>
    obtain ⟨used, rfl, -, hread⟩ := readString_local hs
    refine ⟨'"' :: used, rfl, fun fuel' more hf _ => ?_⟩
    obtain ⟨n, rfl, hn⟩ := hsucc _ _ hf
    rw [List.length_cons] at hn
    show scalar .string (readString n (some []) (used ++ more)) = _
    rw [hread n more (by omega)]
    rfl
  | noItems hend =>
    obtain ⟨blanks, hb, ht⟩ := exists_blank_append t
    rw [hend] at ht
    subst ht
    refine ⟨'[' :: (blanks ++ [']']), by simp, fun fuel' more hf _ => ?_⟩
    obtain ⟨n, rfl, -⟩ := hsucc _ _ hf
    have hskip' : skipSpace (blanks ++ [']'] ++ more) = ']' :: more := by
      rw [List.append_assoc, skipSpace_of_blank hb]
      exact skipSpace_cons (by decide) more
    exact readValue_noItems hskip'
  | items hitems hi =>
    rw [readItems_skipSpace] at hitems
    obtain ⟨xs, ds, hne, hxs, rfl, rfl⟩ :=
      readItems_parts (fun n hn => hlocal n (by omega)) hitems hi
    refine ⟨'[' :: (separated xs ++ [']']), by simp, fun fuel' more hf _ => ?_⟩
    simp only [List.length_cons, List.length_append, List.length_nil] at hf
    have hf' : 2 * (separated xs).length + 3 ≤ fuel' := by omega
    simpa using readValue_array hxs hne hf' more
  | noFields hend =>
    obtain ⟨blanks, hb, ht⟩ := exists_blank_append t
    rw [hend] at ht
    subst ht
    refine ⟨'\x7b' :: (blanks ++ ['\x7d']), by simp, fun fuel' more hf _ => ?_⟩
    obtain ⟨n, rfl, -⟩ := hsucc _ _ hf
    have hskip' : skipSpace (blanks ++ ['\x7d'] ++ more) = '\x7d' :: more := by
      rw [List.append_assoc, skipSpace_of_blank hb]
      exact skipSpace_cons (by decide) more
    exact readValue_noFields hskip'
  | fields hquote hfields hf =>
    obtain ⟨es, ds, hne, hes, rfl, rfl⟩ :=
      readFields_parts (fun n hn => hlocal n (by omega)) hquote hfields hf
    refine ⟨'\x7b' :: (separated (es.map entryText) ++ ['\x7d']), by simp,
      fun fuel' more hf _ => ?_⟩
    simp only [List.length_cons, List.length_append, List.length_nil] at hf
    have hf' : 2 * (separated (es.map entryText)).length + 3 ≤ fuel' := by omega
    simpa using readValue_object hes hne hf' more

/-! ## Texts of arrays and objects -/

section Brackets

variable {cs : List Char}

theorem items_ofList_injective : Function.Injective Items.ofList := by
  intro ds ds' h
  induction ds generalizing ds' with
  | nil =>
    cases ds' with
    | nil => rfl
    | cons d' ds' => cases h
  | cons d ds ih =>
    cases ds' with
    | nil => cases h
    | cons d' ds' =>
      obtain ⟨rfl, hrest⟩ := Items.cons.inj h
      rw [ih hrest]

theorem fields_ofList_injective : Function.Injective Fields.ofList := by
  intro ds ds' h
  induction ds generalizing ds' with
  | nil =>
    cases ds' with
    | nil => rfl
    | cons d' ds' => cases h
  | cons e ds ih =>
    cases ds' with
    | nil => cases h
    | cons e' ds' =>
      obtain ⟨hname, hvalue, hrest⟩ := Fields.cons.inj h
      rw [ih hrest, Prod.ext hname hvalue]

/-- What a tree without a break was read from, if its text stands alone: blanks may be around it. -/
theorem Spells.reading {d : Draft} (h : Spells cs d) :
    ∃ fuel before c t rest, (∀ c ∈ before, isSpace c = true) ∧ (∀ c ∈ rest, isSpace c = true) ∧
      cs = before ++ c :: t ∧ Reading fuel c t d rest := by
  obtain ⟨rest, hread, hrest⟩ := h.reads _ [] le_rfl apart_nil
  rw [List.append_nil] at hread
  obtain ⟨c, t, hskip, hreading⟩ := reading_of_readValue hread h.whole
  obtain ⟨before, hbefore, hcs⟩ := exists_blank_append cs
  exact ⟨_, before, c, t, rest, hbefore, List.dropWhile_eq_nil_iff.mp hrest, hskip ▸ hcs, hreading⟩

/-- **The texts of an array** that is not empty. -/
theorem spells_array_iff {ds : List Draft} (hne : ds ≠ []) :
    Spells cs (.array (Items.ofList ds)) ↔ ∃ before xs after,
      (∀ c ∈ before, isSpace c = true) ∧ (∀ c ∈ after, isSpace c = true) ∧
      List.Forall₂ Spells xs ds ∧ cs = before ++ '[' :: (separated xs ++ ']' :: after) := by
  constructor
  · intro h
    generalize hitems : Items.ofList ds = items at h
    obtain ⟨fuel, before, c, t, rest, hbefore, hrest, rfl, hreading⟩ := h.reading
    cases hreading with
    | word hw _ => simp [words] at hw
    | noItems _ =>
      exact absurd (items_ofList_injective (show _ = Items.ofList [] from hitems)) hne
    | items hread hi =>
      rw [readItems_skipSpace] at hread
      obtain ⟨xs, ds', -, hxs, rfl, rfl⟩ :=
        readItems_parts (fun n _ => readValue_local n) hread hi
      rw [← items_ofList_injective hitems] at hxs
      exact ⟨before, xs, rest, hbefore, hrest, hxs, rfl⟩
  · rintro ⟨before, xs, after, hbefore, hafter, hxs, rfl⟩
    simpa using (spells_array hxs).padded hbefore hafter

/-- **The texts of an object** that is not empty. -/
theorem spells_object_iff {ds : List (Option String × Draft)} (hne : ds ≠ []) :
    Spells cs (.object (Fields.ofList ds)) ↔ ∃ before es after,
      (∀ c ∈ before, isSpace c = true) ∧ (∀ c ∈ after, isSpace c = true) ∧
      List.Forall₂ SpellsEntry es ds ∧
      cs = before ++ '\x7b' :: (separated (es.map entryText) ++ '\x7d' :: after) := by
  constructor
  · intro h
    generalize hfields : Fields.ofList ds = fields at h
    obtain ⟨fuel, before, c, t, rest, hbefore, hrest, rfl, hreading⟩ := h.reading
    cases hreading with
    | word hw _ => simp [words] at hw
    | noFields _ =>
      exact absurd (fields_ofList_injective (show _ = Fields.ofList [] from hfields)) hne
    | fields hskip hread hf =>
      obtain ⟨es, ds', -, hes, rfl, rfl⟩ :=
        readFields_parts (fun n _ => readValue_local n) hskip hread hf
      rw [← fields_ofList_injective hfields] at hes
      exact ⟨before, es, rest, hbefore, hrest, hes, rfl⟩
  · rintro ⟨before, es, after, hbefore, hafter, hes, rfl⟩
    simpa using (spells_object hes).padded hbefore hafter

end Brackets

end Reconcile.Json
