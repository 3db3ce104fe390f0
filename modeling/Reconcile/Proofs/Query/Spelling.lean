import Mathlib.Data.List.TakeWhile
import Reconcile.Query.Reading

/-!
# How queries are spelled

A reader takes characters from the front of a text and leaves the rest. Whatever it reads, it closes
the quotes that it opens, and where it takes a bracket outside of quotes right after a point, it has
taken two points.

* `Enclosed` — what may stand between two quotes.
* `Passes` — some characters are taken in that way, and others are left.
* `Passes.remainder` — there is one such way to the end of a text, so every part of it is a part of
  that one.
* `Passing` — a reader that takes characters in no other way.
* `ReadersPass`, `readersPass` — the readers of a query are such readers, for any fuel: one lemma
  for each of them says so for one step.
* `Path.passes_of_parse` — so a query is spelled in that way from its start to its end.
-/

namespace Reconcile.Query

/-! ## Characters that are taken -/

/-- A character that stands for itself outside of quotes, wherever it stands. -/
def IsPlain (c : Char) : Prop :=
  c ≠ '.' ∧ c ≠ '\'' ∧ c ≠ '"'

instance (c : Char) : Decidable (IsPlain c) :=
  inferInstanceAs (Decidable (_ ∧ _ ∧ _))

/-- What may stand between two quotes: a backslash takes the character after it along. -/
inductive Enclosed (q : Char) : List Char → Prop
  | nil : Enclosed q []
  | char {c : Char} {cs : List Char} (hq : c ≠ q) (hb : c ≠ '\\') (h : Enclosed q cs) :
      Enclosed q (c :: cs)
  | escape (c : Char) {cs : List Char} (h : Enclosed q cs) : Enclosed q ('\\' :: c :: cs)

/-- Some characters are taken and others are left. What is taken closes its quotes, ends in no
point, and has a bracket right after a point only after two. -/
inductive Passes : List Char → List Char → Prop
  | done (cs : List Char) : Passes cs cs
  | plain {c : Char} {cs rest : List Char} (hc : IsPlain c) (h : Passes cs rest) :
      Passes (c :: cs) rest
  | quoted {q : Char} {text cs rest : List Char} (hq : q = '\'' ∨ q = '"')
      (ht : Enclosed q text) (h : Passes cs rest) : Passes (q :: (text ++ q :: cs)) rest
  | point {c : Char} {cs rest : List Char} (hc : IsPlain c) (hb : c ≠ '[') (h : Passes cs rest) :
      Passes ('.' :: c :: cs) rest
  | points {c : Char} {cs rest : List Char} (hc : IsPlain c) (h : Passes cs rest) :
      Passes ('.' :: '.' :: c :: cs) rest

/-- A reader that takes characters in no other way. -/
def Passing {α : Type} (r : List Char → Option (α × List Char)) : Prop :=
  ∀ ⦃cs x rest⦄, r cs = some (x, rest) → Passes cs rest

section Passes

variable {α β : Type} {c : Char} {xs cs ds rest : List Char} {p : Char → Bool}

theorem Passes.trans (h : Passes cs ds) (h' : Passes ds rest) : Passes cs rest := by
  induction h with
  | done cs => exact h'
  | plain hc h ih => exact .plain hc (ih h')
  | quoted hq ht h ih => exact .quoted hq ht (ih h')
  | point hc hb h ih => exact .point hc hb (ih h')
  | points hc h ih => exact .points hc (ih h')

theorem Passes.append (h : Passes cs rest) (ds : List Char) : Passes (cs ++ ds) (rest ++ ds) := by
  induction h with
  | done cs => exact .done _
  | plain hc h ih => exact .plain hc ih
  | @quoted q text cs rest hq ht h ih =>
    have hquoted : Passes (q :: (text ++ q :: (cs ++ ds))) (rest ++ ds) := .quoted hq ht ih
    rwa [List.cons_append, List.append_assoc, List.cons_append]
  | point hc hb h ih => exact .point hc hb ih
  | points hc h ih => exact .points hc ih

theorem ne_of_quote {q : Char} (hq : q = '\'' ∨ q = '"') : q ≠ '.' ∧ q ≠ '\\' := by
  rcases hq with rfl | rfl
  · decide
  · decide

/-- A quoted text ends at one place only. -/
theorem Enclosed.unique {q : Char} {text text' : List Char} (hq : q ≠ '\\') (h : Enclosed q text)
    (h' : Enclosed q text') (he : text ++ q :: cs = text' ++ q :: ds) : cs = ds := by
  induction h generalizing text' with
  | nil =>
    cases h' with
    | nil => exact (List.cons.inj he).2
    | char hq' _ _ => exact absurd (List.cons.inj he).1.symm hq'
    | escape _ _ => exact absurd (List.cons.inj he).1 hq
  | char hc hb _ ih =>
    cases h' with
    | nil => exact absurd (List.cons.inj he).1 hc
    | char _ _ h' => exact ih h' (List.cons.inj he).2
    | escape _ _ => exact absurd (List.cons.inj he).1 hb
  | escape c _ ih =>
    cases h' with
    | nil => exact absurd (List.cons.inj he).1.symm hq
    | char _ hb _ => exact absurd (List.cons.inj he).1.symm hb
    | escape c' h' => exact ih h' (List.cons.inj (List.cons.inj he).2).2

/-- What is taken after a point. -/
theorem Passes.of_point (h : Passes ('.' :: cs) []) :
    ∃ c ds, IsPlain c ∧ Passes ds [] ∧ (cs = c :: ds ∧ c ≠ '[' ∨ cs = '.' :: c :: ds) := by
  generalize hxs : '.' :: cs = xs at h
  cases h with
  | done => cases hxs
  | plain hc _ => exact absurd (List.cons.inj hxs).1.symm hc.1
  | quoted hq _ _ => exact absurd hq (by simp [← (List.cons.inj hxs).1])
  | point hc hb h => exact ⟨_, _, hc, h, .inl ⟨(List.cons.inj hxs).2, hb⟩⟩
  | points hc h => exact ⟨_, _, hc, h, .inr (List.cons.inj hxs).2⟩

/-- A point right before a bracket cannot be taken. -/
theorem not_passes_point (cs : List Char) : ¬ Passes ('.' :: '[' :: cs) [] := by
  intro h
  obtain ⟨c, ds, -, -, ⟨he, hb⟩ | he⟩ := h.of_point
  · exact hb (List.cons.inj he).1.symm
  · cases he

/-- What can be taken to the end can also be taken in two parts, wherever the first one ends. -/
theorem Passes.remainder (h : Passes cs ds) (h' : Passes cs []) : Passes ds [] := by
  -- on the first part: the characters in front leave only one step to either of them
  induction h with
  | done cs => exact h'
  | plain hc h ih =>
    cases h' with
    | plain _ h' => exact ih h'
    | quoted hq _ _ => exact absurd hq (by simp [hc.2])
    | point _ _ _ => exact absurd rfl hc.1
    | points _ _ => exact absurd rfl hc.1
  | @quoted q text cs rest hq ht h ih =>
    generalize hxs : q :: (text ++ q :: cs) = xs at h'
    cases h' with
    | done => cases hxs
    | plain hc _ =>
      obtain ⟨rfl, -⟩ := List.cons.inj hxs
      exact absurd hq (by simp [hc.2])
    | quoted _ ht' h' =>
      obtain ⟨rfl, htext⟩ := List.cons.inj hxs
      exact ih (ht.unique (ne_of_quote hq).2 ht' htext ▸ h')
    | point _ _ _ => exact absurd hq (by simp [(List.cons.inj hxs).1])
    | points _ _ => exact absurd hq (by simp [(List.cons.inj hxs).1])
  | point hc hb h ih =>
    obtain ⟨c', ds', -, hds', ⟨he, -⟩ | he⟩ := h'.of_point
    · exact ih ((List.cons.inj he).2 ▸ hds')
    · exact absurd (List.cons.inj he).1 hc.1
  | points hc h ih =>
    obtain ⟨c', ds', hc', hds', ⟨he, -⟩ | he⟩ := h'.of_point
    · exact absurd (List.cons.inj he).1.symm hc'.1
    · exact ih ((List.cons.inj (List.cons.inj he).2).2 ▸ hds')

/-- Plain characters can be taken anywhere. -/
theorem Passes.of_forall (h : ∀ c ∈ xs, IsPlain c) (rest : List Char) :
    Passes (xs ++ rest) rest := by
  induction xs with
  | nil => exact .done rest
  | cons x xs ih =>
    exact .plain (h x List.mem_cons_self) (ih fun c hc => h c (List.mem_cons_of_mem _ hc))

theorem isPlain_of (hp : p '.' = false ∧ p '\'' = false ∧ p '"' = false) (h : p c = true) :
    IsPlain c := by
  obtain ⟨hpoint, hsingle, hdouble⟩ := hp
  refine ⟨?_, ?_, ?_⟩
  · rintro rfl
    exact Bool.false_ne_true (hpoint.symm.trans h)
  · rintro rfl
    exact Bool.false_ne_true (hsingle.symm.trans h)
  · rintro rfl
    exact Bool.false_ne_true (hdouble.symm.trans h)

theorem drop_takeWhile (p : Char → Bool) (cs : List Char) :
    cs.drop (cs.takeWhile p).length = cs.dropWhile p := by
  have hsplit := congrArg (List.drop (cs.takeWhile p).length)
    (List.takeWhile_append_dropWhile (p := p) (l := cs))
  rw [List.drop_left] at hsplit
  exact hsplit.symm

theorem Passes.dropWhile (hp : p '.' = false ∧ p '\'' = false ∧ p '"' = false) (cs : List Char) :
    Passes cs (cs.dropWhile p) := by
  have htaken : Passes (cs.takeWhile p ++ cs.dropWhile p) (cs.dropWhile p) :=
    .of_forall (fun c hc => isPlain_of hp (List.mem_takeWhile_imp hc)) _
  rwa [List.takeWhile_append_dropWhile] at htaken

theorem Passes.takeWhile (hp : p '.' = false ∧ p '\'' = false ∧ p '"' = false) (cs : List Char) :
    Passes cs (cs.drop (cs.takeWhile p).length) :=
  drop_takeWhile p cs ▸ Passes.dropWhile hp cs

theorem Passing.of_map {r : List Char → Option (α × List Char)} (hr : Passing r) {f : α → β}
    {y : β} (h : (r cs).map (fun x => (f x.1, x.2)) = some (y, rest)) : Passes cs rest := by
  obtain ⟨⟨x, rest'⟩, hx, he⟩ := Option.map_eq_some_iff.mp h
  cases he
  exact hr hx

end Passes

/-! ## Words -/

section Words

variable {α : Type} {x c : Char} {cs ds rest : List Char}

theorem isDigit_marks : Text.isDigit '.' = false ∧ Text.isDigit '\'' = false ∧
    Text.isDigit '"' = false := by decide

theorem isPlain_of_isDigit (h : Text.isDigit c = true) : IsPlain c :=
  isPlain_of isDigit_marks h

theorem skipSpace_passes (cs : List Char) : Passes cs (skipSpace cs) :=
  Passes.dropWhile (by decide) cs

theorem Passes.skip (hs : skipSpace cs = ds) (h : Passes ds rest) : Passes cs rest :=
  (hs ▸ skipSpace_passes cs).trans h

theorem Passes.skipMarks (hx : IsPlain x) (hs : skipSpace cs = x :: x :: ds)
    (h : Passes (skipSpace ds) rest) : Passes cs rest :=
  .skip hs (.plain hx (.plain hx (.skip rfl h)))

/-- A reader that starts after blanks. -/
theorem Passing.afterSpace {r : List Char → Option (α × List Char)} (hr : Passing r) {y : α}
    (h : r (skipSpace cs) = some (y, rest)) : Passes cs rest :=
  .skip rfl (hr h)

/-- A name goes on from a character that is neither plain nor a bracket. -/
theorem readName?_passes {name : String} (h : readName? cs = some (name, rest)) :
    ∃ c ds, cs = c :: ds ∧ IsPlain c ∧ c ≠ '[' ∧ Passes ds rest := by
  cases cs with
  | nil => cases h
  | cons c ds =>
    rw [readName?] at h
    split at h
    · rename_i hstart
      cases h
      refine ⟨c, ds, rfl, isPlain_of (by decide) hstart, ?_, Passes.takeWhile (by decide) ds⟩
      rintro rfl
      revert hstart
      decide
    · cases h

theorem readInteger?_passing : Passing readInteger? := by
  intro cs i rest h
  unfold readInteger? at h
  split at h
  rename_i negative ds hsign
  have hds : Passes cs ds := by
    split at hsign
    · cases hsign
      exact .plain (by decide) (.done _)
    · cases hsign
      exact .done _
  refine hds.trans ?_
  have hdigits := Passes.takeWhile isDigit_marks ds
  dsimp only at h
  split at h
  · cases h
  · rename_i more hmore
    split at h
    · cases h
    · split at h
      · cases h
        exact hdigits
      · -- of more than one digit only the zero is taken
        cases h
        have hsplit := List.takeWhile_append_dropWhile (p := Text.isDigit) (l := ds)
        rw [hmore] at hsplit
        rw [drop_takeWhile]
        conv => arg 1; rw [← hsplit]
        exact .plain (by decide) (.done _)
  · obtain ⟨-, h⟩ := Option.ite_none_right_eq_some.mp h
    obtain ⟨-, rfl⟩ := Prod.mk.inj (Option.some.inj h)
    exact hdigits

theorem afterWord?_eq_some {word : List Char} (h : afterWord? word cs = some rest) :
    cs = word ++ rest := by
  induction word generalizing cs with
  | nil =>
    cases h
    rfl
  | cons x word ih =>
    cases cs with
    | nil => cases h
    | cons c cs =>
      rw [afterWord?] at h
      split at h
      · rename_i he
        rw [List.cons_append, ← ih h, beq_iff_eq.mp he]
      · cases h

theorem readComparison?_passing : Passing readComparison? := by
  intro cs c rest h
  unfold readComparison? at h
  split at h <;> cases h
  all_goals first
    | exact .plain (by decide) (.plain (by decide) (.done _))
    | exact .plain (by decide) (.done _)

theorem afterMark?_passes (hx : IsPlain x) (h : afterMark? x cs = some rest) : Passes cs rest := by
  unfold afterMark? at h
  split at h
  · rename_i c ds hs
    split at h
    · rename_i he
      cases h
      exact .skip hs (.plain (beq_iff_eq.mp he ▸ hx) (.done _))
    · cases h
  · cases h

/-- What a reader takes after blanks, up to a closing bracket. -/
theorem Passing.closed {β : Type} {r : List Char → Option (α × List Char)} (hr : Passing r)
    {f : α → β} {y : β}
    (h : (do
      let (v, rest) ← r (skipSpace cs)
      some (f v, ← afterMark? ')' rest)) = some (y, rest)) : Passes cs rest := by
  obtain ⟨⟨v, tail⟩, hv, h⟩ := Option.bind_eq_some_iff.mp h
  obtain ⟨tail', hclose, he⟩ := Option.bind_eq_some_iff.mp h
  cases he
  exact (hr.afterSpace hv).trans (afterMark?_passes (by decide) hclose)

/-- What a reader takes after blanks twice, with a comma in between. -/
theorem Passing.closedPair {β : Type} {r : List Char → Option (α × List Char)} (hr : Passing r)
    {f : α → α → β} {y : β}
    (h : (do
      let (v, rest) ← r (skipSpace cs)
      let rest ← afterMark? ',' rest
      let (w, rest) ← r (skipSpace rest)
      some (f v w, ← afterMark? ')' rest)) = some (y, rest)) : Passes cs rest := by
  obtain ⟨⟨v, tail⟩, hv, h⟩ := Option.bind_eq_some_iff.mp h
  obtain ⟨tail', hcomma, h⟩ := Option.bind_eq_some_iff.mp h
  exact ((hr.afterSpace hv).trans (afterMark?_passes (by decide) hcomma)).trans (hr.closed h)

theorem readStart?_passing : Passing readStart? := by
  intro cs fromRoot rest h
  unfold readStart? at h
  split at h
  · cases h
    exact .plain (by decide) (.done _)
  · cases h
    exact .plain (by decide) (.done _)
  · cases h

theorem readFunction?_passing : Passing readFunction? := by
  intro cs name rest h
  unfold readFunction? at h
  split at h
  · rename_i c ds
    dsimp only at h
    have hname := Passes.takeWhile
      (p := fun c => (decide ('a' ≤ c) && decide (c ≤ 'z')) || c == '_' || Text.isDigit c)
      (by decide) (c :: ds)
    split at h
    · rename_i hopen
      cases h
      rw [hopen] at hname
      exact hname.trans (.plain (by decide) (.done _))
    · cases h
  · cases h

end Words

/-! ## Quoted texts -/

section Quoted

variable {q c : Char} {fuel : Nat} {cs ds text rest : List Char}

theorem ne_of_hexValue? {n : Nat} (h : Text.hexValue? c = some n) (hq : q = '\'' ∨ q = '"') :
    c ≠ q ∧ c ≠ '\\' := by
  have hmarks : Text.hexValue? '\'' = none ∧ Text.hexValue? '"' = none ∧
      Text.hexValue? '\\' = none := by decide
  refine ⟨?_, ?_⟩
  · rintro rfl
    rcases hq with rfl | rfl
    · cases h.symm.trans hmarks.1
    · cases h.symm.trans hmarks.2.1
  · rintro rfl
    cases h.symm.trans hmarks.2.2

theorem Enclosed.append (h : Enclosed q cs) (h' : Enclosed q ds) : Enclosed q (cs ++ ds) := by
  induction h with
  | nil => exact h'
  | char hq hb h ih => exact .char hq hb ih
  | escape c h ih => exact .escape c ih

theorem readHex4?_enclosed {n : Nat} (hq : q = '\'' ∨ q = '"')
    (h : readHex4? cs = some (n, rest)) : ∃ ds, cs = ds ++ rest ∧ Enclosed q ds := by
  unfold readHex4? at h
  split at h
  · rename_i a b c d tail
    simp only [List.foldl_cons, List.foldl_nil, Option.bind_eq_bind, Option.bind_some,
      Option.bind_eq_some_iff, Option.some.injEq, Prod.mk.injEq] at h
    obtain ⟨n, ⟨x, ⟨y, ⟨z, ⟨va, ha, -⟩, vb, hb, -⟩, vc, hc, -⟩, vd, hd, -⟩, -, rfl⟩ := h
    obtain ⟨haq, has⟩ := ne_of_hexValue? ha hq
    obtain ⟨hbq, hbs⟩ := ne_of_hexValue? hb hq
    obtain ⟨hcq, hcs⟩ := ne_of_hexValue? hc hq
    obtain ⟨hdq, hds⟩ := ne_of_hexValue? hd hq
    exact ⟨[a, b, c, d], rfl,
      .char haq has (.char hbq hbs (.char hcq hcs (.char hdq hds .nil)))⟩
  · cases h

theorem readNumbered?_enclosed {x : Char} (hq : q = '\'' ∨ q = '"')
    (h : readNumbered? cs = some (x, rest)) : ∃ ds, cs = ds ++ rest ∧ Enclosed q ds := by
  obtain ⟨⟨high, rest'⟩, hhigh, hread⟩ := Option.bind_eq_some_iff.mp h
  obtain ⟨ds, rfl, hds⟩ := readHex4?_enclosed hq hhigh
  dsimp only at hread
  split at hread
  · cases hread
    exact ⟨ds, rfl, hds⟩
  · split at hread
    · cases hread
    · split at hread
      · -- the second half of a pair
        obtain ⟨⟨low, tail⟩, hlow, hpair⟩ := Option.bind_eq_some_iff.mp hread
        obtain ⟨es, rfl, henc⟩ := readHex4?_enclosed hq hlow
        dsimp only at hpair
        split at hpair
        · obtain ⟨-, rfl⟩ := Prod.mk.inj (Option.some.inj hpair)
          exact ⟨ds ++ '\\' :: 'u' :: es, by simp, hds.append (.escape 'u' henc)⟩
        · cases hpair
      · cases hread

theorem readEscaped?_enclosed {x : Char} (hq : q = '\'' ∨ q = '"')
    (h : readEscaped? q cs = some (x, rest)) :
    ∃ ds, '\\' :: cs = ds ++ rest ∧ Enclosed q ds := by
  have one : ∀ c ds, cs = c :: ds → rest = ds → ∃ ds, '\\' :: cs = ds ++ rest ∧ Enclosed q ds := by
    rintro c ds rfl rfl
    exact ⟨['\\', c], rfl, .escape c .nil⟩
  unfold readEscaped? at h
  split at h
  case h_8 tail =>
    obtain ⟨ds, rfl, hds⟩ := readNumbered?_enclosed hq h
    exact ⟨'\\' :: 'u' :: ds, rfl, .escape 'u' hds⟩
  case h_9 c tail _ _ _ _ _ _ _ _ =>
    split at h
    · cases h
      exact one _ _ rfl rfl
    · cases h
  case h_10 => cases h
  all_goals
    cases h
    exact one _ _ rfl rfl

theorem readQuotedRest?_enclosed (hq : q = '\'' ∨ q = '"')
    (h : readQuotedRest? q fuel cs = some (text, rest)) :
    ∃ ds, cs = ds ++ q :: rest ∧ Enclosed q ds := by
  induction fuel generalizing cs text with
  | zero => cases h
  | succ fuel ih =>
    cases cs with
    | nil => cases h
    | cons c cs =>
      rw [readQuotedRest?] at h
      split at h
      · rename_i he
        cases h
        exact ⟨[], by rw [beq_iff_eq.mp he]; rfl, .nil⟩
      · rename_i hc
        split at h
        · rename_i hb
          obtain ⟨⟨x, rest'⟩, hx, h⟩ := Option.bind_eq_some_iff.mp h
          obtain ⟨⟨text', tail⟩, htext, h⟩ := Option.bind_eq_some_iff.mp h
          cases h
          obtain ⟨ds, hds, henc⟩ := readEscaped?_enclosed hq hx
          obtain ⟨es, rfl, hes⟩ := ih htext
          exact ⟨ds ++ es, by rw [beq_iff_eq.mp hb, hds, List.append_assoc], henc.append hes⟩
        · rename_i hb
          split at h
          · cases h
          · obtain ⟨⟨text', tail⟩, htext, h⟩ := Option.bind_eq_some_iff.mp h
            cases h
            obtain ⟨es, rfl, hes⟩ := ih htext
            exact ⟨c :: es, rfl, .char (by simpa using hc) (by simpa using hb) hes⟩

theorem readQuoted?_passing : Passing readQuoted? := by
  intro cs s rest h
  unfold readQuoted? at h
  split at h
  · rename_i c tail
    split at h
    · rename_i hc
      have hq : c = '\'' ∨ c = '"' := by simpa using hc
      obtain ⟨⟨text, tail⟩, htext, he⟩ := Option.map_eq_some_iff.mp h
      cases he
      obtain ⟨ds, rfl, hds⟩ := readQuotedRest?_enclosed hq htext
      exact .quoted hq hds (.done _)
    · cases h
  · cases h

end Quoted

/-! ## Numbers -/

section Numbers

/-- The sign of a number. -/
def signChars (cs : List Char) : List Char :=
  if cs.head? == some '-' then ['-'] else []

/-- Its digits before the point. -/
def wholeChars (cs : List Char) : List Char :=
  match cs.takeWhile Text.isDigit with
  | '0' :: _ => ['0']
  | ds => ds

/-- Its point and the digits after it. -/
def fractionChars (cs : List Char) : List Char :=
  match cs with
  | '.' :: rest =>
    if (rest.takeWhile Text.isDigit).isEmpty then [] else '.' :: rest.takeWhile Text.isDigit
  | _ => []

/-- Its exponent. -/
def exponentChars (cs : List Char) : List Char :=
  match cs with
  | e :: rest =>
    if e == 'e' || e == 'E' then
      let (sign, rest) := match rest with
        | '+' :: rest => (['+'], rest)
        | '-' :: rest => (['-'], rest)
        | _ => ([], rest)
      if (rest.takeWhile Text.isDigit).isEmpty then []
      else e :: (sign ++ rest.takeWhile Text.isDigit)
    else []
  | [] => []

theorem numberChars_eq (cs : List Char) :
    numberChars cs =
      let rest₁ := cs.drop (signChars cs).length
      let rest₂ := rest₁.drop (wholeChars rest₁).length
      let rest₃ := rest₂.drop (fractionChars rest₂).length
      if (wholeChars rest₁).isEmpty then []
      else signChars cs ++ wholeChars rest₁ ++ fractionChars rest₂ ++ exponentChars rest₃ := rfl

theorem signChars_passes (cs : List Char) : Passes cs (cs.drop (signChars cs).length) := by
  unfold signChars
  split
  · rename_i h
    cases cs with
    | nil => exact .done _
    | cons c cs =>
      have hc : c = '-' := by simpa using h
      exact .plain (hc ▸ by decide) (.done _)
  · exact .done _

theorem wholeChars_passes (cs : List Char) : Passes cs (cs.drop (wholeChars cs).length) := by
  unfold wholeChars
  split
  · rename_i more h
    have hsplit := List.takeWhile_append_dropWhile (p := Text.isDigit) (l := cs)
    rw [h] at hsplit
    rw [← hsplit]
    exact .plain (by decide) (.done _)
  · exact Passes.takeWhile isDigit_marks cs

theorem fractionChars_passes (cs : List Char) : Passes cs (cs.drop (fractionChars cs).length) := by
  unfold fractionChars
  split
  · rename_i rest
    split
    · exact .done _
    · rename_i h
      cases rest with
      | nil => simp at h
      | cons c rest =>
        by_cases hc : Text.isDigit c = true
        · have htail := Passes.takeWhile isDigit_marks rest
          rw [List.takeWhile_cons_of_pos hc]
          refine .point (isPlain_of_isDigit hc) ?_ htail
          rintro rfl
          revert hc
          decide
        · rw [List.takeWhile_cons_of_neg hc] at h
          simp at h
  · exact .done _

theorem exponentChars_passes (cs : List Char) : Passes cs (cs.drop (exponentChars cs).length) := by
  unfold exponentChars
  split
  · rename_i e rest
    split
    · rename_i he
      have he : IsPlain e := isPlain_of (p := fun c => c == 'e' || c == 'E') (by decide) he
      split
      rename_i sign tail hsign
      split
      · exact .done _
      · have htail := Passes.takeWhile isDigit_marks tail
        split at hsign <;> cases hsign
        · exact .plain he (.plain (by decide) htail)
        · exact .plain he (.plain (by decide) htail)
        · exact .plain he htail
    · exact .done _
  · exact .done _

theorem numberChars_passes (cs : List Char) : Passes cs (cs.drop (numberChars cs).length) := by
  rw [numberChars_eq]
  dsimp only
  split
  · exact .done _
  · rw [List.length_append, List.length_append, List.length_append, ← List.drop_drop,
      ← List.drop_drop, ← List.drop_drop]
    exact (((signChars_passes _).trans (wholeChars_passes _)).trans
      (fractionChars_passes _)).trans (exponentChars_passes _)

theorem readLiteral?_passing : Passing readLiteral? := by
  intro cs v rest h
  unfold readLiteral? at h
  split at h
  · rename_i s tail hs
    cases h
    exact readQuoted?_passing hs
  · dsimp only at h
    split at h
    · obtain ⟨n, hn, he⟩ := Option.map_eq_some_iff.mp h
      cases he
      exact numberChars_passes cs
    · have word : ∀ (w : List Char) (v' : Json), w.all (fun c => decide (IsPlain c)) = true →
          (afterWord? w cs).map (fun rest => (v', rest)) = some (v, rest) → Passes cs rest := by
        intro w v' hw h
        obtain ⟨tail, htail, he⟩ := Option.map_eq_some_iff.mp h
        cases he
        rw [afterWord?_eq_some htail]
        exact .of_forall (fun c hc => of_decide_eq_true (List.all_eq_true.mp hw c hc)) _
      simp only [Option.orElse_eq_orElse, Option.orElse_eq_or, Option.or_eq_some_iff] at h
      rcases h with h | ⟨-, h | ⟨-, h⟩⟩
      · exact word _ _ (by decide) h
      · exact word _ _ (by decide) h
      · exact word _ _ (by decide) h

end Numbers

/-! ## Steps -/

section Steps

variable {cs rest : List Char}

/-- A name after a point. -/
theorem point_passes {name : String} (h : readName? cs = some (name, rest)) :
    Passes ('.' :: cs) rest := by
  obtain ⟨c, ds, rfl, hc, hb, hds⟩ := readName?_passes h
  exact .point hc hb hds

theorem readStep?_passing : Passing readStep? := by
  intro cs step rest h
  unfold readStep? at h
  split at h
  · obtain ⟨⟨name, tail⟩, hname, he⟩ := Option.map_eq_some_iff.mp h
    cases he
    exact point_passes hname
  · refine .plain (by decide) ?_
    dsimp only at h
    split at h
    · rename_i s tail hs
      refine (readQuoted?_passing hs).trans ?_
      rw [Option.bind_eq_bind, Option.bind_some] at h
      dsimp only at h
      split at h
      · cases h
        exact .plain (by decide) (.done _)
      · cases h
    · obtain ⟨⟨step, tail⟩, hi, hclose⟩ := Option.bind_eq_some_iff.mp h
      refine (readInteger?_passing.of_map hi).trans ?_
      dsimp only at hclose
      split at hclose
      · cases hclose
        exact .plain (by decide) (.done _)
      · cases hclose
  · cases h

theorem readSteps_passes (fuel : Nat) (cs : List Char) : Passes cs (readSteps fuel cs).2 := by
  induction fuel generalizing cs with
  | zero => exact .done _
  | succ fuel ih =>
    rw [readSteps]
    split
    · rename_i step tail hs
      exact (readStep?_passing.afterSpace hs).trans (ih tail)
    · exact .done _

/-- A bound of a slice, if one stands there. -/
def sliceBound (cs : List Char) : Option Int × List Char :=
  match readInteger? (skipSpace cs) with
  | some (i, rest) => (some i, rest)
  | none => (none, cs)

theorem sliceBound_passes (cs : List Char) : Passes cs (sliceBound cs).2 := by
  unfold sliceBound
  split
  · rename_i i tail hi
    exact readInteger?_passing.afterSpace hi
  · exact .done _

theorem readSlice?_eq (cs : List Char) :
    readSlice? cs = (afterMark? ':' (sliceBound cs).2).bind fun rest =>
      match afterMark? ':' (sliceBound rest).2 with
      | some rest' =>
        some (.slice (sliceBound cs).1 (sliceBound rest).1 (sliceBound rest').1,
          (sliceBound rest').2)
      | none => some (.slice (sliceBound cs).1 (sliceBound rest).1 none, (sliceBound rest).2) :=
  rfl

theorem readSlice?_passing : Passing readSlice? := by
  intro cs s rest h
  rw [readSlice?_eq] at h
  obtain ⟨tail, htail, h⟩ := Option.bind_eq_some_iff.mp h
  have hcolon : IsPlain ':' := by decide
  refine (sliceBound_passes cs).trans ((afterMark?_passes hcolon htail).trans ?_)
  refine (sliceBound_passes tail).trans ?_
  split at h
  · rename_i tail' htail'
    cases h
    exact (afterMark?_passes hcolon htail').trans (sliceBound_passes tail')
  · cases h
    exact .done _

end Steps

/-! ## Segments -/

/-- With some fuel, the readers of a query take characters in no other way. -/
structure ReadersPass (fuel : Nat) : Prop where
  segments : ∀ cs, Passes cs (readSegments fuel cs).2
  segment : Passing (readSegment? fuel)
  selectors : Passing (readSelectors? fuel)
  selector : Passing (readSelector? fuel)
  or : Passing (readOr? fuel)
  and : Passing (readAnd? fuel)
  condition : Passing (readCondition? fuel)
  bracketed : Passing (readBracketed? fuel)
  compare : Passing (readCompare? fuel)
  test : Passing (readTest? fuel)
  path : Passing (readPath? fuel)
  operand : Passing (readOperand? fuel)

namespace ReadersPass

variable {fuel : Nat}

theorem readSegments_passes (ih : ReadersPass fuel) (cs : List Char) :
    Passes cs (readSegments (fuel + 1) cs).2 := by
  rw [readSegments]
  split
  · rename_i segment tail hs
    exact (ih.segment.afterSpace hs).trans (ih.segments tail)
  · exact .done _

theorem readSegment?_passing (ih : ReadersPass fuel) : Passing (readSegment? (fuel + 1)) := by
  intro cs segment rest h
  unfold readSegment? at h
  split at h
  · exact .points (by decide) (ih.selectors.of_map h)
  · cases h
    exact .points (by decide) (.done _)
  · obtain ⟨⟨name, tail⟩, hname, he⟩ := Option.map_eq_some_iff.mp h
    cases he
    obtain ⟨c, ds, rfl, hc, -, hds⟩ := readName?_passes hname
    exact .points hc hds
  · cases h
    exact .point (by decide) (by decide) (.done _)
  · obtain ⟨⟨name, tail⟩, hname, he⟩ := Option.map_eq_some_iff.mp h
    cases he
    exact point_passes hname
  · exact .plain (by decide) (ih.selectors.of_map h)
  · cases h

theorem readSelectors?_passing (ih : ReadersPass fuel) : Passing (readSelectors? (fuel + 1)) := by
  intro cs selectors rest h
  unfold readSelectors? at h
  obtain ⟨⟨s, tail⟩, hs, h⟩ := Option.bind_eq_some_iff.mp h
  refine (ih.selector.afterSpace hs).trans ?_
  dsimp only at h
  split at h
  · rename_i hskip
    cases h
    exact .skip hskip (.plain (by decide) (.done _))
  · rename_i tail' hskip
    obtain ⟨⟨more, tail''⟩, hmore, he⟩ := Option.bind_eq_some_iff.mp h
    cases he
    exact .skip hskip (.plain (by decide) (ih.selectors hmore))
  · cases h

theorem readSelector?_passing (ih : ReadersPass fuel) : Passing (readSelector? (fuel + 1)) := by
  intro cs s rest h
  unfold readSelector? at h
  split at h
  · cases h
    exact .plain (by decide) (.done _)
  · exact .plain (by decide) (.skip rfl (ih.or.of_map h))
  · split at h
    · rename_i hs
      cases h
      exact readQuoted?_passing hs
    · split at h
      · rename_i hs
        cases h
        exact readSlice?_passing hs
      · exact readInteger?_passing.of_map h

theorem readOr?_passing (ih : ReadersPass fuel) : Passing (readOr? (fuel + 1)) := by
  intro cs f rest h
  unfold readOr? at h
  obtain ⟨⟨a, tail⟩, ha, h⟩ := Option.bind_eq_some_iff.mp h
  refine (ih.and ha).trans ?_
  dsimp only at h
  split at h
  · rename_i more hskip
    obtain ⟨⟨b, tail'⟩, hb, he⟩ := Option.bind_eq_some_iff.mp h
    cases he
    exact .skipMarks (by decide) hskip (ih.or hb)
  · cases h
    exact .done _

theorem readAnd?_passing (ih : ReadersPass fuel) : Passing (readAnd? (fuel + 1)) := by
  intro cs f rest h
  unfold readAnd? at h
  obtain ⟨⟨a, tail⟩, ha, h⟩ := Option.bind_eq_some_iff.mp h
  refine (ih.condition ha).trans ?_
  dsimp only at h
  split at h
  · rename_i more hskip
    obtain ⟨⟨b, tail'⟩, hb, he⟩ := Option.bind_eq_some_iff.mp h
    cases he
    exact .skipMarks (by decide) hskip (ih.and hb)
  · cases h
    exact .done _

theorem readCondition?_passing (ih : ReadersPass fuel) : Passing (readCondition? (fuel + 1)) := by
  intro cs f rest h
  unfold readCondition? at h
  split at h
  · refine .plain (by decide) ?_
    split at h
    · rename_i hskip
      exact .skip hskip (.plain (by decide) (ih.bracketed.of_map h))
    · exact .skip rfl (ih.test.of_map h)
  · exact .plain (by decide) (ih.bracketed h)
  · split at h
    · rename_i hc
      cases h
      exact ih.compare hc
    · exact ih.test h

theorem readBracketed?_passing (ih : ReadersPass fuel) : Passing (readBracketed? (fuel + 1)) := by
  intro cs f rest h
  unfold readBracketed? at h
  exact ih.or.closed (f := fun x => x) h

theorem readCompare?_passing (ih : ReadersPass fuel) : Passing (readCompare? (fuel + 1)) := by
  intro cs f rest h
  unfold readCompare? at h
  obtain ⟨⟨a, tail⟩, ha, h⟩ := Option.bind_eq_some_iff.mp h
  obtain ⟨⟨c, tail'⟩, hc, h⟩ := Option.bind_eq_some_iff.mp h
  obtain ⟨⟨b, tail''⟩, hb, he⟩ := Option.bind_eq_some_iff.mp h
  cases he
  refine (ih.operand ha).trans ?_
  refine (readComparison?_passing.afterSpace hc).trans ?_
  exact ih.operand.afterSpace hb

theorem readTest?_passing (ih : ReadersPass fuel) : Passing (readTest? (fuel + 1)) := by
  intro cs f rest h
  unfold readTest? at h
  split at h
  · rename_i name tail hname
    refine (readFunction?_passing hname).trans ?_
    dsimp only at h
    split at h
    · exact ih.operand.closedPair h
    · exact ih.operand.closedPair h
    · cases h
  · exact ih.path.of_map h

theorem readPath?_passing (ih : ReadersPass fuel) : Passing (readPath? (fuel + 1)) := by
  intro cs q rest h
  unfold readPath? at h
  obtain ⟨⟨fromRoot, tail⟩, hstart, he⟩ := Option.bind_eq_some_iff.mp h
  cases he
  exact (readStart?_passing hstart).trans (ih.segments tail)

theorem readOperand?_passing (ih : ReadersPass fuel) : Passing (readOperand? (fuel + 1)) := by
  intro cs o rest h
  unfold readOperand? at h
  split at h
  · rename_i name tail hname
    refine (readFunction?_passing hname).trans ?_
    dsimp only at h
    split at h
    · exact ih.operand.closed h
    · exact ih.path.closed h
    · exact ih.path.closed h
    · cases h
  · split at h
    · rename_i fromRoot tail hstart
      have hsteps := readSteps_passes (tail.length + 1) tail
      obtain ⟨-, rfl⟩ := Prod.mk.inj (Option.some.inj h)
      exact (readStart?_passing hstart).trans hsteps
    · exact readLiteral?_passing.of_map h

end ReadersPass

/-- **The readers of a query**, with any fuel. -/
theorem readersPass (fuel : Nat) : ReadersPass fuel := by
  induction fuel with
  | zero =>
    exact {
      segments := fun cs => .done cs
      segment := fun _ _ _ h => by cases h
      selectors := fun _ _ _ h => by cases h
      selector := fun _ _ _ h => by cases h
      or := fun _ _ _ h => by cases h
      and := fun _ _ _ h => by cases h
      condition := fun _ _ _ h => by cases h
      bracketed := fun _ _ _ h => by cases h
      compare := fun _ _ _ h => by cases h
      test := fun _ _ _ h => by cases h
      path := fun _ _ _ h => by cases h
      operand := fun _ _ _ h => by cases h }
  | succ fuel ih =>
    exact {
      segments := ih.readSegments_passes
      segment := ih.readSegment?_passing
      selectors := ih.readSelectors?_passing
      selector := ih.readSelector?_passing
      or := ih.readOr?_passing
      and := ih.readAnd?_passing
      condition := ih.readCondition?_passing
      bracketed := ih.readBracketed?_passing
      compare := ih.readCompare?_passing
      test := ih.readTest?_passing
      path := ih.readPath?_passing
      operand := ih.readOperand?_passing }

/-- **A query is spelled in that way** from its start to its end. -/
theorem Path.passes_of_parse {s : String} {path : Path} (h : Path.parse s = .ok path) :
    ∃ rest, s.toList = '$' :: rest ∧ Passes s.toList [] := by
  unfold Path.parse at h
  split at h
  · rename_i rest hs
    dsimp only at h
    split at h
    · rename_i htail
      have hrest := (readersPass (8 * rest.length + 8)).segments rest
      rw [List.isEmpty_iff.mp htail] at hrest
      exact ⟨rest, hs, hs ▸ .plain (by decide) hrest⟩
    · cases h
  · cases h

end Reconcile.Query
