import Mathlib.Data.List.DropRight
import Reconcile.Proofs.Json.Scalars
import Reconcile.Proofs.Results

/-!
# What the readers of JSON look at

A reader takes something off a text and leaves the rest, of which it looks at one or two characters
at most. So it takes the same off every text that begins alike, whatever follows.

* `Apart` — what may stand right after a number.
* `Alike`, `AlikeInString` — texts that may stand for each other after a number, and in a string.
* `Local` — a reader that takes the same where what follows is alike; `Local.bind` — two of them,
  one after the other.
* `readNumber_local`, `readString_local`, `readWord_eq` — numbers, strings and words.
* `Reading`, `reading_of_readValue` — what a value without a break was read from.
* `readItems_cases`, `readFields_cases` — what items and entries without a break were read from.
-/

namespace Reconcile.Json

/-! ## Readers -/

/-- A reader takes the same off every text that begins with it, where what follows is alike. -/
def Local {ε α : Type} (alike : List Char → List Char → Prop)
    (read : List Char → Except ε (α × List Char)) : Prop :=
  ∀ cs a rest, read cs = .ok (a, rest) →
    ∃ used, cs = used ++ rest ∧ ∀ more, alike rest more → read (used ++ more) = .ok (a, more)

section Readers

variable {ε α β : Type} {alike : List Char → List Char → Prop}

theorem local_ok (a : α) : Local alike fun cs => (.ok (a, cs) : Except ε (α × List Char)) := by
  intro cs b rest h
  cases h
  exact ⟨[], rfl, fun more _ => rfl⟩

/-- Two readers, one after the other. -/
theorem Local.bind {read : List Char → Except ε (α × List Char)}
    {next : α → List Char → Except ε (β × List Char)}
    (happend : ∀ used rest more, alike rest more → alike (used ++ rest) (used ++ more))
    (hread : Local alike read) (hnext : ∀ a, Local alike (next a)) :
    Local alike fun cs => read cs >>= fun r => next r.1 r.2 := by
  intro cs b rest h
  obtain ⟨⟨a, between⟩, ha, hb⟩ := of_bind_eq_ok h
  obtain ⟨used, rfl, hused⟩ := hread cs a between ha
  obtain ⟨used', rfl, hused'⟩ := hnext a between b rest hb
  refine ⟨used ++ used', (List.append_assoc ..).symm, fun more hm => ?_⟩
  dsimp only
  rw [List.append_assoc, hused _ (happend used' rest more hm)]
  exact hused' more hm

end Readers

/-! ## Blanks -/

section Blanks

variable {cs rest more : List Char}

theorem skipSpace_cons {c : Char} (h : isSpace c = false) (t : List Char) :
    skipSpace (c :: t) = c :: t := by
  rw [skipSpace, List.dropWhile_cons_of_neg (by simp [h])]

theorem skipSpace_of_blank (h : ∀ c ∈ cs, isSpace c = true) (more : List Char) :
    skipSpace (cs ++ more) = skipSpace more := by
  rw [skipSpace, List.dropWhile_append_of_pos h]
  rfl

/-- A text is some blanks, and what is left without them. -/
theorem exists_blank_append (cs : List Char) :
    ∃ blanks, (∀ c ∈ blanks, isSpace c = true) ∧ cs = blanks ++ skipSpace cs :=
  ⟨cs.takeWhile isSpace, fun _ hc => List.mem_takeWhile_imp hc,
    List.takeWhile_append_dropWhile.symm⟩

theorem readValue_skipSpace (fuel : Nat) (cs : List Char) :
    readValue fuel (skipSpace cs) = readValue fuel cs := by
  cases fuel with
  | zero => rfl
  | succ fuel =>
    have hskip : skipSpace (skipSpace cs) = skipSpace cs := List.dropWhile_idempotent isSpace cs
    rw [readValue, readValue, hskip]

/-- Blanks before a value do not matter. -/
theorem readValue_blank_append (fuel : Nat) (h : ∀ c ∈ cs, isSpace c = true) (more : List Char) :
    readValue fuel (cs ++ more) = readValue fuel more := by
  rw [← readValue_skipSpace, skipSpace_of_blank h, readValue_skipSpace]

end Blanks

section Texts

variable {cs rest more : List Char}

/-! ## Numbers -/

/-- What may stand right after a number: nothing that would carry it on. -/
def Apart (more : List Char) : Prop :=
  ∀ c ∈ more.head?, Text.isDigit c = false ∧ c ≠ '.' ∧ c ≠ 'e' ∧ c ≠ 'E'

theorem apart_nil : Apart [] := by
  intro c hc
  cases hc

theorem apart_cons {c : Char}
    (h : isSpace c = true ∨ c = ',' ∨ c = ':' ∨ c = ']' ∨ c = '\x7d') (t : List Char) :
    Apart (c :: t) := by
  intro d hd
  cases hd
  simp only [isSpace, Bool.or_eq_true, beq_iff_eq] at h
  rcases h with (((rfl | rfl) | rfl) | rfl) | rfl | rfl | rfl | rfl <;> decide

/-- What may stand for a text after a number: what begins in the same way, or what stands apart. -/
def Alike (rest more : List Char) : Prop :=
  more.head? = rest.head? ∨ Apart more

theorem Alike.append (used rest more : List Char) (h : Alike rest more) :
    Alike (used ++ rest) (used ++ more) := by
  cases used with
  | nil => exact h
  | cons c used => exact .inl rfl

/-- A character that does not stand after the one text does not stand after the other. -/
theorem Alike.head {p : Char → Prop} (h : Alike rest more) (hrest : ∀ c ∈ rest.head?, p c)
    (hapart : ∀ c, Text.isDigit c = false ∧ c ≠ '.' ∧ c ≠ 'e' ∧ c ≠ 'E' → p c) :
    ∀ c ∈ more.head?, p c := by
  intro c hc
  rcases h with h | h
  · exact hrest c (h ▸ hc)
  · exact hapart c (h c hc)

theorem spanDigits_of_head (h : ∀ c ∈ more.head?, Text.isDigit c = false) :
    spanDigits more = ([], more) := by
  cases more with
  | nil => rfl
  | cons c t => rw [spanDigits, h c rfl, if_neg (by simp)]

theorem spanDigits_local {ds : List Nat} (h : spanDigits cs = (ds, rest)) :
    ∃ used, cs = used ++ rest ∧
      ∀ more, Alike rest more → spanDigits (used ++ more) = (ds, more) := by
  induction cs generalizing ds rest with
  | nil =>
    cases h
    refine ⟨[], rfl, fun more hm => spanDigits_of_head (hm.head ?_ fun c hc => hc.1)⟩
    intro c hc
    cases hc
  | cons c cs ih =>
    rw [spanDigits] at h
    by_cases hc : Text.isDigit c = true
    · rw [if_pos hc] at h
      cases h
      obtain ⟨used, hcs, hmore⟩ := ih rfl
      refine ⟨c :: used, congrArg (c :: ·) hcs, fun more hm => ?_⟩
      rw [List.cons_append, spanDigits, if_pos hc, hmore more hm]
    · rw [if_neg hc] at h
      cases h
      refine ⟨[], rfl, fun more hm => spanDigits_of_head (hm.head ?_ fun c hc => hc.1)⟩
      intro d hd
      cases hd
      simpa using hc

/-- The digits before the point. -/
def readWhole (cs : List Char) : Except Break (List Nat × List Char) :=
  match spanDigits cs with
  | ([], rest) => .error (missingDigit rest)
  | (0 :: _ :: _, _) => .error (.all .malformed)
  | (ds, rest) => .ok (ds, rest)

/-- The digits after the point, and whether there is one. -/
def readFraction (cs : List Char) : Except Break ((List Nat × Bool) × List Char) :=
  match cs with
  | '.' :: r =>
    match spanDigits r with
    | ([], r) => .error (missingDigit r)
    | (ds, r) => .ok ((ds, true), r)
  | r => .ok (([], false), r)

/-- The exponent, and the value of all that was read. -/
def readPower (negative : Bool) (whole fraction : List Nat) (pointed : Bool) (cs : List Char) :
    Except Break (Option Number × List Char) :=
  match cs with
  | 'e' :: r | 'E' :: r => do
    let (e, r) ← readExponent r
    pure ((Literal.mk negative whole fraction (some e) false).number?, r)
  | r => pure ((Literal.mk negative whole fraction none (!pointed)).number?, r)

theorem readFraction_of_head (h : ∀ c ∈ cs.head?, c ≠ '.') :
    readFraction cs = .ok (([], false), cs) := by
  unfold readFraction
  split
  · exact absurd rfl (h _ rfl)
  · rfl

theorem readPower_of_head {negative pointed : Bool} {whole fraction : List Nat}
    (h : ∀ c ∈ cs.head?, c ≠ 'e' ∧ c ≠ 'E') :
    readPower negative whole fraction pointed cs =
      .ok ((Literal.mk negative whole fraction none (!pointed)).number?, cs) := by
  unfold readPower
  split
  · exact absurd rfl (h _ rfl).1
  · exact absurd rfl (h _ rfl).2
  · rfl

/-- A number is read in three steps. -/
theorem readNumber_eq (negative : Bool) (cs : List Char) :
    readNumber negative cs = (readWhole cs >>= fun w =>
      readFraction w.2 >>= fun f => readPower negative w.1 f.1.1 f.1.2 f.2) := by
  unfold readNumber readWhole
  rcases spanDigits cs with ⟨_ | ⟨_ | d, _ | ⟨d', ds⟩⟩, rest⟩
  case nil | cons.zero.cons => rfl
  all_goals
    simp only [bind, Except.bind]
    by_cases hpoint : ∃ r, rest = '.' :: r
    · obtain ⟨r, rfl⟩ := hpoint
      rw [readFraction]
      rcases hs : spanDigits r with ⟨_ | ⟨x, xs⟩, r'⟩
      · simp only [hs]
      · simp only [hs]
        rfl
    · have hne : ∀ r, rest ≠ '.' :: r := fun r hr => hpoint ⟨r, hr⟩
      rw [readFraction_of_head]
      · split
        · exact absurd rfl (hne _)
        · rfl
      · rintro c hc rfl
        obtain ⟨r, hr⟩ := List.head?_eq_some_iff.mp hc
        exact hne r hr

theorem readWhole_local : Local Alike readWhole := by
  intro cs ds rest h
  unfold readWhole at h
  rcases hs : spanDigits cs with ⟨_ | ⟨_ | d, _ | ⟨d', xs⟩⟩, r⟩ <;> rw [hs] at h <;> cases h
  all_goals
    obtain ⟨used, hcs, hmore⟩ := spanDigits_local hs
    refine ⟨used, hcs, fun more hm => ?_⟩
    unfold readWhole
    rw [hmore more hm]
    rfl

theorem readFraction_local : Local Alike readFraction := by
  intro cs f rest h
  by_cases hpoint : ∃ r, cs = '.' :: r
  · obtain ⟨r, rfl⟩ := hpoint
    rw [readFraction] at h
    rcases hs : spanDigits r with ⟨_ | ⟨x, xs⟩, r'⟩ <;> rw [hs] at h <;> cases h
    obtain ⟨used, hr, hmore⟩ := spanDigits_local hs
    refine ⟨'.' :: used, congrArg ('.' :: ·) hr, fun more hm => ?_⟩
    rw [List.cons_append, readFraction, hmore more hm]
  · have hne : ∀ c ∈ cs.head?, c ≠ '.' := by
      rintro c hc rfl
      exact hpoint (List.head?_eq_some_iff.mp hc)
    rw [readFraction_of_head hne] at h
    cases h
    exact ⟨[], rfl, fun more hm => readFraction_of_head (hm.head hne fun c hc => hc.2.1)⟩

/-- The digits of an exponent, after its sign. -/
def readDigits (down : Bool) (cs : List Char) : Except Break ((Bool × List Nat) × List Char) :=
  match spanDigits cs with
  | ([], rest) => .error (missingDigit rest)
  | (ds, rest) => .ok ((down, ds), rest)

theorem readExponent_of_head (h : ∀ c ∈ cs.head?, c ≠ '+' ∧ c ≠ '-') :
    readExponent cs = readDigits false cs := by
  unfold readExponent readDigits
  split
  rename_i heq
  split at heq
  · exact absurd rfl (h _ rfl).1
  · exact absurd rfl (h _ rfl).2
  · cases heq
    rfl

theorem readDigits_local (down : Bool) : Local Alike (readDigits down) := by
  intro cs e rest h
  unfold readDigits at h
  rcases hs : spanDigits cs with ⟨_ | ⟨x, xs⟩, r⟩ <;> rw [hs] at h <;> cases h
  obtain ⟨used, hcs, hmore⟩ := spanDigits_local hs
  refine ⟨used, hcs, fun more hm => ?_⟩
  rw [readDigits, hmore more hm]

theorem readExponent_local : Local Alike readExponent := by
  intro cs e rest h
  by_cases hplus : ∃ r, cs = '+' :: r
  · obtain ⟨r, rfl⟩ := hplus
    obtain ⟨used, rfl, hmore⟩ := readDigits_local false r e rest h
    exact ⟨'+' :: used, rfl, hmore⟩
  by_cases hminus : ∃ r, cs = '-' :: r
  · obtain ⟨r, rfl⟩ := hminus
    obtain ⟨used, rfl, hmore⟩ := readDigits_local true r e rest h
    exact ⟨'-' :: used, rfl, hmore⟩
  have hsign : ∀ c ∈ cs.head?, c ≠ '+' ∧ c ≠ '-' := by
    refine fun c hc => ⟨?_, ?_⟩ <;> rintro rfl
    · exact hplus (List.head?_eq_some_iff.mp hc)
    · exact hminus (List.head?_eq_some_iff.mp hc)
  rw [readExponent_of_head hsign] at h
  obtain ⟨used, rfl, hmore⟩ := readDigits_local false cs e rest h
  refine ⟨used, rfl, fun more hm => ?_⟩
  cases used with
  | nil => cases hmore [] (.inr apart_nil)
  | cons c used =>
    have hsign' : ∀ d ∈ (c :: used ++ more).head?, d ≠ '+' ∧ d ≠ '-' := hsign
    rw [readExponent_of_head hsign', hmore more hm]

theorem readPower_local (negative : Bool) (whole fraction : List Nat) (pointed : Bool) :
    Local Alike (readPower negative whole fraction pointed) := by
  intro cs n rest h
  have hmark : ∀ c r, c = 'e' ∨ c = 'E' → readPower negative whole fraction pointed (c :: r) =
      (readExponent r >>= fun e =>
        .ok ((Literal.mk negative whole fraction (some e.1) false).number?, e.2)) := by
    rintro c r (rfl | rfl) <;> rfl
  by_cases hc : ∃ c r, cs = c :: r ∧ (c = 'e' ∨ c = 'E')
  · obtain ⟨c, r, rfl, hc⟩ := hc
    have hlocal := Local.bind Alike.append readExponent_local fun e =>
      local_ok ((Literal.mk negative whole fraction (some e) false).number?)
    rw [hmark c r hc] at h
    obtain ⟨used, rfl, hmore⟩ := hlocal r n rest h
    refine ⟨c :: used, rfl, fun more hm => ?_⟩
    rw [List.cons_append, hmark c _ hc]
    exact hmore more hm
  · have hne : ∀ c ∈ cs.head?, c ≠ 'e' ∧ c ≠ 'E' := by
      intro c hhead
      obtain ⟨r, hr⟩ := List.head?_eq_some_iff.mp hhead
      exact ⟨fun he => hc ⟨c, r, hr, .inl he⟩, fun he => hc ⟨c, r, hr, .inr he⟩⟩
    rw [readPower_of_head hne] at h
    cases h
    exact ⟨[], rfl, fun more hm => readPower_of_head (hm.head hne fun c hc => hc.2.2)⟩

/-- **A number is read from its own characters** and looks at one more. -/
theorem readNumber_local (negative : Bool) : Local Alike (readNumber negative) := by
  have hlocal := Local.bind Alike.append readWhole_local fun whole =>
    Local.bind Alike.append readFraction_local fun f => readPower_local negative whole f.1 f.2
  intro cs n rest h
  rw [readNumber_eq] at h
  obtain ⟨used, hcs, hmore⟩ := hlocal cs n rest h
  refine ⟨used, hcs, fun more hm => ?_⟩
  rw [readNumber_eq]
  exact hmore more hm

/-! ## Strings -/

/-- What may stand for a text in a string: what begins with the same two characters, or with the
quote that ends the string. -/
def AlikeInString (rest more : List Char) : Prop :=
  more.take 2 = rest.take 2 ∨ more.head? = some '"' ∧ rest.head? = some '"'

theorem AlikeInString.append (used rest more : List Char) (h : AlikeInString rest more) :
    AlikeInString (used ++ rest) (used ++ more) := by
  rcases used with _ | ⟨c, _ | ⟨d, used⟩⟩
  · exact h
  · have hhead : more.take 1 = rest.take 1 := by
      rcases h with h | ⟨h, h'⟩
      · have htake := congrArg (List.take 1) h
        rwa [List.take_take, List.take_take] at htake
      · rw [List.take_one, List.take_one, h, h']
    exact .inl (congrArg (c :: ·) hhead)
  · exact .inl rfl

theorem readHex4_local {alike : List Char → List Char → Prop} : Local alike readHex4 := by
  intro cs n rest h
  rcases cs with _ | ⟨a, _ | ⟨b, _ | ⟨c, _ | ⟨d, t⟩⟩⟩⟩
  case cons.cons.cons.cons =>
    rw [readHex4] at h
    split at h
    · cases h
      refine ⟨[a, b, c, d], rfl, fun more _ => ?_⟩
      simp only [List.cons_append, List.nil_append, readHex4, *]
    · cases h
  all_goals cases h

/-- The character of two halves. -/
def readPair (high low : Nat) (cs : List Char) : Except Fault (Option Char × List Char) :=
  if 0xDC00 ≤ low && low ≤ 0xDFFF then
    .ok (some (Char.ofNat (0x10000 + (high - 0xD800) * 0x400 + (low - 0xDC00))), cs)
  else .ok (none, cs)

/-- What follows half of a character that is the first one. -/
def readLow (high : Nat) : List Char → Except Fault (Option Char × List Char)
  | [] => .error .ended
  | ['\\'] => .error .ended
  | '\\' :: 'u' :: r => readHex4 r >>= fun low => readPair high low.1 low.2
  | r => .ok (none, r)

/-- A character, or half of one and what follows it. -/
def readHalf (high : Nat) (cs : List Char) : Except Fault (Option Char × List Char) :=
  if 0xDC00 ≤ high && high ≤ 0xDFFF then .ok (none, cs)
  else if 0xD800 ≤ high && high ≤ 0xDBFF then readLow high cs
  else .ok (some (Char.ofNat high), cs)

/-- A text in which no escape of that form is next, and none may come of it. -/
def Unescaped (cs : List Char) : Prop :=
  cs.take 2 ≠ [] ∧ cs.take 2 ≠ ['\\'] ∧ cs.take 2 ≠ ['\\', 'u']

theorem readLow_of_unescaped {high : Nat} (h : Unescaped cs) :
    readLow high cs = .ok (none, cs) := by
  unfold readLow
  split
  · exact absurd rfl h.1
  · exact absurd rfl h.2.1
  · exact absurd rfl h.2.2
  · rfl

theorem Unescaped.alike (h : Unescaped cs) (hm : AlikeInString cs more) : Unescaped more := by
  rcases hm with hm | ⟨hm, -⟩
  · rw [Unescaped, hm]
    exact h
  · obtain ⟨r, rfl⟩ := List.head?_eq_some_iff.mp hm
    simp [Unescaped]

theorem readPair_local (high low : Nat) : Local AlikeInString (readPair high low) := by
  unfold readPair
  split
  · exact local_ok _
  · exact local_ok _

theorem readLow_local (high : Nat) : Local AlikeInString (readLow high) := by
  intro cs c rest h
  by_cases hescape : ∃ r, cs = '\\' :: 'u' :: r
  · obtain ⟨r, rfl⟩ := hescape
    have hlocal := Local.bind AlikeInString.append readHex4_local (readPair_local high)
    obtain ⟨used, rfl, hmore⟩ := hlocal r c rest h
    exact ⟨'\\' :: 'u' :: used, rfl, hmore⟩
  · have hun : Unescaped cs := by
      rcases cs with _ | ⟨a, _ | ⟨b, t⟩⟩
      · cases h
      · refine ⟨by simp, ?_, by simp⟩
        rintro heq
        cases heq
        cases h
      · refine ⟨by simp, by simp, ?_⟩
        rintro heq
        cases heq
        exact hescape ⟨t, rfl⟩
    rw [readLow_of_unescaped hun] at h
    cases h
    exact ⟨[], rfl, fun more hm => readLow_of_unescaped (hun.alike hm)⟩

theorem readHalf_local (high : Nat) : Local AlikeInString (readHalf high) := by
  unfold readHalf
  split
  · exact local_ok _
  · split
    · exact readLow_local high
    · exact local_ok _

/-- The escape of a character is read in two steps. -/
theorem readUnicodeEscape_local : Local AlikeInString readUnicodeEscape :=
  Local.bind AlikeInString.append readHex4_local readHalf_local

/-- What an escape stands for. -/
def readEscape : List Char → Except Fault (Option Char × List Char)
  | [] => .error .ended
  | 'u' :: rest => readUnicodeEscape rest
  | e :: rest =>
    match simpleEscape? e with
    | none => .error .malformed
    | some c => .ok (some c, rest)

theorem readEscape_of_ne {e : Char} (he : e ≠ 'u') (rest : List Char) :
    readEscape (e :: rest) =
      match simpleEscape? e with
      | none => .error .malformed
      | some c => .ok (some c, rest) := by
  unfold readEscape
  split
  · rename_i h
    cases h
  · rename_i h
    exact absurd (List.cons.inj h).1 he
  · rename_i h
    cases h
    rfl

theorem readEscape_local : Local AlikeInString readEscape := by
  intro cs c rest h
  cases cs with
  | nil => cases h
  | cons e t =>
    by_cases he : e = 'u'
    · subst he
      obtain ⟨used, rfl, hmore⟩ := readUnicodeEscape_local t c rest h
      exact ⟨'u' :: used, rfl, hmore⟩
    · rw [readEscape_of_ne he] at h
      cases hs : simpleEscape? e with
      | none => rw [hs] at h; cases h
      | some d =>
        rw [hs] at h
        cases h
        refine ⟨[e], rfl, fun more _ => ?_⟩
        rw [List.singleton_append, readEscape_of_ne he, hs]

/-- A string is read character by character. -/
theorem readString_cons (fuel : Nat) (soFar : Option (List Char)) (c : Char) (rest : List Char) :
    readString (fuel + 1) soFar (c :: rest) =
      if c == '"' then .ok (soFar.map fun cs => String.ofList cs.reverse, rest)
      else if c == '\\' then
        match readEscape rest with
        | .error f => .error (breakInString soFar f)
        | .ok (c?, rest) => readString fuel (do pure ((← c?) :: (← soFar))) rest
      else if c.toNat < 0x20 then .error (breakInString soFar .malformed)
      else readString fuel (soFar.map (c :: ·)) rest := by
  rcases rest with _ | ⟨e, rest⟩
  · rw [readString]
    rfl
  · by_cases he : e = 'u'
    · subst he
      rw [readString]
      rfl
    · rw [readString.eq_5 _ _ _ _ _ he, readEscape_of_ne he]
      cases simpleEscape? e with
      | none => rfl
      | some d => cases soFar <;> rfl

/-- **A string is read from its own characters**, up to the quote that ends it, whatever follows. -/
theorem readString_local {fuel : Nat} {soFar : Option (List Char)} {s : Option String}
    (h : readString fuel soFar cs = .ok (s, rest)) :
    ∃ used, cs = used ++ rest ∧
      (∀ more more', AlikeInString (used ++ more) (used ++ more')) ∧
      ∀ fuel' more, used.length ≤ fuel' →
        readString fuel' soFar (used ++ more) = .ok (s, more) := by
  induction fuel generalizing soFar cs with
  | zero => cases h
  | succ fuel ih =>
    cases cs with
    | nil => cases h
    | cons c t =>
      rw [readString_cons] at h
      -- a character at least, and the quote
      have hnext : ∀ used : List Char,
          (∀ more more', AlikeInString (used ++ more) (used ++ more')) →
          ∀ more more', AlikeInString (c :: used ++ more) (c :: used ++ more') := by
        intro used hused more more'
        exact AlikeInString.append [c] _ _ (hused more more')
      split at h
      · rename_i hc
        cases h
        rw [beq_iff_eq] at hc
        subst hc
        refine ⟨['"'], rfl, fun _ _ => .inr ⟨rfl, rfl⟩, fun fuel' more hf => ?_⟩
        obtain ⟨fuel', rfl⟩ : ∃ n, fuel' = n + 1 := ⟨fuel' - 1, by simp at hf; omega⟩
        rw [List.singleton_append, readString_cons]
        rfl
      rename_i hquote
      split at h
      · rename_i hslash
        rcases he : readEscape t with f | ⟨d, r⟩
        · rw [he] at h
          cases h
        · rw [he] at h
          obtain ⟨used, rfl, hmore⟩ := readEscape_local t d r he
          obtain ⟨used', rfl, halike, hread⟩ := ih h
          refine ⟨c :: (used ++ used'), by simp, hnext _ fun more more' => ?_,
            fun fuel' more hf => ?_⟩
          · rw [List.append_assoc, List.append_assoc]
            exact AlikeInString.append used _ _ (halike more more')
          · obtain ⟨fuel', rfl⟩ : ∃ n, fuel' = n + 1 := ⟨fuel' - 1, by simp at hf; omega⟩
            have hf' : used'.length ≤ fuel' := by simp at hf; omega
            rw [List.cons_append, readString_cons, if_neg hquote, if_pos hslash,
              List.append_assoc, hmore _ (halike rest more)]
            exact hread fuel' more hf'
      rename_i hslash
      split at h
      · cases h
      rename_i hcontrol
      obtain ⟨used, rfl, halike, hread⟩ := ih h
      refine ⟨c :: used, rfl, hnext used halike, fun fuel' more hf => ?_⟩
      obtain ⟨fuel', rfl⟩ : ∃ n, fuel' = n + 1 := ⟨fuel' - 1, by simp at hf; omega⟩
      rw [List.cons_append, readString_cons, if_neg hquote, if_neg hslash, if_neg hcontrol]
      exact hread fuel' more (by simpa using hf)

/-! ## Words -/

theorem readWord_eq {w : List Char} (h : readWord w cs = .ok rest) : cs = w ++ rest := by
  induction w generalizing cs with
  | nil =>
    cases h
    rfl
  | cons c w ih =>
    cases cs with
    | nil => cases h
    | cons d cs =>
      rw [readWord] at h
      split at h
      · rename_i hc
        rw [beq_iff_eq] at hc
        rw [ih h, hc]
        rfl
      · cases h

theorem readWord_append (w more : List Char) : readWord w (w ++ more) = .ok more := by
  induction w with
  | nil => rfl
  | cons c w ih => rw [List.cons_append, readWord, if_pos (beq_self_eq_true c), ih]

/-! ## Values -/

/-- A scalar without a break was read. -/
theorem scalar_eq {α : Type} {make : α → Draft} {x : Except Break (α × List Char)} {d : Draft}
    (h : scalar make x = (d, rest)) (hd : d.isBroken = false) :
    ∃ a, x = .ok (a, rest) ∧ make a = d := by
  cases x with
  | error b =>
    cases h
    cases hd
  | ok r =>
    cases h
    exact ⟨r.1, rfl, rfl⟩

/-- The words that are values: the first character, the others and the value. -/
def words : List (Char × List Char × Draft) :=
  [('n', "ull".toList, .null), ('t', "rue".toList, .bool true), ('f', "alse".toList, .bool false)]

/-- What a value without a break was read from, by its first character and what follows it. -/
inductive Reading (fuel : Nat) : Char → List Char → Draft → List Char → Prop
  | word {c : Char} {w t rest : List Char} {d : Draft} (hw : (c, w, d) ∈ words)
      (h : readWord w t = .ok rest) : Reading fuel c t d rest
  | negative {t rest : List Char} {n : Option Number} (h : readNumber true t = .ok (n, rest)) :
      Reading fuel '-' t (.number n) rest
  | digits {c : Char} {t rest : List Char} {n : Option Number} (hc : Text.isDigit c = true)
      (h : readNumber false (c :: t) = .ok (n, rest)) : Reading fuel c t (.number n) rest
  | string {t rest : List Char} {s : Option String}
      (h : readString fuel (some []) t = .ok (s, rest)) : Reading fuel '"' t (.string s) rest
  | noItems {t rest : List Char} (h : skipSpace t = ']' :: rest) :
      Reading fuel '[' t (.array .closed) rest
  | items {t rest : List Char} {items : Items}
      (h : readItems fuel (skipSpace t) = (items, rest))
      (hi : Draft.isBroken.go items = false) : Reading fuel '[' t (.array items) rest
  | noFields {t rest : List Char} (h : skipSpace t = '\x7d' :: rest) :
      Reading fuel '\x7b' t (.object .closed) rest
  | fields {t t' rest : List Char} {fields : Fields} (hskip : skipSpace t = '"' :: t')
      (h : readFields fuel t' = (fields, rest)) (hf : Draft.isBroken.goFields fields = false) :
      Reading fuel '\x7b' t (.object fields) rest

/-- **What a value without a break was read from.** -/
theorem reading_of_readValue {fuel : Nat} {d : Draft} (h : readValue (fuel + 1) cs = (d, rest))
    (hd : d.isBroken = false) : ∃ c t, skipSpace cs = c :: t ∧ Reading fuel c t d rest := by
  rw [readValue] at h
  split at h
  · cases h
    cases hd
  rename_i c t hskip
  refine ⟨c, t, hskip, ?_⟩
  have hword : ∀ w v, scalar (fun _ => v) ((readWord w t).map ((), ·)) = (d, rest) →
      readWord w t = .ok rest ∧ v = d := by
    intro w v hs
    obtain ⟨⟨⟩, hw, rfl⟩ := scalar_eq hs hd
    cases hr : readWord w t with
    | error b =>
      rw [hr] at hw
      cases hw
    | ok r =>
      rw [hr] at hw
      cases hw
      exact ⟨rfl, rfl⟩
  split at h
  · obtain ⟨hw, rfl⟩ := hword _ _ h
    exact .word (by simp [words]) hw
  · obtain ⟨hw, rfl⟩ := hword _ _ h
    exact .word (by simp [words]) hw
  · obtain ⟨hw, rfl⟩ := hword _ _ h
    exact .word (by simp [words]) hw
  · obtain ⟨n, hn, rfl⟩ := scalar_eq h hd
    exact .negative hn
  · obtain ⟨s, hs, rfl⟩ := scalar_eq h hd
    exact .string hs
  · split at h
    · cases h
      exact .noItems ‹_›
    · cases h
      cases hd
    · cases h
      exact .items rfl hd
  · split at h
    · cases h
      exact .noFields ‹_›
    · cases h
      cases hd
    · cases h
      exact .fields ‹_› rfl hd
    · cases h
      cases hd
  · split at h
    · obtain ⟨n, hn, rfl⟩ := scalar_eq h hd
      exact .digits ‹_› hn
    · cases h
      cases hd

/-- The items that were read, if none has a break: a value, and then the end or more of them. -/
theorem readItems_cases {fuel : Nat} {items : Items} (h : readItems (fuel + 1) cs = (items, rest))
    (hi : Draft.isBroken.go items = false) :
    ∃ d r, readValue fuel cs = (d, r) ∧ d.isBroken = false ∧
      ((skipSpace r = ']' :: rest ∧ items = .cons d .closed) ∨
        ∃ t items', skipSpace r = ',' :: t ∧ readItems fuel t = (items', rest) ∧
          Draft.isBroken.go items' = false ∧ items = .cons d items') := by
  refine ⟨(readValue fuel cs).1, (readValue fuel cs).2, rfl, ?_⟩
  rw [readItems] at h
  dsimp only at h
  split at h
  · cases h
    cases hi
  · refine ⟨Bool.eq_false_iff.mpr ‹_›, ?_⟩
    split at h
    · cases h
      cases hi
    · cases h
      exact .inl ⟨‹_›, rfl⟩
    · cases h
      exact .inr ⟨_, _, ‹_›, rfl, hi, rfl⟩
    · cases h
      cases hi

/-- The entries that were read, if none has a break: a name and a value, and then the end or more
of them. -/
theorem readFields_cases {fuel : Nat} {fields : Fields}
    (h : readFields (fuel + 1) cs = (fields, rest))
    (hf : Draft.isBroken.goFields fields = false) :
    ∃ name r r₁ d r₂, readString fuel (some []) cs = .ok (name, r) ∧ skipSpace r = ':' :: r₁ ∧
      readValue fuel r₁ = (d, r₂) ∧ d.isBroken = false ∧
      ((skipSpace r₂ = '\x7d' :: rest ∧ fields = .cons name d .closed) ∨
        ∃ r₃ t fields', skipSpace r₂ = ',' :: r₃ ∧ skipSpace r₃ = '"' :: t ∧
          readFields fuel t = (fields', rest) ∧ Draft.isBroken.goFields fields' = false ∧
          fields = .cons name d fields') := by
  rw [readFields] at h
  split at h
  · cases h
    cases hf
  rename_i name r hname
  split at h
  · cases h
    cases hf
  · rename_i r₁ hcolon
    refine ⟨name, r, r₁, _, _, hname, hcolon, rfl, ?_⟩
    dsimp only at h
    split at h
    · cases h
      cases hf
    · refine ⟨Bool.eq_false_iff.mpr ‹_›, ?_⟩
      split at h
      · cases h
        cases hf
      · cases h
        exact .inl ⟨‹_›, rfl⟩
      · split at h
        · cases h
          cases hf
        · cases h
          exact .inr ⟨_, _, _, ‹_›, ‹_›, rfl, hf, rfl⟩
        · cases h
          cases hf
      · cases h
        cases hf
  · cases h
    cases hf

end Texts

section Steps

variable {fuel : Nat} {cs rest r r₁ r₂ r₃ : List Char} {d : Draft}

theorem readValue_word {c : Char} {w : List Char} (hw : (c, w, d) ∈ words)
    (more : List Char) : readValue (fuel + 1) (c :: (w ++ more)) = (d, more) := by
  have hread : ∀ w v, scalar (fun _ => v) ((readWord w (w ++ more)).map ((), ·)) = (v, more) := by
    intro w v
    rw [readWord_append]
    rfl
  simp only [words, List.mem_cons, Prod.mk.injEq, List.not_mem_nil, or_false] at hw
  rcases hw with ⟨rfl, rfl, rfl⟩ | ⟨rfl, rfl, rfl⟩ | ⟨rfl, rfl, rfl⟩
  · exact hread "ull".toList .null
  · exact hread "rue".toList (.bool true)
  · exact hread "alse".toList (.bool false)

theorem isSpace_of_isDigit {c : Char} (h : Text.isDigit c = true) : isSpace c = false := by
  rw [Bool.eq_false_iff]
  intro hspace
  simp only [isSpace, Bool.or_eq_true, beq_iff_eq] at hspace
  rcases hspace with ((rfl | rfl) | rfl) | rfl <;> cases h

theorem readValue_digits (fuel : Nat) {c : Char} (hc : Text.isDigit c = true) (t : List Char) :
    readValue (fuel + 1) (c :: t) = scalar .number (readNumber false (c :: t)) := by
  rw [readValue, skipSpace_cons (isSpace_of_isDigit hc)]
  dsimp only
  split
  case h_8 => rw [if_pos hc]
  all_goals exact absurd hc (by decide)

theorem readValue_noItems (h : skipSpace cs = ']' :: rest) :
    readValue (fuel + 1) ('[' :: cs) = (.array .closed, rest) := by
  simp only [readValue, skipSpace_cons (show isSpace '[' = false by decide), h]

theorem readValue_items {c : Char} (hs : skipSpace cs = c :: rest) (hc : c ≠ ']') :
    readValue (fuel + 1) ('[' :: cs) =
      (.array (readItems fuel (c :: rest)).1, (readItems fuel (c :: rest)).2) := by
  rw [readValue, skipSpace_cons (by decide)]
  dsimp only
  rw [hs]
  split
  case h_6 =>
    split
    · rename_i h
      exact absurd (List.cons.inj h).1 hc
    · rename_i h
      cases h
    · rfl
  case h_8 =>
    rename_i hbracket _
    exact absurd rfl hbracket
  all_goals exact absurd ‹_› (by decide)

theorem readItems_last (h : readValue fuel cs = (d, r)) (hd : d.isBroken = false)
    (hr : skipSpace r = ']' :: rest) : readItems (fuel + 1) cs = (.cons d .closed, rest) := by
  simp only [readItems, h, hd, hr, Bool.false_eq_true, if_false]

theorem readItems_next (h : readValue fuel cs = (d, r)) (hd : d.isBroken = false)
    (hr : skipSpace r = ',' :: rest) :
    readItems (fuel + 1) cs =
      (.cons d (readItems fuel rest).1, (readItems fuel rest).2) := by
  simp only [readItems, h, hd, hr, Bool.false_eq_true, if_false]

theorem readValue_noFields (h : skipSpace cs = '\x7d' :: rest) :
    readValue (fuel + 1) ('\x7b' :: cs) = (.object .closed, rest) := by
  simp only [readValue, skipSpace_cons (show isSpace '\x7b' = false by decide), h]

theorem readValue_fields (h : skipSpace cs = '"' :: rest) :
    readValue (fuel + 1) ('\x7b' :: cs) =
      (.object (readFields fuel rest).1, (readFields fuel rest).2) := by
  simp only [readValue, skipSpace_cons (show isSpace '\x7b' = false by decide), h]

variable {k : Option String}

theorem readFields_last (hk : readString fuel (some []) cs = .ok (k, r))
    (hr : skipSpace r = ':' :: r₁) (h : readValue fuel r₁ = (d, r₂)) (hd : d.isBroken = false)
    (hr₂ : skipSpace r₂ = '\x7d' :: rest) :
    readFields (fuel + 1) cs = (.cons k d .closed, rest) := by
  simp only [readFields, hk, hr, h, hd, hr₂, Bool.false_eq_true, if_false]

theorem readFields_next (hk : readString fuel (some []) cs = .ok (k, r))
    (hr : skipSpace r = ':' :: r₁) (h : readValue fuel r₁ = (d, r₂)) (hd : d.isBroken = false)
    (hr₂ : skipSpace r₂ = ',' :: r₃) (hr₃ : skipSpace r₃ = '"' :: rest) :
    readFields (fuel + 1) cs =
      (.cons k d (readFields fuel rest).1, (readFields fuel rest).2) := by
  simp only [readFields, hk, hr, h, hd, hr₂, hr₃, Bool.false_eq_true, if_false]

end Steps

end Reconcile.Json
