import Mathlib.Data.List.TakeWhile
import Reconcile.Proofs.Text.Percent
import Reconcile.Template.Basic

/-!
# The grammar of templates

A scan cuts a template into parts, gives each name a segment of its own and runs the literal parts
between the names together.

* `Piece.Fits` — what a part of each kind is, and what may follow it.
* `Decomposition`, `pieces_eq_iff` — a text has exactly one decomposition into parts that fit where
  they stand, and the scan makes it.
* `Template.Merged`, `Template.merged_iff` — the segments of some parts, and only they.
* `Template.Merged.forms` — each segment stands for a stretch of the text, and nothing is lost.
* `Decomposition.unclosedAt?_eq_some_iff` — where a brace is reported that nothing closes.
* `Template.scan_decomposes` — what a scan makes of a text.
-/

namespace Reconcile

/-! ## Longest runs -/

section Runs

variable {α : Type} {p : α → Bool} {xs rest : List α}

theorem head?_dropWhile (p : α → Bool) (l : List α) :
    ∀ a ∈ (l.dropWhile p).head?, p a = false := by
  intro a ha
  have hnot := List.head?_dropWhile_not p l
  rw [Option.mem_def.mp ha] at hnot
  exact hnot

/-- A run that what follows does not carry on is the longest one. -/
theorem takeWhile_append_of_head (hx : ∀ a ∈ xs, p a = true) (hr : ∀ a ∈ rest.head?, p a = false) :
    (xs ++ rest).takeWhile p = xs := by
  rw [List.takeWhile_append_of_pos hx]
  cases rest with
  | nil => rw [List.takeWhile_nil, List.append_nil]
  | cons a rest => rw [List.takeWhile_cons_of_neg (by simp [hr a rfl]), List.append_nil]

theorem dropWhile_append_of_head (hx : ∀ a ∈ xs, p a = true) (hr : ∀ a ∈ rest.head?, p a = false) :
    (xs ++ rest).dropWhile p = rest := by
  rw [List.dropWhile_append_of_pos hx]
  cases rest with
  | nil => rfl
  | cons a rest => exact List.dropWhile_cons_of_neg (by simp [hr a rfl])

/-- The characters before the first one of a kind. -/
theorem not_mem_takeWhile_ne (c : Char) (cs : List Char) : c ∉ cs.takeWhile (· != c) := by
  intro hc
  simpa using List.mem_takeWhile_imp hc

theorem forall_ne_of_not_mem {c : Char} {cs : List Char} (h : c ∉ cs) :
    ∀ x ∈ cs, (x != c) = true := by
  intro x hx
  rw [bne_iff_ne]
  exact fun he => h (he ▸ hx)

end Runs

/-! ## Decompositions -/

/-- What a part of each kind is, and what may follow it: nothing that would carry it on, and nothing
that would make it a part of another kind. -/
def Piece.Fits : Piece → List Char → Prop
  | .run cs, rest => cs ≠ [] ∧ '$' ∉ cs ∧ ∀ c ∈ rest.head?, c = '$'
  | .braced cs, _ => '\x7d' ∉ cs
  | .bare cs, rest => isName cs = true ∧ ∀ c ∈ rest.head?, isNamePart c = false
  | .dollar, rest => ∀ c ∈ rest.head?, c ≠ '\x7b' ∧ isNameStart c = false
  | .unclosed cs, rest => '\x7d' ∉ cs ∧ rest = []

/-- A text cut into parts, from left to right, each of which fits where it stands. -/
inductive Decomposition : List Piece → List Char → Prop
  | nil : Decomposition [] []
  | cons {p : Piece} {ps : List Piece} {rest : List Char} (fits : p.Fits rest)
      (h : Decomposition ps rest) : Decomposition (p :: ps) (p.spelling ++ rest)

theorem Piece.Fits.spelling_ne_nil {p : Piece} {rest : List Char} (h : p.Fits rest) :
    p.spelling ≠ [] := by
  cases p with
  | run cs => exact h.1
  | braced cs => exact List.cons_ne_nil _ _
  | bare cs => exact List.cons_ne_nil _ _
  | dollar => exact List.cons_ne_nil _ _
  | unclosed cs => exact List.cons_ne_nil _ _

/-- A name has a first character, and others. -/
theorem isName_cons {c : Char} {cs : List Char} :
    isName (c :: cs) = true ↔ isNameStart c = true ∧ ∀ d ∈ cs, isNamePart d = true := by
  rw [isName, Bool.and_eq_true, List.all_eq_true]

theorem isNameStart_brace : isNameStart '\x7b' = false := by decide

/-- **A part that fits** stands at the start of every text that is not empty. -/
theorem exists_fits (c : Char) (cs : List Char) :
    ∃ (p : Piece) (rest : List Char), p.spelling ++ rest = c :: cs ∧ p.Fits rest := by
  by_cases hc : c = '$'
  · subst hc
    cases cs with
    | nil => exact ⟨.dollar, [], rfl, fun c hc => by cases hc⟩
    | cons d ds =>
      by_cases hd : d = '\x7b'
      · subst hd
        by_cases hclose : '\x7d' ∈ ds
        · obtain ⟨xs, rest, rfl, hxs⟩ := List.eq_append_cons_of_mem hclose
          exact ⟨.braced xs, rest, by simp [Piece.spelling], hxs⟩
        · exact ⟨.unclosed ds, [], List.append_nil _, hclose, rfl⟩
      · by_cases hn : isNameStart d = true
        · have hname : isName (d :: ds.takeWhile isNamePart) = true :=
            isName_cons.mpr ⟨hn, fun x hx => List.mem_takeWhile_imp hx⟩
          refine ⟨.bare (d :: ds.takeWhile isNamePart), ds.dropWhile isNamePart, ?_, hname,
            head?_dropWhile isNamePart ds⟩
          rw [Piece.spelling, List.cons_append, List.cons_append, List.takeWhile_append_dropWhile]
        · refine ⟨.dollar, d :: ds, rfl, fun x hx => ?_⟩
          cases hx
          exact ⟨hd, by simpa using hn⟩
  · refine ⟨.run (c :: cs.takeWhile (· != '$')), cs.dropWhile (· != '$'), ?_,
      List.cons_ne_nil _ _, ?_, ?_⟩
    · rw [Piece.spelling, List.cons_append, List.takeWhile_append_dropWhile]
    · rw [List.mem_cons, not_or]
      exact ⟨fun h => hc h.symm, not_mem_takeWhile_ne '$' cs⟩
    · intro d hd
      simpa using head?_dropWhile (· != '$') cs d hd

/-- **The first part of a text** is whatever part fits there. -/
theorem firstPiece_eq {p : Piece} {rest cs : List Char} {c : Char} (h : p.Fits rest)
    (hs : p.spelling ++ rest = c :: cs) : firstPiece c cs = (p, rest) := by
  cases p with
  | run xs =>
    obtain ⟨hne, hdollar, hrest⟩ := h
    cases xs with
    | nil => exact absurd rfl hne
    | cons x xs =>
      obtain ⟨rfl, rfl⟩ := List.cons.inj hs
      rw [List.mem_cons, not_or] at hdollar
      have hin := forall_ne_of_not_mem hdollar.2
      have hout : ∀ a ∈ rest.head?, (a != '$') = false := fun a ha => by simp [hrest a ha]
      show firstPiece x (xs ++ rest) = (.run (x :: xs), rest)
      rw [firstPiece.eq_def, if_pos (by simpa using fun e => hdollar.1 e.symm),
        takeWhile_append_of_head hin hout, dropWhile_append_of_head hin hout]
  | braced xs =>
    obtain ⟨rfl, rfl⟩ := List.cons.inj hs
    have hin := forall_ne_of_not_mem h
    have hout : ∀ a ∈ ('\x7d' :: rest).head?, (a != '\x7d') = false := fun a ha => by
      cases ha
      decide
    have hclosed : xs ++ ['\x7d'] ++ rest = xs ++ '\x7d' :: rest := List.append_cons _ _ _ |>.symm
    simp only [List.append_eq, List.cons_append, hclosed, firstPiece,
      takeWhile_append_of_head hin hout, dropWhile_append_of_head hin hout]
    rfl
  | bare xs =>
    obtain ⟨hname, hrest⟩ := h
    cases xs with
    | nil => cases hname
    | cons x xs =>
      obtain ⟨rfl, rfl⟩ := List.cons.inj hs
      obtain ⟨hx, hxs⟩ := isName_cons.mp hname
      have hbrace : ¬ (x == '\x7b') = true := by
        intro he
        rw [beq_iff_eq.mp he, isNameStart_brace] at hx
        cases hx
      simp only [List.append_eq, List.cons_append, firstPiece, hbrace, hx, if_true,
        takeWhile_append_of_head hxs hrest, dropWhile_append_of_head hxs hrest]
      rfl
  | dollar =>
    obtain ⟨rfl, rfl⟩ := List.cons.inj hs
    cases rest with
    | nil => rfl
    | cons x xs =>
      obtain ⟨hbrace, hname⟩ := h x rfl
      have hbrace : ¬ (x == '\x7b') = true := by simpa using hbrace
      simp only [List.append_eq, List.nil_append, firstPiece, hbrace, hname]
      rfl
  | unclosed xs =>
    obtain ⟨hopen, rfl⟩ := h
    obtain ⟨rfl, rfl⟩ := List.cons.inj hs
    have hall := List.dropWhile_eq_nil_iff.mpr (forall_ne_of_not_mem hopen)
    simp only [List.append_eq, List.append_nil, firstPiece, hall]
    rfl

theorem firstPiece_fits (c : Char) (cs : List Char) :
    (firstPiece c cs).1.spelling ++ (firstPiece c cs).2 = c :: cs ∧
      (firstPiece c cs).1.Fits (firstPiece c cs).2 := by
  obtain ⟨p, rest, hs, hfits⟩ := exists_fits c cs
  rw [firstPiece_eq hfits hs]
  exact ⟨hs, hfits⟩

theorem pieces_cons (c : Char) (cs : List Char) :
    pieces (c :: cs) = (firstPiece c cs).1 :: pieces (firstPiece c cs).2 := by
  rw [pieces]

theorem pieces_decompose (cs : List Char) : Decomposition (pieces cs) cs := by
  fun_induction pieces cs with
  | case1 => exact .nil
  | case2 c cs hle ih =>
    obtain ⟨hsplit, hfits⟩ := firstPiece_fits c cs
    have hcons := Decomposition.cons hfits ih
    rwa [hsplit] at hcons

/-- **A text has exactly one decomposition.** -/
theorem pieces_eq_iff {cs : List Char} {ps : List Piece} :
    pieces cs = ps ↔ Decomposition ps cs := by
  refine ⟨fun h => h ▸ pieces_decompose cs, fun h => ?_⟩
  induction h with
  | nil => rw [pieces]
  | @cons p ps rest fits h ih =>
    obtain ⟨c, cs, hs⟩ := List.exists_cons_of_ne_nil fits.spelling_ne_nil
    have htext : p.spelling ++ rest = c :: (cs ++ rest) := by rw [hs, List.cons_append]
    rw [htext, pieces_cons, firstPiece_eq fits htext, ih]

/-- Braces take in what stands between them, dollar signs included. -/
example : pieces "é$x$\x7by $z\x7d$5 $\x7b$x".toList =
    [.run ['é'], .bare ['x'], .braced ['y', ' ', '$', 'z'], .dollar, .run ['5', ' '],
      .unclosed ['$', 'x']] := by
  decide +kernel

namespace Decomposition

variable {ps : List Piece} {cs : List Char}

theorem spelling_eq (h : Decomposition ps cs) : ps.flatMap Piece.spelling = cs := by
  induction h with
  | nil => rfl
  | cons fits h ih => rw [List.flatMap_cons, ih]

theorem spelling_ne_nil (h : Decomposition ps cs) : ∀ p ∈ ps, p.spelling ≠ [] := by
  induction h with
  | nil => intro p hp; cases hp
  | cons fits h ih =>
    intro p hp
    rcases List.mem_cons.mp hp with rfl | hp
    · exact fits.spelling_ne_nil
    · exact ih p hp

end Decomposition

/-! ## Braces that nothing closes -/

/-- A part that is left open is the last one. -/
theorem Decomposition.eq_nil_of_unclosed {front post : List Piece} {rest cs : List Char}
    (h : Decomposition (front ++ .unclosed rest :: post) cs) : post = [] := by
  induction front generalizing cs with
  | nil =>
    cases h with
    | cons fits h =>
      obtain ⟨-, rfl⟩ := fits
      have hnil := pieces_eq_iff.mpr h
      rw [pieces] at hnil
      exact hnil.symm
  | cons p front ih =>
    cases h with
    | cons fits h => exact ih h

namespace Template

/-- A part that is not left open puts the others behind it. -/
theorem unclosedAt?_cons {p : Piece} (hp : ∀ cs, p ≠ .unclosed cs) (start : Nat)
    (ps : List Piece) :
    unclosedAt? start (p :: ps) = unclosedAt? (start + Text.Utf8.size p.spelling) ps :=
  unclosedAt?.eq_3 start p ps fun cs he => hp cs he

end Template

/-- **Where a brace is reported that nothing closes**: in front of the last part, if it is left
open. -/
theorem Decomposition.unclosedAt?_eq_some_iff {ps : List Piece} {cs : List Char}
    (h : Decomposition ps cs) (start o : Nat) :
    Template.unclosedAt? start ps = some o ↔ ∃ front rest, ps = front ++ [.unclosed rest] ∧
      o = start + Text.Utf8.size (front.flatMap Piece.spelling) := by
  induction h generalizing start with
  | nil =>
    rw [Template.unclosedAt?]
    constructor
    · intro h; cases h
    · rintro ⟨front, rest, hps, -⟩
      exact absurd hps.symm (List.append_ne_nil_of_right_ne_nil _ (List.cons_ne_nil _ _))
  | @cons p ps rest fits h ih =>
    by_cases hp : ∃ xs, p = .unclosed xs
    · obtain ⟨xs, rfl⟩ := hp
      obtain ⟨-, rfl⟩ := fits
      cases pieces_eq_iff.mpr h
      rw [Template.unclosedAt?, Option.some_inj, pieces]
      constructor
      · exact fun he => ⟨[], xs, rfl, he.symm⟩
      · rintro ⟨front, rest, hps, ho⟩
        rw [List.singleton_eq_append_iff] at hps
        rcases hps with ⟨rfl, -⟩ | ⟨-, hnil⟩
        · exact ho.symm
        · cases hnil
    · have hp : ∀ cs, p ≠ .unclosed cs := fun cs he => hp ⟨cs, he⟩
      rw [Template.unclosedAt?_cons hp, ih]
      constructor
      · rintro ⟨front, rest, rfl, ho⟩
        refine ⟨p :: front, rest, rfl, ?_⟩
        rw [List.flatMap_cons, Text.Utf8.size_append]
        omega
      · rintro ⟨front, rest, hps, ho⟩
        cases front with
        | nil => exact absurd (List.cons.inj hps).1 (hp rest)
        | cons q front =>
          obtain ⟨rfl, rfl⟩ := List.cons.inj hps
          refine ⟨front, rest, rfl, ?_⟩
          rw [List.flatMap_cons, Text.Utf8.size_append] at ho
          omega

namespace Template

/-! ## Segments -/

/-- The segments of some parts: one for each name, and one for each longest row of parts without a
name. -/
inductive Merged : List Piece → List Segment → Prop
  | nil : Merged [] []
  | named {p : Piece} {name : List Char} {ps : List Piece} {segments : List Segment}
      (hname : p.name? = some name) (h : Merged ps segments) :
      Merged (p :: ps) (.variable (String.ofList name) :: segments)
  | row {row ps : List Piece} {segments : List Segment} (ne_nil : row ≠ [])
      (unnamed : ∀ p ∈ row, p.name? = none) (longest : ∀ p ∈ ps.head?, p.name? ≠ none)
      (h : Merged ps segments) :
      Merged (row ++ ps) (.literal (String.ofList (row.flatMap Piece.spelling)) :: segments)

/-- How a segment may be spelled. -/
inductive SpelledAs : Segment → List Char → Prop
  | literal (s : String) : SpelledAs (.literal s) s.toList
  | bare (name : String) : SpelledAs (.variable name) ('$' :: name.toList)
  | braced (name : String) :
      SpelledAs (.variable name) ('$' :: '\x7b' :: (name.toList ++ ['\x7d']))

section Segments

variable {p : Piece} {ps row : List Piece} {segments : List Segment}

theorem segmentsOf_named {name : List Char} (h : p.name? = some name) :
    segmentsOf (p :: ps) = .variable (String.ofList name) :: segmentsOf ps := by
  rw [segmentsOf, h]

theorem segmentsOf_unnamed (h : p.name? = none) :
    segmentsOf (p :: ps) = consLiteral p.spelling (segmentsOf ps) := by
  rw [segmentsOf, h]

/-- Literal characters go into a literal that follows. -/
theorem consLiteral_literal (cs ds : List Char) :
    consLiteral cs (.literal (String.ofList ds) :: segments) =
      .literal (String.ofList (cs ++ ds)) :: segments := by
  rw [consLiteral, String.toList_ofList]

/-- Where none follows they are a literal of their own. -/
theorem consLiteral_of_head {cs : List Char} (hcs : cs ≠ [])
    (h : ∀ s ∈ segments.head?, ∀ t, s ≠ .literal t) :
    consLiteral cs segments = .literal (String.ofList cs) :: segments := by
  have hempty : ¬ cs.isEmpty = true := by simpa using hcs
  unfold Template.consLiteral
  split
  · exact absurd rfl (h _ rfl _)
  · rw [if_neg hempty]

/-- A segment for a name comes first exactly where a part with a name does. -/
theorem head?_segmentsOf (h : ∀ p ∈ ps.head?, p.name? ≠ none) :
    ∀ s ∈ (segmentsOf ps).head?, ∀ t, s ≠ .literal t := by
  cases ps with
  | nil => intro s hs; cases hs
  | cons p ps =>
    obtain ⟨name, hname⟩ := Option.ne_none_iff_exists'.mp (h p rfl)
    rw [segmentsOf_named hname]
    intro s hs t
    cases hs
    simp

/-- **A longest row of parts without a name** is one literal. -/
theorem segmentsOf_row (hne : row ≠ []) (hspelled : ∀ p ∈ row, p.spelling ≠ [])
    (hrow : ∀ p ∈ row, p.name? = none) (hnext : ∀ p ∈ ps.head?, p.name? ≠ none) :
    segmentsOf (row ++ ps) =
      .literal (String.ofList (row.flatMap Piece.spelling)) :: segmentsOf ps := by
  induction row with
  | nil => exact absurd rfl hne
  | cons q row ih =>
    rw [List.cons_append, segmentsOf_unnamed (hrow q List.mem_cons_self), List.flatMap_cons]
    by_cases hr : row = []
    · subst hr
      rw [List.nil_append, List.flatMap_nil, List.append_nil]
      exact consLiteral_of_head (hspelled q List.mem_cons_self) (head?_segmentsOf hnext)
    · rw [ih hr (fun p hp => hspelled p (List.mem_cons_of_mem _ hp))
        fun p hp => hrow p (List.mem_cons_of_mem _ hp)]
      exact consLiteral_literal _ _

/-- A part without a name lengthens the row that it stands in front of. -/
theorem Merged.consLiteral (h : Merged ps segments) (hp : p.name? = none)
    (hspelled : p.spelling ≠ []) : Merged (p :: ps) (consLiteral p.spelling segments) := by
  have alone : ∀ {qs : List Piece} {ss : List Segment}, (∀ q ∈ qs.head?, q.name? ≠ none) →
      Merged qs ss → Merged (p :: qs) (.literal (String.ofList p.spelling) :: ss) := by
    intro qs ss hq hm
    have hsingle := Merged.row (List.cons_ne_nil p []) (by simpa using hp) hq hm
    rwa [List.flatMap_singleton] at hsingle
  cases h with
  | nil =>
    rw [consLiteral_of_head hspelled (fun s hs => by cases hs)]
    exact alone (fun q hq => by cases hq) .nil
  | named hname h =>
    rw [consLiteral_of_head hspelled (fun s hs t => by cases hs; simp)]
    refine alone (fun q hq => ?_) (.named hname h)
    cases hq
    simp [hname]
  | row ne_nil unnamed longest h =>
    rw [consLiteral_literal, ← List.flatMap_cons]
    refine .row (List.cons_ne_nil _ _) (fun q hq => ?_) longest h
    rcases List.mem_cons.mp hq with rfl | hq
    · exact hp
    · exact unnamed q hq

theorem merged_segmentsOf (h : ∀ p ∈ ps, p.spelling ≠ []) : Merged ps (segmentsOf ps) := by
  induction ps with
  | nil => exact .nil
  | cons p ps ih =>
    have hrest := ih fun q hq => h q (List.mem_cons_of_mem _ hq)
    cases hname : p.name? with
    | none =>
      rw [segmentsOf_unnamed hname]
      exact hrest.consLiteral hname (h p List.mem_cons_self)
    | some name =>
      rw [segmentsOf_named hname]
      exact .named hname hrest

/-- **The segments of some parts**, none of which is empty, and only they. -/
theorem merged_iff (h : ∀ p ∈ ps, p.spelling ≠ []) :
    Merged ps segments ↔ segments = segmentsOf ps := by
  refine ⟨fun hm => ?_, fun hs => hs ▸ merged_segmentsOf h⟩
  induction hm with
  | nil => rfl
  | named hname hm ih =>
    rw [segmentsOf_named hname, ih fun q hq => h q (List.mem_cons_of_mem _ hq)]
  | row ne_nil unnamed longest hm ih =>
    rw [segmentsOf_row ne_nil (fun q hq => h q (List.mem_append_left _ hq)) unnamed longest,
      ih fun q hq => h q (List.mem_append_right _ hq)]

/-- A literal is not empty. -/
theorem Merged.literal_ne_empty (hm : Merged ps segments) (h : ∀ p ∈ ps, p.spelling ≠ [])
    {t : String} (ht : .literal t ∈ segments) : t ≠ "" := by
  induction hm with
  | nil => cases ht
  | named hname hm ih =>
    rcases List.mem_cons.mp ht with ht | ht
    · cases ht
    · exact ih (fun q hq => h q (List.mem_cons_of_mem _ hq)) ht
  | @row row _ _ ne_nil unnamed longest hm ih =>
    rcases List.mem_cons.mp ht with ht | ht
    · cases ht
      obtain ⟨q, row, rfl⟩ := List.exists_cons_of_ne_nil ne_nil
      have hq := h q (List.mem_append_left _ List.mem_cons_self)
      intro he
      rw [String.ofList_eq_empty_iff, List.flatMap_cons, List.append_eq_nil_iff] at he
      exact hq he.1
    · exact ih (fun q hq => h q (List.mem_append_right _ hq)) ht

/-- No two literals stand side by side. -/
theorem Merged.literal_apart (hm : Merged ps segments) (t u : String) :
    ¬ [.literal t, .literal u] <:+: segments := by
  induction hm with
  | nil => intro h; simpa using h.length_le
  | named hname hm ih =>
    intro h
    rcases List.infix_cons_iff.mp h with hpre | hin
    · cases (List.cons_prefix_cons.mp hpre).1
    · exact ih hin
  | row ne_nil unnamed longest hm ih =>
    intro h
    rcases List.infix_cons_iff.mp h with hpre | hin
    · -- what follows the row has a name, and so a segment for it
      obtain ⟨-, hpre⟩ := List.cons_prefix_cons.mp hpre
      cases hm with
      | nil => simpa using hpre.length_le
      | named hname hm => cases (List.cons_prefix_cons.mp hpre).1
      | @row row _ _ hne hrow _ _ =>
        obtain ⟨q, row, rfl⟩ := List.exists_cons_of_ne_nil hne
        exact longest q rfl (hrow q List.mem_cons_self)
    · exact ih hin

theorem spelledAs_of_name? {name : List Char} (h : p.name? = some name) :
    SpelledAs (.variable (String.ofList name)) p.spelling := by
  cases p with
  | bare cs =>
    cases h
    have hbare := SpelledAs.bare (String.ofList name)
    rwa [String.toList_ofList] at hbare
  | braced cs =>
    rw [Piece.name?] at h
    split at h
    · cases h
      have hbraced := SpelledAs.braced (String.ofList name)
      rwa [String.toList_ofList] at hbraced
    · cases h
  | run cs => cases h
  | dollar => cases h
  | unclosed cs => cases h

/-- **Each segment stands for a stretch of the text**, spelled in one of its forms, and together
they are the text. -/
theorem Merged.forms (hm : Merged ps segments) :
    ∃ forms, List.Forall₂ SpelledAs segments forms ∧
      forms.flatten = ps.flatMap Piece.spelling := by
  induction hm with
  | nil => exact ⟨[], .nil, rfl⟩
  | @named p _ _ _ hname hm ih =>
    obtain ⟨forms, hforms, htext⟩ := ih
    refine ⟨p.spelling :: forms, .cons (spelledAs_of_name? hname) hforms, ?_⟩
    rw [List.flatten_cons, htext, List.flatMap_cons]
  | @row row _ _ ne_nil unnamed longest hm ih =>
    obtain ⟨forms, hforms, htext⟩ := ih
    have hliteral := SpelledAs.literal (String.ofList (row.flatMap Piece.spelling))
    rw [String.toList_ofList] at hliteral
    refine ⟨row.flatMap Piece.spelling :: forms, .cons hliteral hforms, ?_⟩
    rw [List.flatten_cons, htext, List.flatMap_append]

end Segments

/-! ## Scans -/

theorem parse_eq_ok_iff {s : String} {t : Template} :
    parse s = .ok t ↔ t = (scan s).1 ∧ (scan s).2 = none := by
  unfold parse
  rcases scan s with ⟨t', _ | e⟩
  · simp [eq_comm]
  · simp

/-- **Nothing is reported** exactly when no part is left open. -/
theorem scan_snd_eq_none_iff {s : String} :
    (scan s).2 = none ↔ ∀ rest, .unclosed rest ∉ pieces s.toList := by
  have hps := pieces_decompose s.toList
  rw [scan, Option.map_eq_none_iff, Option.eq_none_iff_forall_ne_some]
  constructor
  · intro hnone rest hmem
    obtain ⟨front, post, hsplit⟩ := List.append_of_mem hmem
    have hlast := hps
    rw [hsplit] at hlast
    rw [hlast.eq_nil_of_unclosed] at hsplit
    exact hnone _ ((hps.unclosedAt?_eq_some_iff 0 _).mpr ⟨front, rest, hsplit, rfl⟩)
  · intro hnone o ho
    obtain ⟨front, rest, hsplit, -⟩ := (hps.unclosedAt?_eq_some_iff 0 o).mp ho
    exact hnone rest (hsplit ▸ by simp)

/-- **What is reported** is the byte at which the last part starts, if it is left open. -/
theorem scan_snd_eq_some_iff {s : String} {e : UnclosedBrace} :
    (scan s).2 = some e ↔ ∃ front rest, pieces s.toList = front ++ [.unclosed rest] ∧
      e.offset = (Text.Utf8.encode (String.ofList (front.flatMap Piece.spelling))).length := by
  have hat := (pieces_decompose s.toList).unclosedAt?_eq_some_iff 0 e.offset
  simp only [Nat.zero_add, Text.Utf8.size_eq] at hat
  rw [← hat, scan, Option.map_eq_some_iff]
  exact ⟨fun ⟨o, ho, he⟩ => he ▸ ho, fun ho => ⟨e.offset, ho, rfl⟩⟩

/-- **What a scan makes of a text.** A text has exactly one decomposition into parts. The segments
are one for each name and one for each longest row of parts without a name, so no literal is empty
and no two stand side by side. What is reported is the byte at which the part starts that nothing
closes, if there is one; a template is refused just then. Each segment spelled in its form, the text
comes back. -/
theorem scan_decomposes (s : String) :
    ∃ ps, Decomposition ps s.toList ∧ (∀ qs, Decomposition qs s.toList → qs = ps) ∧
      (∀ segments, Merged ps segments ↔ segments = (scan s).1.segments) ∧
      (∀ t, .literal t ∈ (scan s).1.segments → t ≠ "") ∧
      (∀ t u, ¬ [.literal t, .literal u] <:+: (scan s).1.segments) ∧
      (∀ e, (scan s).2 = some e ↔ ∃ front rest, ps = front ++ [.unclosed rest] ∧
        e.offset =
          (Text.Utf8.encode (String.ofList (front.flatMap Piece.spelling))).length) ∧
      (∀ t, parse s = .ok t ↔ t = (scan s).1 ∧ ∀ rest, .unclosed rest ∉ ps) ∧
      ∃ forms, List.Forall₂ SpelledAs (scan s).1.segments forms ∧ forms.flatten = s.toList := by
  have hps := pieces_decompose s.toList
  have hspelled := hps.spelling_ne_nil
  have hmerged : Merged (pieces s.toList) (scan s).1.segments := merged_segmentsOf hspelled
  refine ⟨pieces s.toList, hps, fun qs hqs => (pieces_eq_iff.mpr hqs).symm,
    fun segments => merged_iff hspelled, fun t ht => hmerged.literal_ne_empty hspelled ht,
    hmerged.literal_apart, fun e => scan_snd_eq_some_iff, fun t => ?_, ?_⟩
  · rw [parse_eq_ok_iff, scan_snd_eq_none_iff]
  · obtain ⟨forms, hforms, htext⟩ := hmerged.forms
    exact ⟨forms, hforms, htext.trans hps.spelling_eq⟩

end Template

end Reconcile
