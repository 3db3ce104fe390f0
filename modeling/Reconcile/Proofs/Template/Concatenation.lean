import Reconcile.Proofs.Template.Rendering

/-!
# Templates that are put together

A template is filled in from left to right, so it can be cut where one part ends and another one
starts.

* `joinPieces` — parts followed by parts; a run before a run is one run.
* `Decomposition.append` — the parts of a text that is put together, if the second text does not
  carry on what the first one ends with.
* `Decomposition.front`, `Decomposition.back` — the parts up to some place are those of what they
  spell, and so are the others.
* `exists_of_unclosed` — what nothing closes, and what stands before it.
* `render_append` — such a text is filled in as its halves are; what is left open stays as it is.
-/

namespace Reconcile

/-! ## Parts in a row -/

/-- Parts followed by parts; a run before a run is one run. -/
def joinPieces : List Piece → List Piece → List Piece
  | [], qs => qs
  | [.run cs], .run ds :: qs => .run (cs ++ ds) :: qs
  | p :: ps, qs => p :: joinPieces ps qs

/-- A text that does not carry on what another one ends with: neither a name nor the start of a
placeholder. -/
def StartsApart (cs : List Char) : Prop :=
  ∀ c ∈ cs.head?, isNamePart c = false ∧ c ≠ '\x7b'

section Pieces

variable {p q : Piece} {ps qs : List Piece} {cs ds : List Char}

theorem isNamePart_of_isNameStart {c : Char} (h : isNameStart c = true) : isNamePart c = true := by
  unfold isNameStart at h
  unfold isNamePart
  rcases Bool.or_eq_true_iff.mp h with hletter | hscore
  · rw [hletter, Bool.true_or, Bool.true_or]
  · rw [hscore, Bool.or_true]

/-- What may follow a part that is not left open, unless the part is a run. -/
theorem Piece.Fits.of_startsApart (h : p.Fits []) (hopen : ∀ cs, p ≠ .unclosed cs)
    (hrun : ∀ cs, p ≠ .run cs) (hb : StartsApart cs) : p.Fits cs := by
  cases p with
  | run xs => exact absurd rfl (hrun xs)
  | braced xs => exact h
  | bare xs => exact ⟨h.1, fun c hc => (hb c hc).1⟩
  | dollar =>
    intro c hc
    obtain ⟨hname, hbrace⟩ := hb c hc
    refine ⟨hbrace, Bool.eq_false_iff.mpr fun hstart => ?_⟩
    rw [isNamePart_of_isNameStart hstart] at hname
    cases hname
  | unclosed xs => exact absurd rfl (hopen xs)

/-- A part that is not left open fits before a text that starts in the same way, or is empty. -/
theorem Piece.Fits.of_head? (h : p.Fits cs) (hopen : ∀ cs, p ≠ .unclosed cs)
    (hhead : ∀ c ∈ ds.head?, c ∈ cs.head?) : p.Fits ds := by
  cases p with
  | run xs => exact ⟨h.1, h.2.1, fun c hc => h.2.2 c (hhead c hc)⟩
  | braced xs => exact h
  | bare xs => exact ⟨h.1, fun c hc => h.2 c (hhead c hc)⟩
  | dollar => exact fun c hc => h c (hhead c hc)
  | unclosed xs => exact absurd rfl (hopen xs)

/-- Every part but a run starts with a dollar sign. -/
theorem Piece.head?_spelling (h : ∀ cs, q ≠ .run cs) : q.spelling.head? = some '$' := by
  cases q with
  | run cs => exact absurd rfl (h cs)
  | braced cs => rfl
  | bare cs => rfl
  | dollar => rfl
  | unclosed cs => rfl

theorem joinPieces_cons (hps : ps ≠ []) : joinPieces (p :: ps) qs = p :: joinPieces ps qs := by
  obtain ⟨p', ps, rfl⟩ := List.exists_cons_of_ne_nil hps
  rw [joinPieces]
  simp

theorem joinPieces_singleton
    (h : ∀ cs ds qs', p = .run cs → qs = .run ds :: qs' → False) :
    joinPieces [p] qs = p :: qs := by
  rw [joinPieces.eq_3 _ _ _ fun cs ds qs' hq hp _ => h cs ds qs' hp hq, joinPieces]

/-- The parts of a text whose first half is a single part. -/
theorem Decomposition.cons_append (hp : p.Fits []) (hopen : ∀ cs, p ≠ .unclosed cs)
    (hq : Decomposition qs ds) (hb : StartsApart ds) :
    Decomposition (joinPieces [p] qs) (p.spelling ++ ds) := by
  by_cases hrun : ∃ cs, p = .run cs
  · obtain ⟨cs, rfl⟩ := hrun
    obtain ⟨hne, hdollar, -⟩ := hp
    cases hq with
    | nil => exact .cons ⟨hne, hdollar, fun c hc => by cases hc⟩ .nil
    | @cons q qs rest fits hq =>
      by_cases hq' : ∃ xs, q = .run xs
      · -- the run goes on
        obtain ⟨xs, rfl⟩ := hq'
        obtain ⟨-, hdollar', hrest⟩ := fits
        have hfits : (Piece.run (cs ++ xs)).Fits rest := by
          refine ⟨List.append_ne_nil_of_left_ne_nil hne xs, ?_, hrest⟩
          rw [List.mem_append, not_or]
          exact ⟨hdollar, hdollar'⟩
        have hjoined := Decomposition.cons hfits hq
        rwa [Piece.spelling, List.append_assoc] at hjoined
      · have hq' : ∀ xs, q ≠ .run xs := fun xs he => hq' ⟨xs, he⟩
        rw [joinPieces_singleton fun _ xs _ _ he => hq' xs (List.cons.inj he).1]
        refine .cons ⟨hne, hdollar, fun c hc => ?_⟩ (.cons fits hq)
        rw [List.head?_append, Piece.head?_spelling hq'] at hc
        cases hc
        rfl
  · have hrun : ∀ cs, p ≠ .run cs := fun cs he => hrun ⟨cs, he⟩
    rw [joinPieces_singleton fun cs _ _ he _ => hrun cs he]
    exact .cons (hp.of_startsApart hopen hrun hb) hq

/-- **The parts of a text that is put together** from one without a part that is left open and one
that does not carry on what the first one ends with. -/
theorem Decomposition.append (hp : Decomposition ps cs) (hopen : ∀ xs, .unclosed xs ∉ ps)
    (hq : Decomposition qs ds) (hb : StartsApart ds) :
    Decomposition (joinPieces ps qs) (cs ++ ds) := by
  induction hp with
  | nil => exact hq
  | @cons p ps rest fits hp ih =>
    have hp' : ∀ xs, p ≠ .unclosed xs := fun xs he => hopen xs (he ▸ List.mem_cons_self)
    have hrest := ih fun xs hx => hopen xs (List.mem_cons_of_mem _ hx)
    rw [List.append_assoc]
    cases hp with
    | nil =>
      rw [List.nil_append]
      exact Decomposition.cons_append fits hp' hq hb
    | @cons q ps rest fits' hp =>
      rw [joinPieces_cons (List.cons_ne_nil _ _)]
      refine .cons (fits.of_head? hp' fun c hc => ?_) hrest
      obtain ⟨x, xs, hx⟩ := List.exists_cons_of_ne_nil fits'.spelling_ne_nil
      rw [hx] at hc ⊢
      exact hc

/-- Some parts from the left, none of which is left open, are the parts of what they spell. -/
theorem Decomposition.front {front back : List Piece} (h : Decomposition (front ++ back) cs)
    (hopen : ∀ xs, .unclosed xs ∉ front) :
    Decomposition front (front.flatMap Piece.spelling) := by
  induction front generalizing cs with
  | nil => exact .nil
  | cons p front ih =>
    cases h with
    | @cons _ _ rest fits h =>
      have h : Decomposition (front ++ back) rest := h
      have hfront := ih h fun xs hx => hopen xs (List.mem_cons_of_mem _ hx)
      have hp : ∀ xs, p ≠ .unclosed xs := fun xs he => hopen xs (he ▸ List.mem_cons_self)
      rw [List.flatMap_cons]
      refine .cons (fits.of_head? hp fun c hc => ?_) hfront
      have hrest : rest = front.flatMap Piece.spelling ++ back.flatMap Piece.spelling := by
        rw [← List.flatMap_append, h.spelling_eq]
      rw [hrest, List.head?_append, Option.mem_def.mp hc]
      rfl

/-- The others are the parts of what they spell. -/
theorem Decomposition.back {front back : List Piece} (h : Decomposition (front ++ back) cs) :
    Decomposition back (back.flatMap Piece.spelling) := by
  induction front generalizing cs with
  | nil =>
    have h : Decomposition back cs := h
    rwa [h.spelling_eq]
  | cons p front ih =>
    cases h with
    | cons fits h => exact ih h

/-! ## What they are filled in with -/

theorem text_joinPieces (vars : Table Json) (env : Environment) (ps qs : List Piece) :
    (joinPieces ps qs).flatMap (Piece.text vars env) =
      ps.flatMap (Piece.text vars env) ++ qs.flatMap (Piece.text vars env) := by
  fun_induction joinPieces ps qs with
  | case1 qs => rfl
  | case2 cs ds qs => simp [Piece.text, Piece.name?, Piece.spelling]
  | case3 p ps qs h ih => rw [List.flatMap_cons, ih, List.flatMap_cons, List.append_assoc]

theorem unclosedAt?_joinPieces (h : ∀ xs, .unclosed xs ∉ ps) (start : Nat) :
    Template.unclosedAt? start (joinPieces ps qs) =
      Template.unclosedAt? (start + Text.Utf8.size (ps.flatMap Piece.spelling)) qs := by
  fun_induction joinPieces ps qs generalizing start with
  | case1 qs => rfl
  | case2 cs ds qs =>
    rw [Template.unclosedAt?_cons (by simp), Template.unclosedAt?_cons (by simp),
      List.flatMap_singleton, Piece.spelling, Piece.spelling, Piece.spelling,
      Text.Utf8.size_append, Nat.add_assoc]
  | case3 p ps qs hrun ih =>
    have hp : ∀ xs, p ≠ .unclosed xs := fun xs he => h xs (he ▸ List.mem_cons_self)
    rw [Template.unclosedAt?_cons hp, ih fun xs hx => h xs (List.mem_cons_of_mem _ hx),
      List.flatMap_cons, Text.Utf8.size_append, Nat.add_assoc]

end Pieces

/-! ## Templates in a row -/

namespace Template

/-- Where a brace is reported moves along with where the parts start. -/
theorem unclosedAt?_add (k start : Nat) (ps : List Piece) :
    unclosedAt? (k + start) ps = (unclosedAt? start ps).map (k + ·) := by
  fun_induction unclosedAt? start ps with
  | case1 start => rfl
  | case2 start xs ps => rfl
  | case3 start p ps hp ih => rw [unclosedAt?_cons fun xs he => hp xs he, Nat.add_assoc, ih]

end Template

section Templates

variable {a b s : String}

theorem pieces_append (ha : (Template.scan a).2 = none) (hb : StartsApart b.toList) :
    pieces (a ++ b).toList = joinPieces (pieces a.toList) (pieces b.toList) := by
  rw [pieces_eq_iff, String.toList_append]
  exact (pieces_decompose _).append (Template.scan_snd_eq_none_iff.mp ha) (pieces_decompose _) hb

theorem render_text (vars : Table Json) (env : Environment) (s : String) :
    (render vars env s).text.toList = (pieces s.toList).flatMap (Piece.text vars env) := by
  rw [render_eq]
  exact Template.fill_segmentsOf _

/-- What a scan of a text reports that is put together. -/
theorem scan_append_snd (ha : (Template.scan a).2 = none) (hb : StartsApart b.toList) :
    (Template.scan (a ++ b)).2 =
      (Template.scan b).2.map fun e => ⟨(Text.Utf8.encode a).length + e.offset⟩ := by
  have hsize : Text.Utf8.size ((pieces a.toList).flatMap Piece.spelling) =
      (Text.Utf8.encode a).length := by
    rw [(pieces_decompose a.toList).spelling_eq, Text.Utf8.size_eq, String.ofList_toList]
  rw [Template.scan, pieces_append ha hb,
    unclosedAt?_joinPieces (Template.scan_snd_eq_none_iff.mp ha), hsize, Nat.add_comm,
    Template.unclosedAt?_add, Template.scan, Option.map_map, Option.map_map]
  rfl

/-- **A text that is put together** is filled in as its halves are. -/
theorem render_of_startsApart (vars : Table Json) (env : Environment)
    (ha : (Template.scan a).2 = none) (hb : StartsApart b.toList) :
    render vars env (a ++ b) =
      ⟨(render vars env a).text ++ (render vars env b).text,
        (render vars env b).problem.map fun e => ⟨(Text.Utf8.encode a).length + e.offset⟩⟩ := by
  have htext : (render vars env (a ++ b)).text =
      (render vars env a).text ++ (render vars env b).text := by
    rw [← String.toList_inj, String.toList_append, render_text, render_text, render_text,
      pieces_append ha hb, text_joinPieces]
  have hproblem : (render vars env (a ++ b)).problem =
      (render vars env b).problem.map fun e => ⟨(Text.Utf8.encode a).length + e.offset⟩ := by
    rw [render_eq, render_eq]
    exact scan_append_snd ha hb
  rw [← htext, ← hproblem]

/-- **What nothing closes** stays as it is, and what stands before it is filled in on its own. -/
theorem exists_of_unclosed {e : UnclosedBrace} (h : (Template.scan s).2 = some e) :
    ∃ front rest, s = front ++ rest ∧ (Text.Utf8.encode front).length = e.offset ∧
      (Template.scan front).2 = none ∧ StartsApart rest.toList ∧
      ∀ vars env, (render vars env rest).text = rest := by
  obtain ⟨ps, xs, hpieces, hoffset⟩ := Template.scan_snd_eq_some_iff.mp h
  have hs := pieces_decompose s.toList
  rw [hpieces] at hs
  have hopen : ∀ ys, .unclosed ys ∉ ps := by
    intro ys hy
    obtain ⟨front, back, rfl⟩ := List.append_of_mem hy
    rw [List.append_assoc, List.cons_append] at hs
    exact absurd hs.eq_nil_of_unclosed (by simp)
  have hfront := hs.front hopen
  have hrest : pieces (Piece.unclosed xs).spelling = [.unclosed xs] := by
    have hback := hs.back
    rw [List.flatMap_singleton] at hback
    exact pieces_eq_iff.mpr hback
  refine ⟨String.ofList (ps.flatMap Piece.spelling), String.ofList (Piece.unclosed xs).spelling,
    ?_, hoffset.symm, ?_, ?_, ?_⟩
  · rw [← String.ofList_append, ← String.toList_inj, String.toList_ofList, ← hs.spelling_eq,
      List.flatMap_append, List.flatMap_singleton]
  · rw [Template.scan_snd_eq_none_iff, String.toList_ofList, pieces_eq_iff.mpr hfront]
    exact hopen
  · rw [String.toList_ofList]
    intro c hc
    cases hc
    exact ⟨by decide, by decide⟩
  · intro vars env
    rw [← String.toList_inj, render_text, String.toList_ofList, hrest, List.flatMap_singleton]
    rfl

/-- **Templates are filled in from left to right.** A text that scans well, followed by one that
does not carry on what it ends with, is filled in as the two are, and reports what the second one
does, as many bytes further on as the first one takes. So what nothing closes stays as it is: the
text before it scans well and is filled in on its own. -/
theorem render_append (vars : Table Json) (env : Environment) :
    (∀ a b, (Template.scan a).2 = none → StartsApart b.toList →
      render vars env (a ++ b) =
        ⟨(render vars env a).text ++ (render vars env b).text,
          (render vars env b).problem.map fun e =>
            ⟨(Text.Utf8.encode a).length + e.offset⟩⟩) ∧
      ∀ s e, (render vars env s).problem = some e →
        ∃ front rest, s = front ++ rest ∧ (Text.Utf8.encode front).length = e.offset ∧
          (Template.scan front).2 = none ∧
          (render vars env s).text = (render vars env front).text ++ rest := by
  refine ⟨fun a b ha hb => render_of_startsApart vars env ha hb, fun s e he => ?_⟩
  rw [render_eq] at he
  obtain ⟨front, rest, rfl, hoffset, hscan, hapart, hrest⟩ := exists_of_unclosed he
  refine ⟨front, rest, rfl, hoffset, hscan, ?_⟩
  rw [render_of_startsApart vars env hscan hapart, hrest]

theorem render_append_unclosed :
    let vars : Table Json := .ofList [("x", .string "$y")]
    let env : Environment := fun name => if name = "y" then some "2" else none
    (Template.scan "é$x").2 = none ∧ StartsApart " $y $\x7bz".toList ∧
      (render vars env " $y $\x7bz").problem = some ⟨4⟩ ∧
      render vars env ("é$x" ++ " $y $\x7bz") = ⟨"é$y 2 $\x7bz", some ⟨8⟩⟩ ∧
      ∃ front rest, "é$x $y $\x7bz" = front ++ rest ∧ (Text.Utf8.encode front).length = 8 ∧
        (Template.scan front).2 = none ∧
        (render vars env "é$x $y $\x7bz").text = (render vars env front).text ++ rest := by
  intro vars env
  have hscan : (Template.scan "é$x").2 = none := by decide +kernel
  have hapart : StartsApart " $y $\x7bz".toList := by
    intro c hc
    cases hc
    exact ⟨by decide, by decide⟩
  have hproblem : (render vars env "é$x $y $\x7bz").problem = some ⟨8⟩ := by decide +kernel
  refine ⟨hscan, hapart, by decide +kernel, ?_, (render_append vars env).2 _ _ hproblem⟩
  rw [(render_append vars env).1 _ _ hscan hapart]
  decide +kernel

end Templates

end Reconcile
