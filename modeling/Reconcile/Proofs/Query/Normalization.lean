import Mathlib.Data.List.DropRight
import Reconcile.Proofs.Query.Spelling
import Reconcile.Proofs.Results
import Reconcile.Query.Extraction

/-!
# Queries without the points before brackets

`normalize` drops points before brackets, so that `$.[0]` can be read, and it does not know what a
query is. It changes a query that can be read as it is in one case only: of the two points of `..[`
it drops the second.

* `unquoted` — a text without what stands between quotes; `DescendsByBracket` — a bracket stands
  right after two points there.
* `normalizeChars_eq_self`, `normalizeChars_breaks` — a query without such a bracket stays as it
  is, and one with such a bracket cannot be read any more.
* `extractWith` — what is extracted with any query in the place of the one that is read.
* `extractText_of_parse` — the text that a query finds, with `normalize` and without it.
-/

namespace Reconcile

namespace Query

/-! ## Texts outside of quotes -/

/-- A text without what stands between quotes, after an opening quote or outside of quotes. Inside
quotes a backslash takes the character after it along. -/
def unquoted : Option Char → List Char → List Char
  | _, [] => []
  | some q, '\\' :: _ :: rest => unquoted (some q) rest
  | some q, c :: rest => if c == q then c :: unquoted none rest else unquoted (some q) rest
  | none, c :: rest => c :: unquoted (if c == '\'' || c == '"' then some c else none) rest

/-- A bracket right after two points. -/
def bracketedDescent : List Char := ['.', '.', '[']

/-- A bracket stands right after two points, outside of quotes. -/
def DescendsByBracket (s : String) : Prop :=
  bracketedDescent <:+: unquoted none s.toList

instance (s : String) : Decidable (DescendsByBracket s) :=
  inferInstanceAs (Decidable (_ <:+: _))

example : DescendsByBracket "$['a']..['b']" ∧ ¬ DescendsByBracket "$..a[?@.b == '..[']" := by
  decide +kernel

section Scans

variable {q c : Char} {text cs : List Char}

attribute [local simp] unquoted in
theorem unquoted_cons (hc : c ≠ '\'' ∧ c ≠ '"') (cs : List Char) :
    unquoted none (c :: cs) = c :: unquoted none cs := by
  simp [hc]

theorem unquoted_enclosed (h : Enclosed q text) (hq : q ≠ '\\') (cs : List Char) :
    unquoted (some q) (text ++ q :: cs) = q :: unquoted none cs := by
  induction h with
  | nil =>
    rw [List.nil_append, unquoted]
    · simp
    · exact fun _ _ he => absurd he hq
  | char hc hb _ ih =>
    rw [List.cons_append, unquoted]
    · simp [hc, ih]
    · exact fun _ _ he => absurd he hb
  | escape c _ ih => rw [List.cons_append, List.cons_append, unquoted, ih]

theorem descent_plain (hc : IsPlain c) (cs : List Char) :
    bracketedDescent <:+: unquoted none (c :: cs) ↔ bracketedDescent <:+: unquoted none cs := by
  simp [unquoted_cons hc.2, bracketedDescent, List.infix_cons_iff, hc.1.symm]

theorem descent_quoted (hq : q = '\'' ∨ q = '"') (ht : Enclosed q text) (cs : List Char) :
    bracketedDescent <:+: unquoted none (q :: (text ++ q :: cs)) ↔
      bracketedDescent <:+: unquoted none cs := by
  obtain ⟨hpoint, hslash⟩ := ne_of_quote hq
  have hopen : unquoted none (q :: (text ++ q :: cs)) = q :: q :: unquoted none cs := by
    rw [unquoted, if_pos (by simpa using hq), unquoted_enclosed ht hslash]
  simp [hopen, bracketedDescent, List.infix_cons_iff, hpoint.symm]

theorem descent_point (hc : IsPlain c) (cs : List Char) :
    bracketedDescent <:+: unquoted none ('.' :: c :: cs) ↔
      bracketedDescent <:+: unquoted none cs := by
  simp [unquoted_cons, hc.2, bracketedDescent, List.infix_cons_iff, hc.1.symm]

theorem descent_points (hc : IsPlain c) (cs : List Char) :
    bracketedDescent <:+: unquoted none ('.' :: '.' :: c :: cs) ↔
      c = '[' ∨ bracketedDescent <:+: unquoted none cs := by
  simp [unquoted_cons, hc.2, bracketedDescent, List.infix_cons_iff, hc.1.symm, eq_comm]

/-! ## What becomes of a query -/

attribute [local simp] normalizeChars in
theorem normalizeChars_plain (hc : IsPlain c) (cs : List Char) :
    normalizeChars none (c :: cs) = c :: normalizeChars none cs := by
  simp [hc.1, hc.2]

theorem normalizeChars_enclosed (h : Enclosed q text) (hq : q ≠ '\\') (cs : List Char) :
    normalizeChars (some q) (text ++ q :: cs) = text ++ q :: normalizeChars none cs := by
  induction h with
  | nil =>
    rw [List.nil_append, normalizeChars]
    · simp
    · exact fun _ _ he => absurd he hq
  | char hc hb _ ih =>
    rw [List.cons_append, normalizeChars]
    · simp [hc, ih]
    · exact fun _ _ he => absurd he hb
  | escape c _ ih =>
    rw [List.cons_append, List.cons_append, normalizeChars, ih, List.cons_append,
      List.cons_append]

theorem normalizeChars_quoted (hq : q = '\'' ∨ q = '"') (ht : Enclosed q text) (cs : List Char) :
    normalizeChars none (q :: (text ++ q :: cs)) = q :: (text ++ q :: normalizeChars none cs) := by
  obtain ⟨hpoint, hslash⟩ := ne_of_quote hq
  rw [normalizeChars, if_pos (by simpa using hq), normalizeChars_enclosed ht hslash]
  exact fun _ he => absurd he hpoint

theorem normalizeChars_point (hb : c ≠ '[') (cs : List Char) :
    normalizeChars none ('.' :: c :: cs) = '.' :: normalizeChars none (c :: cs) := by
  rw [normalizeChars]
  · rfl
  · exact fun _ _ he => hb (List.cons.inj he).1

/-- A query without a bracket right after two points stays as it is. -/
theorem normalizeChars_eq_self (h : Passes cs [])
    (hd : ¬ bracketedDescent <:+: unquoted none cs) : normalizeChars none cs = cs := by
  generalize he : [] = rest at h
  induction h with
  | done cs => rw [← he]; rfl
  | plain hc _ ih =>
    rw [descent_plain hc] at hd
    rw [normalizeChars_plain hc, ih hd he]
  | quoted hq ht _ ih =>
    rw [descent_quoted hq ht] at hd
    rw [normalizeChars_quoted hq ht, ih hd he]
  | point hc hb _ ih =>
    rw [descent_point hc] at hd
    rw [normalizeChars_point hb, normalizeChars_plain hc, ih hd he]
  | points hc _ ih =>
    rw [descent_points hc, not_or] at hd
    rw [normalizeChars_point (by decide), normalizeChars_point hd.1, normalizeChars_plain hc,
      ih hd.2 he]

/-- With such a bracket, a point is left right before it that nothing can take. -/
theorem normalizeChars_breaks (h : Passes cs [])
    (hd : bracketedDescent <:+: unquoted none cs) :
    ∃ rest, Passes (normalizeChars none cs) ('.' :: '[' :: rest) := by
  generalize he : [] = rest at h
  -- up to the first such bracket nothing changes, and there the second point is gone
  induction h with
  | done cs => exact absurd (he ▸ hd) (by decide)
  | plain hc _ ih =>
    obtain ⟨rest, hrest⟩ := ih ((descent_plain hc _).mp hd) he
    exact ⟨rest, normalizeChars_plain hc _ ▸ .plain hc hrest⟩
  | quoted hq ht _ ih =>
    obtain ⟨rest, hrest⟩ := ih ((descent_quoted hq ht _).mp hd) he
    exact ⟨rest, normalizeChars_quoted hq ht _ ▸ .quoted hq ht hrest⟩
  | point hc hb _ ih =>
    obtain ⟨rest, hrest⟩ := ih ((descent_point hc _).mp hd) he
    refine ⟨rest, ?_⟩
    rw [normalizeChars_point hb, normalizeChars_plain hc]
    exact .point hc hb hrest
  | @points c cs _ hc _ ih =>
    rw [normalizeChars_point (by decide)]
    by_cases hb : c = '['
    · subst hb
      exact ⟨_, .done _⟩
    · obtain ⟨rest, hrest⟩ := ih (((descent_points hc _).mp hd).resolve_left hb) he
      refine ⟨rest, ?_⟩
      rw [normalizeChars_point hb, normalizeChars_plain hc]
      exact .points hc hrest

end Scans

/-! ## Blanks at the end -/

section Blanks

variable {blanks : List Char}

theorem isPlain_of_isBlank {c : Char} (h : Text.isBlank c = true) : IsPlain c :=
  isPlain_of (by decide) h

theorem ne_of_isBlank {c : Char} (h : Text.isBlank c = true) : c ≠ '[' ∧ c ≠ '\\' := by
  constructor
  · rintro rfl
    revert h
    decide
  · rintro rfl
    revert h
    decide

theorem normalizeChars_blanks (hb : ∀ c ∈ blanks, Text.isBlank c = true) (o : Option Char) :
    normalizeChars o blanks = blanks := by
  induction blanks generalizing o with
  | nil => cases o <;> rfl
  | cons c blanks ih =>
    have hc := hb c List.mem_cons_self
    have htail := ih fun c' hc' => hb c' (List.mem_cons_of_mem c hc')
    cases o with
    | none =>
      rw [normalizeChars_plain (isPlain_of_isBlank hc), htail]
    | some q =>
      rw [normalizeChars, htail]
      exact fun _ _ he => absurd he (ne_of_isBlank hc).2

/-- Blanks at the end stay. -/
theorem normalizeChars_append (hb : ∀ c ∈ blanks, Text.isBlank c = true) (o : Option Char)
    (cs : List Char) : normalizeChars o (cs ++ blanks) = normalizeChars o cs ++ blanks := by
  fun_induction normalizeChars o cs with
  | case1 o => exact normalizeChars_blanks hb o
  | case2 q c rest ih =>
    rw [List.cons_append, List.cons_append, normalizeChars, ih, List.cons_append, List.cons_append]
  | case3 q c rest hslash ih =>
    by_cases hc : c = '\\'
    · -- a backslash at the end would take the first blank along
      have hrest : rest = [] := by
        cases rest with
        | nil => rfl
        | cons c' rest => exact absurd rfl (hslash c' rest hc)
      subst hc hrest
      cases blanks with
      | nil => rfl
      | cons b blanks =>
        have htail := normalizeChars_blanks (fun c hc => hb c (List.mem_cons_of_mem b hc)) (some q)
        show '\\' :: b :: normalizeChars (some q) blanks = '\\' :: b :: blanks
        rw [htail]
    · rw [List.cons_append, normalizeChars, ih, List.cons_append]
      exact fun _ _ he => absurd he hc
  | case4 rest ih => rw [List.cons_append, List.cons_append, normalizeChars, ih, List.cons_append]
  | case5 c rest hpoint ih =>
    rw [List.cons_append, normalizeChars, ih, List.cons_append]
    intro more hc he
    cases rest with
    | nil =>
      obtain rfl : blanks = '[' :: more := he
      exact (ne_of_isBlank (hb _ List.mem_cons_self)).1 rfl
    | cons c' rest =>
      obtain ⟨rfl, -⟩ := List.cons.inj he
      exact hpoint rest hc rfl

/-- A text that starts with a character that is not blank is only cut at its end. -/
theorem toList_trim {s : String} {c : Char} {cs : List Char} (hs : s.toList = c :: cs)
    (hc : Text.isBlank c = false) :
    ∃ blanks, (∀ c ∈ blanks, Text.isBlank c = true) ∧
      s.toList = (Text.trim s).toList ++ blanks := by
  have htrim : (Text.trim s).toList = s.toList.rdropWhile Text.isBlank := by
    rw [Text.trim, String.toList_ofList, hs, List.dropWhile_cons_of_neg (by simp [hc])]
    rfl
  refine ⟨s.toList.rtakeWhile Text.isBlank, fun c hc => List.mem_rtakeWhile_imp hc, ?_⟩
  rw [htrim, List.rdropWhile_append_rtakeWhile]

end Blanks

/-- A query without a bracket right after two points is read as it is. -/
theorem normalize_trim {expr : String} {path : Path} (h : Path.parse expr = .ok path)
    (hd : ¬ DescendsByBracket expr) : normalize (Text.trim expr) = Text.trim expr := by
  obtain ⟨rest, hdollar, hpasses⟩ := Path.passes_of_parse h
  obtain ⟨blanks, hb, hexpr⟩ := toList_trim hdollar (by decide)
  have hself := normalizeChars_eq_self hpasses hd
  rw [hexpr, normalizeChars_append hb] at hself
  rw [normalize, List.append_cancel_right hself, String.ofList_toList]

/-- A query with a bracket right after two points cannot be read any more. -/
theorem parse_normalize_trim {expr : String} {path : Path} (h : Path.parse expr = .ok path)
    (hd : DescendsByBracket expr) :
    ∃ position, Path.parse (normalize (Text.trim expr)) = .error position := by
  obtain ⟨rest, hdollar, hpasses⟩ := Path.passes_of_parse h
  obtain ⟨blanks, hb, hexpr⟩ := toList_trim hdollar (by decide)
  obtain ⟨broken, hbroken⟩ := normalizeChars_breaks hpasses hd
  rw [hexpr, normalizeChars_append hb] at hbroken
  cases hparse : Path.parse (normalize (Text.trim expr)) with
  | error position => exact ⟨position, rfl⟩
  | ok path' =>
    obtain ⟨-, -, hread⟩ := Path.passes_of_parse hparse
    rw [normalize, String.toList_ofList] at hread
    -- with the blanks that were cut off it could be read as well, but not over the broken place
    have hblanks : Passes (blanks ++ []) [] :=
      .of_forall (fun c hc => isPlain_of_isBlank (hb c hc)) []
    rw [List.append_nil] at hblanks
    exact absurd (hbroken.remainder ((hread.append blanks).trans hblanks)) (not_passes_point broken)

end Query

/-! ## Extracted texts -/

/-- The first value that is found in a body, as `extract` finds it, with any query in the place of
the one that the expression stands for. -/
def extractWith (body : List UInt8) (expr : String) (query : Except Nat Query.Path) :
    Except ExtractError (Option Json) :=
  if expr.isEmpty || isBlankBody body then .ok none
  else
    match document? body with
    | none => .error .invalidJson
    | some document =>
      match query with
      | .error position => .error (.invalidExpression expr position)
      | .ok path =>
        match path.findIn document with
        | [] => .ok none
        | v :: _ => scalar? v

/-- The text that an expression finds in a body if it is read as it is written. -/
def extractTextAsWritten (body : List UInt8) (expr : String) : Except ExtractError String :=
  (extractWith body (Text.trim expr) (Query.Path.parse (Text.trim expr))).map fun found =>
    (found.map Json.plainText).getD ""

variable {body : List UInt8} {expr : String}

theorem extract_eq_extractWith (body : List UInt8) (expr : String) :
    extract body expr =
      extractWith body (Text.trim expr) (Query.Path.parse (Query.normalize (Text.trim expr))) := by
  cases hd : document? body with
  | none => simp [extract, extractWith, hd]
  | some document =>
    cases hq : Query.Path.parse (Query.normalize (Text.trim expr)) with
    | error position => simp [extract, extractWith, hd, hq]
    | ok path =>
      cases hf : path.findIn document with
      | nil => simp [extract, extractWith, hd, hq, hf]
      | cons v rest => simp [extract, extractWith, hd, hq, hf]

/-- A query does not matter for a body without a document. -/
theorem extractWith_of_no_document (query query' : Except Nat Query.Path)
    (hbody : isBlankBody body = true ∨ document? body = none) :
    extractWith body expr query = extractWith body expr query' := by
  unfold extractWith
  rcases hbody with hbody | hbody
  · simp [hbody]
  · simp [hbody]

theorem extractWith_error {position : Nat} (hexpr : expr.isEmpty = false)
    (hblank : isBlankBody body = false) (hdocument : (document? body).isSome = true) :
    extractWith body expr (.error position) = .error (.invalidExpression expr position) := by
  obtain ⟨document, hdocument⟩ := Option.isSome_iff_exists.mp hdocument
  simp [extractWith, hexpr, hblank, hdocument]

/-- A query is not empty. -/
theorem isEmpty_trim_of_parse {path : Query.Path} (h : Query.Path.parse expr = .ok path) :
    (Text.trim expr).isEmpty = false := by
  obtain ⟨rest, hdollar, -⟩ := Query.Path.passes_of_parse h
  obtain ⟨blanks, hb, hexpr⟩ := Query.toList_trim hdollar (by decide)
  rw [Bool.eq_false_iff]
  intro hempty
  rw [String.isEmpty_iff.mp hempty, String.toList_empty, List.nil_append] at hexpr
  -- all of it would be blank, the dollar sign included
  have hblank := hb '$' (hexpr ▸ hdollar ▸ List.mem_cons_self)
  exact absurd hblank (by decide)

/-- **What a query finds**, in every body. It is what the query finds as it is written, unless a
bracket stands right after two points in it: then it finds nothing in a body with a document, since
its second point is dropped and the rest is no query. -/
theorem extractText_of_parse {path : Query.Path} (h : Query.Path.parse expr = .ok path)
    (body : List UInt8) :
    ((Query.DescendsByBracket expr → isBlankBody body = true ∨ document? body = none) →
      extractText body expr = extractTextAsWritten body expr) ∧
    (Query.DescendsByBracket expr → isBlankBody body = false → (document? body).isSome = true →
      ∃ position,
        extractText body expr = .error (.invalidExpression (Text.trim expr) position)) := by
  constructor
  · intro hbody
    rw [extractText, extractTextAsWritten, extract_eq_extractWith]
    by_cases hd : Query.DescendsByBracket expr
    · rw [extractWith_of_no_document _ (Query.Path.parse (Text.trim expr)) (hbody hd)]
    · rw [Query.normalize_trim h hd]
  · intro hd hblank hdocument
    obtain ⟨position, hparse⟩ := Query.parse_normalize_trim h hd
    refine ⟨position, ?_⟩
    rw [extractText, extract_eq_extractWith, hparse,
      extractWith_error (isEmpty_trim_of_parse h) hblank hdocument]
    rfl

/-- Points before a bracket change nothing inside a quoted text, in a filter either, and are missed
outside of one. -/
theorem extractText_of_parse_points :
    let quoted := "$.items[?@[\"a..[b\"] == 'x.[\\'y'].id"
    let descent := "$.items..['id']"
    let body := Text.Utf8.encode
      "\x7b\"items\":[\x7b\"id\":\"1\"\x7d,\x7b\"a..[b\":\"x.['y\",\"id\":\"2\"\x7d]\x7d"
    (Query.Path.parse quoted).isOk = true ∧ ¬ Query.DescendsByBracket quoted ∧
      extractText body quoted = extractTextAsWritten body quoted ∧
      extractText body quoted = .ok "2" ∧
      (Query.Path.parse descent).isOk = true ∧ Query.DescendsByBracket descent ∧
      ∃ position,
        extractText body descent = .error (.invalidExpression (Text.trim descent) position) := by
  intro quoted descent body
  have hquoted : (Query.Path.parse quoted).isOk = true := by decide +kernel
  have hdescent : (Query.Path.parse descent).isOk = true := by decide +kernel
  have hplain : ¬ Query.DescendsByBracket quoted := by decide +kernel
  have hbracket : Query.DescendsByBracket descent := by decide +kernel
  obtain ⟨path, hpath⟩ := exists_of_isOk hquoted
  obtain ⟨path', hpath'⟩ := exists_of_isOk hdescent
  refine ⟨hquoted, hplain, (extractText_of_parse hpath body).1 fun hd => absurd hd hplain,
    by decide +kernel, hdescent, hbracket, ?_⟩
  exact (extractText_of_parse hpath' body).2 hbracket (by decide +kernel) (by decide +kernel)

/-- **A bracket after two points**: as it is written the query finds the text. -/
theorem extractText_descent :
    let body := Text.Utf8.encode "\x7b\"a\":\x7b\"id\":\"x\"\x7d\x7d"
    (Query.Path.parse "$..['id']").isOk = true ∧
      extractTextAsWritten body "$..['id']" = .ok "x" ∧
      extractText body "$..['id']" = .error (.invalidExpression "$..['id']" 1) := by
  decide +kernel

end Reconcile
