import Mathlib.Data.List.TakeWhile
import Mathlib.Tactic.ByContra
import Reconcile.Recipe.Parsing

/-!
# Detecting the format of a recipe

A text whose format is not given is read as JSON or as YAML. Which of them goes first is decided
by its first character, but the outcome does not depend on that: no JSON recipe starts in any
other way than the test expects.

* `Json.readValue_opening` — an array or an object starts with its bracket, after blanks.
* `Recipe.looksLikeJson_of_ofJson` — so a text that is read as a JSON recipe looks like one.
* `Recipe.parse_detects` — the JSON recipe if there is one, else the YAML recipe, else the error of
  the format that the first character speaks for.
-/

namespace Reconcile

namespace Json

/-! ## What a record is read from -/

theorem wrong_ne_ok {α : Type} (expected : String) (d : Draft) (a : α) :
    wrong expected d ≠ .ok a := by
  intro h
  unfold wrong at h
  cases hd : describe d with
  | error e => simp [hd, bind, Except.bind] at h
  | ok text => simp [hd, bind, Except.bind, throw, throwThe, MonadExceptOf.throw] at h

/-- A tree that opens with a bracket. -/
def Draft.isBracketed : Draft → Bool
  | .array _ => true
  | .object _ => true
  | _ => false

/-- A record is read from an array or an object only. -/
theorem isBracketed_of_readRecord {σ : Type} {name : String}
    {fields : List (Field Place (Except ReadError) σ)} {blank record : σ} {p : Place}
    (h : readRecord name fields blank p = .ok record) : p.node.isBracketed = true := by
  unfold readRecord at h
  cases hn : p.node with
  | array items => rfl
  | object entries => rfl
  | null => rw [hn] at h; exact absurd h (wrong_ne_ok _ _ _)
  | bool b => rw [hn] at h; exact absurd h (wrong_ne_ok _ _ _)
  | number value => rw [hn] at h; exact absurd h (wrong_ne_ok _ _ _)
  | string text => rw [hn] at h; exact absurd h (wrong_ne_ok _ _ _)
  | broken at_ => rw [hn] at h; exact absurd h (wrong_ne_ok _ _ _)

/-! ## How arrays and objects start -/

/-- A character that opens an array or an object. -/
def isOpening (c : Char) : Bool :=
  c == '\x7b' || c == '['

theorem isBracketed_scalar {α : Type} {make : α → Draft}
    (hm : ∀ a, (make a).isBracketed = false) (r : Except Break (α × List Char)) :
    (scalar make r).1.isBracketed = false := by
  rcases r with b | ⟨a, rest⟩
  · rfl
  · exact hm a

/-- **An array or an object starts with its bracket**, after blanks. -/
theorem readValue_opening {fuel : Nat} {cs : List Char}
    (h : (readValue fuel cs).1.isBracketed = true) :
    ∃ c rest, skipSpace cs = c :: rest ∧ isOpening c = true := by
  cases fuel with
  | zero => simp [readValue, Draft.isBracketed] at h
  | succ fuel =>
    unfold readValue at h
    cases hs : skipSpace cs with
    | nil => simp [hs, Draft.isBracketed] at h
    | cons c rest =>
      refine ⟨c, rest, rfl, ?_⟩
      by_contra hc
      have hscalar : ∀ {α : Type} {make : α → Draft} {r : Except Break (α × List Char)},
          (∀ a, (make a).isBracketed = false) → (scalar make r).1.isBracketed ≠ true := by
        intro α make r hm
        rw [isBracketed_scalar hm r]
        decide
      rw [hs] at h
      dsimp only at h
      split at h
      · exact hscalar (fun _ => rfl) h
      · exact hscalar (fun _ => rfl) h
      · exact hscalar (fun _ => rfl) h
      · exact hscalar (fun _ => rfl) h
      · exact hscalar (fun _ => rfl) h
      · exact hc rfl
      · exact hc rfl
      · split at h
        · exact hscalar (fun _ => rfl) h
        · simp [Draft.isBracketed] at h

end Json

namespace Recipe

/-- The blanks of JSON are blanks. -/
theorem isBlank_of_isSpace {c : Char} (h : Json.isSpace c = true) : Text.isBlank c = true := by
  simp only [Json.isSpace, Bool.or_eq_true, beq_iff_eq] at h
  rcases h with ((rfl | rfl) | rfl) | rfl <;> rfl

/-- What stands first after the blanks of JSON stands first after all blanks, unless it is one. -/
theorem dropWhile_isBlank_of_skipSpace {cs rest : List Char} {c : Char}
    (h : Json.skipSpace cs = c :: rest) (hc : Text.isBlank c = false) :
    cs.dropWhile Text.isBlank = c :: rest := by
  have hsplit : cs.takeWhile Json.isSpace ++ c :: rest = cs := by
    rw [← h]
    exact List.takeWhile_append_dropWhile
  rw [← hsplit, List.dropWhile_append_of_pos, List.dropWhile_cons_of_neg (by simp [hc])]
  intro a ha
  exact isBlank_of_isSpace (List.mem_takeWhile_imp ha)

/-- **A text that is read as a JSON recipe looks like one.** -/
theorem looksLikeJson_of_ofJson {s : String} {r : Recipe} (h : ofJson s = .ok r) :
    looksLikeJson s = true := by
  have hread : ∃ r, (readRecipe (⟨Json.depthLimit, (Json.Draft.ofText s).1⟩ : Json.Place) :
      Except Json.ReadError Recipe) = .ok r := by
    cases hr : (readRecipe (⟨Json.depthLimit, (Json.Draft.ofText s).1⟩ : Json.Place) :
      Except Json.ReadError Recipe) with
    | error e => simp [ofJson, Json.decode, hr, bind, Except.bind, Except.mapError] at h
    | ok r => exact ⟨r, rfl⟩
  obtain ⟨r, hread⟩ := hread
  have hnode : (Json.Draft.ofText s).1.isBracketed = true :=
    Json.isBracketed_of_readRecord hread
  obtain ⟨c, rest, hskip, hc⟩ := Json.readValue_opening hnode
  have hblank : Text.isBlank c = false := by
    simp only [Json.isOpening, Bool.or_eq_true, beq_iff_eq] at hc
    rcases hc with rfl | rfl <;> rfl
  rw [looksLikeJson, dropWhile_isBlank_of_skipSpace hskip hblank]
  exact hc

/-! ## The reading of a text whose format is not given -/

/-- The test on a text, on its first character that is not blank. -/
theorem looksLikeJson_eq (s : String) :
    looksLikeJson s = (s.toList.dropWhile Text.isBlank).head?.any Json.isOpening := by
  unfold looksLikeJson
  cases s.toList.dropWhile Text.isBlank <;> rfl

/-- A text that is read in a given format is read in that format. -/
theorem fst_of_parse_some {n : Notation} {s : String} {x : Notation × Recipe}
    (h : parse (some n) s = .ok x) : x.1 = n := by
  cases n with
  | json =>
    cases hj : ofJson s <;>
      simp only [parse, hj, bind, Except.bind, pure, Except.pure, reduceCtorEq,
        Except.ok.injEq] at h
    rw [← h]
  | yaml =>
    cases hy : ofYaml s <;>
      simp only [parse, hy, bind, Except.bind, pure, Except.pure, reduceCtorEq,
        Except.ok.injEq] at h
    rw [← h]

/-- The error of a reading in a given format is one of that format. -/
theorem expected_of_parse_some {n : Notation} {s : String} {e : ParseError}
    (h : parse (some n) s = .error e) : e.expected = n := by
  cases n with
  | json =>
    cases hj : (Json.decode readRecipe s : Except Json.ReadError Recipe) with
    | ok r => simp [parse, ofJson, hj, bind, Except.bind, Except.mapError, pure, Except.pure] at h
    | error cause =>
      simp only [parse, ofJson, hj, bind, Except.bind, Except.mapError, Except.error.injEq] at h
      rw [← h]
      rfl
  | yaml =>
    cases hy : (Yaml.decode readRecipe s : Except Yaml.ReadError Recipe) with
    | ok r => simp [parse, ofYaml, hy, bind, Except.bind, Except.mapError, pure, Except.pure] at h
    | error cause =>
      simp only [parse, ofYaml, hy, bind, Except.bind, Except.mapError, Except.error.injEq] at h
      rw [← h]
      rfl

/-- A text that is read as JSON when asked to looks like JSON. -/
theorem looksLikeJson_of_parse {s : String} {x : Notation × Recipe}
    (h : parse (some .json) s = .ok x) : looksLikeJson s = true := by
  cases hj : ofJson s with
  | error e => simp [parse, hj, bind, Except.bind] at h
  | ok r => exact looksLikeJson_of_ofJson hj

/-- The outcome of the detection, whichever format goes first. -/
theorem detect_eq (s : String) :
    detect s =
      match parse (some .json) s, parse (some .yaml) s with
      | .ok x, _ => .ok x
      | .error _, .ok y => .ok y
      | .error e, .error e' => .error (if looksLikeJson s then e else e') := by
  unfold detect
  cases hl : looksLikeJson s with
  | true =>
    cases hj : ofJson s <;> cases hy : ofYaml s <;>
      simp [parse, hj, hy, bind, Except.bind, pure, Except.pure]
  | false =>
    cases hj : ofJson s with
    | ok r =>
      -- the case in which the order of the two readings would matter
      rw [looksLikeJson_of_ofJson hj] at hl
      cases hl
    | error e => cases hy : ofYaml s <;> simp [parse, hj, hy, bind, Except.bind, pure, Except.pure]

/-- **The format of a text is found out.** The outcome is that of the JSON reading if it succeeds,
else that of the YAML reading if that succeeds, and else the error of the JSON reading when the
first character that is not blank opens an array or an object, and of the YAML reading when not.
So a text that both formats take is never read as YAML, and no text is read as JSON that does not
open like an array or an object. -/
theorem parse_detects (s : String) :
    (parse none s =
      match parse (some .json) s, parse (some .yaml) s with
      | .ok x, _ => .ok x
      | .error _, .ok y => .ok y
      | .error e, .error e' =>
        .error (if (s.toList.dropWhile Text.isBlank).head?.any Json.isOpening then e else e')) ∧
    (∀ n x, parse (some n) s = .ok x → x.1 = n) ∧
    (∀ n e, parse (some n) s = .error e → e.expected = n) ∧
    (∀ r, parse none s = .ok (.yaml, r) → ∀ x, parse (some .json) s ≠ .ok x) ∧
    ((s.toList.dropWhile Text.isBlank).head?.any Json.isOpening = false →
      ∀ x, parse (some .json) s ≠ .ok x) := by
  have heq := detect_eq s
  rw [looksLikeJson_eq] at heq
  refine ⟨heq, fun n x hx => fst_of_parse_some hx, fun n e he => expected_of_parse_some he, ?_, ?_⟩
  · intro r hr x hx
    have hread : parse none s = .ok x := by rw [parse, heq, hx]
    rw [hr, Except.ok.injEq] at hread
    have hformat := fst_of_parse_some hx
    rw [← hread] at hformat
    cases hformat
  · intro hopen x hx
    rw [← looksLikeJson_eq, looksLikeJson_of_parse hx] at hopen
    cases hopen

end Recipe

end Reconcile
