import Reconcile.Proofs.Json.Numbers
import Reconcile.Proofs.Run.Contents
import Reconcile.Proofs.Template.Rendering

/-!
# What later actions read of an answer

An id is used as the text that an expression finds. A runtime variable keeps the value that is
found, and becomes a text when a template is filled in. Both come to the same text.

* `extractText_iff_finds`, `not_finds_of_nothing` — what is found, by its text.
* `render_placeholder` — a template that is a placeholder.
* `World.Recalls`, `Enactment.Recalls` — a variable stands for a text in a world, and in an action.
* `Course.get?_of_silent` — a variable keeps its value until a round gives it another one.
* `Enactments.recalls` — so a text that is found in an answer stays.
* `execute_recalls` — what is found in an answer is what later actions read.
-/

namespace Reconcile

variable {σ : Type}

/-! ## Texts that are found -/

theorem Json.plainText_number (n : Number) : (Json.number n).plainText = n.text := by
  rw [plainText, compact, chars, String.ofList_toList]
  · simp
  · simp

section Bodies

variable {body : List UInt8} {expr t : String} {v : Json}

/-- What is found has a text. -/
theorem Finds.plainText_ne_empty (h : Finds body expr v) : v.plainText ≠ "" := by
  rcases h.scalar with ⟨n, rfl⟩ | ⟨u, rfl, hu⟩
  · rw [Json.plainText_number]
    exact n.text_ne_empty
  · simpa [Json.plainText] using hu

/-- **A text that is not empty is extracted exactly when its value is found.** -/
theorem extractText_iff_finds :
    extractText body expr = .ok t ∧ t ≠ "" ↔ ∃ v, Finds body expr v ∧ v.plainText = t := by
  constructor
  · rintro ⟨h, ht⟩
    exact (extractText_eq_ok h).resolve_left ht
  · rintro ⟨v, hv, rfl⟩
    refine ⟨?_, hv.plainText_ne_empty⟩
    rw [extractText, extract_eq_some_iff.mpr hv]
    rfl

theorem not_finds_of_nothing
    (h : extractText body expr = .ok "" ∨ ∃ e, extractText body expr = .error e) (v : Json) :
    ¬ Finds body expr v := by
  intro hv
  obtain ⟨hok, hne⟩ := extractText_iff_finds.mpr ⟨v, hv, rfl⟩
  rcases h with h | ⟨e, h⟩
  · rw [h, Except.ok.injEq] at hok
    exact hne hok.symm
  · rw [h] at hok
    cases hok

end Bodies

/-! ## Placeholders -/

section Placeholders

variable {vars : Table Json} {env : Environment} {name template : String}

/-- A template that is a single part with a name. -/
theorem render_of_pieces {p : Piece} (hp : pieces template.toList = [p])
    (hname : p.name? = some name.toList) :
    render vars env template = ⟨valueText vars env name, none⟩ := by
  have hclosed : ∀ cs, p ≠ .unclosed cs := by
    rintro cs rfl
    cases hname
  have hnone : Template.unclosedAt? 0 [p] = none := by
    rw [Template.unclosedAt?_cons hclosed]
    rfl
  rw [render_eq, Template.scan, hp, hnone, Template.segmentsOf_named hname, Template.fill_cons,
    String.ofList_toList]
  simp [Template.fill, Template.segmentsOf, Segment.text, String.join]

theorem brace_not_mem_of_isName {cs : List Char} (h : isName cs = true) : '\x7d' ∉ cs := by
  intro hmem
  cases cs with
  | nil => cases hmem
  | cons c cs =>
    obtain ⟨hstart, hparts⟩ := isName_cons.mp h
    rcases List.mem_cons.mp hmem with rfl | hmem
    · cases hstart
    · cases hparts _ hmem

/-- **A template that is a placeholder**, with or without braces. -/
theorem render_placeholder (vars : Table Json) (env : Environment)
    (h : isIdentifier name = true) :
    render vars env ("$" ++ name) = ⟨valueText vars env name, none⟩ ∧
      render vars env ("$\x7b" ++ name ++ "\x7d") = ⟨valueText vars env name, none⟩ := by
  have hname : isName name.toList = true := h
  constructor
  · have hbare : pieces ("$" ++ name).toList = [.bare name.toList] := by
      rw [pieces_eq_iff, String.toList_append, ← List.append_nil ("$".toList ++ name.toList)]
      exact .cons ⟨hname, fun c hc => by cases hc⟩ .nil
    exact render_of_pieces hbare rfl
  · have hbraced : pieces ("$\x7b" ++ name ++ "\x7d").toList = [.braced name.toList] := by
      rw [pieces_eq_iff, String.toList_append, String.toList_append,
        ← List.append_nil ("$\x7b".toList ++ name.toList ++ "\x7d".toList)]
      exact .cons (brace_not_mem_of_isName hname) .nil
    exact render_of_pieces hbraced (by rw [Piece.name?, if_pos hname])

end Placeholders

/-! ## Worlds and actions -/

/-- A variable stands for a text: the templates that are its placeholder come out as this text for
every action and in every environment, and nothing is logged. -/
def World.Recalls (w : World σ) (name t : String) : Prop :=
  ∀ (s : Setup σ) (p : Prepared), (renderFor s p ("$" ++ name)).run w = (.ok t, w) ∧
    (renderFor s p ("$\x7b" ++ name ++ "\x7d")).run w = (.ok t, w)

theorem World.recalls_of_get? {w : World σ} {name : String} {v : Json}
    (hname : isIdentifier name = true) (h : w.store.get? name = some v) :
    w.Recalls name v.plainText := by
  intro s p
  obtain ⟨hbare, hbraced⟩ :=
    render_placeholder (mergeVariables p.action.vars w.store) s.environment hname
  have hvalue : valueText (mergeVariables p.action.vars w.store) s.environment name =
      v.plainText := by
    rw [valueText_mergeVariables, placeholderText, h]
  rw [hvalue] at hbare hbraced
  constructor
  · rw [renderFor_run, Setup.filled, hbare, Prepared.problemLines, World.logging_nil]
  · rw [renderFor_run, Setup.filled, hbraced, Prepared.problemLines, World.logging_nil]

/-- No round gives a variable a value. -/
def Silent (rounds : List (Round σ)) (name : String) : Prop :=
  ∀ r ∈ rounds, ∀ value, ¬ r.Writes name value

/-- In an action a variable stands for a text when the payloads are filled in, and then for each
request, until a round gives the variable another value. -/
structure Enactment.Recalls (e : Enactment σ) (name t : String) : Prop where
  payloads : e.before.Recalls name t
  suffixes : ∀ pre r post, e.rounds = pre ++ r :: post → Silent pre name →
    r.before.Recalls name t

section Runs

variable {s : Setup σ} {w w' : World σ} {name : String}

/-- **A variable keeps its value until a round gives it another one.** -/
theorem Course.get?_of_silent {rounds : List (Round σ)} (h : Course s w rounds w')
    (hn : Silent rounds name) : w'.store.get? name = w.store.get? name := by
  induction h with
  | done lines => rfl
  | round lines hb hr _ ih =>
    obtain ⟨hfirst, hrest⟩ := List.forall_mem_cons.mp hn
    rw [ih hrest, hr.fills.kept name hfirst, hb]
    rfl

theorem Enactment.Holds.recalls {e : Enactment σ} (he : e.Holds s) {v : Json}
    (hname : isIdentifier name = true) (hv : e.before.store.get? name = some v) :
    e.Recalls name v.plainText where
  payloads := World.recalls_of_get? hname hv
  suffixes := by
    intro pre r post hrounds hsilent
    have hcourse := he.course
    rw [hrounds] at hcourse
    apply World.recalls_of_get? hname
    rw [hcourse.split.1.get?_of_silent hsilent, hv]

/-- **A text that is found stays:** the placeholders of a variable stand for it after the answer,
and in each later action, until a round gives the variable another value. -/
theorem Enactments.recalls {actions : List Prepared} {front back : List (Enactment σ)}
    {e : Enactment σ} {pre post : List (Round σ)} {r : Round σ} {q : Response}
    {expr t : String} (hes : Enactments s actions w (front ++ e :: back) w')
    (hrounds : e.rounds = pre ++ r :: post) (hanswer : r.answer? = some (.ok q))
    (hstatus : q.status ≤ 299) (hname : isIdentifier name = true)
    (hvar : (name, expr) ∈ e.action.action.runtimeVars.entries)
    (hextract : extractText q.body expr = .ok t) (hne : t ≠ "") :
    r.after.Recalls name t ∧
      ∀ (mid tail : List (Enactment σ)) (e' : Enactment σ), back = mid ++ e' :: tail →
        Silent (post ++ mid.flatMap Enactment.rounds) name → e'.Recalls name t := by
  have he : e.Holds s := hes.holds e (by simp)
  have hfills : r.Fills := (he.course.holds r (by simp [hrounds])).fills
  obtain ⟨v, hfinds, rfl⟩ := extractText_iff_finds.mp ⟨hextract, hne⟩
  have hv : r.after.store.get? name = some v := by
    refine hfills.written name v ⟨q, expr, hanswer, hstatus, ?_, hfinds⟩
    rwa [(he.contents hrounds).1]
  refine ⟨World.recalls_of_get? hname hv, ?_⟩
  rintro mid tail e' rfl hsilent
  -- the rounds from the answer up to the later action
  have hbefore : Course s w
      ((front.flatMap Enactment.rounds ++ pre) ++ r :: (post ++ mid.flatMap Enactment.rounds))
      e'.before := by
    have hes' : Enactments s actions w ((front ++ e :: mid) ++ e' :: tail) w' := by
      rw [List.append_assoc]
      exact hes
    simpa [hrounds] using hes'.course_before
  have he' : e'.Holds s := hes.holds e' (by simp)
  apply he'.recalls hname
  rw [hbefore.split.2.get?_of_silent hsilent, hv]

end Runs

/-- **What is found in an answer is what later actions read.** In a run, take any answer with the
status of a success and any variable of its action. If the expression of the variable finds a text
in the body, as it would to find an id, the placeholders of the variable stand for this text after
the answer and in each later action, whatever else is called like the variable there, until a round
gives it another value. If it finds nothing, or cannot be evaluated, the answer leaves the variable
as it was. -/
theorem execute_recalls (s : Setup σ) (actions : List Prepared) (w : World σ) :
    ∃ es, Enactments s actions w.opened es (execute s actions w).2 ∧
      ∀ (front back : List (Enactment σ)) (e : Enactment σ) (pre post : List (Round σ))
        (r : Round σ) (q : Response) (name expr : String),
        es = front ++ e :: back → e.rounds = pre ++ r :: post →
        r.answer? = some (.ok q) → q.status ≤ 299 → isIdentifier name = true →
        (name, expr) ∈ e.action.action.runtimeVars.entries →
        (∀ t, extractText q.body expr = .ok t → t ≠ "" → r.after.Recalls name t ∧
          ∀ (mid tail : List (Enactment σ)) (e' : Enactment σ), back = mid ++ e' :: tail →
            Silent (post ++ mid.flatMap Enactment.rounds) name → e'.Recalls name t) ∧
        ((extractText q.body expr = .ok "" ∨ ∃ err, extractText q.body expr = .error err) →
          r.after.store.get? name = r.before.store.get? name) := by
  obtain ⟨es, hes⟩ := runAll_enactments s actions w.opened
  refine ⟨es, hes, ?_⟩
  intro front back e pre post r q name expr hsplit hrounds hanswer hstatus hname hvar
  subst hsplit
  constructor
  · intro t hextract hne
    exact hes.recalls hrounds hanswer hstatus hname hvar hextract hne
  · intro hnothing
    have he : e.Holds s := hes.holds e (by simp)
    have hfills : r.Fills := (he.course.holds r (by simp [hrounds])).fills
    rw [← (he.contents hrounds).1] at hvar
    apply hfills.kept
    rintro value ⟨q', expr', hanswer', -, hvar', hfinds⟩
    have hq : q' = q := by
      rw [hanswer] at hanswer'
      exact (Except.ok.inj (Option.some.inj hanswer')).symm
    -- a variable has one expression only
    have hexpr : (name, expr') = (name, expr) :=
      List.inj_on_of_nodup_map r.action.action.runtimeVars.distinct hvar' hvar rfl
    rw [hq, (Prod.mk.inj hexpr).2] at hfinds
    exact not_finds_of_nothing hnothing value hfinds

/-- A number that is found stands before a variable of the action and of the environment. -/
theorem execute_recalls_number :
    let answer : Response := { status := 201, body := Text.Utf8.encode "\x7b\"id\":7\x7d" }
    let s : Setup Unit :=
      { transport := fun _ _ => (.answered false 0 (.ok answer), ())
        environment := fun _ => some "e" }
    let first := prepare "a"
      { strategy := .post, endpoint := "http://h/a", runtimeVars := .ofList [("v", "$.id")] }
    let second := prepare "b"
      { strategy := .post, endpoint := "http://h/b", vars := .ofList [("v", .string "own")],
        payload := "$\x7bv\x7d $v $u" }
    let w : World Unit := { transport := () }
    (∃ e e' more, Enactments s [first, second] w.opened (e :: e' :: more)
      (execute s [first, second] w).2 ∧ e'.action = second ∧ e'.Recalls "v" "7") ∧
    (execute s [first, second] w).2.targets.map Request.body =
      [[], Text.Utf8.encode "7 7 e"] := by
  intro answer s first second w
  refine ⟨?_, by decide +kernel⟩
  obtain ⟨es, hes, h⟩ := execute_recalls s [first, second] w
  -- the first action comes to its end, so its only request was answered
  let w₁ := w.opened.logging [first.opening]
  have hrun : ((runAction s first).run w₁).1 = .ok (.ok ()) := by decide +kernel
  obtain ⟨e, more, rfl, hfirst, he, hout, hrest⟩ := hes.of_cons (Prod.ext hrun rfl)
  obtain ⟨lines, henacted⟩ := he.enacted
  rw [hfirst, hout] at henacted
  obtain ⟨r, q, hrounds, hr, -, hq⟩ := henacted.of_last
  obtain ⟨x, hx, -⟩ := Option.bind_eq_some_iff.mp hq
  obtain ⟨_, hanswer⟩ := hr.replied hx
  let w₂ := (((runAction s first).run w₁).2.logging [first.closing (.ok ())]).logging
    [second.opening]
  have hrun' : ((runAction s second).run w₂).1 = .ok (.ok ()) := by decide +kernel
  obtain ⟨e', more', rfl, hsecond, -⟩ := hrest.of_cons (Prod.ext hrun' rfl)
  have hvar : ("v", "$.id") ∈ e.action.action.runtimeVars.entries := by
    rw [hfirst]
    decide +kernel
  obtain ⟨hfound, -⟩ := h [] (e' :: more') e [] [] r answer "v" "$.id" rfl hrounds hanswer
    (by decide) (by decide +kernel) hvar
  obtain ⟨-, hlater⟩ := hfound "7" (by decide +kernel) (by decide)
  refine ⟨e, e', more', hes, hsecond, hlater [] more' e' rfl ?_⟩
  simp [Silent]

end Reconcile
