import Mathlib.Data.List.Basic
import Mathlib.Tactic.ByContra
import Reconcile.Proofs.Cli.OutputFlags
import Reconcile.Proofs.Run.Schedule

/-!
# What `validate` and `execute` say of a file

* `Content.Unreadable`, `Content.Faulty`, `Content.Holds` — what a file comes to;
  `Content.cases` — there is nothing else.
* `check_of_unreadable` and the like — what either command makes of each.
* `run_turns`, `run_of_holds` — what comes of running a valid recipe.
* `ExitCode.Follows` — an exit code that says what a file comes to; those of both commands do.
* `Invocation.exit_plainly`, `check_quiet`, `run_quiet` — what the output flags change.
* `validate_agrees_with_execute` — the two commands agree on every file.
-/

namespace Reconcile.Cli

/-! ## Files -/

namespace Content

variable (c : Content)

/-- The file cannot be read as text. -/
def Unreadable : Prop :=
  ∃ cause, c = .error cause

/-- The text of the file is no recipe, or the recipe breaks a rule. -/
def Faulty : Prop :=
  ∃ text, c = .ok text ∧ ∀ n r, Recipe.parse none text = .ok (n, r) → r.violations ≠ []

/-- The file holds a recipe that breaks no rule. -/
def Holds (n : Notation) (r : Recipe) : Prop :=
  ∃ text, c = .ok text ∧ Recipe.parse none text = .ok (n, r) ∧ r.violations = []

theorem cases : c.Unreadable ∨ c.Faulty ∨ ∃ n r, c.Holds n r := by
  match c with
  | .error cause => exact .inl ⟨cause, rfl⟩
  | .ok text =>
    refine .inr ?_
    cases hp : Recipe.parse none text with
    | error e =>
      refine .inl ⟨text, rfl, fun n r h => ?_⟩
      rw [hp] at h
      cases h
    | ok result =>
      obtain ⟨n, r⟩ := result
      by_cases hr : r.violations = []
      · exact .inr ⟨n, r, text, rfl, hp, hr⟩
      · refine .inl ⟨text, rfl, fun n' r' h => ?_⟩
        rw [hp] at h
        cases h
        exact hr

end Content

/-! ## The commands -/

section Commands

variable {σ : Type} {s : Surroundings σ} {limits : Limits} {o : OutputOptions} {path : String}
  {c : Content}

section Reading

variable {text : String} {e : ParseError} {n : Notation} {r : Recipe}

theorem readRecipe_error (hp : Recipe.parse none text = .error e) :
    readRecipe path (.ok text) = .error (.malformed e) := by
  show (Recipe.parse none text).mapError Complaint.malformed = _
  rw [hp]
  rfl

theorem readRecipe_ok (hp : Recipe.parse none text = .ok (n, r)) :
    readRecipe path (.ok text) = .ok (n, r) := by
  show (Recipe.parse none text).mapError Complaint.malformed = _
  rw [hp]
  rfl

theorem loadRecipe_error (hp : Recipe.parse none text = .error e) :
    loadRecipe path (.ok text) = .error (.malformed e) := by
  have hl : Recipe.load none text = .error (.parse e) := by rw [Recipe.load, hp]
  simp only [loadRecipe, hl]

theorem loadRecipe_invalid (hp : Recipe.parse none text = .ok (n, r)) (hr : r.violations ≠ []) :
    loadRecipe path (.ok text) = .error (.invalid r.violations) := by
  have hinvalid : ¬ r.isValid = true := by
    rw [Recipe.isValid]
    simpa using hr
  have hl : Recipe.load none text = .error (.invalid r.violations) := by
    rw [Recipe.load, hp]
    exact if_neg hinvalid
  simp only [loadRecipe, hl]

theorem loadRecipe_ok (hp : Recipe.parse none text = .ok (n, r)) (hr : r.violations = []) :
    loadRecipe path (.ok text) = .ok (n, r) := by
  have hvalid : r.isValid = true := by rw [Recipe.isValid, hr]; rfl
  have hl : Recipe.load none text = .ok (n, r) := by
    rw [Recipe.load, hp]
    exact if_pos hvalid
  simp only [loadRecipe, hl]

end Reading

theorem CheckReport.outcome_exit (r : CheckReport) : (r.outcome o).exit = r.exit := by
  unfold CheckReport.outcome
  split
  · rfl
  · split
    · rfl
    · split <;> rfl

theorem RunReport.outcome_exit (r : RunReport) : (r.outcome o).exit = r.exit := by
  unfold RunReport.outcome
  split
  · rfl
  · split
    · rfl
    · split <;> rfl

theorem check_of_unreadable (h : c.Unreadable) : (check o path c).exit = .unreadable := by
  obtain ⟨cause, rfl⟩ := h
  rfl

theorem run_of_unreadable (h : c.Unreadable) :
    (run s limits o path c).exit = .unreadable ∧ (run s limits o path c).sent = [] := by
  obtain ⟨cause, rfl⟩ := h
  exact ⟨rfl, rfl⟩

theorem check_of_faulty (h : c.Faulty) : (check o path c).exit = .rejected := by
  obtain ⟨text, rfl, hr⟩ := h
  cases hp : Recipe.parse none text with
  | error e =>
    rw [check, readRecipe_error hp]
    rfl
  | ok result =>
    obtain ⟨n, r⟩ := result
    have hinvalid : ¬ r.violations.isEmpty = true := by simpa using hr n r hp
    rw [check, readRecipe_ok hp]
    show (CheckReport.outcome o _).exit = _
    rw [CheckReport.outcome_exit, CheckReport.exit, CheckReport.isValid, if_neg hinvalid]

theorem run_of_faulty (h : c.Faulty) :
    (run s limits o path c).exit = .rejected ∧ (run s limits o path c).sent = [] := by
  obtain ⟨text, rfl, hr⟩ := h
  cases hp : Recipe.parse none text with
  | error e =>
    rw [run, loadRecipe_error hp]
    exact ⟨rfl, rfl⟩
  | ok result =>
    obtain ⟨n, r⟩ := result
    rw [run, loadRecipe_invalid hp (hr n r hp)]
    exact ⟨rfl, rfl⟩

theorem check_of_holds {n : Notation} {r : Recipe} (h : c.Holds n r) :
    (check o path c).exit = .success := by
  obtain ⟨text, rfl, hp, hr⟩ := h
  rw [check, readRecipe_ok hp]
  show (CheckReport.outcome o _).exit = _
  rw [CheckReport.outcome_exit, CheckReport.exit, CheckReport.isValid, hr]
  rfl

/-- What stays the same while a recipe is run. -/
def Surroundings.setup (s : Surroundings σ) (limits : Limits) (r : Recipe) : Setup σ :=
  { transport := s.transport, auth := r.auth, environment := s.environment, limits }

/-- What is printed about a run. -/
def Outcome.ofRun (o : OutputOptions) (r : Recipe) :
    Except ClockOverflow (List ActionError) × World σ → Outcome
  | (.ok errors, w) =>
    { RunReport.outcome o { actions := r.seed.size, errors } with sent := w.requests }
  | (.error _, w) =>
    { exit := .crashed, stderr := line "overflow when adding duration to instant",
      sent := w.requests }

theorem run_eq_of_holds {n : Notation} {r : Recipe} (h : c.Holds n r) :
    run s limits o path c = .ofRun o r (execute (s.setup limits r) r.schedule s.world) := by
  obtain ⟨text, rfl, hp, hr⟩ := h
  rw [run, loadRecipe_ok hp hr]
  rfl

theorem Outcome.ofRun_ok_exit (r : Recipe) (errors : List ActionError) (w : World σ) :
    (ofRun o r (.ok errors, w)).exit = if errors.isEmpty then .success else .actionFailed :=
  RunReport.outcome_exit _

theorem requests_eq (w : World σ) : w.requests = w.sent.map Prod.snd := by
  rw [World.requests, World.sent, List.map_filterMap]
  refine congrArg (List.filterMap · w.events) (funext fun e => ?_)
  cases e <;> rfl

variable (s limits o path) in
/-- **A valid recipe is run turn by turn**: each of its actions takes its turn, unless the clock
stops one after a request for a token. -/
theorem run_turns {n : Notation} {r : Recipe} (h : c.Holds n r) :
    (∃ turns w', Turns (s.setup limits r) s.world turns w' ∧
        turns.map Turn.action = r.schedule ∧
        run s limits o path c = .ofRun o r (.ok (turns.filterMap Turn.error?), w')) ∨
      ∃ p ∈ r.schedule, ∃ q, ∃ w' : World σ, Overruns (s.setup limits r) p.action.authRef q ∧
        w'.requests.getLast? = some q.request ∧
        run s limits o path c = .ofRun o r (.error {}, w') := by
  rw [run_eq_of_holds h]
  rcases runAll_turns (s.setup limits r) r.schedule s.world with
    ⟨turns, w', ht, ha, hr⟩ | ⟨turns, p, rest, rounds, w₁, w', ha, ht, hh, hr⟩
  · exact .inl ⟨turns, w', ht, ha, congrArg (Outcome.ofRun o r) hr⟩
  · obtain ⟨xs, q, hxs, -, hq⟩ := hh.exchanges
    have hsent := hh.course.path.sent
    rw [hxs] at hsent
    refine .inr ⟨p, by rw [ha]; simp, q, w', hq, ?_, congrArg (Outcome.ofRun o r) hr⟩
    rw [requests_eq, hsent]
    simp

variable (s limits o path) in
/-- **What comes of running a valid recipe**: its exit code says whether an action failed. -/
theorem run_of_holds {n : Notation} {r : Recipe} (h : c.Holds n r) :
    (∃ turns w', Turns (s.setup limits r) s.world turns w' ∧
        turns.map Turn.action = r.schedule ∧
        (run s limits o path c).exit =
          if (turns.filterMap Turn.error?).isEmpty then .success else .actionFailed) ∨
      ∃ p ∈ r.schedule, ∃ q, Overruns (s.setup limits r) p.action.authRef q ∧
        (run s limits o path c).sent.getLast? = some q.request ∧
        (run s limits o path c).exit = .crashed := by
  obtain ⟨turns, w', ht, ha, hr⟩ | ⟨p, hp, q, w', hq, hlast, hr⟩ := run_turns s limits o path h
  · exact .inl ⟨turns, w', ht, ha, by rw [hr]; exact Outcome.ofRun_ok_exit ..⟩
  · exact .inr ⟨p, hp, q, hq, by rw [hr]; exact hlast, by rw [hr]; rfl⟩

/-- An exit code that says whether a file can be read, and whether it holds a valid recipe. -/
structure ExitCode.Follows (e : ExitCode) (c : Content) : Prop where
  unreadable : c.Unreadable → e = .unreadable
  faulty : c.Faulty → e = .rejected
  holds : ∀ n r, c.Holds n r → e ≠ .unreadable ∧ e ≠ .rejected

namespace ExitCode.Follows

variable {e : ExitCode}

theorem unreadable_iff (h : e.Follows c) : e = .unreadable ↔ c.Unreadable := by
  refine ⟨fun hexit => ?_, h.unreadable⟩
  rcases c.cases with hc | hc | ⟨n, r, hc⟩
  · exact hc
  · rw [h.faulty hc] at hexit
    cases hexit
  · exact absurd hexit (h.holds n r hc).1

theorem rejected_iff (h : e.Follows c) : e = .rejected ↔ c.Faulty := by
  refine ⟨fun hexit => ?_, h.faulty⟩
  rcases c.cases with hc | hc | ⟨n, r, hc⟩
  · rw [h.unreadable hc] at hexit
    cases hexit
  · exact hc
  · exact absurd hexit (h.holds n r hc).2

end ExitCode.Follows

theorem check_follows : (check o path c).exit.Follows c where
  unreadable := check_of_unreadable
  faulty := check_of_faulty
  holds n r h := by
    rw [check_of_holds h]
    simp

theorem run_follows : (run s limits o path c).exit.Follows c where
  unreadable h := (run_of_unreadable h).1
  faulty h := (run_of_faulty h).1
  holds n r h := by
    obtain ⟨turns, w', -, -, hexit⟩ | ⟨p, -, q, -, -, hexit⟩ := run_of_holds s limits o path h
    · rw [hexit]
      split <;> simp
    · rw [hexit]
      simp

end Commands

/-! ## Output flags -/

section Flags

variable {σ : Type} {s : Surroundings σ} {c : Content}

theorem Complaint.outcome_quiet {o : OutputOptions} (ho : o.quiet = true) (e : Complaint) :
    (e.outcome o).stdout = "" ∧ (e.outcome o).stderr = "" := by
  refine ⟨rfl, ?_⟩
  show e.shown o = ""
  rw [Complaint.shown, if_pos ho]

theorem check_quiet {o : OutputOptions} (ho : o.quiet = true) (path : String) :
    (check o path c).stdout = "" ∧ (check o path c).stderr = "" := by
  unfold check
  cases readRecipe path c with
  | error e => exact e.outcome_quiet ho
  | ok result =>
    show (CheckReport.outcome o _).stdout = "" ∧ (CheckReport.outcome o _).stderr = ""
    unfold CheckReport.outcome
    rw [if_pos ho]
    exact ⟨rfl, rfl⟩

theorem run_quiet {o : OutputOptions} (ho : o.quiet = true) {limits : Limits} {path : String}
    (hc : (run s limits o path c).exit ≠ .crashed) :
    (run s limits o path c).stdout = "" ∧ (run s limits o path c).stderr = "" := by
  unfold run at hc ⊢
  cases hl : loadRecipe path c with
  | error e => exact e.outcome_quiet ho
  | ok result =>
    obtain ⟨n, r⟩ := result
    rw [hl] at hc
    have hrun : ∀ out : Except ClockOverflow (List ActionError) × World σ,
        (Outcome.ofRun o r out).exit ≠ .crashed →
          (Outcome.ofRun o r out).stdout = "" ∧ (Outcome.ofRun o r out).stderr = "" := by
      rintro ⟨e | errors, w⟩ hout
      · exact absurd rfl hout
      · show (RunReport.outcome o _).stdout = "" ∧ (RunReport.outcome o _).stderr = ""
        unfold RunReport.outcome
        rw [if_pos ho]
        exact ⟨rfl, rfl⟩
    exact hrun (execute (s.setup limits r) r.schedule s.world) hc

/-- How `validate` ends does not depend on what it prints. -/
theorem check_exit (o o' : OutputOptions) (path path' : String) :
    (check o path c).exit = (check o' path' c).exit := by
  rcases c.cases with h | h | ⟨n, r, h⟩
  · rw [check_of_unreadable h, check_of_unreadable h]
  · rw [check_of_faulty h, check_of_faulty h]
  · rw [check_of_holds h, check_of_holds h]

/-- How `execute` ends does not depend on what it prints. -/
theorem run_exit (limits : Limits) (o o' : OutputOptions) (path path' : String) :
    (run s limits o path c).exit = (run s limits o' path' c).exit := by
  rcases c.cases with h | h | ⟨n, r, h⟩
  · rw [(run_of_unreadable h).1, (run_of_unreadable h).1]
  · rw [(run_of_faulty h).1, (run_of_faulty h).1]
  · rw [run_eq_of_holds h, run_eq_of_holds h]
    rcases execute (s.setup limits r) r.schedule s.world with ⟨e | errors, w⟩
    · rfl
    · rw [Outcome.ofRun_ok_exit, Outcome.ofRun_ok_exit]

theorem Invocation.exit_plainly (i : Invocation) :
    (i.plainly.outcome s c).exit = (i.outcome s c).exit := by
  obtain ⟨command, path, o⟩ := i
  cases command with
  | execute limits => exact run_exit limits {} o path path
  | validate => exact check_exit {} o path path

end Flags

/-! ## Agreement -/

section Agreement

variable {σ : Type}

/-- The number that a command exits with. -/
def Invocation.exitNumber (i : Invocation) (s : Surroundings σ) (c : Content) : Nat :=
  (i.outcome s c).exit.number

theorem ExitCode.number_inj {e e' : ExitCode} : e.number = e'.number ↔ e = e' := by
  cases e <;> cases e' <;> simp [ExitCode.number]

/-- The results of the turns of a run decide how its command ends. -/
theorem exitNumber_of_turns {turns : List (Turn σ)} {e : ExitCode}
    (h : e = if (turns.filterMap Turn.error?).isEmpty then .success else .actionFailed) :
    (e.number = 0 ↔ ∀ t ∈ turns, t.result = .ok ()) ∧
      (e.number = 3 ↔ ∃ t ∈ turns, t.result ≠ .ok ()) := by
  have hall : turns.filterMap Turn.error? = [] ↔ ∀ t ∈ turns, t.result = .ok () :=
    filterMap_error?_eq_nil_iff
  by_cases hnone : turns.filterMap Turn.error? = []
  · rw [hnone] at h
    obtain rfl : e = .success := h
    refine ⟨iff_of_true rfl (hall.mp hnone), iff_of_false (by decide) ?_⟩
    rintro ⟨t, ht, hfailed⟩
    exact hfailed (hall.mp hnone t ht)
  · rw [if_neg (by simpa using hnone)] at h
    obtain rfl : e = .actionFailed := h
    rw [hall] at hnone
    refine ⟨iff_of_false (by decide) hnone, iff_of_true rfl ?_⟩
    by_contra hno
    exact hnone fun t ht => by_contra fun hfailed => hno ⟨t, ht, hfailed⟩

/-- **`validate` and `execute` agree on every file.** Both exit with 4 if the file cannot be read as
text, and with 2 if it holds no valid recipe, and in both cases no request is sent. Otherwise
`validate` exits with 0, and `execute` with 0 if no action failed and with 3 if one did. Only a token
that overruns the clock keeps it from that: then the run ends after the request for that token. The
flags about what is printed change no exit code, and a quiet command that comes to its end prints
nothing. -/
theorem validate_agrees_with_execute (s : Surroundings σ) (c : Content) {env env' : Environment}
    {args args' : List String} {i j : Invocation} {limits : Limits}
    (hi : readCommandLine env args = .ok i) (he : i.command = .execute limits)
    (hj : readCommandLine env' args' = .ok j) (hv : j.command = .validate) :
    ((i.exitNumber s c = 4 ↔ c.Unreadable) ∧ (j.exitNumber s c = 4 ↔ c.Unreadable)) ∧
      ((i.exitNumber s c = 2 ↔ c.Faulty) ∧ (j.exitNumber s c = 2 ↔ c.Faulty)) ∧
      (c.Unreadable ∨ c.Faulty → (i.outcome s c).sent = []) ∧
      (¬ c.Unreadable → ¬ c.Faulty → ∃ n r, c.Holds n r ∧ j.exitNumber s c = 0 ∧
        ((∃ turns w', Turns (s.setup limits r) s.world turns w' ∧
            turns.map Turn.action = r.schedule ∧
            (i.exitNumber s c = 0 ↔ ∀ t ∈ turns, t.result = .ok ()) ∧
            (i.exitNumber s c = 3 ↔ ∃ t ∈ turns, t.result ≠ .ok ())) ∨
          ∃ p ∈ r.schedule, ∃ q, Overruns (s.setup limits r) p.action.authRef q ∧
            (i.outcome s c).sent.getLast? = some q.request ∧ i.exitNumber s c = 101)) ∧
      (readCommandLine env (withoutOutputFlags args) = .ok i.plainly ∧
        i.plainly.exitNumber s c = i.exitNumber s c) ∧
      (readCommandLine env' (withoutOutputFlags args') = .ok j.plainly ∧
        j.plainly.exitNumber s c = j.exitNumber s c) ∧
      (i.output.quiet = true → i.exitNumber s c ≠ 101 →
        (i.outcome s c).stdout = "" ∧ (i.outcome s c).stderr = "") ∧
      (j.output.quiet = true → (j.outcome s c).stdout = "" ∧ (j.outcome s c).stderr = "") := by
  obtain ⟨command, path, o⟩ := i
  obtain ⟨command', path', o'⟩ := j
  obtain rfl : command = .execute limits := he
  obtain rfl : command' = .validate := hv
  have hrun : (run s limits o path c).exit.Follows c := run_follows
  have hcheck : (check o' path' c).exit.Follows c := check_follows
  refine ⟨⟨?_, ?_⟩, ⟨?_, ?_⟩, ?_, ?_, ⟨readCommandLine_withoutOutputFlags hi, ?_⟩,
    ⟨readCommandLine_withoutOutputFlags hj, ?_⟩, ?_, ?_⟩
  · exact ExitCode.number_inj.trans hrun.unreadable_iff
  · exact ExitCode.number_inj.trans hcheck.unreadable_iff
  · exact ExitCode.number_inj.trans hrun.rejected_iff
  · exact ExitCode.number_inj.trans hcheck.rejected_iff
  · rintro (h | h)
    · exact (run_of_unreadable h).2
    · exact (run_of_faulty h).2
  · intro hu hf
    rcases c.cases with h | h | ⟨n, r, h⟩
    · exact absurd h hu
    · exact absurd h hf
    · refine ⟨n, r, h, ExitCode.number_inj.mpr (check_of_holds h), ?_⟩
      obtain ⟨turns, w', ht, ha, hexit⟩ | ⟨p, hp, q, hq, hlast, hexit⟩ :=
        run_of_holds s limits o path h
      · exact .inl ⟨turns, w', ht, ha, exitNumber_of_turns hexit⟩
      · exact .inr ⟨p, hp, q, hq, hlast, congrArg ExitCode.number hexit⟩
  · exact congrArg ExitCode.number (Invocation.exit_plainly _)
  · exact congrArg ExitCode.number (Invocation.exit_plainly _)
  · exact fun ho hc => run_quiet ho fun hexit => hc (congrArg ExitCode.number hexit)
  · exact fun ho => check_quiet ho path'

/-- A recipe with one action, without a credential. -/
def openText : String :=
  "\x7b\"seed\":\x7b\"a\":\x7b\"strategy\":\"PUT\",\"endpoint\":\"http://h/r\"\x7d\x7d\x7d"

/-- The recipe of that text. -/
def openRecipe : Recipe where
  seed := .ofList [("a", { strategy := .put, endpoint := "http://h/r" })]

/-- A valid recipe, run quietly and checked with a report for programs. -/
theorem validate_agrees_with_execute_quietly :
    let s : Surroundings Script := { transport := Script.transport, state := [] }
    ∃ i j, readCommandLine (fun _ => none) ["execute", "-q", "recipe.json"] = .ok i ∧
      readCommandLine (fun _ => none) ["validate", "--format", "json", "recipe.json"] = .ok j ∧
      j.exitNumber s (.ok openText) = 0 ∧
      readCommandLine (fun _ => none) ["execute", "recipe.json"] = .ok i.plainly ∧
      i.plainly.exitNumber s (.ok openText) = i.exitNumber s (.ok openText) ∧
      (i.exitNumber s (.ok openText) ≠ 101 →
        (i.outcome s (.ok openText)).stdout = "" ∧ (i.outcome s (.ok openText)).stderr = "") := by
  intro s
  have hi : readCommandLine (fun _ => none) ["execute", "-q", "recipe.json"] =
      .ok ⟨.execute { timeout := 30000, maxBytes := 4194304 }, "recipe.json",
        { quiet := true }⟩ := by decide +kernel
  have hj : readCommandLine (fun _ => none) ["validate", "--format", "json", "recipe.json"] =
      .ok ⟨.validate, "recipe.json", { format := .json }⟩ := by decide +kernel
  obtain ⟨-, -, -, hvalid, hflags, -, hquiet, -⟩ :=
    validate_agrees_with_execute s (.ok openText) hi rfl hj rfl
  have hreadable : ¬ Content.Unreadable (.ok openText) := by
    rintro ⟨cause, h⟩
    cases h
  have hsound : ¬ Content.Faulty (.ok openText) := by
    rintro ⟨text, h, hfaulty⟩
    cases h
    have hparse : Recipe.parse none openText = .ok (.json, openRecipe) := by decide +kernel
    exact hfaulty .json openRecipe hparse (by decide +kernel)
  obtain ⟨n, r, -, hnumber, -⟩ := hvalid hreadable hsound
  exact ⟨_, _, hi, hj, hnumber, hflags.1, hflags.2, hquiet rfl⟩

/-- A recipe with one action, whose credential comes from a token endpoint. -/
def guardedText : String :=
  "\x7b\"auth\":\x7b\"o\":\x7b\"type\":\"OAuthClientCredentials\",\"username\":\"i\"," ++
    "\"password\":\"s\",\"oauth\":\x7b\"serverUrl\":\"http://h/token\"\x7d\x7d\x7d," ++
    "\"seed\":\x7b\"a\":\x7b\"strategy\":\"PUT\",\"endpoint\":\"http://h/r\"," ++
    "\"authMapRef\":\"o\"\x7d\x7d\x7d"

/-- The recipe of that text. -/
def guardedRecipe : Recipe where
  auth := .ofList [("o", .clientCredentials "i" "s" { serverUrl := "http://h/token" })]
  seed := .ofList [("a", { strategy := .put, endpoint := "http://h/r", authRef := "o" })]

/-- A script whose token endpoint announces a lifetime that the clock cannot tell. -/
def endlessScript : Script :=
  [⟨"POST", "/token", [{ outcome := .response {
      status := 200
      body := Text.Utf8.encode ("\x7b\"access_token\":\"t\",\"token_type\":\"bearer\"," ++
        "\"expires_in\":18446744073709551615\x7d") } }]⟩,
    ⟨"PUT", "/r", [{ outcome := .response { status := 200 } }]⟩]

/-- **Not every run of a valid recipe exits with 0 or 3, and not every quiet one is silent**: a token
that outlives the clock ends it before the action has failed or not. -/
theorem execute_crashes :
    let s : Surroundings Script := { transport := Script.transport, state := endlessScript }
    ∃ i j, readCommandLine (fun _ => none) ["execute", "-q", "recipe.json"] = .ok i ∧
      readCommandLine (fun _ => none) ["validate", "-q", "recipe.json"] = .ok j ∧
      j.exitNumber s (.ok guardedText) = 0 ∧
      i.exitNumber s (.ok guardedText) = 101 ∧
      (i.outcome s (.ok guardedText)).stderr ≠ "" := by
  intro s
  have hi : readCommandLine (fun _ => none) ["execute", "-q", "recipe.json"] =
      .ok ⟨.execute { timeout := 30000, maxBytes := 4194304 }, "recipe.json",
        { quiet := true }⟩ := by decide +kernel
  have hj : readCommandLine (fun _ => none) ["validate", "-q", "recipe.json"] =
      .ok ⟨.validate, "recipe.json", { quiet := true }⟩ := by decide +kernel
  have hparse : Recipe.parse none guardedText = .ok (.json, guardedRecipe) := by decide +kernel
  have hvalid : guardedRecipe.violations = [] := by decide +kernel
  have hholds : Content.Holds (.ok guardedText) .json guardedRecipe :=
    ⟨guardedText, rfl, hparse, hvalid⟩
  have hschedule : guardedRecipe.schedule = guardedRecipe.actions :=
    Recipe.schedule_of_sorted _ (by decide +kernel)
  have hrun : (execute (s.setup { timeout := 30000, maxBytes := 4194304 } guardedRecipe)
      guardedRecipe.actions s.world).1 = .error {} := by decide +kernel
  -- from here on only the recipe of the text matters
  generalize (Except.ok guardedText : Content) = c at hholds ⊢
  have hcrash : ∃ sent, run s { timeout := 30000, maxBytes := 4194304 } { quiet := true }
      "recipe.json" c =
        { exit := .crashed, stderr := line "overflow when adding duration to instant", sent } := by
    rw [run_eq_of_holds hholds, hschedule]
    rcases h : execute (s.setup { timeout := 30000, maxBytes := 4194304 } guardedRecipe)
      guardedRecipe.actions s.world with ⟨out, w⟩
    rw [h] at hrun
    obtain rfl : out = .error {} := hrun
    exact ⟨w.requests, rfl⟩
  obtain ⟨sent, hcrash⟩ := hcrash
  refine ⟨_, _, hi, hj, ?_, ?_, ?_⟩
  · show (check _ _ _).exit.number = 0
    rw [check_of_holds hholds]
    rfl
  · show (run _ _ _ _ _).exit.number = 101
    rw [hcrash]
    rfl
  · show (run _ _ _ _ _).stderr ≠ ""
    rw [hcrash]
    show line "overflow when adding duration to instant" ≠ ""
    decide +kernel

end Agreement

end Reconcile.Cli
