import Reconcile.Proofs.Cli.Agreement
import Reconcile.Proofs.Json.Lines
import Reconcile.Proofs.Run.Addresses

/-!
# What a report for programs tells of a run

A report is a single line, and what is read from it is the run that it is about, whatever its names,
messages and addresses hold.

* `ActionError.Of`, `Turn.Holds.error_of` — the error of a turn bears the name of its action.
* `Tells` — an entry that tells of an error; `errorJson_tells` — those of a report do.
* `RunReport.Told` — a document that tells of a run; `RunReport.json_told`.
* `RunReport.PrintedBy` — an outcome with such a document on a line of its own;
  `RunReport.outcome_prints`.
* `report_tells_all` — so every report is read back, and that of a run is about its turns.
-/

namespace Reconcile

/-! ## Errors of turns -/

/-- A transport whose answers have statuses that fit 64 bits. -/
def Transport.Fits {σ : Type} (t : Transport σ) : Prop :=
  ∀ q state r, (t q state).1.result? = some (.ok r) → r.status < 1 <<< 64

/-- An error that bears the name of an action, and whose status, if it has one, fits 64 bits. -/
structure ActionError.Of (name : String) (e : ActionError) : Prop where
  action : e.action = name
  status : ∀ d, e.diagnostic? = some d → d.status < 1 <<< 64

section Turns

variable {σ : Type} {s : Setup σ}

/-- A record of a failed exchange keeps the name of its action. -/
theorem Diagnostic.outcome_of {d d' : Diagnostic} {a : Option (Except HttpError Response)}
    (hs : ∀ r, a = some (.ok r) → r.status < 1 <<< 64) (h : d.outcome a = .error d') :
    (ActionError.http d').Of d.name := by
  have hlost : transportStatus < 1 <<< 64 := by decide
  match a with
  | none =>
    cases h
    exact ⟨rfl, by rintro _ ⟨⟩; exact hlost⟩
  | some (.error e) =>
    cases h
    exact ⟨rfl, by rintro _ ⟨⟩; exact hlost⟩
  | some (.ok r) =>
    rw [outcome] at h
    cases hd : d.classify r.status r.body with
    | none => rw [hd] at h; cases h
    | some d'' =>
      rw [hd] at h
      cases h
      unfold classify at hd
      split at hd
      · cases hd
      · cases hd
        exact ⟨rfl, by rintro _ ⟨⟩; exact hs r rfl⟩

/-- **A request fails with an error of its action.** -/
theorem Performed.error_of {p : Prepared} {verb : Verb} {id : Option String} {body : List UInt8}
    {w w' : World σ} {out : Except ClockOverflow (Except ActionError (List UInt8))}
    (h : Performed s p verb id body w out w') (hs : Transport.Fits s.transport) {e : ActionError}
    (he : out = .ok (.error e)) : e.Of p.name := by
  cases h with
  | malformed lines hu =>
    cases he
    exact ⟨rfl, by rintro _ ⟨⟩⟩
  | overrun lines hu hd => cases he
  | unsent lines hu hd hw =>
    cases he
    exact Diagnostic.outcome_of (d := p.record verb _) (a := none) (by rintro _ ⟨⟩) rfl
  | @exchanged url r names w₁ lines hu hd hw =>
    have hout := Except.ok.inj he
    cases hx : (p.record verb url).outcome (w₁.reply s r).result? with
    | ok body => rw [hx] at hout; cases hout
    | error d =>
      rw [hx] at hout
      cases hout
      exact Diagnostic.outcome_of (fun r' => hs _ _ r') hx

/-- **The error of a turn is one of its action.** -/
theorem Turn.Holds.error_of {t : Turn σ} (h : t.Holds s) (hs : Transport.Fits s.transport)
    {e : ActionError} (he : t.error? = some e) : e.Of t.action.name := by
  obtain ⟨rounds, henactment⟩ := runAction_enacted s t.action t.before
  have hout : ((runAction s t.action).run t.before).1 = .ok (.error e) := by
    rw [h.ran, Turn.error?_eq_some_iff.mp he]
  exact henactment.sound (fun cause => ⟨rfl, by rintro _ ⟨⟩⟩)
    (fun hperformed _ herror => hperformed.error_of hs herror) e hout

end Turns

namespace Cli

/-! ## Entries of errors -/

/-- An entry that tells of an error: that of a failed exchange has its record, any other only the
wording of the error. -/
inductive Tells : ActionError → Json → Prop
  | http {d : Diagnostic} {status : Integer} (h : status.value = d.status) :
      Tells (.http d) (.object [("action", .string d.name), ("hostPathMethod", .string d.target),
        ("isRetryAble", .bool d.proceedFallback), ("message", .string d.message),
        ("status", .number (.integer status))])
  | other {e : ActionError} (h : e.diagnostic? = none) :
      Tells e (.object [("action", .string e.action), ("message", .string e.text)])

theorem errorJson_of_diagnostic?_eq_none {e : ActionError} (h : e.diagnostic? = none) :
    errorJson e = .object [("action", .string e.action), ("message", .string e.text)] := by
  cases e with
  | http d => cases h
  | extract action cause => rfl
  | invalidUrl action url cause => rfl

/-- **The entry of an error tells of it.** -/
theorem errorJson_tells {e : ActionError} (h : ∀ d, e.diagnostic? = some d → d.status < 1 <<< 64) :
    (errorJson e).isWhole = true ∧ (errorJson e).depth = 1 ∧ Tells e (errorJson e).arranged := by
  cases he : e.diagnostic? with
  | none =>
    rw [errorJson_of_diagnostic?_eq_none he]
    exact ⟨rfl, rfl, .other he⟩
  | some d =>
    obtain rfl : e = .http d := by
      cases e <;> cases he
      rfl
    rw [errorJson, Json.ofNat, dif_pos (h d rfl)]
    -- the entries are read in ascending order of their names
    exact ⟨rfl, rfl, .http rfl⟩

/-! ## Reports -/

namespace RunReport

/-- A report whose numbers fit 64 bits. -/
structure Fits (r : RunReport) : Prop where
  actions : r.actions < 1 <<< 64
  status : ∀ e ∈ r.errors, ∀ d, e.diagnostic? = some d → d.status < 1 <<< 64

/-- A document that tells of a run: whether it went well, how many actions it had and, if some
failed, of each error in order. -/
inductive Told (r : RunReport) : Bool → Json → Prop
  | success {count : Integer} (hc : count.value = r.actions) (he : r.errors = []) :
      Told r true (.object [("actions", .number (.integer count)), ("success", .bool true)])
  | failure {count : Integer} {told : List Json} (hc : count.value = r.actions) (he : r.errors ≠ [])
      (ht : List.Forall₂ Tells r.errors told) :
      Told r false (.object [("actions", .number (.integer count)), ("errors", .array told),
        ("success", .bool false)])

/-- An outcome with a document that tells of a run, on a line of its own. -/
structure PrintedBy (r : RunReport) (out : Outcome) (doc : String) (success : Bool) (v : Json) :
    Prop where
  stdout : out.stdout = doc ++ "\n"
  stderr : out.stderr = ""
  line : Json.OneLine doc.toList
  read : Json.ofText? doc = some v
  told : r.Told success v
  exit : success = true ↔ out.exit.number = 0

variable {r : RunReport}

theorem json_of_errors_eq_nil (h : r.Fits) (he : r.errors = []) :
    r.json = .object [("success", .bool true),
      ("actions", .number (.integer (.ofNat r.actions h.actions)))] := by
  rw [json, isSuccess, he, Json.ofNat, dif_pos h.actions]
  rfl

theorem json_of_errors_ne_nil (h : r.Fits) (he : r.errors ≠ []) :
    r.json = .object [("success", .bool false),
      ("actions", .number (.integer (.ofNat r.actions h.actions))),
      ("errors", .array (r.errors.map errorJson))] := by
  have hfailed : r.isSuccess = false := by simpa [isSuccess] using he
  rw [json, hfailed, Json.ofNat, dif_pos h.actions]
  rfl

/-- **The document of a report tells of the run.** -/
theorem json_told (h : r.Fits) :
    r.json.isWhole = true ∧ r.json.depth < Json.depthLimit ∧
      r.Told r.isSuccess r.json.arranged := by
  by_cases he : r.errors = []
  · have hsuccess : r.isSuccess = true := by rw [isSuccess, he]; rfl
    rw [json_of_errors_eq_nil h he, hsuccess]
    refine ⟨rfl, ?_, .success rfl he⟩
    show 1 < Json.depthLimit
    decide
  · have hfailed : r.isSuccess = false := by simpa [isSuccess] using he
    have hentries : ∀ v ∈ r.errors.map errorJson, v.isWhole = true ∧ v.depth ≤ 1 := by
      refine List.forall_mem_map.mpr fun e he => ?_
      obtain ⟨hwhole, hdepth, -⟩ := errorJson_tells (h.status e he)
      exact ⟨hwhole, hdepth.le⟩
    have hdepth : Json.itemsDepth (r.errors.map errorJson) ≤ 1 :=
      Json.itemsDepth_le fun v hv => (hentries v hv).2
    have htold : List.Forall₂ Tells r.errors (Json.itemsArranged (r.errors.map errorJson)) := by
      rw [Json.itemsArranged_eq, List.map_map, List.forall₂_map_right_iff, List.forall₂_same]
      exact fun e he => (errorJson_tells (h.status e he)).2.2
    rw [json_of_errors_ne_nil h he, hfailed]
    refine ⟨?_, ?_, .failure rfl he htold⟩
    · simpa [Json.isWhole, Json.entriesWhole] using
        Json.itemsWhole_iff.mpr fun v hv => (hentries v hv).1
    · simp only [Json.depth, Json.entriesDepth, Json.depthLimit]
      omega

/-- **A report for programs prints its document on a line of its own.** -/
theorem outcome_prints (h : r.Fits) : ∃ doc success v,
    r.PrintedBy (r.outcome { format := .json }) doc success v := by
  obtain ⟨hwhole, hdepth, htold⟩ := json_told h
  refine ⟨r.json.compact, r.isSuccess, r.json.arranged, rfl, rfl, Json.compact_oneLine hwhole,
    Json.ofText?_compact_arranged hwhole hdepth, htold, ?_⟩
  show r.isSuccess = true ↔ r.exit.number = 0
  unfold exit
  cases r.isSuccess <;> simp [ExitCode.number]

end RunReport

/-! ## Runs -/

section Runs

variable {σ : Type}

/-- **A report for programs tells all of a run on one line.** That line is read as an object, which
says whether the command exits with 0, how many actions there were and, if some failed, of each error
in order: its action and, of a failed exchange, its status, its target, whether it may be tried again
and its message; of any other error its action and its wording. The report of a valid recipe is about
as many actions as the recipe has, and about the errors of their turns, each of which bears the name
of its action. Only a token that overruns the clock keeps it from that: then there is no report. -/
theorem report_tells_all (s : Surroundings σ) (limits : Limits) (path : String) :
    (∀ r : RunReport, r.Fits → ∃ doc success v,
      r.PrintedBy (r.outcome { format := .json }) doc success v) ∧
    ∀ {c : Content} {n : Notation} {r : Recipe}, c.Holds n r → r.seed.size < 1 <<< 64 →
      Transport.Fits s.transport →
      (∃ turns w', Turns (s.setup limits r) s.world turns w' ∧
        turns.map Turn.action = r.schedule ∧
        (∀ t ∈ turns, ∀ e, t.error? = some e → e.action = t.action.name) ∧
        ∃ doc success v, RunReport.PrintedBy ⟨r.seed.size, turns.filterMap Turn.error?⟩
          (run s limits { format := .json } path c) doc success v) ∨
      ∃ p ∈ r.schedule, ∃ q, Overruns (s.setup limits r) p.action.authRef q ∧
        (run s limits { format := .json } path c).exit = .crashed ∧
        (run s limits { format := .json } path c).stdout = "" := by
  refine ⟨fun r => RunReport.outcome_prints, fun {c n r} hc hsize hs => ?_⟩
  obtain ⟨turns, w', ht, ha, hrun⟩ | ⟨p, hp, q, w', hq, -, hrun⟩ :=
    run_turns s limits { format := .json } path hc
  · have herror : ∀ t ∈ turns, ∀ e, t.error? = some e → e.Of t.action.name :=
      fun t hturn e he => (ht.holds t hturn).error_of hs he
    have hfits : RunReport.Fits ⟨r.seed.size, turns.filterMap Turn.error?⟩ := by
      refine ⟨hsize, fun e he => ?_⟩
      obtain ⟨t, hturn, he⟩ := List.mem_filterMap.mp he
      exact (herror t hturn e he).status
    obtain ⟨doc, success, v, h⟩ := RunReport.outcome_prints hfits
    refine .inl ⟨turns, w', ht, ha, fun t hturn e he => (herror t hturn e he).action,
      doc, success, v, ?_⟩
    rw [hrun]
    exact ⟨h.stdout, h.stderr, h.line, h.read, h.told, h.exit⟩
  · exact .inr ⟨p, hp, q, hq, by rw [hrun]; rfl, by rw [hrun]; rfl⟩

/-- A report with errors of all kinds, whose texts hold what is hard to print. -/
def awkwardReport : RunReport where
  actions := 4
  errors :=
    [.http { status := 502, name := "a\n\"b\"", message := "\\\t\x00\r\n", target := "GET h/é?" },
      .http { status := 404, name := "", message := "\u2028", target := "PUT h/\x7f?",
              proceedFallback := true, isFatal := false },
      .invalidUrl "ü" "\x1b[0m\n" .noScheme]

/-- The report on awkward texts, and that of a recipe whose only request is answered with a quote
and a line break. -/
theorem report_tells_all_awkward :
    let s : Surroundings Unit :=
      { transport := fun _ state =>
          (.answered false 0 (.ok { status := 500, body := Text.Utf8.encode "\"\n" }), state)
        state := () }
    awkwardReport.Fits ∧
      (∃ doc success v, awkwardReport.PrintedBy (awkwardReport.outcome { format := .json })
        doc success v) ∧
      ∃ turns w', Turns (s.setup {} openRecipe) s.world turns w' ∧
        turns.map Turn.action = openRecipe.schedule ∧
        ∃ doc success v, RunReport.PrintedBy ⟨1, turns.filterMap Turn.error?⟩
          (run s {} { format := .json } "recipe.json" (.ok openText)) doc success v := by
  intro s
  obtain ⟨hreport, hrun⟩ := report_tells_all s {} "recipe.json"
  have hawkward : awkwardReport.Fits := by
    refine ⟨by decide, ?_⟩
    simp [awkwardReport, ActionError.diagnostic?]
  refine ⟨hawkward, hreport awkwardReport hawkward, ?_⟩
  have hparse : Recipe.parse none openText = .ok (.json, openRecipe) := by decide +kernel
  have hvalid : openRecipe.violations = [] := by decide +kernel
  have hstatus : Transport.Fits s.transport := by
    intro q state r hr
    cases hr
    show 500 < 1 <<< 64
    decide
  obtain ⟨turns, w', ht, ha, -, hprinted⟩ | ⟨p, -, q, ⟨-, a, ha, -⟩, -⟩ :=
    hrun ⟨openText, rfl, hparse, hvalid⟩ (by decide) hstatus
  · exact ⟨turns, w', ht, ha, hprinted⟩
  · -- the recipe has no credentials, so no token overruns the clock
    unfold Setup.entry? at ha
    split at ha
    · cases ha
    · cases ha

end Runs

end Cli

end Reconcile
