import Reconcile.Proofs.Run.Course
import Reconcile.Proofs.Run.Reports

/-!
# Runtime variables

The store of a run is filled by the successes of its actions, and by nothing else.

* `Finds` — what an expression finds in a body; `extract_eq_some_iff` — it is what is extracted.
* `get?_foldl_kept_of_finds`, `get?_foldl_kept_of_misses` — the variables of an action after the
  body of a success.
* `Round.Writes` — a round gives a variable a value; `Round.Fills` — what becomes of the store in
  a round.
* `execute_fills_store` — in every execution, the store is filled like that.
-/

namespace Reconcile

variable {σ : Type}

/-! ## What expressions find -/

/-- A number, or a text that is not empty. -/
def Json.IsScalar (v : Json) : Prop :=
  (∃ n, v = .number n) ∨ ∃ t : String, v = .string t ∧ t.isEmpty = false

/-- What an expression finds in a body: the first value that its path leads to, if that is a number
or a text that is not empty. -/
structure Finds (body : List UInt8) (expr : String) (v : Json) : Prop where
  asked : (Text.trim expr).isEmpty = false
  answered : isBlankBody body = false
  first : ∃ document path rest, document? body = some document ∧
    Query.Path.parse (Query.normalize (Text.trim expr)) = .ok path ∧
    path.findIn document = v :: rest
  scalar : v.IsScalar

theorem scalar?_eq_some_iff {u v : Json} : scalar? u = .ok (some v) ↔ u = v ∧ v.IsScalar := by
  constructor
  · intro h
    cases u with
    | number n =>
      cases h
      exact ⟨rfl, .inl ⟨n, rfl⟩⟩
    | string t =>
      cases ht : t.isEmpty with
      | true => simp [scalar?, ht] at h
      | false =>
        simp only [scalar?, ht, Bool.false_eq_true, if_false, Except.ok.injEq,
          Option.some.injEq] at h
        exact ⟨h, .inr ⟨t, h.symm, ht⟩⟩
    | _ => cases h
  · rintro ⟨rfl, ⟨n, rfl⟩ | ⟨t, rfl, ht⟩⟩
    · rfl
    · simp [scalar?, ht]

/-- **What is extracted is what the expression finds.** -/
theorem extract_eq_some_iff {body : List UInt8} {expr : String} {v : Json} :
    extract body expr = .ok (some v) ↔ Finds body expr v := by
  constructor
  · intro h
    simp only [extract, Bool.or_eq_true] at h
    split at h
    · cases h
    · rename_i hb
      rw [not_or, Bool.not_eq_true, Bool.not_eq_true] at hb
      cases hd : document? body with
      | none => simp [hd] at h
      | some document =>
        cases hp : Query.Path.parse (Query.normalize (Text.trim expr)) with
        | error position => simp [hd, hp] at h
        | ok path =>
          cases hf : path.findIn document with
          | nil => simp [hd, hp, hf] at h
          | cons u rest =>
            simp only [hd, hp, hf] at h
            obtain ⟨rfl, hs⟩ := scalar?_eq_some_iff.mp h
            exact ⟨hb.1, hb.2, ⟨document, path, rest, hd, hp, hf⟩, hs⟩
  · rintro ⟨ha, hb, ⟨document, path, rest, hd, hp, hf⟩, hs⟩
    simp only [extract, ha, hb, hd, hp, hf, Bool.or_self, Bool.false_eq_true, if_false]
    exact scalar?_eq_some_iff.mpr ⟨rfl, hs⟩

/-! ## The variables of one body -/

section Bodies

variable {body : List UInt8} {store : Table Json} {v : String × String} {name : String}

theorem kept_of_finds {value : Json} (h : Finds body v.2 value) :
    kept body store v = store.insert v.1 value := by
  rw [kept, extract_eq_some_iff.mpr h]

theorem kept_of_misses (h : ∀ value, ¬ Finds body v.2 value) : kept body store v = store := by
  rw [kept]
  split
  · rename_i value hx
    exact absurd (extract_eq_some_iff.mp hx) (h value)
  · rfl

/-- One variable does not bear on another. -/
theorem get?_kept_of_ne (h : name ≠ v.1) : (kept body store v).get? name = store.get? name := by
  rw [kept]
  split
  · exact Table.get?_insert_of_ne h store _
  · rfl

/-- **A variable for which nothing is found keeps its value.** -/
theorem get?_foldl_kept_of_misses {vars : List (String × String)}
    (h : ∀ v ∈ vars, v.1 = name → ∀ value, ¬ Finds body v.2 value) :
    (vars.foldl (kept body) store).get? name = store.get? name := by
  induction vars generalizing store with
  | nil => rfl
  | cons v vars ih =>
    rw [List.foldl_cons, ih fun u hu => h u (List.mem_cons_of_mem v hu)]
    by_cases hv : v.1 = name
    · rw [kept_of_misses (h v List.mem_cons_self hv)]
    · exact get?_kept_of_ne fun e => hv e.symm

/-- **A variable takes the value that is found for it.** -/
theorem get?_foldl_kept_of_finds {vars : List (String × String)}
    (hd : (vars.map Prod.fst).Nodup) {expr : String} (hm : (name, expr) ∈ vars) {value : Json}
    (h : Finds body expr value) : (vars.foldl (kept body) store).get? name = some value := by
  induction vars generalizing store with
  | nil => cases hm
  | cons v vars ih =>
    rw [List.map_cons, List.nodup_cons] at hd
    rw [List.foldl_cons]
    rcases List.mem_cons.mp hm with hv | hm
    · -- the names are distinct, so no later variable is this one
      subst hv
      have hlater : ∀ u ∈ vars, u.1 = name → ∀ value, ¬ Finds body u.2 value :=
        fun u hu hn => absurd (List.mem_map.mpr ⟨u, hu, hn⟩) hd.1
      rw [get?_foldl_kept_of_misses hlater, kept_of_finds h, Table.get?_insert_self]
    · exact ih hd.2 hm

/-- No variable loses its value. -/
theorem get?_foldl_kept_ne_none {vars : List (String × String)} (h : store.get? name ≠ none) :
    (vars.foldl (kept body) store).get? name ≠ none := by
  induction vars generalizing store with
  | nil => exact h
  | cons v vars ih =>
    rw [List.foldl_cons]
    apply ih
    rw [kept]
    split
    · by_cases hn : name = v.1
      · rw [hn, Table.get?_insert_self]
        exact Option.some_ne_none _
      · rwa [Table.get?_insert_of_ne hn]
    · exact h

end Bodies

/-! ## Rounds -/

namespace Round

/-- A round gives a variable a value: its request is answered by a success, in whose body the
expression of the variable finds it. -/
def Writes (r : Round σ) (name : String) (value : Json) : Prop :=
  ∃ q expr, r.answer? = some (.ok q) ∧ q.status ≤ 299 ∧
    (name, expr) ∈ r.action.action.runtimeVars.entries ∧ Finds q.body expr value

/-- What becomes of the store in a round. -/
structure Fills (r : Round σ) : Prop where
  /-- Only a success changes the store. -/
  unchanged : (∀ q, r.answer? = some (.ok q) → 299 < q.status) → r.after.store = r.before.store
  written : ∀ name value, r.Writes name value → r.after.store.get? name = some value
  kept : ∀ name, (∀ value, ¬ r.Writes name value) →
    r.after.store.get? name = r.before.store.get? name
  lasting : ∀ name, r.before.store.get? name ≠ none → r.after.store.get? name ≠ none
  /-- Whatever becomes of the variables, a success is one. After its request come one line about
  the answer, and one for each variable whose expression cannot be evaluated. -/
  succeeds : ∀ q, r.answer? = some (.ok q) → q.status ≤ 299 → r.out = .ok (.ok q.body) ∧
    ∃ (w₁ : World σ) (line : LogLine), w₁.events.getLast? = r.sent.map (.sent .target ·.request) ∧
      line.level = .debug ∧ r.after = w₁.logging (line ::
        r.action.action.runtimeVars.entries.filterMap (r.action.complaint? q.body))

end Round

section Rounds

variable {s : Setup σ} {r : Round σ}

theorem Round.success_or_failure (r : Round σ) :
    (∃ q, r.answer? = some (.ok q) ∧ q.status ≤ 299) ∨
      ∀ q, r.answer? = some (.ok q) → 299 < q.status := by
  by_cases h : ∃ q, r.answer? = some (.ok q) ∧ q.status ≤ 299
  · exact .inl h
  · exact .inr fun q hq => Nat.lt_of_not_le fun hs => h ⟨q, hq, hs⟩

theorem Round.Holds.store_of_success (h : r.Holds s) {q : Response}
    (hq : r.answer? = some (.ok q)) (hs : q.status ≤ 299) :
    r.after.store = r.action.action.runtimeVars.entries.foldl (kept q.body) r.before.store := by
  have hsuccess : isSuccess q.status = true := by simpa [isSuccess] using hs
  rw [h.store, hq, Prepared.storeAfter, if_pos hsuccess]

theorem Round.Holds.store_of_failure (h : r.Holds s)
    (hq : ∀ q, r.answer? = some (.ok q) → 299 < q.status) : r.after.store = r.before.store := by
  rw [h.store]
  match ha : r.answer? with
  | none => rfl
  | some (.error e) => rfl
  | some (.ok q) =>
    have hs : ¬ isSuccess q.status = true := by simpa [isSuccess] using hq q ha
    rw [Prepared.storeAfter, if_neg hs]

/-- **What becomes of the store in a round.** -/
theorem Round.Holds.fills (h : r.Holds s) : r.Fills where
  unchanged := h.store_of_failure
  written := by
    rintro name value ⟨q, expr, hq, hs, hm, hf⟩
    rw [h.store_of_success hq hs]
    exact get?_foldl_kept_of_finds r.action.action.runtimeVars.distinct hm hf
  kept := by
    intro name hw
    rcases r.success_or_failure with ⟨q, hq, hs⟩ | hq
    · rw [h.store_of_success hq hs]
      apply get?_foldl_kept_of_misses
      rintro ⟨n, expr⟩ hm rfl value hf
      exact hw value ⟨q, expr, hq, hs, hm, hf⟩
    · rw [h.store_of_failure hq]
  lasting := by
    intro name hn
    rcases r.success_or_failure with ⟨q, hq, hs⟩ | hq
    · rw [h.store_of_success hq hs]
      exact get?_foldl_kept_ne_none hn
    · rwa [h.store_of_failure hq]
  succeeds := by
    intro q hq hs
    have hsuccess : isSuccess q.status = true := by simpa [isSuccess] using hs
    obtain ⟨x, hx, hr⟩ := Option.bind_eq_some_iff.mp hq
    obtain ⟨url, hsends⟩ := h.sent x hx
    obtain ⟨w₁, hlast, hafter⟩ := hsends.logged
    rw [hr, Prepared.answerLines, if_pos hsuccess] at hafter
    refine ⟨?_, w₁, _, ?_, rfl, hafter⟩
    · rw [hsends.out, hr, Diagnostic.outcome, Diagnostic.classify, if_pos hsuccess]
      rfl
    · rw [hlast, hx]
      rfl

/-- No variable loses its value in the course of a run. -/
theorem Course.lasting {w w' : World σ} {rounds : List (Round σ)} (h : Course s w rounds w')
    {name : String} (hn : w.store.get? name ≠ none) : w'.store.get? name ≠ none := by
  induction h with
  | done lines => exact hn
  | round lines hb hr _ ih =>
    apply ih
    apply hr.fills.lasting
    rwa [hb]

end Rounds

/-- **Only successes fill the store.** An execution is made of rounds, between which only lines are
logged; what becomes of the store in each of them is `Round.Fills`, and no variable ever loses its
value. The lines about variables that cannot be extracted make no difference to anything that
follows. -/
theorem execute_fills_store (s : Setup σ) (actions : List Prepared) (w : World σ) :
    (∃ rounds, Course s w.opened rounds (execute s actions w).2 ∧
      (execute s actions w).2.sent =
        (rounds.flatMap Round.exchanges).map (fun x => (x.purpose, x.request)) ∧
      (execute s actions w).2.store =
        rounds.foldl (fun store r => r.action.storeAfter store r.answer?) w.store ∧
      ∀ r ∈ rounds, r.action ∈ actions ∧ r.Fills) ∧
    (∀ name, w.store.get? name ≠ none → (execute s actions w).2.store.get? name ≠ none) ∧
    (∀ p b plan, Oblivious (carryOut s p b plan)) ∧ ∀ later, Oblivious (runAll s later) := by
  obtain ⟨rounds, hc, ha, hs⟩ := execute_course s actions w
  refine ⟨⟨rounds, hc, hs, hc.store, fun r hr => ⟨ha r hr, (hc.holds r hr).fills⟩⟩, ?_, ?_, ?_⟩
  · intro name hn
    exact hc.lasting hn
  · exact carryOut_oblivious s
  · exact runAll_oblivious s

end Reconcile
