import Mathlib.Data.List.Basic
import Mathlib.Data.List.TakeWhile
import Reconcile.Recipe.Validation

/-!
# What the check of a recipe reports

A recipe is checked entry by entry. The conditions on an entry are listed here with the places that
they are about, and the check reports the broken ones.

* `NamesEntry`, `IsHttpAddress`, `NonBlank`, `ScansStrictly`, `NamesVariable` — what is asked of
  texts.
* `Auth.conditions`, `Action.conditions` — the conditions on an entry; `Recipe.Sound` — all
  conditions on a recipe, by what they are about.
* `Reports` — findings that report the broken ones of some conditions, one for each and in order.
* `authEntry_reports`, `seedEntry_reports` — the findings of an entry do.
* `Recipe.check_exact` — a recipe is valid when it is sound; else its violations are those of its
  entries, which do not depend on each other, and nothing that is warned of matters.
-/

namespace Reconcile

/-! ## Texts -/

/-- A name of an entry. -/
def NamesEntry (name : String) : Prop :=
  name ≠ "" ∧ ∀ c ∈ name.toList,
    ('a' ≤ c ∧ c ≤ 'z') ∨ ('A' ≤ c ∧ c ≤ 'Z') ∨ ('0' ≤ c ∧ c ≤ '9') ∨ c = '_' ∨ c = '.' ∨ c = '-'

/-- A text that starts like an HTTP address after its blanks. -/
def IsHttpAddress (address : String) : Prop :=
  ∃ rest, Text.trim address = "http://" ++ rest ∨ Text.trim address = "https://" ++ rest

/-- A text with something else than blanks. -/
def NonBlank (s : String) : Prop := Text.trim s ≠ ""

/-- A template that is well formed. -/
def ScansStrictly (template : String) : Prop := ∃ t, Template.parse template = .ok t

/-- A name that a placeholder may have. -/
def NamesVariable (name : String) : Prop :=
  ∃ c cs, name.toList = c :: cs ∧
    (('a' ≤ c ∧ c ≤ 'z') ∨ ('A' ≤ c ∧ c ≤ 'Z') ∨ c = '_') ∧
    ∀ d ∈ cs, ('a' ≤ d ∧ d ≤ 'z') ∨ ('A' ≤ d ∧ d ≤ 'Z') ∨ ('0' ≤ d ∧ d ≤ '9') ∨ d = '_'

theorem isEntryName_iff {name : String} : isEntryName name = true ↔ NamesEntry name := by
  simp only [isEntryName, NamesEntry, isEntryNameChar, Text.isLetter, Text.isDigit,
    Bool.and_eq_true, Bool.or_eq_true, Bool.not_eq_true', List.all_eq_true, decide_eq_true_eq,
    beq_iff_eq, or_assoc, String.isEmpty_eq_false_iff, ne_eq]

theorem isIdentifier_iff {name : String} : isIdentifier name = true ↔ NamesVariable name := by
  unfold isIdentifier NamesVariable
  cases name.toList with
  | nil => simp [isName]
  | cons c cs =>
    have hcons : ∀ P : Char → List Char → Prop, (∃ d ds, c :: cs = d :: ds ∧ P d ds) ↔ P c cs := by
      intro P
      constructor
      · rintro ⟨d, ds, ⟨⟩, hp⟩
        exact hp
      · intro hp
        exact ⟨c, cs, rfl, hp⟩
    simp only [hcons, isName, isNameStart, isNamePart, Text.isLetter, Text.isDigit,
      Bool.and_eq_true, Bool.or_eq_true, List.all_eq_true, decide_eq_true_eq, beq_iff_eq, or_assoc]

theorem isBlankText_eq_false_iff {s : String} : Text.isBlankText s = false ↔ NonBlank s := by
  rw [← Bool.not_eq_true, NonBlank, not_iff_not, Text.isBlankText, List.all_eq_true, Text.trim,
    ← String.toList_inj, String.toList_ofList]
  show _ ↔ _ = []
  rw [List.reverse_eq_nil_iff, List.dropWhile_eq_nil_iff]
  constructor
  · intro h c hc
    exact h c ((List.dropWhile_suffix _).mem (List.mem_reverse.mp hc))
  · intro h c hc
    rw [← s.toList.takeWhile_append_dropWhile (p := Text.isBlank), List.mem_append] at hc
    rcases hc with hc | hc
    · exact List.mem_takeWhile_imp hc
    · exact h c (List.mem_reverse.mpr hc)

theorem isPrefixOf_iff {lead s : String} :
    lead.toList.isPrefixOf s.toList = true ↔ ∃ rest, s = lead ++ rest := by
  rw [List.isPrefixOf_iff_prefix]
  constructor
  · rintro ⟨rest, h⟩
    refine ⟨String.ofList rest, ?_⟩
    rw [← String.toList_inj, String.toList_append, String.toList_ofList, h]
  · rintro ⟨rest, rfl⟩
    exact ⟨rest.toList, by rw [String.toList_append]⟩

theorem hasHttpScheme_iff {s : String} :
    hasHttpScheme s = true ↔ ∃ rest, s = "http://" ++ rest ∨ s = "https://" ++ rest := by
  rw [hasHttpScheme, Bool.or_eq_true, isPrefixOf_iff, isPrefixOf_iff, exists_or]

/-! ## Conditions and reports -/

/-- A condition, and the place in the document that it is about. -/
structure Condition where
  place : String
  Holds : Prop

/-- Findings that report the broken ones of some conditions: one for each, at its place, and in
order. -/
inductive Reports : List Condition → List Violation → Prop
  | nil : Reports [] []
  | kept {c : Condition} {cs : List Condition} {vs : List Violation} (h : c.Holds)
      (hs : Reports cs vs) : Reports (c :: cs) vs
  | broken {c : Condition} {cs : List Condition} {v : Violation} {vs : List Violation}
      (h : ¬ c.Holds) (hv : v.path = c.place) (hs : Reports cs vs) : Reports (c :: cs) (v :: vs)

namespace Reports

variable {cs cs' : List Condition} {vs vs' : List Violation}

theorem append (h : Reports cs vs) (h' : Reports cs' vs') : Reports (cs ++ cs') (vs ++ vs') := by
  induction h with
  | nil => exact h'
  | kept hc _ ih => exact .kept hc ih
  | broken hc hv _ ih => exact .broken hc hv ih

theorem flatMap {α : Type} {conditions : α → List Condition} {findings : α → List Violation}
    (h : ∀ a, Reports (conditions a) (findings a)) (as : List α) :
    Reports (as.flatMap conditions) (as.flatMap findings) := by
  induction as with
  | nil => exact .nil
  | cons a as ih => exact (h a).append ih

/-- Only whether a condition holds matters. -/
theorem congr {place : String} {P Q : Prop} (h : Reports [⟨place, P⟩] vs) (hpq : P ↔ Q) :
    Reports [⟨place, Q⟩] vs := by
  rwa [← propext hpq]

/-- Nothing is reported exactly when all conditions hold. -/
theorem eq_nil_iff (h : Reports cs vs) : vs = [] ↔ ∀ c ∈ cs, c.Holds := by
  induction h with
  | nil => simp
  | kept hc _ ih => simp [hc, ih]
  | broken hc _ _ _ => simp [hc]

end Reports

/-! ## Conditions on one text -/

section Texts

variable {path message : String}

theorem demand_reports {holds : Bool} {P : Prop} (h : holds = true ↔ P) :
    Reports [⟨path, P⟩] (demand holds path message) := by
  cases holds with
  | true => exact .kept (h.mp rfl) .nil
  | false => exact .broken (fun hp => Bool.false_ne_true (h.mpr hp)) rfl .nil

theorem nonEmpty_reports {s : String} :
    Reports [⟨path, s ≠ ""⟩] (demand (!s.isEmpty) path message) :=
  demand_reports (by rw [Bool.not_eq_true', String.isEmpty_eq_false_iff])

theorem nonBlank_reports {s : String} :
    Reports [⟨path, NonBlank s⟩] (demand (!Text.isBlankText s) path message) :=
  demand_reports (by rw [Bool.not_eq_true', isBlankText_eq_false_iff])

theorem nameFindings_reports {name : String} :
    Reports [⟨path, NamesEntry name⟩] (nameFindings path name) :=
  demand_reports isEntryName_iff

theorem addressFindings_reports {address : String} :
    Reports [⟨path, IsHttpAddress address⟩] (addressFindings path address) := by
  unfold addressFindings
  dsimp only
  split
  · rename_i hempty
    refine .broken ?_ rfl .nil
    rintro ⟨rest, h | h⟩ <;> rw [String.isEmpty_iff.mp hempty] at h <;>
      exact absurd (congrArg String.toList h) (by simp)
  · exact demand_reports hasHttpScheme_iff

theorem templateFindings_reports {template : String} :
    Reports [⟨path, ScansStrictly template⟩] (templateFindings path template) := by
  unfold templateFindings ScansStrictly
  cases Template.parse template with
  | ok t => exact .kept ⟨t, rfl⟩ .nil
  | error e => exact .broken (fun ⟨_, h⟩ => by cases h) rfl .nil

end Texts

/-! ## Conditions on an entry -/

/-- The conditions on the fields of an authentication entry. -/
def Auth.conditions (path : String) : Auth → List Condition
  | .noAuth => []
  | .basic username _ => [⟨path ++ ".username", username ≠ ""⟩]
  | .clientCredentials clientId _ oauth =>
    [ ⟨path ++ ".username", clientId ≠ ""⟩,
      ⟨path ++ ".oauth.serverUrl", IsHttpAddress oauth.serverUrl⟩ ]
  | .ownerPassword clientId _ oauth ownerUser _ =>
    [ ⟨path ++ ".username", clientId ≠ ""⟩,
      ⟨path ++ ".oauth.resourceOwnerUser", ownerUser ≠ ""⟩,
      ⟨path ++ ".oauth.serverUrl", IsHttpAddress oauth.serverUrl⟩ ]
  | .tokenLogin login =>
    [ ⟨path ++ ".custom.authUrl", IsHttpAddress login.authUrl⟩,
      ⟨path ++ ".custom.responseKey", NonBlank login.responseKey⟩,
      ⟨path ++ ".custom.headerKey", NonBlank login.headerKey⟩ ]
  | .static header _ => [⟨path ++ ".username", NonBlank header⟩]

/-- The conditions on the fields of an action. -/
def Action.conditions (path : String) (a : Action) : List Condition :=
  [ ⟨path ++ ".endpoint", IsHttpAddress a.endpoint⟩,
    ⟨path ++ ".findByJsonPathExpr", a.strategy.needsFind = true → NonBlank a.find⟩,
    ⟨path ++ ".payloadTemplate", NonBlank a.payload → ScansStrictly a.payload⟩,
    ⟨path ++ ".patchPayloadTemplate", a.strategy = .findPatchPost →
      ∃ payload, a.patchPayload = some payload ∧ NonBlank payload ∧ ScansStrictly payload⟩ ] ++
  Verb.all.map (fun v =>
    ⟨path ++ "." ++ suffixField v, ∀ suffix, a.suffix v = some suffix → ScansStrictly suffix⟩) ++
  a.runtimeVars.entries.flatMap fun v =>
    [ ⟨path ++ ".runtimeVars." ++ v.1, NamesVariable v.1⟩,
      ⟨path ++ ".runtimeVars." ++ v.1, NonBlank v.2⟩ ]

/-- The conditions on an authentication entry with its name. -/
def authEntryConditions (name : String) (a : Auth) : List Condition :=
  ⟨"auth." ++ name, NamesEntry name⟩ :: a.conditions ("auth." ++ name)

/-- The conditions on an action with its name. -/
def seedEntryConditions (name : String) (a : Action) : List Condition :=
  ⟨"seed." ++ name, NamesEntry name⟩ :: a.conditions ("seed." ++ name)

theorem authFindings_reports (path : String) (a : Auth) :
    Reports (a.conditions path) (authFindings path a) := by
  cases a with
  | noAuth => exact .nil
  | basic username password => exact nonEmpty_reports
  | clientCredentials clientId clientSecret oauth =>
    exact nonEmpty_reports.append addressFindings_reports
  | ownerPassword clientId clientSecret oauth ownerUser ownerPass =>
    exact (nonEmpty_reports.append nonEmpty_reports).append addressFindings_reports
  | tokenLogin login =>
    exact (addressFindings_reports.append nonBlank_reports).append nonBlank_reports
  | static header value => exact nonBlank_reports

theorem findFindings_reports {path message : String} (a : Action) :
    Reports [⟨path, a.strategy.needsFind = true → NonBlank a.find⟩]
      (demand (!(a.strategy.needsFind && Text.isBlankText a.find)) path message) := by
  refine demand_reports ?_
  rw [← isBlankText_eq_false_iff]
  cases a.strategy.needsFind <;> simp

theorem payloadFindings_reports {path payload : String} :
    Reports [⟨path, NonBlank payload → ScansStrictly payload⟩]
      (if Text.isBlankText payload then [] else templateFindings path payload) := by
  rw [← isBlankText_eq_false_iff]
  cases Text.isBlankText payload with
  | true => exact .kept (fun h => by cases h) .nil
  | false => exact templateFindings_reports.congr (by simp)

theorem patchFindings_reports (path : String) (a : Action) :
    Reports [⟨path ++ ".patchPayloadTemplate", a.strategy = .findPatchPost →
      ∃ payload, a.patchPayload = some payload ∧ NonBlank payload ∧ ScansStrictly payload⟩]
      (patchFindings path a) := by
  unfold patchFindings
  split
  · rename_i hstrategy
    rw [beq_iff_eq] at hstrategy
    dsimp only
    split
    · rename_i hblank
      refine .broken (fun h => ?_) rfl .nil
      obtain ⟨payload, hp, hn, -⟩ := h hstrategy
      rw [← isBlankText_eq_false_iff] at hn
      rw [hp, Option.getD_some, hn] at hblank
      cases hblank
    · rename_i hblank
      cases hp : a.patchPayload with
      | none =>
        rw [hp] at hblank
        exact absurd rfl hblank
      | some payload =>
        rw [hp, Option.getD_some, Bool.not_eq_true, isBlankText_eq_false_iff] at hblank
        exact templateFindings_reports.congr (by simp [hstrategy, hblank])
  · rename_i hstrategy
    exact .kept (fun h => absurd (beq_iff_eq.mpr h) hstrategy) .nil

theorem suffixFindings_reports (path : String) (a : Action) (v : Verb) :
    Reports [⟨path ++ "." ++ suffixField v,
      ∀ suffix, a.suffix v = some suffix → ScansStrictly suffix⟩] (suffixFindings path a v) := by
  unfold suffixFindings
  cases a.suffix v with
  | none => exact .kept (fun _ h => by cases h) .nil
  | some suffix => exact templateFindings_reports.congr (by simp)

theorem runtimeVarFindings_reports (path name expr : String) :
    Reports [⟨path ++ ".runtimeVars." ++ name, NamesVariable name⟩,
      ⟨path ++ ".runtimeVars." ++ name, NonBlank expr⟩] (runtimeVarFindings path name expr) :=
  (demand_reports isIdentifier_iff).append nonBlank_reports

theorem actionFindings_reports (path : String) (a : Action) :
    Reports (a.conditions path) (actionFindings path a) := by
  have hsuffixes := Reports.flatMap (suffixFindings_reports path a) Verb.all
  rw [← List.map_eq_flatMap] at hsuffixes
  have hvars := Reports.flatMap (fun v => runtimeVarFindings_reports path v.1 v.2)
    a.runtimeVars.entries
  exact ((((addressFindings_reports.append (findFindings_reports a)).append
    payloadFindings_reports).append (patchFindings_reports path a)).append hsuffixes).append hvars

theorem authEntry_reports (name : String) (a : Auth) :
    Reports (authEntryConditions name a) (authEntryFindings name a) :=
  nameFindings_reports.append (authFindings_reports _ a)

theorem seedEntry_reports (name : String) (a : Action) :
    Reports (seedEntryConditions name a) (seedEntryFindings name a) :=
  nameFindings_reports.append (actionFindings_reports _ a)

/-! ## Conditions on a recipe -/

/-- What is asked of an authentication entry. -/
structure Auth.Sound (a : Auth) : Prop where
  basic : ∀ user password, a = .basic user password → user ≠ ""
  clientCredentials : ∀ clientId secret oauth, a = .clientCredentials clientId secret oauth →
    clientId ≠ "" ∧ IsHttpAddress oauth.serverUrl
  ownerPassword : ∀ clientId secret oauth user password,
    a = .ownerPassword clientId secret oauth user password →
      clientId ≠ "" ∧ user ≠ "" ∧ IsHttpAddress oauth.serverUrl
  tokenLogin : ∀ login, a = .tokenLogin login →
    IsHttpAddress login.authUrl ∧ NonBlank login.responseKey ∧ NonBlank login.headerKey
  static : ∀ header value, a = .static header value → NonBlank header

/-- What is asked of an action. -/
structure Action.Sound (a : Action) : Prop where
  endpoint : IsHttpAddress a.endpoint
  find : (∃ rest, a.strategy.name = "FIND/" ++ rest) → NonBlank a.find
  payload : NonBlank a.payload → ScansStrictly a.payload
  suffixes : ∀ verb suffix, a.suffix verb = some suffix → ScansStrictly suffix
  patch : a.strategy.name = "FIND/PATCH/POST" →
    ∃ payload, a.patchPayload = some payload ∧ NonBlank payload ∧ ScansStrictly payload
  runtimeVars : ∀ v ∈ a.runtimeVars.entries, NamesVariable v.1 ∧ NonBlank v.2

/-- What is asked of a recipe. -/
structure Recipe.Sound (r : Recipe) : Prop where
  authNames : ∀ name ∈ r.auth.names, NamesEntry name
  seedNames : ∀ name ∈ r.seed.names, NamesEntry name
  auth : ∀ e ∈ r.auth.entries, e.2.Sound
  seed : ∀ e ∈ r.seed.entries, e.2.Sound

theorem Strategy.needsFind_iff {s : Strategy} :
    s.needsFind = true ↔ ∃ rest, s.name = "FIND/" ++ rest := by
  rw [← isPrefixOf_iff]
  cases s <;> decide +kernel

theorem Auth.sound_iff {a : Auth} (path : String) :
    a.Sound ↔ ∀ c ∈ a.conditions path, c.Holds := by
  constructor
  · rintro ⟨hbasic, hclient, howner, hlogin, hstatic⟩
    cases a with
    | noAuth => simp [conditions]
    | basic username password => simpa [conditions] using hbasic _ _ rfl
    | clientCredentials clientId secret oauth => simpa [conditions] using hclient _ _ _ rfl
    | ownerPassword clientId secret oauth user password =>
      simpa [conditions] using howner _ _ _ _ _ rfl
    | tokenLogin login => simpa [conditions] using hlogin _ rfl
    | static header value => simpa [conditions] using hstatic _ _ rfl
  · intro h
    constructor
    · rintro user password rfl
      simpa [conditions] using h
    · rintro clientId secret oauth rfl
      simpa [conditions] using h
    · rintro clientId secret oauth user password rfl
      simpa [conditions] using h
    · rintro login rfl
      simpa [conditions] using h
    · rintro header value rfl
      simpa [conditions] using h

theorem Action.sound_iff {a : Action} (path : String) :
    a.Sound ↔ ∀ c ∈ a.conditions path, c.Holds := by
  have hpatch : a.strategy.name = "FIND/PATCH/POST" ↔ a.strategy = .findPatchPost :=
    ⟨fun h => Strategy.name_injective h, fun h => by rw [h]; rfl⟩
  have hsuffixes : (∀ v ∈ Verb.all, ∀ suffix, a.suffix v = some suffix → ScansStrictly suffix) ↔
      ∀ v suffix, a.suffix v = some suffix → ScansStrictly suffix :=
    ⟨fun h v => h v (by cases v <;> decide), fun h v _ => h v⟩
  simp only [conditions, List.forall_mem_append, List.forall_mem_cons, List.forall_mem_map,
    List.forall_mem_flatMap, hsuffixes, Strategy.needsFind_iff, ← hpatch, List.not_mem_nil,
    false_implies, implies_true, and_true]
  constructor
  · rintro ⟨hendpoint, hfind, hpayload, hsuffix, hpatch, hvars⟩
    exact ⟨⟨⟨hendpoint, hfind, hpayload, hpatch⟩, hsuffix⟩, hvars⟩
  · rintro ⟨⟨⟨hendpoint, hfind, hpayload, hpatch⟩, hsuffix⟩, hvars⟩
    exact ⟨hendpoint, hfind, hpayload, hsuffix, hpatch, hvars⟩

/-- **A recipe is valid exactly when it is sound.** -/
theorem Recipe.isValid_iff {r : Recipe} : r.isValid = true ↔ r.Sound := by
  have hauth : (r.auth.entries.flatMap fun e => authEntryFindings e.1 e.2) = [] ↔
      ∀ e ∈ r.auth.entries, NamesEntry e.1 ∧ e.2.Sound := by
    rw [List.flatMap_eq_nil_iff]
    refine forall₂_congr fun e _ => ?_
    rw [(authEntry_reports e.1 e.2).eq_nil_iff, authEntryConditions, List.forall_mem_cons,
      ← Auth.sound_iff]
  have hseed : (r.seed.entries.flatMap fun e => seedEntryFindings e.1 e.2) = [] ↔
      ∀ e ∈ r.seed.entries, NamesEntry e.1 ∧ e.2.Sound := by
    rw [List.flatMap_eq_nil_iff]
    refine forall₂_congr fun e _ => ?_
    rw [(seedEntry_reports e.1 e.2).eq_nil_iff, seedEntryConditions, List.forall_mem_cons,
      ← Action.sound_iff]
  rw [isValid, List.isEmpty_iff, violations, List.append_eq_nil_iff, hauth, hseed, forall₂_and,
    forall₂_and]
  constructor
  · rintro ⟨⟨hn, ha⟩, hn', hs⟩
    exact ⟨List.forall_mem_map.mpr hn, List.forall_mem_map.mpr hn', ha, hs⟩
  · rintro ⟨hn, hn', ha, hs⟩
    exact ⟨⟨List.forall_mem_map.mp hn, ha⟩, List.forall_mem_map.mp hn', hs⟩

/-! ## Entries and warnings -/

/-- One recipe has an authentication entry more than another one, at some place. -/
structure Recipe.AddsAuth (r : Recipe) (name : String) (a : Auth) (r' : Recipe) : Prop where
  auth : ∃ front back, r.auth.entries = front ++ back ∧
    r'.auth.entries = front ++ (name, a) :: back
  seed : r'.seed = r.seed

/-- One recipe has an action more than another one, at some place. -/
structure Recipe.AddsSeed (r : Recipe) (name : String) (a : Action) (r' : Recipe) : Prop where
  auth : r'.auth = r.auth
  seed : ∃ front back, r.seed.entries = front ++ back ∧
    r'.seed.entries = front ++ (name, a) :: back

theorem Recipe.AddsAuth.violations {r r' : Recipe} {name : String} {a : Auth}
    (h : r.AddsAuth name a r') : ∃ before after, r.violations = before ++ after ∧
      r'.violations = before ++ authEntryFindings name a ++ after := by
  obtain ⟨⟨front, back, hr, hr'⟩, hseed⟩ := h
  refine ⟨front.flatMap fun e => authEntryFindings e.1 e.2,
    (back.flatMap fun e => authEntryFindings e.1 e.2) ++
      r.seed.entries.flatMap fun e => seedEntryFindings e.1 e.2, ?_, ?_⟩
  · simp only [Recipe.violations, hr, List.flatMap_append, List.append_assoc]
  · simp only [Recipe.violations, hr', hseed, List.flatMap_append, List.flatMap_cons,
      List.append_assoc]

theorem Recipe.AddsSeed.violations {r r' : Recipe} {name : String} {a : Action}
    (h : r.AddsSeed name a r') : ∃ before after, r.violations = before ++ after ∧
      r'.violations = before ++ seedEntryFindings name a ++ after := by
  obtain ⟨hauth, front, back, hr, hr'⟩ := h
  refine ⟨(r.auth.entries.flatMap fun e => authEntryFindings e.1 e.2) ++
    front.flatMap fun e => seedEntryFindings e.1 e.2,
    back.flatMap fun e => seedEntryFindings e.1 e.2, ?_, ?_⟩
  · simp only [Recipe.violations, hr, List.flatMap_append, List.append_assoc]
  · simp only [Recipe.violations, hr', hauth, List.flatMap_append, List.flatMap_cons,
      List.append_assoc]

/-- An action without what is warned of: it names no entry, and its payload is not blank. -/
def Action.unwarned (a : Action) : Action :=
  { a with authRef := "", payload := if Text.isBlankText a.payload then "-" else a.payload }

/-- A recipe without what is warned of. -/
def Recipe.unwarned (r : Recipe) : Recipe :=
  { r with seed := r.seed.mapValues Action.unwarned }

theorem Recipe.warnings_unwarned (r : Recipe) : r.unwarned.warnings = [] := by
  have hpayload : ∀ a : Action, Text.isBlankText a.unwarned.payload = false := by
    intro a
    simp only [Action.unwarned]
    split
    · rfl
    · rename_i hblank
      exact Bool.eq_false_iff.mpr hblank
  rw [warnings, List.flatMap_eq_nil_iff]
  rintro ⟨name, b⟩ he
  obtain ⟨⟨name, a⟩, -, hb⟩ := List.mem_map.mp he
  cases hb
  rw [actionWarnings, hpayload]
  rfl

theorem actionFindings_unwarned (path : String) (a : Action) :
    actionFindings path a.unwarned = actionFindings path a := by
  have hpayload : (if Text.isBlankText a.unwarned.payload then []
      else templateFindings (path ++ ".payloadTemplate") a.unwarned.payload) =
      if Text.isBlankText a.payload then []
      else templateFindings (path ++ ".payloadTemplate") a.payload := by
    cases hblank : Text.isBlankText a.payload with
    | true =>
      have hdash : Template.parse "-" = .ok ⟨[.literal "-"]⟩ := by decide +kernel
      simp only [Action.unwarned, hblank, if_true, templateFindings, hdash, ite_self]
    | false => simp only [Action.unwarned, hblank, Bool.false_eq_true, if_false]
  unfold actionFindings
  rw [hpayload]
  rfl

theorem Recipe.violations_unwarned (r : Recipe) : r.unwarned.violations = r.violations := by
  have hseed : (r.unwarned.seed.entries.flatMap fun e => seedEntryFindings e.1 e.2) =
      r.seed.entries.flatMap fun e => seedEntryFindings e.1 e.2 := by
    show (r.seed.entries.map fun e => (e.1, e.2.unwarned)).flatMap _ = _
    rw [List.flatMap_map]
    simp only [seedEntryFindings, actionFindings_unwarned]
  rw [violations, violations, hseed]
  rfl

/-- **The check of a recipe is exact.** A recipe is valid exactly when it is sound. Its violations
are those of its entries, one for each broken condition and at its place, so that an entry more or
less adds or takes away its own. What is only warned of makes no difference. -/
theorem Recipe.check_exact (r : Recipe) :
    (r.isValid = true ↔ r.Sound) ∧
    (r.violations = (r.auth.entries.flatMap fun e => authEntryFindings e.1 e.2) ++
      r.seed.entries.flatMap fun e => seedEntryFindings e.1 e.2) ∧
    (∀ name a, Reports (authEntryConditions name a) (authEntryFindings name a)) ∧
    (∀ name a, Reports (seedEntryConditions name a) (seedEntryFindings name a)) ∧
    (∀ name a r', r.AddsAuth name a r' → ∃ before after, r.violations = before ++ after ∧
      r'.violations = before ++ authEntryFindings name a ++ after) ∧
    (∀ name a r', r.AddsSeed name a r' → ∃ before after, r.violations = before ++ after ∧
      r'.violations = before ++ seedEntryFindings name a ++ after) ∧
    r.unwarned.warnings = [] ∧ r.unwarned.violations = r.violations :=
  ⟨isValid_iff, rfl, authEntry_reports, seedEntry_reports, fun _ _ _ h => h.violations,
    fun _ _ _ h => h.violations, r.warnings_unwarned, r.violations_unwarned⟩

/-- A recipe with one action, which has no address that can be used, and a payload that no brace
closes. -/
def Recipe.faulty : Recipe where
  seed := .ofList
    [ ("a",
        { strategy := .findPost
          endpoint := "ftp://h"
          findExpr := some "$.id"
          payload := "$\x7bx" }) ]

/-- The same recipe with an authentication entry. -/
def Recipe.faultier : Recipe :=
  { Recipe.faulty with auth := .ofList [("b c", .basic "" "p")] }

theorem Recipe.check_exact_faulty :
    faulty.AddsAuth "b c" (.basic "" "p") faultier ∧
      ∃ before after, faulty.violations = before ++ after ∧
        faultier.violations = before ++ authEntryFindings "b c" (.basic "" "p") ++ after ∧
        faulty.violations.map Violation.path = ["seed.a.endpoint", "seed.a.payloadTemplate"] ∧
        faultier.violations.map Violation.path =
          ["auth.b c", "auth.b c.username", "seed.a.endpoint", "seed.a.payloadTemplate"] := by
  have hadds : faulty.AddsAuth "b c" (.basic "" "p") faultier := ⟨⟨[], [], rfl, rfl⟩, rfl⟩
  obtain ⟨before, after, h, h'⟩ := (check_exact faulty).2.2.2.2.1 _ _ _ hadds
  exact ⟨hadds, before, after, h, h', by decide +kernel, by decide +kernel⟩

end Reconcile
