import Reconcile.Proofs.Credential.Attaching
import Reconcile.Recipe.Validation

/-!
# Normal forms of authentication entries

An entry and its document tell the same, except that a document has fields which its kind does not
use, and that an entry with owner credentials has them twice: in its token endpoint, where they may
be absent, and beside it, where absent ones are empty.

* `AuthDoc.used` — a document without the fields that its kind does not use;
  `AuthDoc.resolve_used` — its entry is the same.
* `AuthDoc.normal` — a document with owner credentials that are there, if need be empty;
  `AuthDoc.toDoc_of_resolve` — the document of an entry is the normal form of its own document.
* `Auth.normal` — an entry that has its owner credentials in both places;
  `Auth.resolve_toDoc_normal` — what comes back for an entry. Its settings, its findings and what it
  asks its server for are the same.
* `AuthDoc.resolve_eq_error_iff` — only a missing block keeps a document from being an entry.
* `AuthDoc.resolve_normalizes` — an entry comes back with the same meaning, and then as it is.
-/

namespace Reconcile

/-! ## Documents -/

namespace AuthType

/-- The kinds that need a token endpoint. -/
def needsOAuth (t : AuthType) : Bool :=
  t == oauthClientCredentials || t == oauthPassCredentials

/-- The kinds that have a name and a secret, whatever these are for. -/
def needsNames (t : AuthType) : Bool :=
  t == basicAuth || t == staticToken || t.needsOAuth

end AuthType

/-- A token endpoint with owner credentials that are there. -/
def OAuth.filled (o : OAuth) : OAuth :=
  { o with ownerUser := some (o.ownerUser.getD ""), ownerPass := some (o.ownerPass.getD "") }

namespace AuthDoc

/-- A document without the fields that its kind does not use. -/
def used (d : AuthDoc) : AuthDoc where
  type := d.type
  username := if d.type.needsNames then d.username else ""
  password := if d.type.needsNames then d.password else ""
  oauth := if d.type.needsOAuth then d.oauth else none
  custom := if d.type = .customToToken then d.custom else none

/-- The normal form of a document: without the fields that its kind does not use, and with owner
credentials that are there if its kind uses them. -/
def normal (d : AuthDoc) : AuthDoc :=
  { d.used with
    oauth := if d.type = .oauthPassCredentials then d.used.oauth.map OAuth.filled
      else d.used.oauth }

variable {d : AuthDoc} {a : Auth}

/-- **A document is an entry unless the block that its kind needs is missing.** -/
theorem resolve_eq_error_iff {e : MissingBlock} :
    d.resolve = .error e ↔
      d.type.needsOAuth = true ∧ d.oauth = none ∧ e = .oauth d.type ∨
        d.type = .customToToken ∧ d.custom = none ∧ e = .custom := by
  obtain ⟨type, username, password, oauth, custom⟩ := d
  cases type with
  | noAuth | basicAuth | staticToken =>
    refine iff_of_false (by rintro ⟨⟩) ?_
    rintro (⟨⟨⟩, -⟩ | ⟨⟨⟩, -⟩)
  | oauthClientCredentials | oauthPassCredentials =>
    cases oauth with
    | none =>
      refine ⟨by rintro ⟨⟩; exact .inl ⟨rfl, rfl, rfl⟩, ?_⟩
      rintro (⟨-, -, rfl⟩ | ⟨⟨⟩, -⟩)
      rfl
    | some o =>
      refine iff_of_false (by rintro ⟨⟩) ?_
      rintro (⟨-, ⟨⟩, -⟩ | ⟨⟨⟩, -⟩)
  | customToToken =>
    cases custom with
    | none =>
      refine ⟨by rintro ⟨⟩; exact .inr ⟨rfl, rfl, rfl⟩, ?_⟩
      rintro (⟨⟨⟩, -⟩ | ⟨-, -, rfl⟩)
      rfl
    | some c =>
      refine iff_of_false (by rintro ⟨⟩) ?_
      rintro (⟨⟨⟩, -⟩ | ⟨-, ⟨⟩, -⟩)

/-- **The fields that a kind does not use make no difference.** -/
theorem resolve_used (d : AuthDoc) : d.used.resolve = d.resolve := by
  obtain ⟨type, username, password, oauth, custom⟩ := d
  cases type <;> rfl

/-- **The document of an entry is the normal form of its own document.** -/
theorem toDoc_of_resolve (h : d.resolve = .ok a) : a.toDoc = d.normal := by
  obtain ⟨type, username, password, oauth, custom⟩ := d
  cases type with
  | noAuth | basicAuth | staticToken =>
    cases h
    rfl
  | oauthClientCredentials | oauthPassCredentials =>
    cases oauth with
    | none => cases h
    | some o =>
      cases h
      rfl
  | customToToken =>
    cases custom with
    | none => cases h
    | some c =>
      cases h
      rfl

/-- Normal forms stay as they are. -/
theorem normal_normal (d : AuthDoc) : d.normal.normal = d.normal := by
  obtain ⟨type, username, password, oauth, custom⟩ := d
  cases type <;> cases oauth <;> rfl

end AuthDoc

/-! ## Entries -/

namespace Auth

/-- An entry that has its owner credentials in its token endpoint, too. -/
def normal : Auth → Auth
  | ownerPassword clientId clientSecret oauth user pass =>
    ownerPassword clientId clientSecret
      { oauth with ownerUser := some user, ownerPass := some pass } user pass
  | a => a

/-- The settings of an entry, which has its owner credentials beside its token endpoint only. -/
def settings : Auth → Auth
  | ownerPassword clientId clientSecret oauth user pass =>
    ownerPassword clientId clientSecret { oauth with ownerUser := none, ownerPass := none } user
      pass
  | a => a

variable (a : Auth)

/-- **What comes back for an entry.** -/
theorem resolve_toDoc_normal : a.toDoc.resolve = .ok a.normal := by
  cases a <;> rfl

@[simp] theorem toDoc_normal : a.normal.toDoc = a.toDoc := by
  cases a <;> rfl

@[simp] theorem type_normal : a.normal.type = a.type := by
  cases a <;> rfl

@[simp] theorem settings_normal : a.normal.settings = a.settings := by
  cases a <;> rfl

theorem authFindings_normal (path : String) : authFindings path a.normal = authFindings path a := by
  cases a <;> rfl

/-- **An entry that came back asks its server for the same.** -/
theorem question?_normal (limits : Limits) : a.normal.question? limits = a.question? limits := by
  cases a <;> rfl

/-- **An entry that came back has the same credential**, and gets it in the same way. -/
theorem credentialFor_normal {σ : Type} (s : Setup σ) (name : String) :
    credentialFor s name a.normal = credentialFor s name a := by
  cases a <;> rfl

end Auth

/-- **A document is an entry unless the block that its kind needs is missing**, and the fields that
its kind does not use make no difference. **The document of an entry gives back an entry with the
same meaning**: the same settings, findings and requests for tokens, and the same document. From
then on the entry comes back as it is. -/
theorem AuthDoc.resolve_normalizes (d : AuthDoc) :
    (∀ e, d.resolve = .error e ↔
      d.type.needsOAuth = true ∧ d.oauth = none ∧ e = .oauth d.type ∨
        d.type = .customToToken ∧ d.custom = none ∧ e = .custom) ∧
    d.used.resolve = d.resolve ∧
    ∀ a, d.resolve = .ok a →
      a.toDoc = d.normal ∧ d.normal.normal = d.normal ∧
      ∃ b, a.toDoc.resolve = .ok b ∧
        b.type = a.type ∧ b.settings = a.settings ∧
        (∀ path, authFindings path b = authFindings path a) ∧
        (∀ limits, b.question? limits = a.question? limits) ∧
        (∀ (σ : Type) (s : Setup σ) (name : String),
          credentialFor s name b = credentialFor s name a) ∧
        b.toDoc = a.toDoc ∧ b.toDoc.resolve = .ok b := by
  refine ⟨fun e => resolve_eq_error_iff, resolve_used d, fun a ha => ?_⟩
  refine ⟨toDoc_of_resolve ha, normal_normal d, a.normal, a.resolve_toDoc_normal, a.type_normal,
    a.settings_normal, a.authFindings_normal, a.question?_normal,
    fun _ => a.credentialFor_normal, a.toDoc_normal, ?_⟩
  rw [a.toDoc_normal]
  exact a.resolve_toDoc_normal

/-- A document that leaves out the password of the owner and has a login that its kind does not
use. -/
def AuthDoc.unkempt : AuthDoc where
  type := .oauthPassCredentials
  username := "i"
  password := "s"
  oauth := some { serverUrl := "http://h/token", ownerUser := some "u" }
  custom := some { authUrl := "http://h/login" }

theorem AuthDoc.resolve_normalizes_unkempt :
    ∃ a b, AuthDoc.unkempt.resolve = .ok a ∧ a.toDoc ≠ .unkempt ∧ a.toDoc.resolve = .ok b ∧
      b ≠ a ∧ b.settings = a.settings ∧ b.toDoc.resolve = .ok b := by
  obtain ⟨-, -, hentry⟩ := AuthDoc.resolve_normalizes .unkempt
  obtain ⟨-, -, b, hb, -, hsettings, -, -, -, -, hagain⟩ := hentry _ rfl
  have hb' : b = _ := (Except.ok.inj hb).symm
  refine ⟨_, b, rfl, by decide, hb, ?_, hsettings, hagain⟩
  rw [hb']
  decide

end Reconcile
