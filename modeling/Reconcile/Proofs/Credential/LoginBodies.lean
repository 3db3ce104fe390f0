import Reconcile.Http.Script
import Reconcile.Proofs.Credential.Attaching
import Reconcile.Proofs.Recipe.RoundTrip
import Reconcile.Proofs.Text.Forms

/-!
# What logins carry

A login sends its credential as a form or as JSON. Either way the body holds the entries of the
credential in their order and nothing else.

* `acquireLogin_sent` — the request that logs in, and the only one that is sent.
* `fields?_loginForm`, `loginForm_eq_empty_iff` — a credential as a form.
* `Json.dictOf?` — the entries of an object that is given as bytes; `Json.dictOf?_loginJson` — a
  credential as JSON.
* `loginRequest_carries` — what the body of a login says.
-/

namespace Reconcile

open Text

variable {σ : Type}

/-- **Logging in sends one request**, unless the run is cancelled or the address of the server is
malformed. -/
theorem acquireLogin_sent (s : Setup σ) (login : TokenLogin) (w : World σ) :
    ((acquireLogin s login).run w).2.sent =
      w.sent ++ if w.cancelled then [] else
        (Url.parse login.authUrl).toOption.toList.map fun url =>
          (.token, loginRequest s.limits url login) := by
  rw [(acquireLogin_inquiry s login).sent]
  cases Url.parse login.authUrl <;> rfl

/-! ## Credentials as forms -/

theorem fields?_loginForm (login : TokenLogin) :
    Percent.fields? Percent.decodeText (Utf8.encode (loginForm login)) =
      some (login.credential.entries.map fun e => (e.1, e.2.plainText)) :=
  Percent.fields?_queryText (Percent.writes_encode (by decide) (by decide) (by decide)) _

/-- The form of a credential is empty only if the credential is. -/
theorem loginForm_eq_empty_iff (login : TokenLogin) :
    Utf8.encode (loginForm login) = [] ↔ login.credential.entries = [] := by
  constructor
  · intro h
    have hnone : Percent.fields? Percent.decodeText [] = some [] := by decide +kernel
    have hfields := fields?_loginForm login
    rw [h, hnone] at hfields
    exact List.map_eq_nil_iff.mp (Option.some.inj hfields).symm
  · intro h
    rw [loginForm, h]
    decide +kernel

/-! ## Credentials as JSON -/

/-- The entries of an object that is given as bytes, in the order of its text, where arrays and
objects nest less deep than a limit. -/
def Json.dictOf? (limit : Nat) (body : List UInt8) : Option (Dict Json) := do
  let text ← Utf8.decode? body
  match Draft.ofText text with
  | (d, false) => (Source.dict (m := Except ReadError) Source.json (⟨limit, d⟩ : Place)).toOption
  | (_, true) => none

/-- **A credential is read back from JSON** where it nests less deep than the reader allows. -/
theorem Json.dictOf?_loginJson {login : TokenLogin} {limit : Nat}
    (h : ∀ e ∈ login.credential.entries, e.2.isPlain = true)
    (hd : (login.credential.json id).depth < limit) :
    dictOf? limit (Utf8.encode (loginJson login)) = some login.credential := by
  have hyields : Yields (Source.dict (m := Except ReadError) Source.json)
      (login.credential.json id) login.credential :=
    yields_dict fun e he => yields_plain (h e he)
  rw [dictOf?, Utf8.decode?_encode]
  show (match Draft.ofText (loginJson login) with
    | (d, false) => (Source.dict (m := Except ReadError) Source.json (⟨limit, d⟩ : Place)).toOption
    | (_, true) => none) = _
  rw [loginJson, ofText_compact hyields.whole]
  dsimp only
  rw [hyields.reads hd]
  rfl

/-! ## The request -/

/-- **What the body of a login says.** As a form it holds one pair for each entry of the
credential, in the same order: the name and the textual form of the value, whatever they hold. As
JSON it is an object with the same entries in the same order, if all numbers are integers. -/
theorem loginRequest_carries (s : Setup σ) (login : TokenLogin) :
    (∀ w : World σ, ((acquireLogin s login).run w).2.sent =
      w.sent ++ if w.cancelled then [] else
        (Url.parse login.authUrl).toOption.toList.map fun url =>
          (.token, loginRequest s.limits url login)) ∧
    ∀ url : Url,
      let body := (loginRequest s.limits url login).body
      if login.asForm = true then
        Percent.fields? Percent.decodeText body =
            some (login.credential.entries.map fun e => (e.1, e.2.plainText)) ∧
          (body = [] ↔ login.credential.entries = [])
      else
        (∀ e ∈ login.credential.entries, e.2.isPlain = true) →
          ∀ limit, (login.credential.json id).depth < limit →
            Json.dictOf? limit body = some login.credential := by
  refine ⟨acquireLogin_sent s login, fun url => ?_⟩
  cases hform : login.asForm with
  | true =>
    have hbody : (loginRequest s.limits url login).body = Utf8.encode (loginForm login) := by
      rw [loginRequest, loginBody, if_pos hform]
    rw [hbody, if_pos rfl]
    exact ⟨fields?_loginForm login, loginForm_eq_empty_iff login⟩
  | false =>
    have hbody : (loginRequest s.limits url login).body = Utf8.encode (loginJson login) := by
      rw [loginRequest, loginBody, if_neg (by simp [hform])]
    rw [hbody, if_neg (by simp)]
    exact fun h limit hd => Json.dictOf?_loginJson h hd

/-- A login whose names come in no order of their own, with texts that need escapes, integers
that no double holds and nested values. -/
def TokenLogin.nested : TokenLogin where
  authUrl := "http://h/login"
  credential := .ofList
    [ ("user&", .string "ü\"=%\n"),
      ("id", .object [("a", .null), ("b", .array [.object [], .bool true])]),
      ("", .number (.integer ⟨9007199254740993, by decide⟩)),
      ("pin", .number (.integer ⟨-9007199254740993, by decide⟩)) ]

theorem loginRequest_carries_nested :
    let s : Setup Script := { transport := Script.transport }
    let url : Url := { scheme := "http", host := some (.name "h"), path := .rooted ["login"] }
    (∀ e ∈ TokenLogin.nested.credential.entries, e.2.isPlain = true) ∧
      (TokenLogin.nested.credential.json id).depth < Json.depthLimit ∧
      Json.dictOf? Json.depthLimit (loginRequest s.limits url TokenLogin.nested).body =
        some TokenLogin.nested.credential := by
  intro s url
  have hplain : ∀ e ∈ TokenLogin.nested.credential.entries, e.2.isPlain = true := by decide +kernel
  have hdepth : (TokenLogin.nested.credential.json id).depth < Json.depthLimit := by decide +kernel
  exact ⟨hplain, hdepth, (loginRequest_carries s TokenLogin.nested).2 url hplain _ hdepth⟩

/-- Separators in values, blanks and a nested value, as a form. -/
example : loginForm { TokenLogin.nested with asForm := true } =
    "user%26=%C3%BC%22%3D%25%0A&id=%7B%22a%22%3Anull%2C%22b%22%3A%5B%7B%7D%2Ctrue%5D%7D" ++
      "&=9007199254740993&pin=-9007199254740993" := by
  decide +kernel

end Reconcile
