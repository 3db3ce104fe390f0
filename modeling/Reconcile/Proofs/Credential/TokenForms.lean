import Reconcile.Proofs.Credential.Attaching
import Reconcile.Proofs.Text.Base64
import Reconcile.Proofs.Text.Forms

/-!
# What token endpoints are asked

A token endpoint reads its form and, where there is one, the header that names the client. Whatever
the settings hold, it reads them as they are.

* `acquireToken_sent` — the request that asks for a token, and the only one that is sent.
* `NamesClient` — a header value that names a client and its secret; `namesClient_basicValue` — the
  value that is sent does.
* `tokenRequest_decodes` — what the request of a token endpoint says.
-/

namespace Reconcile

open Text

variable {σ : Type}

/-! ## The request that is sent -/

/-- **Asking for a token sends one request**, unless the run is cancelled or the address of the
endpoint is malformed. -/
theorem acquireToken_sent (s : Setup σ) (oauth : OAuth) (clientId clientSecret : String)
    (grant : Grant) (w : World σ) :
    ((acquireToken s oauth clientId clientSecret grant).run w).2.sent =
      w.sent ++ if w.cancelled then [] else
        (Url.parse oauth.serverUrl).toOption.toList.map fun url =>
          (.token, tokenRequest s.limits url oauth clientId clientSecret grant) := by
  rw [(acquireToken_inquiry s oauth clientId clientSecret grant).sent]
  cases Url.parse oauth.serverUrl <;> rfl

/-! ## The header -/

/-- A header value that names a client and its secret: its digits stand for a text with one colon,
and the two sides of it are the client and the secret as a form writes them. -/
def NamesClient (value clientId clientSecret : String) : Prop :=
  ∃ (digits : String) (name secret : List Char), value = "Basic " ++ digits ∧
    (Base64.decode? digits).bind Utf8.decode? = some (String.ofList (name ++ ':' :: secret)) ∧
    ':' ∉ name ∧ ':' ∉ secret ∧
    Utf8.decode? (Form.decode name) = some clientId ∧
    Utf8.decode? (Form.decode secret) = some clientSecret

/-- **The value that is sent names the client**, whatever its name and its secret hold. -/
theorem namesClient_basicValue (clientId clientSecret : String) :
    NamesClient (basicValue (Form.encode clientId) (Form.encode clientSecret)) clientId
      clientSecret := by
  have hcolon : ∀ s, ':' ∉ (Form.encode s).toList :=
    Form.not_mem_encode (by decide) (by decide) (by decide) (by decide)
  have htext : Form.encode clientId ++ ":" ++ Form.encode clientSecret =
      String.ofList
        ((Form.encode clientId).toList ++ ':' :: (Form.encode clientSecret).toList) := by
    rw [← String.toList_inj]
    simp
  refine ⟨Base64.encode (Utf8.encode (Form.encode clientId ++ ":" ++ Form.encode clientSecret)),
    (Form.encode clientId).toList, (Form.encode clientSecret).toList, rfl,
    ?_, hcolon clientId, hcolon clientSecret, ?_, ?_⟩
  · rw [Base64.decode?_encode, Option.bind_some, Utf8.decode?_encode, htext]
  · rw [Form.decode_encode, Utf8.decode?_encode]
  · rw [Form.decode_encode, Utf8.decode?_encode]

/-- The header that names the client is there only in place of the fields that do. -/
theorem tokenHeaders_authorization (oauth : OAuth) (clientId clientSecret : String) :
    (tokenHeaders oauth clientId clientSecret).find? "Authorization" =
      if credentialsInHeader oauth clientSecret then
        some (basicValue (Form.encode clientId) (Form.encode clientSecret))
      else none := by
  generalize hv : basicValue (Form.encode clientId) (Form.encode clientSecret) = value
  cases hc : credentialsInHeader oauth clientSecret with
  | false =>
    simp only [tokenHeaders, hc, Bool.false_eq_true, if_false]
    decide +kernel
  | true =>
    have hentries : (tokenHeaders oauth clientId clientSecret).entries =
        [("accept", "application/json"), ("authorization", value),
          ("content-type", "application/x-www-form-urlencoded")] := by
      simp only [tokenHeaders, hc, hv, if_true]
      rfl
    have hother : sameIgnoringCase "accept" "Authorization" = false := by decide +kernel
    have hsame : sameIgnoringCase "authorization" "Authorization" = true := by decide +kernel
    rw [Headers.find?, hentries, List.find?_cons_of_neg (by simp [hother]),
      List.find?_cons_of_pos (by exact hsame), if_pos rfl]
    rfl

/-! ## The request -/

/-- The fields of the form are read back. -/
theorem fields?_tokenRequest (limits : Limits) (url : Url) (oauth : OAuth)
    (clientId clientSecret : String) (grant : Grant) :
    Percent.fields? Form.decode (tokenRequest limits url oauth clientId clientSecret grant).body =
      some (tokenFields oauth clientId clientSecret grant) :=
  Percent.fields?_queryText Form.writes_encode _

theorem credentialsInHeader_iff {oauth : OAuth} {clientSecret : String} :
    credentialsInHeader oauth clientSecret = true ↔
      oauth.sendParamsInHeader = true ∧ clientSecret ≠ "" := by
  rw [credentialsInHeader, Bool.and_eq_true, Bool.not_eq_true', ← Bool.not_eq_true,
    String.isEmpty_iff]

/-- **What a token endpoint reads** in the one request that asks it for a token: the grant, the
scopes, the client and the further parameters, in this order and as the settings say them. A client
with a secret is named either in the form or in a header, never in both. -/
theorem tokenRequest_decodes (s : Setup σ) (oauth : OAuth) (clientId clientSecret : String)
    (grant : Grant) :
    (∀ w : World σ, ((acquireToken s oauth clientId clientSecret grant).run w).2.sent =
      w.sent ++ if w.cancelled then [] else
        (Url.parse oauth.serverUrl).toOption.toList.map fun url =>
          (.token, tokenRequest s.limits url oauth clientId clientSecret grant)) ∧
    ∀ url : Url,
      let q := tokenRequest s.limits url oauth clientId clientSecret grant
      let granted :=
        match grant with
        | .clientCredentials => [("grant_type", "client_credentials")]
        | .password user pass =>
          [("grant_type", "password"), ("username", user), ("password", pass)]
      let scope := if oauth.scopes = [] then [] else [("scope", " ".intercalate oauth.scopes)]
      let client := ("client_id", clientId) ::
        if clientSecret = "" then [] else [("client_secret", clientSecret)]
      let more := oauth.endpointParams.entries.flatMap fun p => p.2.map fun v => (p.1, v)
      if oauth.sendParamsInHeader = true ∧ clientSecret ≠ "" then
        Percent.fields? Form.decode q.body = some (granted ++ scope ++ more) ∧
          ∃ value, q.headers.find? "Authorization" = some value ∧
            NamesClient value clientId clientSecret
      else
        Percent.fields? Form.decode q.body = some (granted ++ scope ++ client ++ more) ∧
          q.headers.find? "Authorization" = none := by
  refine ⟨acquireToken_sent s oauth clientId clientSecret grant, fun url => ?_⟩
  have hgranted : grant.fields =
      match grant with
      | .clientCredentials => [("grant_type", "client_credentials")]
      | .password user pass =>
        [("grant_type", "password"), ("username", user), ("password", pass)] := by
    cases grant <;> rfl
  have hheader : (tokenRequest s.limits url oauth clientId clientSecret grant).headers.find?
      "Authorization" = _ := tokenHeaders_authorization oauth clientId clientSecret
  have hfields := fields?_tokenRequest s.limits url oauth clientId clientSecret grant
  simp only [tokenFields, clientFields, hgranted, List.isEmpty_iff, String.isEmpty_iff] at hfields
  by_cases hc : credentialsInHeader oauth clientSecret = true
  · rw [if_pos hc] at hheader
    rw [if_pos hc, List.append_nil] at hfields
    rw [if_pos (credentialsInHeader_iff.mp hc)]
    exact ⟨hfields, _, hheader, namesClient_basicValue clientId clientSecret⟩
  · rw [if_neg hc] at hheader hfields
    rw [if_neg fun h => hc (credentialsInHeader_iff.mpr h)]
    exact ⟨hfields, hheader⟩

end Reconcile
