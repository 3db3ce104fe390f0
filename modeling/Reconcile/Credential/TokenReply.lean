import Reconcile.Credential.Basic
import Reconcile.Recipe.FromJson
import Reconcile.Text.SmallLetters

/-!
# Answers of token endpoints

Reference model of what `send_token_request` and `fetch_token` make of an answer (RFC 6749), with
`map_token_error` and `token_type_label`, and of what `fetch_custom_token` makes of one.

* `Token` — what an answer grants; `Token.ofBody?` reads it, `Token.label` is the word before it.
* `Refusal` — why nothing was granted.
* `Token.ofResponse` — the token of an answer, or why there is none.
* `loginCredential` — the credential of a login's answer.

Left out: the scopes and the refresh token of a grant, which nothing reads once they are well
typed, and where an answer stops being well formed.
-/

namespace Reconcile

/-- What a token endpoint grants. -/
structure Token where
  access : String
  /-- The kind of the token, in small letters. -/
  kind : String
  /-- How many seconds it is valid. -/
  lifetime : Option Nat := none
  deriving DecidableEq, Repr

/-- The word before a token in a header. -/
def Token.label (t : Token) : String :=
  if t.kind.isEmpty || Text.sameIgnoringCase t.kind "bearer" then "Bearer" else t.kind

/-- The header value of a token. -/
def Token.headerValue (t : Token) : String :=
  t.label ++ " " ++ t.access

/-! ## Reading a grant -/

/-- The fields of a grant that were read so far. -/
structure TokenDraft where
  access : Option String := none
  kind : Option String := none
  lifetime : Option (Option Nat) := none
  /-- Other fields with a meaning that have been seen. -/
  seen : List String := []

/-- A text. -/
def textOf? : Json.Draft → Option String
  | .string s => s
  | _ => none

/-- A text, or null. -/
def isTextOrNull : Json.Draft → Bool
  | .null => true
  | .string (some _) => true
  | _ => false

/-- A number of seconds, or null. -/
def lifetimeOf? : Json.Draft → Option (Option Nat)
  | .null => some none
  | .number (some (.integer i)) => if 0 ≤ i.value then some (some i.value.toNat) else none
  | _ => none

/-- One more field. Fields with a meaning may not be repeated. -/
def TokenDraft.field? (t : TokenDraft) (name : String) (d : Json.Draft) : Option TokenDraft :=
  if name == "access_token" then
    if t.access.isSome then none else do some { t with access := some (← textOf? d) }
  else if name == "token_type" then
    if t.kind.isSome then none else do some { t with kind := some (Text.toSmall (← textOf? d)) }
  else if name == "expires_in" then
    if t.lifetime.isSome then none else do some { t with lifetime := some (← lifetimeOf? d) }
  else if name == "refresh_token" || name == "scope" then
    if t.seen.contains name || !isTextOrNull d then none else some { t with seen := name :: t.seen }
  else do
    let _ ← (d.json (Json.depthLimit - 1)).toOption
    some t

/-- All fields up to the end of the object. -/
def TokenDraft.fields? : TokenDraft → Json.Fields → Option TokenDraft
  | t, .closed => some t
  | _, .stop _ => none
  | _, .stray _ => none
  | _, .cons none _ _ => none
  | t, .cons (some name) d rest => do (← t.field? name d).fields? rest

/-- The tree at the start of a body; what follows it does not count. -/
def draftOf (body : List UInt8) : Json.Draft :=
  (Json.Draft.ofText (Text.Utf8.decodePrefix body)).1

/-- What a body grants. -/
def Token.ofBody? (body : List UInt8) : Option Token := do
  match draftOf body with
  | .object fields =>
    let t ← TokenDraft.fields? {} fields
    some ⟨← t.access, ← t.kind, t.lifetime.getD none⟩
  | _ => none

/-! ## Reading a refusal -/

/-- Why nothing was granted. -/
structure Refusal where
  error : String := ""
  description : Option String := none
  uri : Option String := none
  deriving DecidableEq, Repr

/-- The fields of a refusal. -/
def Refusal.fields : List (Field Json.Place (Except Json.ReadError) Refusal) :=
  [ ⟨"error", true, fun n r => do pure { r with error := ← Source.text n }⟩,
    ⟨"error_description", false, fun n r => do
      pure { r with description := ← Source.optionalText n }⟩,
    ⟨"error_uri", false, fun n r => do pure { r with uri := ← Source.optionalText n }⟩ ]

/-- The refusal that a body tells. -/
def Refusal.ofBody? (body : List UInt8) : Option Refusal :=
  (Json.readRecord "StandardErrorResponse" Refusal.fields {}
    ⟨Json.depthLimit, draftOf body⟩).toOption

/-- The wording of a refusal. -/
def Refusal.text (r : Refusal) : String :=
  r.error ++ (r.description.map fun d => ": " ++ d).getD "" ++
    (r.uri.map fun u => " / See " ++ u).getD ""

/-! ## Content types -/

/-- The characters of header names. -/
def isHeaderNameChar (c : Char) : Bool :=
  Text.isLetter c || Text.isDigit c || "!#$%&'*+-.^_`|~".toList.contains c

/-- Whether a text may be the name of a header. -/
def isHeaderName (s : String) : Bool :=
  !s.isEmpty && s.toList.all isHeaderNameChar

/-- Whether a text may be the value of a header. -/
def isHeaderValue (s : String) : Bool :=
  s.toList.all fun c => (0x20 ≤ c.toNat && c.toNat != 0x7F) || c == '\t'

/-- The content type of an answer: of several spellings of the name the last one counts. -/
def contentType? (headers : Table String) : Option String :=
  (headers.entries.filter fun h =>
    isHeaderName h.1 && isHeaderValue h.2 && Text.lower h.1 == "content-type").getLast?.map
      Prod.snd

/-- A byte of a header value as messages show it. -/
def shownByte (b : UInt8) : List Char :=
  if b == 0x22 then ['\\', '"']
  else if (0x20 ≤ b && b < 0x7F) || b == 0x09 then [Char.ofNat b.toNat]
  else '\\' :: 'x' :: Text.hexLower b.toNat

/-- A header value as messages show it. -/
def shownValue (s : String) : String :=
  String.ofList ('"' :: ((Text.Utf8.encode s).flatMap shownByte ++ ['"']))

/-- Whether a content type is JSON; it may have parameters. -/
def isJsonType (s : String) : Bool :=
  s.toList.all (fun c => (0x20 ≤ c.toNat && c.toNat < 0x7F) || c == '\t') &&
    "application/json".toList.isPrefixOf (Text.lower s).toList

/-! ## Answers -/

/-- The token of an answer whose status is at most 201. Only 200 grants one. -/
def Token.ofResponse (r : Response) : Except ExchangeError Token :=
  if r.status < 100 then .error .invalidStatus
  else if r.status ≠ 200 then
    if r.body.isEmpty then .error .emptyErrorReply
    else
      match Refusal.ofBody? r.body with
      | some refusal => .error (.refused refusal.text)
      | none => .error .unreadable
  else
    let badType := (contentType? r.headers).filter fun s => !isJsonType s
    match badType with
    | some s => .error (.contentType (shownValue s))
    | none =>
      if r.body.isEmpty then .error .emptyReply
      else
        match Token.ofBody? r.body with
        | some t => .ok t
        | none => .error .unreadable

/-- The credential of a login's answer. -/
def loginCredential (login : TokenLogin) (r : Response) : Except AuthError Credential :=
  match extractText r.body login.responseKey with
  | .error e => .error (.extract e)
  | .ok token =>
    if token.isEmpty then .error (.emptyToken login.responseKey)
    else
      let value := if login.tokenPrefix.isEmpty then token else login.tokenPrefix ++ " " ++ token
      .ok { header := login.headerKey, value }

end Reconcile
