import Reconcile.Table
import Reconcile.Text.Ascii

/-!
# Headers

Reference model of `HttpRequestParts::set_header` and `HttpRequestParts::header`, and of
`redact_headers` with `mask_case_insensitive` and the text of `RedactedHeaders`.

* `Headers` — values by name, in the order of the names.
* `Headers.set`, `Headers.find?` — names that differ only in the case of ASCII letters are one
  header; it is spelled as it was set last.
* `Headers.redacted` — the headers without what logs may not show.
* `Headers.text` — headers on one line.
-/

namespace Reconcile

/-- Values by name, in the order of the names. -/
abbrev Headers := Table String

namespace Headers

/-- The headers with one set; others of that name, in whatever case, go. -/
def set (h : Headers) (name value : String) : Headers :=
  (h.filterNames fun n => !Text.sameIgnoringCase n name).insert name value

/-- The value of a header, its name in whatever case. -/
def find? (h : Headers) (name : String) : Option String :=
  (h.entries.find? fun e => Text.sameIgnoringCase e.1 name).map Prod.snd

/-- Headers set one after the other. -/
def setAll (h : Headers) (entries : List (String × String)) : Headers :=
  entries.foldl (fun h e => h.set e.1 e.2) h

/-- What logs show instead of a secret. -/
def mask : String := "<redacted>"

/-- Whether logs may not show the value of a header: those that always carry credentials, and
those that were set from credentials. -/
def isSecret (credentials : List String) (name : String) : Bool :=
  Text.sameIgnoringCase name "authorization" || Text.sameIgnoringCase name "cookie" ||
    credentials.any fun c => Text.sameIgnoringCase name c

/-- The headers as logs show them. -/
def redacted (h : Headers) (credentials : List String) : Headers :=
  h.mapValues fun name value => if isSecret credentials name then mask else value

/-- Headers on one line. -/
def text (h : Headers) : String :=
  ", ".intercalate (h.entries.map fun e => e.1 ++ ": " ++ e.2)

end Headers

end Reconcile
