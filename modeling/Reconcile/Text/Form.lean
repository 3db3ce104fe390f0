import Reconcile.Text.Percent

/-!
# Form encoding

The bodies of the requests of `fetch_token`, and the parts of its BasicAuth header.

The encoding of `application/x-www-form-urlencoded`: a space becomes a plus sign, letters,
digits and `*-._` stay, and all else is percent-encoded.

* `encode`, `decode` — one name or value.
* `body` — a whole form.
-/

namespace Reconcile.Text.Form

/-- The characters that stay. -/
def stays (c : Char) : Bool :=
  isLetter c || isDigit c || c == '*' || c == '-' || c == '.' || c == '_'

/-- A character as a form writes it. -/
def escaped (c : Char) : List Char :=
  if c == ' ' then ['+'] else Percent.escaped stays c

/-- A name or value as a form writes it. -/
def encode (s : String) : String :=
  String.ofList (s.toList.flatMap escaped)

/-- The bytes of a name or value. -/
def decode (cs : List Char) : List UInt8 :=
  Percent.decodeText (cs.map fun c => if c == '+' then ' ' else c)

/-- A form. -/
def body (fields : List (String × String)) : String :=
  Percent.queryText encode fields

end Reconcile.Text.Form
