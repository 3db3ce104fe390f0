import Reconcile.Url.Hosts

/-!
# Addresses from texts

Reference model of `Url::parse` without a base.

* `SchemeKind` — schemes with hosts and a port of their own, files, and all others.
* `readUser`, `readHost`, `readPort` — the parts of what stands after two slashes.
* `readSegments` — a path, its dots resolved.
* `Url.parse` — the address that a text is.

Left out: the flaws that `Url::parse` passes over, such as backslashes for slashes; they are read
the same way and not reported.
-/

namespace Reconcile

namespace Url

/-- The port that a scheme has when none is given. -/
def defaultPort? : String → Option Nat
  | "http" | "ws" => some 80
  | "https" | "wss" => some 443
  | "ftp" => some 21
  | _ => none

/-- How the text after a scheme is read. -/
inductive SchemeKind where
  | network
  | file
  | other
  deriving DecidableEq, Repr

/-- How the text after a scheme is read. -/
def schemeKind (scheme : String) : SchemeKind :=
  if scheme == "file" then .file
  else if (defaultPort? scheme).isSome then .network
  else .other

/-- Whether a backslash counts as a slash. -/
def SchemeKind.special (k : SchemeKind) : Bool :=
  k != .other

/-- A slash, be it a backslash. -/
def SchemeKind.isSlash (k : SchemeKind) (c : Char) : Bool :=
  c == '/' || (k.special && c == '\\')

/-- What ends the host and the port. -/
def SchemeKind.endsAuthority (k : SchemeKind) (c : Char) : Bool :=
  k.isSlash c || c == '?' || c == '#'

/-! ## What stays as it is -/

/-- In fragments. -/
def staysInFragment (c : Char) : Bool :=
  Host.isPlain c && !(" \"<>`".toList.contains c)

/-- In paths. -/
def staysInPath (c : Char) : Bool :=
  staysInFragment c && !("#?\x7b\x7d".toList.contains c)

/-- In user names and passwords. -/
def staysInUser (c : Char) : Bool :=
  staysInPath c && !("/:;=@[\\]^|".toList.contains c)

/-- In queries. -/
def SchemeKind.staysInQuery (k : SchemeKind) (c : Char) : Bool :=
  Host.isPlain c && !(" \"#<>".toList.contains c) && !(k.special && c == '\'')

/-- Characters, escaped unless they may stay. -/
def escape (stays : Char → Bool) (cs : List Char) : String :=
  String.ofList (cs.flatMap (Text.Percent.escaped stays))

/-! ## Paths -/

/-- A letter and a colon, or what may stand for one: the name of a drive. -/
def isDrive : List Char → Bool
  | [c, d] => Text.isLetter c && (d == ':' || d == '|')
  | _ => false

/-- A text up to a character that passes a test, and the rest. -/
def cut (p : Char → Bool) (cs : List Char) : List Char × List Char :=
  (cs.takeWhile fun c => !p c, cs.dropWhile fun c => !p c)

/-- The texts between slashes. -/
def splitSlashes (k : SchemeKind) (cs : List Char) : List (List Char) :=
  (cs.map fun c => if k.isSlash c then '/' else c).splitOn '/'

/-- A dot, be it escaped. -/
def isSingleDot (cs : List Char) : Bool :=
  let s := Text.lower (String.ofList cs)
  s == "." || s == "%2e"

/-- Two dots, be they escaped. -/
def isDoubleDot (cs : List Char) : Bool :=
  let s := Text.lower (String.ofList cs)
  s == ".." || s == ".%2e" || s == "%2e." || s == "%2e%2e"

/-- Segments without the last; the drive of a file stays. -/
def parent (k : SchemeKind) (segments : List String) : List String :=
  match k, segments with
  | .file, [s] => if isDrive s.toList then segments else []
  | _, _ => segments.dropLast

/-- Resolves the segments of a path after those resolved already. A dot stays where it is, two
dots go to the parent; either leaves an empty segment at the end. -/
def readSegments (k : SchemeKind) (soFar : List String) : List (List Char) → List String
  | [] => soFar
  | cs :: rest =>
    let last := rest.isEmpty
    if isDoubleDot cs then
      readSegments k (parent k soFar ++ if last then [""] else []) rest
    else if isSingleDot cs then readSegments k (soFar ++ if last then [""] else []) rest
    else
      let cs := match k, soFar, cs with
        | .file, [], [c, _] => if isDrive cs then [c, ':'] else cs
        | _, _, cs => cs
      readSegments k (soFar ++ [escape staysInPath cs]) rest

/-- A path that starts with a slash, after that slash. -/
def readRooted (k : SchemeKind) (cs : List Char) : UrlPath :=
  let segments := readSegments k [] (splitSlashes k cs)
  if k == .file then
    let segments := segments.dropWhile String.isEmpty
    .rooted (if segments.isEmpty then [""] else segments)
  else .rooted segments

/-- A path after a host. Schemes that know hosts always have one. -/
def readPath (k : SchemeKind) (cs : List Char) : UrlPath :=
  match cs with
  | [] => if k.special then readRooted k [] else .rooted []
  | c :: rest => if k.isSlash c then readRooted k rest else readRooted k cs

/-- Fills in the query and the fragment that follow a path, and the path. -/
def finish (k : SchemeKind) (path : List Char → UrlPath) (u : Url) (cs : List Char) : Url :=
  let (body, fragment) := cut (· == '#') cs
  let (route, query) := cut (· == '?') body
  { u with
    path := path route
    query := if query.isEmpty then none else some (escape k.staysInQuery query.tail)
    fragment := if fragment.isEmpty then none else some (escape staysInFragment fragment.tail) }

/-! ## Hosts and ports -/

/-- The place before which the last of a character stands, and what follows it. -/
def splitLast? (x : Char) (cs : List Char) : Option (List Char × List Char) :=
  match cs.reverse.dropWhile (· != x) with
  | [] => none
  | _ :: before => some (before.reverse, (cs.reverse.takeWhile (· != x)).reverse)

/-- A user name and a password. -/
def readUser (cs : List Char) (u : Url) : Url :=
  let (name, password) := cut (· == ':') cs
  { u with username := escape staysInUser name, password := escape staysInUser password.tail }

/-- A host up to a colon that is not between brackets. -/
def splitHost (inside : Bool) : List Char → List Char × List Char
  | [] => ([], [])
  | c :: cs =>
    if c == ':' && !inside then ([], c :: cs)
    else
      let inside := if c == '[' then true else if c == ']' then false else inside
      let (host, rest) := splitHost inside cs
      (c :: host, rest)

/-- A port after its colon, and what follows its digits. -/
def readPort (scheme : String) (cs : List Char) : Except UrlError (Option Nat × List Char) :=
  let digits := cs.takeWhile Text.isDigit
  let rest := cs.drop digits.length
  let n := digits.foldl (fun n c => n * 10 + Text.digitValue c) 0
  match rest with
  | c :: _ =>
    if n > 65535 || !(c == '/' || c == '\\' || c == '?' || c == '#') then .error .invalidPort
    else .ok (if digits.isEmpty || some n == defaultPort? scheme then none else some n, rest)
  | [] =>
    if n > 65535 then .error .invalidPort
    else .ok (if digits.isEmpty || some n == defaultPort? scheme then none else some n, rest)

/-- The host and the port, and what follows them. -/
def readHost (k : SchemeKind) (cs : List Char) (u : Url) : Except UrlError (Url × List Char) := do
  let (text, rest) := splitHost false cs
  if text.isEmpty && (k.special || !rest.isEmpty) then throw .emptyHost
  let host ← if k.special then Host.parse text else Host.parseOther text
  let u := { u with host := some host }
  match rest with
  | [] => pure (u, [])
  | _ :: rest =>
    let (port, rest) ← readPort u.scheme rest
    pure ({ u with port }, rest)

/-- What stands after two slashes. -/
def readAuthority (k : SchemeKind) (u : Url) (cs : List Char) : Except UrlError Url := do
  let (authority, rest) := cut k.endsAuthority cs
  let (u, hostAndPort) ←
    match splitLast? '@' authority with
    | none => pure (u, authority)
    | some ([], []) => if rest.isEmpty then pure (u, []) else throw .emptyHost
    | some (user, hostAndPort) => pure (readUser user u, hostAndPort)
  let (u, tail) ← readHost k hostAndPort u
  if u.hostText.isEmpty && !(u.username.isEmpty && u.password.isEmpty) then throw .emptyHost
  pure (finish k (readPath k) u (tail ++ rest))

/-- What stands after the scheme of a file. A drive is no host, and `localhost` means none. -/
def readFile (u : Url) (cs : List Char) : Except UrlError Url := do
  let slash := SchemeKind.file.isSlash
  match cs with
  | a :: b :: rest =>
    if slash a && slash b then
      let (text, tail) := cut SchemeKind.file.endsAuthority rest
      if text.isEmpty || isDrive text then
        pure (finish .file (readPath .file) u (if text.isEmpty then tail else rest))
      else
        let host ← Host.parse text
        let host := if host == .name "localhost" then none else some host
        let u := finish .file (readPath .file) { u with host } tail
        match u.path with
        | .rooted (s :: _) => pure (if isDrive s.toList then { u with host := none } else u)
        | _ => pure u
    else pure (finish .file (readPath .file) u cs)
  | _ => pure (finish .file (readPath .file) u cs)

/-- What stands after the colon of a scheme. -/
def readAfterScheme (scheme : String) (cs : List Char) : Except UrlError Url :=
  let u : Url := { scheme }
  match schemeKind scheme with
  | .file => readFile u cs
  | .network => readAuthority .network u (cs.dropWhile SchemeKind.network.isSlash)
  | .other =>
    match cs with
    | '/' :: '/' :: rest => readAuthority .other u rest
    | '/' :: rest => .ok (finish .other (readRooted .other) u rest)
    | _ => .ok (finish .other (fun cs => .rootless (escape Host.isPlain cs)) u cs)

/-! ## Addresses -/

/-- The characters of schemes. -/
def isSchemeChar (c : Char) : Bool :=
  Text.isLetter c || Text.isDigit c || c == '+' || c == '-' || c == '.'

/-- The scheme of an address and what stands after its colon. -/
def splitScheme? (cs : List Char) : Option (String × List Char) :=
  let scheme := cs.takeWhile isSchemeChar
  match scheme, cs.drop scheme.length with
  | c :: _, ':' :: rest =>
    if Text.isLetter c then some (Text.lower (String.ofList scheme), rest) else none
  | _, _ => none

/-- A text without control characters and spaces at its ends, and without tabs and line breaks. -/
def clean (s : String) : List Char :=
  let outer (c : Char) : Bool := c.toNat ≤ 0x20
  let cs := ((s.toList.dropWhile outer).reverse.dropWhile outer).reverse
  cs.filter fun c => !(c == '\t' || c == '\n' || c == '\r')

/-- The address that a text is. -/
def parse (s : String) : Except UrlError Url :=
  match splitScheme? (clean s) with
  | some (scheme, rest) => readAfterScheme scheme rest
  | none => .error .noScheme

end Url

end Reconcile
