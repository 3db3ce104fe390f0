import Reconcile.Text.Ascii

/-!
# Addresses

Reference model of `Url` with its text, `host_str`, `port`, `path` and `query`, and of the errors
of `Url::parse`.

* `Host`, `Path`, `Url` — the parts of an address.
* `Url.text` — the normalised text of an address.
* `Url.hostText`, `Url.pathText` — the host and the path as they stand in it.
* `UrlError` — why a text is no address.

Left out: joining addresses and changing their parts, which the program does not do.
-/

namespace Reconcile

/-- A host: a name, or a numeric address of version 4 or 6. -/
inductive Host where
  | name (s : String)
  | ipv4 (address : Nat)
  | ipv6 (pieces : List Nat)
  deriving DecidableEq, Repr

/-- The path of an address. -/
inductive UrlPath where
  /-- Segments, each after a slash. -/
  | rooted (segments : List String)
  /-- A text that does not start with a slash. -/
  | rootless (s : String)
  deriving DecidableEq, Repr

/-- An address. The port is absent when it is the one of the scheme; an empty host is not the same
as none. -/
structure Url where
  scheme : String
  username : String := ""
  password : String := ""
  host : Option Host := none
  port : Option Nat := none
  path : UrlPath := .rooted []
  query : Option String := none
  fragment : Option String := none
  deriving DecidableEq, Repr

/-- Why a text is no address. -/
inductive UrlError where
  | noScheme
  | emptyHost
  | invalidPort
  | invalidIpv4
  | invalidIpv6
  /-- A name that no host may have. -/
  | invalidName
  /-- A character that no host of a scheme without hosts of its own kind may have. -/
  | invalidCharacter
  deriving DecidableEq, Repr

/-- The wording of an error. -/
def UrlError.message : UrlError → String
  | noScheme => "relative URL without a base"
  | emptyHost => "empty host"
  | invalidPort => "invalid port number"
  | invalidIpv4 => "invalid IPv4 address"
  | invalidIpv6 => "invalid IPv6 address"
  | invalidName => "invalid international domain name"
  | invalidCharacter => "invalid domain character"

namespace Host

/-- The length of the run of zeros at the start. -/
def zeros (pieces : List Nat) : Nat :=
  (pieces.takeWhile (· == 0)).length

/-- The place and the length of the longest run of zeros, the first of several, if it is longer
than one. -/
def longestZeros (pieces : List Nat) : Option (Nat × Nat) :=
  (List.range pieces.length).foldl (fun best i =>
    let n := zeros (pieces.drop i)
    let longest := (best.map Prod.snd).getD 1
    if longest < n then some (i, n) else best) none

/-- Pieces in small hexadecimal digits, with colons between them. -/
def piecesText (pieces : List Nat) : String :=
  ":".intercalate (pieces.map fun p => String.ofList (Text.hexLower p))

/-- An address of version 6: the longest run of zeros is left out. -/
def ipv6Text (pieces : List Nat) : String :=
  match longestZeros pieces with
  | some (i, n) => piecesText (pieces.take i) ++ "::" ++ piecesText (pieces.drop (i + n))
  | none => piecesText pieces

/-- The written form of a host. -/
def text : Host → String
  | name s => s
  | ipv4 a =>
    ".".intercalate ([a / 16777216, a / 65536 % 256, a / 256 % 256, a % 256].map toString)
  | ipv6 pieces => "[" ++ ipv6Text pieces ++ "]"

end Host

namespace Url

/-- The written form of the host; empty when there is none. -/
def hostText (u : Url) : String :=
  (u.host.map Host.text).getD ""

/-- The written form of the path. -/
def pathText (u : Url) : String :=
  match u.path with
  | .rootless s => s
  | .rooted segments => "".intercalate (segments.map fun s => "/" ++ s)

/-- The user, the host and the port after two slashes. -/
def authorityText (u : Url) : String :=
  match u.host with
  | none => if u.scheme == "file" then "//" else ""
  | some h =>
    let password := if u.password.isEmpty then "" else ":" ++ u.password
    let user := u.username ++ password
    let user := if user.isEmpty then "" else user ++ "@"
    let port := (u.port.map fun p => ":" ++ toString p).getD ""
    "//" ++ user ++ h.text ++ port

/-- Two slashes at the start of the path would be read as those before a host. -/
def pathGuard (u : Url) : String :=
  match u.host, u.path with
  | none, .rooted ("" :: _ :: _) => if u.scheme == "file" then "" else "/."
  | _, _ => ""

/-- The normalised text of an address. -/
def text (u : Url) : String :=
  u.scheme ++ ":" ++ u.authorityText ++ u.pathGuard ++ u.pathText ++
    (u.query.map fun q => "?" ++ q).getD "" ++ (u.fragment.map fun f => "#" ++ f).getD ""

end Url

end Reconcile
