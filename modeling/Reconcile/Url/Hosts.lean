import Reconcile.Text.Percent
import Reconcile.Url.Basic
import Reconcile.Domain.Name

/-!
# Hosts from texts

The hosts of `Url::parse`.

* `ipv4Number?`, `endsInNumber`, `parseIpv4` — addresses of version 4, whose parts may be octal
  or hexadecimal and the last of which fills what is left.
* `parseIpv6` — addresses of version 6.
* `Host.parse` — the host of a scheme that knows hosts; `Host.parseOther` — of any other.
-/

namespace Reconcile.Host

/-! ## Version 4 -/

/-- A number of digits that all belong to a base. -/
def numberIn? (base : Nat) (cs : List Char) : Option Nat :=
  cs.foldl (fun n c => do
    let d ← Text.hexValue? c
    if d < base then some ((← n) * base + d) else none) (some 0)

/-- A part of an address: hexadecimal after `0x`, octal after `0`, and else decimal. -/
def ipv4Number? : List Char → Option Nat
  | [] => none
  | '0' :: 'x' :: cs | '0' :: 'X' :: cs => numberIn? 16 cs
  | '0' :: c :: cs => numberIn? 8 (c :: cs)
  | cs => numberIn? 10 cs

/-- The labels of a name, the empty one after a last point left out. -/
def labels (s : String) : List (List Char) :=
  let ls := s.toList.splitOn '.'
  match ls.reverse with
  | [] :: rest@(_ :: _) => rest.reverse
  | _ => ls

/-- Whether the last label of a name is a number, so that the name has to be an address. -/
def endsInNumber (s : String) : Bool :=
  match (labels s).getLast? with
  | some l => (!l.isEmpty && l.all Text.isDigit) || (ipv4Number? l).isSome
  | none => false

/-- The address that a name is. -/
def parseIpv4 (s : String) : Except UrlError Nat :=
  let parts := labels s
  match parts.mapM ipv4Number? with
  | none => .error .invalidIpv4
  | some numbers =>
    match numbers.reverse with
    | [] => .error .invalidIpv4
    | last :: before =>
      if before.length > 3 || before.any (· > 255) || last ≥ 1 <<< (8 * (4 - before.length)) then
        .error .invalidIpv4
      else
        .ok ((before.reverse.zipIdx.map fun (n, i) => n <<< (8 * (3 - i))).foldl (· + ·) last)

/-! ## Version 6 -/

/-- The dotted address at the end of one of version 6, as two pieces. Its parts are decimal,
without leading zeros. -/
def dottedPieces? (cs : List Char) : Option (List Nat) := do
  let part (p : List Char) : Option Nat :=
    match p with
    | [] => none
    | ['0'] => some 0
    | '0' :: _ => none
    | _ => do
      let n ← if p.all Text.isDigit then numberIn? 10 p else none
      if n ≤ 255 then some n else none
  match ← (cs.splitOn '.').mapM part with
  | [a, b, c, d] => some [a * 256 + b, c * 256 + d]
  | _ => none

/-- Pieces of at most four hexadecimal digits with colons between them; `last` says whether a
dotted address may end them. -/
def pieces? (last : Bool) (cs : List Char) : Option (List Nat) :=
  if cs.isEmpty then some []
  else
    let parts := cs.splitOn ':'
    let piece (p : List Char) : Option (List Nat) :=
      if p.isEmpty || p.length > 4 then none else (numberIn? 16 p).map fun n => [n]
    match parts.reverse with
    | [] => some []
    | final :: before => do
      let before ← before.reverse.mapM piece
      let final ← if last && final.contains '.' then dottedPieces? final else piece final
      some (before.flatten ++ final)

/-- The text before and after the first double colon. -/
def splitDoubleColon : List Char → Option (List Char × List Char)
  | ':' :: ':' :: rest => some ([], rest)
  | c :: rest => (splitDoubleColon rest).map fun p => (c :: p.1, p.2)
  | [] => none

/-- The address between brackets. -/
def parseIpv6 (cs : List Char) : Except UrlError (List Nat) :=
  let read : Option (List Nat) :=
    match splitDoubleColon cs with
    | none => do
      let ps ← pieces? true cs
      if ps.length = 8 then some ps else none
    | some (before, after) => do
      let before ← pieces? false before
      let after ← pieces? true after
      let n := before.length + after.length
      if n < 8 then some (before ++ List.replicate (8 - n) 0 ++ after) else none
  match read with
  | some ps => .ok ps
  | none => .error .invalidIpv6

/-! ## Hosts -/

/-- What stands between brackets. -/
def bracketed? : List Char → Option (Except UrlError Host)
  | '[' :: cs =>
    match cs.reverse with
    | ']' :: inner => some ((parseIpv6 inner.reverse).map .ipv6)
    | _ => some (.error .invalidIpv6)
  | _ => none

/-- A host of a scheme that knows hosts. -/
def parse (cs : List Char) : Except UrlError Host :=
  match bracketed? cs with
  | some r => r
  | none =>
    match Domain.toAscii? (Text.Utf8.decodeLossy (Text.Percent.decodeText cs)) with
    | none => .error .invalidName
    | some ascii =>
      if ascii.isEmpty then .error .emptyHost
      else if endsInNumber ascii then (parseIpv4 ascii).map .ipv4
      else .ok (.name ascii)

/-- Characters that no host may have. -/
def isForbidden (c : Char) : Bool :=
  c == '\x00' || "\t\n\r #/:<>?@[\\]^|".toList.contains c

/-- The characters that stay as they are in every part of an address. -/
def isPlain (c : Char) : Bool :=
  0x20 ≤ c.toNat && c.toNat < 0x7F

/-- A host of another scheme, of whose names nothing is known. -/
def parseOther (cs : List Char) : Except UrlError Host :=
  match bracketed? cs with
  | some r => r
  | none =>
    if cs.any isForbidden then .error .invalidCharacter
    else .ok (.name (Text.Percent.encode isPlain (String.ofList cs)))

end Reconcile.Host
