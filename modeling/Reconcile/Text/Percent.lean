import Reconcile.Text.Ascii
import Reconcile.Text.Utf8

/-!
# Percent-encoding

The encoding of `form_encode` and of the parts of addresses in `Url::parse`.

* `encode` — each character that may not stay is written as the bytes of its UTF-8 form, each
  byte as a percent sign and two hexadecimal capitals.
* `decode` — such escapes as the bytes they stand for; a percent sign without two digits stays.
* `isUnreserved` — the characters that stay in every part of an address.
* `queryText`, `queryPairs` — names and values joined by `=` and `&`, and the reverse.
-/

namespace Reconcile.Text.Percent

/-- A byte as a percent sign and two digits. -/
def escapedByte (b : UInt8) : List Char :=
  ['%', hexDigitUpper (b.toNat / 16), hexDigitUpper (b.toNat % 16)]

/-- A character, escaped unless it may stay. -/
def escaped (stays : Char → Bool) (c : Char) : List Char :=
  if stays c then [c] else (String.utf8EncodeChar c).flatMap escapedByte

/-- A text, its characters escaped unless they may stay. -/
def encode (stays : Char → Bool) (s : String) : String :=
  String.ofList (s.toList.flatMap (escaped stays))

/-- The value of a hexadecimal digit given as a byte. -/
def hexByte? (b : UInt8) : Option Nat :=
  if b < 0x80 then hexValue? (Char.ofNat b.toNat) else none

/-- Bytes with each escape replaced by the byte it stands for. -/
def decode : List UInt8 → List UInt8
  | [] => []
  | [b] => [b]
  | [b, c] => [b, c]
  | b :: h :: l :: rest =>
    if b == 0x25 then
      match hexByte? h, hexByte? l with
      | some high, some low => UInt8.ofNat (high * 16 + low) :: decode rest
      | _, _ => b :: decode (h :: l :: rest)
    else b :: decode (h :: l :: rest)

/-- ASCII letters and digits, and the four marks that stay everywhere. -/
def isUnreserved (c : Char) : Bool :=
  isLetter c || isDigit c || c == '-' || c == '_' || c == '.' || c == '~'

/-- Names and values, each written by `write`. -/
def queryText (write : String → String) (pairs : List (String × String)) : String :=
  "&".intercalate (pairs.map fun p => write p.1 ++ "=" ++ write p.2)

/-- A part before and after its first equals sign. -/
def splitPair (cs : List Char) : List Char × List Char :=
  (cs.takeWhile (· != '='), (cs.dropWhile (· != '=')).drop 1)

/-- The parts between ampersands; an empty text has none. -/
def splitParts (cs : List Char) : List (List Char) :=
  if cs.isEmpty then [] else cs.splitOn '&'

/-- Names and values, each read by `read`. -/
def queryPairs (read : List Char → List UInt8) (s : String) : List (List UInt8 × List UInt8) :=
  (splitParts s.toList).map fun part =>
    let p := splitPair part
    (read p.1, read p.2)

/-- The bytes that an escaped text stands for. -/
def decodeText (cs : List Char) : List UInt8 :=
  decode (Utf8.encode (String.ofList cs))

end Reconcile.Text.Percent
