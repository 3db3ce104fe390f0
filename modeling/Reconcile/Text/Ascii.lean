/-!
# ASCII letters, digits and case

The program compares the names of headers by `eq_ignore_ascii_case` (`sameIgnoringCase`), and reads
identifiers and escapes by the classes of ASCII characters.

* `isLetter`, `isDigit`, `isHexDigit`, `hexValue?` — classes of ASCII characters.
* `lower` — a text with its ASCII capitals made small; nothing else changes.
* `sameIgnoringCase` — equality up to the case of ASCII letters.
* `hexDigitLower`, `hexDigitUpper`, `hexLower` — hexadecimal digits.
-/

namespace Reconcile.Text

/-- An ASCII letter. -/
def isLetter (c : Char) : Bool :=
  ('a' ≤ c && c ≤ 'z') || ('A' ≤ c && c ≤ 'Z')

/-- An ASCII digit. -/
def isDigit (c : Char) : Bool :=
  '0' ≤ c && c ≤ '9'

/-- The value of an ASCII digit. -/
def digitValue (c : Char) : Nat :=
  c.toNat - '0'.toNat

/-- The value of a hexadecimal digit, in either case. -/
def hexValue? (c : Char) : Option Nat :=
  if '0' ≤ c && c ≤ '9' then some (c.toNat - 48)
  else if 'a' ≤ c && c ≤ 'f' then some (c.toNat - 87)
  else if 'A' ≤ c && c ≤ 'F' then some (c.toNat - 55)
  else none

/-- A hexadecimal digit, in either case. -/
def isHexDigit (c : Char) : Bool :=
  (hexValue? c).isSome

/-- A character with an ASCII capital made small. -/
def lowerChar (c : Char) : Char :=
  if 'A' ≤ c && c ≤ 'Z' then Char.ofNat (c.toNat + 32) else c

/-- A text with its ASCII capitals made small. -/
def lower (s : String) : String :=
  String.ofList (s.toList.map lowerChar)

/-- Equality up to the case of ASCII letters. -/
def sameIgnoringCase (s t : String) : Bool :=
  lower s == lower t

/-- A number below sixteen as a small hexadecimal digit. -/
def hexDigitLower (n : Nat) : Char :=
  if n < 10 then Char.ofNat (48 + n) else Char.ofNat (87 + n)

/-- A number below sixteen as a capital hexadecimal digit. -/
def hexDigitUpper (n : Nat) : Char :=
  if n < 10 then Char.ofNat (48 + n) else Char.ofNat (55 + n)

/-- A number's hexadecimal digits, small, without leading zeros. -/
def hexLower (n : Nat) : List Char :=
  Nat.toDigits 16 n

theorem sameIgnoringCase_refl (s : String) : sameIgnoringCase s s = true :=
  beq_self_eq_true (lower s)

theorem sameIgnoringCase_iff {s t : String} : sameIgnoringCase s t = true ↔ lower s = lower t :=
  beq_iff_eq

end Reconcile.Text
