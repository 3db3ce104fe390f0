import Reconcile.Text.Ascii
import Reconcile.Text.Printable

/-!
# Texts quoted in messages

How the messages of the decodings show a text.

* `quote` — a text between double quotes, with what could not be seen escaped: quote and
  backslash, tab, line feed, carriage return and the null character by a letter, other
  characters that print nothing of their own by their number, as in `\u{a0}`.
-/

namespace Reconcile.Text

/-- A character inside a quoted text. -/
def quotedChar (c : Char) : List Char :=
  match c with
  | '\x00' => ['\\', '0']
  | '\t' => ['\\', 't']
  | '\n' => ['\\', 'n']
  | '\r' => ['\\', 'r']
  | '"' => ['\\', '"']
  | '\\' => ['\\', '\\']
  | c => if isPrintable c then [c] else '\\' :: 'u' :: '{' :: (hexLower c.toNat ++ ['}'])

/-- A text between double quotes. -/
def quote (s : String) : String :=
  String.ofList ('"' :: (s.toList.flatMap quotedChar ++ ['"']))

end Reconcile.Text
